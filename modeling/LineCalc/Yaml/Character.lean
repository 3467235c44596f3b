import LineCalc.Text.Blank

/-!
# Characters of a document

A document may hold only allowed characters.  Four of them break lines, and a word
ends where the text ends, at a space, at a tab or at a line break.  A line that begins
with `---` or `...` as a word begins or ends a document wherever it stands.
-/

namespace LineCalc.Yaml

/-- The code points of the characters that a document may hold. -/
def allowedRanges : List (Nat × Nat) :=
  [(0x9, 0xA), (0xD, 0xD), (0x20, 0x7E), (0x85, 0x85), (0xA0, 0xD7FF), (0xE000, 0xFFFD),
    (0x10000, 0x10FFFF)]

/-- Whether a document may hold a character. -/
def isAllowed (c : Char) : Bool :=
  Text.inRanges allowedRanges c.toNat

/-- The mark that may stand before the first character of a document. -/
def byteOrderMark : Char := '\uFEFF'

/-- A character that breaks lines. -/
def isBreak (c : Char) : Bool :=
  c == '\n' || c == '\u0085' || c == '\u2028' || c == '\u2029'

/-- What a line break is read as. -/
def brokenBy (c : Char) : Char :=
  if c == '\u0085' then '\n' else c

/-- A space, a tab or a line break. -/
def isSpacing (c : Char) : Bool :=
  Text.isGap c || isBreak c

/-- Whether a word ends before the text. -/
def endsWord : Text → Bool
  | [] => true
  | c :: _ => isSpacing c

/-- Whether a word that no tab may follow ends before the text. -/
def endsName : Text → Bool
  | [] => true
  | c :: _ => c == ' ' || isBreak c

/-- Whether a line ends before the text. -/
def endsLine : Text → Bool
  | [] => true
  | c :: _ => isBreak c

/-- What stands behind a line of which at most a comment is left. -/
def afterComment? (s : Text) : Option Text :=
  match s.dropWhile (· == ' ') with
  | '#' :: comment => some ((comment.dropWhile fun c => !isBreak c).drop 1)
  | rest => if endsLine rest then some (rest.drop 1) else none

/-- Whether a line begins or ends a document. -/
def marksDocument (line : Text) : Bool :=
  (line.take 3 == "---".toList || line.take 3 == "...".toList) && endsWord (line.drop 3)

def isNameChar (c : Char) : Bool :=
  c.isAlphanum || c == '-' || c == '_'

/-- The value of a hexadecimal digit. -/
def hexDigitValue? (c : Char) : Option Nat :=
  if '0' ≤ c && c ≤ '9' then some (c.toNat - '0'.toNat)
  else if 'a' ≤ c && c ≤ 'f' then some (c.toNat - 'a'.toNat + 10)
  else if 'A' ≤ c && c ≤ 'F' then some (c.toNat - 'A'.toNat + 10)
  else none

/-- The number that the first `width` characters write in hexadecimal digits. -/
def hexNumber? (width : Nat) (s : Text) : Option Nat :=
  if s.length < width then none
  else (s.take width).foldlM (fun n c => (hexDigitValue? c).map (16 * n + ·)) 0

end LineCalc.Yaml
