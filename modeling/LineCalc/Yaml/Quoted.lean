import LineCalc.Yaml.Fault
import LineCalc.Yaml.Folded

/-!
# Quoted scalars

Between single quotation marks every character stands for itself, and a quotation mark
is written twice.  Between double quotation marks a backslash begins an escape.  Both
kinds are folded over lines, and neither may go past the mark of a document.

`readSingle` and `readDouble` read what stands behind the opening quotation mark and
leave what stands behind the closing one.
-/

namespace LineCalc.Yaml

/-- The piece that an unescaped character is, with the text behind it. -/
def pieceOf (c : Char) (rest : Text) : Except Fault Piece :=
  if isBreak c then
    if marksDocument rest then .error .malformed else .ok (.lineBreak (brokenBy c))
  else if Text.isGap c then .ok (.blank c)
  else .ok (.point (.char c))

/-- The pieces up to a single quotation mark that is not doubled. -/
def singlePieces : Text → Except Fault (List Piece × Text)
  | [] => .error .unfinished
  | '\'' :: '\'' :: rest => do
    let (pieces, behind) ← singlePieces rest
    .ok (.point (.char '\'') :: pieces, behind)
  | '\'' :: rest => .ok ([], rest)
  | c :: rest => do
    let piece ← pieceOf c rest
    let (pieces, behind) ← singlePieces rest
    .ok (piece :: pieces, behind)

/-! ## Escapes -/

/-- The characters that stand behind a backslash for another character, with that
character. -/
def escapes : List (Char × Char) :=
  [('0', '\x00'), ('a', '\x07'), ('b', '\x08'), ('t', '\t'), ('\t', '\t'), ('n', '\n'),
    ('v', '\x0B'), ('f', '\x0C'), ('r', '\r'), ('e', '\x1B'), (' ', ' '), ('"', '"'),
    ('\\', '\\'), ('/', '/'), ('N', '\u0085'), ('_', '\u00A0'), ('L', '\u2028'),
    ('P', '\u2029')]

/-- The characters that stand behind a backslash before the digits of a code point,
with the number of digits. -/
def escapeWidths : List (Char × Nat) :=
  [('x', 2), ('u', 4), ('U', 8)]

/-- The piece that a code point is. -/
def pieceOfCode (n : Nat) : Except Fault Piece :=
  match CodePoint.ofNat? n with
  | some p => .ok (.point p)
  | none => .error (if n < 0x80000000 then .beyondUnicode else .beyondWord)

/-- The piece that an escape is, with the number of characters behind the character `c`
that it takes. -/
def escape (c : Char) (rest : Text) : Except Fault (Piece × Nat) :=
  match escapes.lookup c, escapeWidths.lookup c with
  | some d, _ => .ok (.point (.char d), 0)
  | none, some width =>
    match hexNumber? width rest with
    | some n => (pieceOfCode n).map (·, width)
    | none => .error (.atRest (rest.dropWhile fun c => (hexDigitValue? c).isSome))
  | none, none =>
    if isBreak c && !marksDocument rest then .ok (.joint, 0) else .error .malformed

/-- The pieces up to a double quotation mark that is not escaped. -/
def doublePieces : Text → Except Fault (List Piece × Text)
  | [] => .error .unfinished
  | '"' :: rest => .ok ([], rest)
  | '\\' :: [] => .error .unfinished
  | '\\' :: c :: rest => do
    let (piece, taken) ← escape c rest
    let (pieces, behind) ← doublePieces (rest.drop taken)
    .ok (piece :: pieces, behind)
  | c :: rest => do
    let piece ← pieceOf c rest
    let (pieces, behind) ← doublePieces rest
    .ok (piece :: pieces, behind)
termination_by s => s.length
decreasing_by all_goals simp <;> omega

/-- The text up to the closing single quotation mark, and what stands behind it. -/
def readSingle (s : Text) : Except Fault (RawText × Text) :=
  (singlePieces s).map fun (pieces, behind) => (fold pieces, behind)

/-- The text up to the closing double quotation mark, and what stands behind it. -/
def readDouble (s : Text) : Except Fault (RawText × Text) :=
  (doublePieces s).map fun (pieces, behind) => (fold pieces, behind)

end LineCalc.Yaml
