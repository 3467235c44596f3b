import LineCalc.Yaml.Fault
import LineCalc.Yaml.Character

/-!
# Block scalars

A block scalar is the indented lines behind a header.  A literal one keeps its line
breaks; a folded one reads a single line break between two lines as a space, unless one
of them begins with a blank.  The header may say how far the lines are indented, and
what becomes of the line breaks at the end.
-/

namespace LineCalc.Yaml

/-- What becomes of the line breaks at the end of a block scalar. -/
inductive Ending where
  /-- The first of them stays. -/
  | clip
  /-- None of them stays. -/
  | strip
  /-- All of them stay. -/
  | keep
  deriving DecidableEq

/-- The header of a block scalar. -/
structure BlockHeader where
  ending : Ending
  /-- How much further than their surroundings the lines are indented. -/
  indentation : Option Nat

/-- An indicator of the ending at the beginning of a text. -/
def takeEnding : Text → Option Ending × Text
  | '+' :: rest => (some .keep, rest)
  | '-' :: rest => (some .strip, rest)
  | s => (none, s)

/-- An indicator of the indentation at the beginning of a text. -/
def takeIndentation : Text → Option Nat × Text
  | [] => (none, [])
  | c :: rest => if c.isDigit then (some (c.toNat - '0'.toNat), rest) else (none, c :: rest)

/-- The header at the beginning of a text, and the lines behind it. -/
def readHeader (s : Text) : Except Fault (BlockHeader × Text) :=
  let (before, s₁) := takeEnding s
  let (indentation, s₂) := takeIndentation s₁
  let (after, s₃) := if before.isSome then (none, s₂) else takeEnding s₂
  let header : BlockHeader := ⟨((before <|> after).getD .clip), indentation⟩
  if indentation = some 0 ∨ endsName s₃ = false then .error .malformed
  else
    match afterComment? s₃ with
    | some lines => .ok (header, lines)
    | none => .error .malformed

/-- The line breaks of the blank lines before a text that is indented by at most
`indent`, and how far it is indented. -/
def blankLines (indent column : Nat) : Text → Text × Nat × Text
  | [] => ([], column, [])
  | c :: rest =>
    if c == ' ' && decide (column < indent) then blankLines indent (column + 1) rest
    else if isBreak c then
      let (breaks, column', behind) := blankLines indent 0 rest
      (brokenBy c :: breaks, column', behind)
    else ([], column, c :: rest)

theorem length_blankLines_le (indent column : Nat) (s : Text) :
    (blankLines indent column s).2.2.length ≤ s.length := by
  induction s generalizing column with
  | nil => simp [blankLines]
  | cons c rest ih =>
    simp only [blankLines]
    split
    · exact Nat.le_succ_of_le (ih (column + 1))
    · split
      · exact Nat.le_succ_of_le (ih 0)
      · exact Nat.le_refl _

/-- The line breaks of the blank lines before a text, the greatest indentation on the
way, and how far the text is indented. -/
def indentedLines (column greatest : Nat) : Text → Text × Nat × Nat × Text
  | [] => ([], greatest, column, [])
  | c :: rest =>
    if c == ' ' then indentedLines (column + 1) (max greatest (column + 1)) rest
    else if isBreak c then
      let (breaks, rest') := indentedLines 0 greatest rest
      (brokenBy c :: breaks, rest')
    else ([], greatest, column, c :: rest)

/-- The lines of a block scalar. -/
structure Block where
  text : Text
  /-- The line break behind the last line. -/
  lineBreak : Text
  /-- The line breaks of the blank lines at the end. -/
  breaks : Text
  behind : Text

def beginsBlank (line : Text) : Bool :=
  line.head?.any Text.isGap

/-- What the line break between two lines is read as, if `blank` lines stand between
them. -/
def glue (folded blank : Bool) (c : Char) (line next : Text) : Text :=
  if folded && brokenBy c == '\n' && !beginsBlank line && !beginsBlank next then
    if blank then [] else [' ']
  else [brokenBy c]

/-- The lines that are indented by `indent`, from a text on before which the indentation
has been read. -/
def blockLines (folded : Bool) (indent : Nat) (s : Text) : Block :=
  let line := s.takeWhile fun c => !isBreak c
  match _h : s.dropWhile fun c => !isBreak c with
  | [] => ⟨line, [], [], []⟩
  | c :: rest =>
    let next := blankLines indent 0 rest
    if next.2.1 = indent ∧ next.2.2 ≠ [] then
      let block := blockLines folded indent next.2.2
      { block with
        text := line ++ glue folded (!next.1.isEmpty) c s next.2.2 ++ next.1 ++ block.text }
    else ⟨line, [brokenBy c], next.1, next.2.2⟩
termination_by s.length
decreasing_by
  have hnext := length_blankLines_le indent 0 rest
  have hrest := (List.dropWhile_suffix (fun c => !isBreak c) : _ <:+ s).length_le
  rw [_h, List.length_cons] at hrest
  omega

namespace Block

/-- The text of a block scalar with the given ending. -/
def read (block : Block) : Ending → Text
  | .strip => block.text
  | .clip => block.text ++ block.lineBreak
  | .keep => block.text ++ block.lineBreak ++ block.breaks

end Block

/-- The block scalar whose header begins the text and whose lines are indented by at
least `least`, and what stands behind it. -/
def readBlock (folded : Bool) (least : Nat) (s : Text) : Except Fault (Text × Text) := do
  let (header, lines) ← readHeader s
  let (indent, breaks, column, behind) :=
    match header.indentation with
    | some n =>
      let indent := least + n - 1
      (indent, blankLines indent 0 lines)
    | none =>
      let (breaks, greatest, column, behind) := indentedLines 0 0 lines
      (max least greatest, breaks, column, behind)
  let block : Block :=
    if column = indent ∧ behind ≠ [] then
      let block := blockLines folded indent behind
      { block with text := breaks ++ block.text }
    else ⟨[], [], breaks, behind⟩
  .ok (block.read header.ending, block.behind)

end LineCalc.Yaml
