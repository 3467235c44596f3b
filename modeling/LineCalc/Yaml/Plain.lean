import LineCalc.Yaml.Folded

/-!
# Plain scalars

A plain scalar is words with gaps between them.  A word ends at a blank, at a line
break, and at a colon with a blank behind it; within brackets also at the characters
that structure lists and mappings.  A comment ends the scalar, and so does a line that
is not indented far enough or that marks a document.
-/

namespace LineCalc.Yaml

/-- A comma or a bracket. -/
def isBracket (c : Char) : Bool :=
  ",[]\x7b\x7d".toList.contains c

/-- Whether a colon before the text separates a key from its value. -/
def endsKey (inBrackets : Bool) (behind : Text) : Bool :=
  endsWord behind || (inBrackets && behind.head?.any isBracket)

/-- The first word of a text, and what stands behind it. -/
def plainWord (inBrackets : Bool) : Text → Text × Text
  | [] => ([], [])
  | c :: rest =>
    if isSpacing c || (c == ':' && endsKey inBrackets rest) ||
        (inBrackets && (isBracket c || c == '?')) then ([], c :: rest)
    else
      let (word, behind) := plainWord inBrackets rest
      (c :: word, behind)

theorem plainWord_append (inBrackets : Bool) (s : Text) :
    (plainWord inBrackets s).1 ++ (plainWord inBrackets s).2 = s := by
  induction s with
  | nil => rfl
  | cons c rest ih =>
    simp only [plainWord]
    split
    · rfl
    · simpa using ih

/-- What stands behind a word of a plain scalar. -/
structure PlainGap where
  pieces : List Piece
  /-- Whether a line ends in the gap. -/
  crossed : Bool
  /-- Whether the line behind the gap marks a document. -/
  marked : Bool
  /-- How far the line behind the gap is indented, if a line ends in the gap. -/
  column : Nat
  behind : Text

/-- The gap at the beginning of a text, if `column` spaces stand before it and a line
ends before them or not. -/
def plainGap (crossed : Bool) (column : Nat) : Text → PlainGap
  | [] => ⟨[], crossed, false, column, []⟩
  | c :: rest =>
    if c == ' ' then
      let gap := plainGap crossed (column + 1) rest
      { gap with pieces := .blank c :: gap.pieces }
    else if isBreak c then
      if marksDocument rest then ⟨[.lineBreak (brokenBy c)], true, true, 0, rest⟩
      else
        let gap := plainGap true 0 rest
        { gap with pieces := .lineBreak (brokenBy c) :: gap.pieces }
    else ⟨[], crossed, false, column, c :: rest⟩

theorem length_plainGap_le (crossed : Bool) (column : Nat) (s : Text) :
    (plainGap crossed column s).behind.length ≤ s.length := by
  induction s generalizing crossed column with
  | nil => simp [plainGap]
  | cons c rest ih =>
    simp only [plainGap]
    split
    · exact Nat.le_succ_of_le (ih crossed (column + 1))
    · split
      · split
        · exact Nat.le_succ _
        · exact Nat.le_succ_of_le (ih true 0)
      · exact Nat.le_refl _

namespace PlainGap

/-- Whether the scalar ends before the gap. -/
def ends (inBrackets : Bool) (indent : Nat) (gap : PlainGap) : Bool :=
  gap.pieces.isEmpty || gap.marked || gap.behind.head? == some '#' ||
    (!inBrackets && gap.crossed && gap.column < indent)

end PlainGap

/-- The pieces of a plain scalar that goes on behind a gap, whether a line ends behind
it, and what stands behind it. -/
def plainPieces (inBrackets : Bool) (indent : Nat) (before : List Piece) (crossed : Bool)
    (s : Text) : List Piece × Bool × Text :=
  match _h : plainWord inBrackets s with
  | ([], _) => ([], crossed, s)
  | (c :: word, rest) =>
    let gap := plainGap false 0 rest
    let pieces := before ++ (c :: word).map fun c => Piece.point (.char c)
    if gap.ends inBrackets indent then (pieces, gap.crossed, gap.behind)
    else
      let (more, crossed', behind) :=
        plainPieces inBrackets indent gap.pieces gap.crossed gap.behind
      (pieces ++ more, crossed', behind)
termination_by s.length
decreasing_by
  have happend := plainWord_append inBrackets s
  have hgap := length_plainGap_le false 0 rest
  rw [_h] at happend
  simp only [← happend, List.cons_append, List.length_cons, List.length_append]
  omega

/-- The plain scalar at the beginning of a text, whether a line ends behind it, and what
stands behind it. -/
def readPlain (inBrackets : Bool) (indent : Nat) (s : Text) : RawText × Bool × Text :=
  let (pieces, crossed, behind) := plainPieces inBrackets indent [] false s
  (fold pieces, crossed, behind)

/-- Whether a plain scalar may begin a text. -/
def beginsPlain (inBrackets : Bool) : Text → Bool
  | [] => false
  | c :: rest =>
    !(isSpacing c || isBracket c || "-?:#&*!|>'\"%@\x60".toList.contains c) ||
      (!endsWord rest && (c == '-' || (!inBrackets && (c == '?' || c == ':'))))

end LineCalc.Yaml
