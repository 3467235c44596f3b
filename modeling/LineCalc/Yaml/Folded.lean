import LineCalc.Text.Raw
import LineCalc.Yaml.Character

/-!
# Folded lines

A scalar may go on over several lines.  The blanks around a line break are dropped, a
single line feed becomes a space, and of several line breaks all but the first stay.

The scalar is read as `Piece`s, and `fold` gives its text.  An escaped line break joins
two lines without a space between them.
-/

namespace LineCalc.Yaml

/-- A part of a scalar as it is written. -/
inductive Piece where
  /-- A code point that stands for itself. -/
  | point (p : CodePoint)
  /-- A space or a tab, which is dropped next to a line break. -/
  | blank (c : Char)
  | lineBreak (c : Char)
  /-- An escaped line break. -/
  | joint
  deriving DecidableEq

/-- What stands between two characters of a scalar. -/
inductive Gap where
  /-- Blanks within a line, the last one first. -/
  | within (blanks : Text)
  /-- A line break, and the line breaks behind it, the last one first. -/
  | across (first : Char) (more : Text)
  /-- An escaped line break, and the line breaks behind it, the last one first. -/
  | joined (more : Text)

namespace Gap

/-- What a gap is read as. -/
def text : Gap → Text
  | .within blanks => blanks.reverse
  | .across first more =>
    if first ≠ '\n' then first :: more.reverse
    else if more.isEmpty then [' ']
    else more.reverse
  | .joined more => more.reverse

/-- A gap with one more blank. -/
def blank (c : Char) : Gap → Gap
  | .within blanks => .within (c :: blanks)
  | gap => gap

/-- A gap with one more line break. -/
def lineBreak (c : Char) : Gap → Gap
  | .within _ => .across c []
  | .across first more => .across first (c :: more)
  | .joined more => .joined (c :: more)

end Gap

/-- The text of a scalar behind a gap. -/
def foldFrom (gap : Gap) : List Piece → RawText
  | [] => RawText.ofText gap.text
  | .point p :: rest => RawText.ofText gap.text ++ p :: foldFrom (.within []) rest
  | .blank c :: rest => foldFrom (gap.blank c) rest
  | .lineBreak c :: rest => foldFrom (gap.lineBreak c) rest
  | .joint :: rest => RawText.ofText gap.text ++ foldFrom (.joined []) rest

/-- The text of a scalar. -/
def fold (pieces : List Piece) : RawText :=
  foldFrom (.within []) pieces

/-- A scalar that consists of code points that stand for themselves is read as it is
written. -/
theorem fold_map_point (s : RawText) : fold (s.map .point) = s := by
  induction s with
  | nil => rfl
  | cons c rest ih =>
    have := ih
    simp only [fold] at this
    simp [fold, foldFrom, this, Gap.text, RawText.ofText]

end LineCalc.Yaml
