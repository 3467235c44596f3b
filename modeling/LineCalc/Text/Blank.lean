import LineCalc.Text.Basic

/-!
# Blank characters

Two classes of characters count as white space.

* `isBlank` holds of every character of the property White_Space and of the four
  information separators U+001C to U+001F.  The name to the left of an
  assignment sign may stand between such characters.
* `isNumeralBlank` leaves the information separators out.  A numeral may stand
  between such characters.

Between tokens, only the space and the tab separate; those are `isGap`.
-/

namespace LineCalc.Text

/-- Whether the code point `n` lies in one of the inclusive ranges. -/
def inRanges (ranges : List (Nat × Nat)) (n : Nat) : Bool :=
  ranges.any fun range => range.1 ≤ n && n ≤ range.2

/-- The code points of blank characters, as inclusive ranges. -/
def blankRanges : List (Nat × Nat) :=
  [(0x0009, 0x000D), (0x001C, 0x0020), (0x0085, 0x0085), (0x00A0, 0x00A0), (0x1680, 0x1680),
    (0x2000, 0x200A), (0x2028, 0x2029), (0x202F, 0x202F), (0x205F, 0x205F), (0x3000, 0x3000)]

/-- White space, the information separators U+001C to U+001F included. -/
def isBlank (c : Char) : Bool :=
  inRanges blankRanges c.toNat

/-- White space around a numeral: blank, but not an information separator. -/
def isNumeralBlank (c : Char) : Bool :=
  isBlank c && !(0x1C ≤ c.toNat && c.toNat ≤ 0x1F)

/-- A space or a tab, the characters that separate tokens. -/
def isGap (c : Char) : Bool :=
  c == ' ' || c == '\t'

/-- A line feed or a carriage return, the characters that end a line. -/
def isLineEnd (c : Char) : Bool :=
  c == '\n' || c == '\r'

/-! ## How the classes lie in one another -/

theorem isBlank_of_isNumeralBlank {c : Char} (h : isNumeralBlank c = true) :
    isBlank c = true := by
  simp only [isNumeralBlank, Bool.and_eq_true] at h
  exact h.1

theorem isNumeralBlank_of_isGap {c : Char} (h : isGap c = true) :
    isNumeralBlank c = true := by
  simp only [isGap, Bool.or_eq_true, beq_iff_eq] at h
  rcases h with rfl | rfl <;> decide

theorem isNumeralBlank_of_isLineEnd {c : Char} (h : isLineEnd c = true) :
    isNumeralBlank c = true := by
  simp only [isLineEnd, Bool.or_eq_true, beq_iff_eq] at h
  rcases h with rfl | rfl <;> decide

end LineCalc.Text
