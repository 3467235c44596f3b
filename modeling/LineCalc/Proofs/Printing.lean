import LineCalc.Number.Printed
import LineCalc.Text.Blank

/-!
# The characters of printed numbers

A finite number is printed with digits and with the marks that lay them out, and any other
number is a name (`isPrintedChar_of_mem`).  The digits are those of the significand and of
the exponent: a layout puts only zeros and marks around them (`mem_positional`,
`mem_scientific`).

None of these characters ends a line, so that a number is printed on one line
(`isLineEnd_of_mem_printNumber`).
-/

namespace LineCalc

open Text

/-- The marks that lay out the digits of a number. -/
def layoutMarks : List Char :=
  ['.', 'e', '+', '-']

/-- Whether a character can be part of a printed number. -/
def isPrintedChar (c : Char) : Bool :=
  c.isDigit || layoutMarks.contains c || ['i', 'n', 'f', 'a'].contains c

namespace Layout

variable {c : Char} {digits : Text}

theorem mem_positional {whole : Int} (h : c ∈ positional digits whole) :
    c ∈ digits ∨ c = '0' ∨ c = '.' := by
  unfold positional at h
  split at h
  · simp only [List.mem_cons] at h
    grind
  · split at h
    · simp only [List.mem_append, List.mem_cons] at h
      rcases h with htake | rfl | hdrop
      · exact .inl (List.mem_of_mem_take htake)
      · exact .inr (.inr rfl)
      · exact .inl (List.mem_of_mem_drop hdrop)
    · simp only [List.mem_append, List.mem_cons, List.mem_replicate, List.not_mem_nil] at h
      grind
  · simp only [List.mem_cons, List.mem_append, List.mem_replicate] at h
    grind

theorem mem_scientific {layout : Layout} {exponent : Int}
    (h : c ∈ layout.scientific digits exponent) :
    c ∈ digits ∨ c ∈ Nat.toDigits 10 exponent.natAbs ∨ c = '0' ∨ c ∈ layoutMarks := by
  simp only [scientific, List.mem_append, List.mem_cons, List.mem_replicate] at h
  rcases h with hsignificand | rfl | rfl | ⟨-, rfl⟩ | hpower
  · split at hsignificand
    · simp only [List.mem_cons] at hsignificand ⊢
      rcases hsignificand with hc | rfl | hc
      · exact .inl (.inl hc)
      · exact .inr (.inr (.inr (by decide)))
      · exact .inl (.inr hc)
    · exact .inl hsignificand
  · exact .inr (.inr (.inr (by decide)))
  · refine .inr (.inr (.inr ?_))
    split <;> decide
  · exact .inr (.inr (.inl rfl))
  · exact .inr (.inl hpower)

/-- The digits of a decimal are digits, however they are laid out. -/
theorem mem_decimal {layout : Layout} {d : Decimal} (h : c ∈ layout.decimal d) :
    c.isDigit = true ∨ c ∈ layoutMarks := by
  have hdigit (n : Nat) (hc : c ∈ Nat.toDigits 10 n) : c.isDigit = true :=
    Nat.isDigit_of_mem_toDigits (by decide) (by decide) hc
  have hwritten (hc : c ∈ trimEnd (· == '0') (Nat.toDigits 10 d.significand)) :
      c.isDigit = true := by
    rw [trimEnd, List.mem_reverse] at hc
    exact hdigit _ (List.mem_reverse.1 (List.dropWhile_sublist _ |>.subset hc))
  simp only [decimal] at h
  split at h
  · rcases mem_positional h with hc | rfl | rfl
    · exact .inl (hwritten hc)
    · exact .inl rfl
    · exact .inr (by decide)
  · rcases mem_scientific h with hc | hc | rfl | hc
    · exact .inl (hwritten hc)
    · exact .inl (hdigit _ hc)
    · exact .inl rfl
    · exact .inr hc

end Layout

theorem isPrintedChar_of_mem {x : Float} {c : Char} (h : c ∈ printNumber x) :
    isPrintedChar c = true := by
  have hlaid {layout : Layout} {d : Decimal} (hc : c ∈ layout.decimal d) :
      isPrintedChar c = true := by
    simp only [isPrintedChar, Bool.or_eq_true, List.contains_iff_mem]
    exact .inl (Layout.mem_decimal hc)
  have hname {name : Text} (hprinted : name.all isPrintedChar = true) (hc : c ∈ name) :
      isPrintedChar c = true := List.all_eq_true.1 hprinted c hc
  simp only [printNumber] at h
  split at h
  · exact hname (by decide) h
  · rw [List.mem_append] at h
    rcases h with hsign | hnumber
    · split at hsign
      · exact hname (by decide) hsign
      · cases hsign
    · split at hnumber
      · exact hname (by decide) hnumber
      · split at hnumber
        · exact hname (by decide) hnumber
        · exact hlaid hnumber

/-- No character of a number ends a line. -/
theorem isLineEnd_of_mem_printNumber {x : Float} {c : Char} (h : c ∈ printNumber x) :
    isLineEnd c = false := by
  have hprinted := isPrintedChar_of_mem h
  rw [← Bool.not_eq_true]
  intro hend
  simp only [isLineEnd, Bool.or_eq_true, beq_iff_eq] at hend
  rcases hend with rfl | rfl <;> exact absurd hprinted (by decide)

end LineCalc
