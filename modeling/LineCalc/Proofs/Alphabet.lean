import Mathlib.Data.List.TakeWhile
import LineCalc.Proofs.Scanning

/-!
# The characters of expressions

`isNumeralChar` holds of the characters that numerals are written with, and
`isExpressionChar` of those of all tokens.  A reader of numerals takes a numeral apart from
the left, and what it cannot read stays in the rest: each part of it passes a character of
no numeral on (`mem_splitSign`, `mem_splitDigits`, `mem_splitFraction`), and no numeral ends
with a rest.  Hence a text with such a character is no numeral (`readNumber?_eq_none`), and
a line with a character of no token is rejected for a token (`lex_eq_error_of_mem`).

The sign of an assignment is of this kind, so that a line with one is no expression.
-/

namespace LineCalc

open Text

/-- The characters of numerals apart from digits and blanks, in lower case. -/
def numeralMarks : List Char :=
  ['+', '-', '.', '_', 'e', 'i', 'n', 'f', 't', 'y', 'a']

/-- Whether a character can be part of a numeral. -/
def isNumeralChar (c : Char) : Bool :=
  isNumeralBlank c || isDigit c || numeralMarks.contains c.toLower

/-- Whether a character can be part of a token. -/
def isExpressionChar (c : Char) : Bool :=
  isNumeralChar c || isLetter c || isOperator [c] || isParen c

/-! ## Characters of no numeral -/

theorem mem_dropWhile {p : Char → Bool} {s : Text} {c : Char} (hc : c ∈ s) (hp : p c = false) :
    c ∈ s.dropWhile p := by
  have hsplit : s.takeWhile p ++ s.dropWhile p = s := List.takeWhile_append_dropWhile
  rw [← hsplit, List.mem_append] at hc
  rcases hc with htake | hdrop
  · rw [List.mem_takeWhile_imp htake] at hp
    cases hp
  · exact hdrop

theorem mem_trimEnd {p : Char → Bool} {s : Text} {c : Char} (hc : c ∈ s) (hp : p c = false) :
    c ∈ trimEnd p s := by
  rw [trimEnd, List.mem_reverse]
  exact mem_dropWhile (List.mem_reverse.2 hc) hp

theorem mem_trim {p : Char → Bool} {s : Text} {c : Char} (hc : c ∈ s) (hp : p c = false) :
    c ∈ trim p s :=
  mem_trimEnd (mem_dropWhile hc hp) hp

namespace Numeral

variable {c : Char} {s : Text}

theorem mem_asciiDigits (hc : c ∈ s) (hdigit : isDigit c = false) : c ∈ asciiDigits s := by
  have hvalue : digitValue? c = none := by simpa [isDigit] using hdigit
  refine List.mem_map.2 ⟨c, hc, ?_⟩
  rw [hvalue]
  rfl

theorem mem_splitSign (hc : c ∈ s) (hplus : c ≠ '+') (hminus : c ≠ '-') :
    c ∈ (splitSign s).2 := by
  unfold splitSign
  split
  · exact (List.mem_cons.1 hc).resolve_left hminus
  · exact (List.mem_cons.1 hc).resolve_left hplus
  · exact hc

theorem mem_splitDigits (hc : c ∈ s) (hdigit : c.isDigit = false) (hbar : c ≠ '_')
    (afterDigit : Bool) : c ∈ (splitDigits afterDigit s).2 := by
  induction s generalizing afterDigit with
  | nil => cases hc
  | cons d s ih =>
    rw [splitDigits]
    split
    · next hd =>
      have hne : c ≠ d := by
        rintro rfl
        rw [hd] at hdigit
        cases hdigit
      exact ih ((List.mem_cons.1 hc).resolve_left hne) true
    · split
      · next hd =>
        simp only [Bool.and_eq_true, beq_iff_eq] at hd
        rw [hd.1.2] at hc
        exact ih ((List.mem_cons.1 hc).resolve_left hbar) false
      · exact hc

theorem mem_splitFraction (hc : c ∈ s) (hdigit : c.isDigit = false) (hbar : c ≠ '_')
    (hpoint : c ≠ '.') : c ∈ (splitFraction s).2 := by
  unfold splitFraction
  split
  · exact mem_splitDigits ((List.mem_cons.1 hc).resolve_left hpoint) hdigit hbar false
  · exact hc

theorem ne_of_toLower {d : Char} (hmark : c.toLower ∉ numeralMarks)
    (hd : d.toLower ∈ numeralMarks) : c ≠ d := by
  rintro rfl
  exact hmark hd

theorem isDigit_eq_false (hdigit : isDigit c = false) : c.isDigit = false := by
  rw [← Bool.not_eq_true]
  intro hascii
  rw [isDigit, digitValue?_of_isDigit hascii] at hdigit
  cases hdigit

theorem exponent?_eq_none (hc : c ∈ s) (hdigit : isDigit c = false)
    (hmark : c.toLower ∉ numeralMarks) : exponent? s = none := by
  cases s with
  | nil => cases hc
  | cons mark rest =>
    rw [exponent?]
    split
    · next he =>
      have hne : c ≠ mark := by
        simp only [Bool.or_eq_true, beq_iff_eq] at he
        rcases he with rfl | rfl <;> exact ne_of_toLower hmark (by decide)
      have hsigned : c ∈ (splitSign rest).2 :=
        mem_splitSign ((List.mem_cons.1 hc).resolve_left hne) (ne_of_toLower hmark (by decide))
          (ne_of_toLower hmark (by decide))
      have hbehind : c ∈ (splitDigits false (splitSign rest).2).2 :=
        mem_splitDigits hsigned (isDigit_eq_false hdigit) (ne_of_toLower hmark (by decide)) false
      have hrest : (splitDigits false (splitSign rest).2).2.isEmpty = false := by
        rw [List.isEmpty_eq_false_iff]
        exact List.ne_nil_of_mem hbehind
      simp [hrest]
    · rfl

theorem decimal?_eq_none (hc : c ∈ s) (hdigit : isDigit c = false)
    (hmark : c.toLower ∉ numeralMarks) : decimal? s = none := by
  have hwhole : c ∈ (splitDigits false s).2 :=
    mem_splitDigits hc (isDigit_eq_false hdigit) (ne_of_toLower hmark (by decide)) false
  have hfraction : c ∈ (splitFraction (splitDigits false s).2).2 :=
    mem_splitFraction hwhole (isDigit_eq_false hdigit) (ne_of_toLower hmark (by decide))
      (ne_of_toLower hmark (by decide))
  simp only [decimal?]
  split
  · rfl
  · rw [exponent?_eq_none hfraction hdigit hmark]
    rfl

theorem ofPlain?_eq_none (hc : c ∈ s) (hdigit : isDigit c = false)
    (hmark : c.toLower ∉ numeralMarks) : ofPlain? s = none := by
  have hsigned : c ∈ (splitSign s).2 :=
    mem_splitSign hc (ne_of_toLower hmark (by decide)) (ne_of_toLower hmark (by decide))
  have hname (name : List Char) (hletters : name ⊆ numeralMarks) :
      (splitSign s).2.map Char.toLower ≠ name := by
    rintro rfl
    exact hmark (hletters (List.mem_map_of_mem hsigned))
  have hinf := hname ['i', 'n', 'f'] (by simp [numeralMarks])
  have hinfinity := hname ['i', 'n', 'f', 'i', 'n', 'i', 't', 'y'] (by simp [numeralMarks])
  have hnan := hname ['n', 'a', 'n'] (by simp [numeralMarks])
  simp only [ofPlain?, hinf, hinfinity, hnan, or_self, if_false]
  rw [decimal?_eq_none hsigned hdigit hmark]
  rfl

end Numeral

/-! ## Characters of no token -/

/-- A text with a character of no numeral is no numeral. -/
theorem readNumber?_eq_none {s : Text} {c : Char} (hc : c ∈ s) (h : isNumeralChar c = false) :
    readNumber? s = none := by
  simp only [isNumeralChar, Bool.or_eq_false_iff] at h
  obtain ⟨⟨hblank, hdigit⟩, hmark⟩ := h
  have hplain : c ∈ Numeral.asciiDigits (trim isNumeralBlank s) :=
    Numeral.mem_asciiDigits (mem_trim hc hblank) hdigit
  rw [readNumber?, Numeral.ofText?,
    Numeral.ofPlain?_eq_none hplain hdigit (by simpa using hmark)]
  rfl

theorem classify_eq_error_of_mem {s : Text} {c : Char} (hc : c ∈ s)
    (h : isExpressionChar c = false) : classify s = .error (.badToken s) := by
  simp only [isExpressionChar, Bool.or_eq_false_iff] at h
  obtain ⟨⟨⟨hnumeral, hletter⟩, hoperator⟩, hparen⟩ := h
  have hvariable : isVariable s = false := by
    rw [← Bool.not_eq_true, isVariable_iff]
    rintro ⟨d, rfl, hd⟩
    rw [List.mem_singleton.1 hc, hd] at hletter
    cases hletter
  have hsymbol : isOperator s = false := by
    rw [← Bool.not_eq_true]
    intro hs
    obtain ⟨op, hop⟩ := Option.isSome_iff_exists.1 hs
    rw [← Operation.symbol_of_ofSymbol? hop] at hc
    have hone : op.symbol = [c] := by cases op <;> rw [List.mem_singleton.1 hc] <;> rfl
    rw [← hone, Operation.symbol_of_ofSymbol? hop, hs] at hoperator
    cases hoperator
  have hleft : isLeftParen s = false := by
    rw [isLeftParen, beq_eq_false_iff_ne]
    rintro rfl
    rw [List.mem_singleton.1 hc] at hparen
    cases hparen
  have hright : isRightParen s = false := by
    rw [isRightParen, beq_eq_false_iff_ne]
    rintro rfl
    rw [List.mem_singleton.1 hc] at hparen
    cases hparen
  simp only [classify, hvariable, hsymbol, hleft, hright, readNumber?_eq_none hc hnumeral,
    Bool.false_eq_true, if_false]

/-- A line with a character of no token is rejected for one of its texts. -/
theorem lex_eq_error_of_mem {line : Text} {c : Char} (hc : c ∈ line)
    (h : isExpressionChar c = false) : ∃ s, lex line = .error (.badToken s) := by
  have hgap : isGap c = false := by
    rw [← Bool.not_eq_true]
    intro hgap
    simp [isExpressionChar, isNumeralChar, isNumeralBlank_of_isGap hgap] at h
  obtain ⟨s, hs, hcs⟩ := exists_mem_tokenTexts hc hgap
  have hfound : ((tokenTexts line).find? fun text => !(classify text).isOk).isSome := by
    rw [List.find?_isSome]
    refine ⟨s, hs, ?_⟩
    rw [classify_eq_error_of_mem hcs h]
    rfl
  obtain ⟨text, htext⟩ := Option.isSome_iff_exists.1 hfound
  exact ⟨text, classifyAll_eq_error htext⟩

end LineCalc
