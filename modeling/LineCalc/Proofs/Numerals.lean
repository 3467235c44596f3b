import Mathlib.Data.List.TakeWhile
import LineCalc.Number.Numeral
import LineCalc.Proofs.Printing
import LineCalc.Proofs.Rounding

/-!
# Printed decimals are numerals

A layout puts the digits of a decimal in one of four ways, and the reader of numerals takes each
apart again (`decimal?_positional`, `decimal?_scientific`).  It does not always find the decimal
that was written, because zeros are left out at the end of the digits or are added to reach the
point, but it finds one that stands for the same double (`decimal?_decimal`).

The reader first strips blanks and replaces digits.  This does nothing to characters that are
printed (`ofText?_eq_ofPlain?`).  A decimal begins with a digit, so that it is no name and can
have a sign before it (`ofPlain?_of_isDigit`).
-/

namespace LineCalc

open Text

/-! ## Printed characters -/

/-- The characters of printed numbers, one by one. -/
def printedChars : List Char :=
  "0123456789.e+-infa".toList

theorem exists_digitChar {c : Char} (hc : c.isDigit = true) : ∃ n < 10, Nat.digitChar n = c := by
  have hlt : c.toNat - '0'.toNat < 10 := digitValue?_lt (digitValue?_of_isDigit hc)
  have hle : 48 ≤ c.toNat := by
    simp only [Char.isDigit, Bool.and_eq_true, decide_eq_true_eq] at hc
    exact hc.1
  have hzero : '0'.toNat = 48 := rfl
  refine ⟨c.toNat - '0'.toNat, hlt, ?_⟩
  rw [← Char.toNat_inj, Nat.toNat_digitChar_of_lt_ten hlt]
  omega

theorem mem_printedChars {c : Char} (h : isPrintedChar c = true) : c ∈ printedChars := by
  simp only [isPrintedChar, Bool.or_eq_true, List.contains_iff_mem] at h
  rcases h with (hdigit | hmark) | hname
  · obtain ⟨n, hn, rfl⟩ := exists_digitChar hdigit
    have hdigits : ∀ n < 10, Nat.digitChar n ∈ printedChars := by decide
    exact hdigits n hn
  · have hmarks : layoutMarks.all printedChars.contains = true := by decide
    exact List.contains_iff_mem.1 (List.all_eq_true.1 hmarks c hmark)
  · have hnames : ['i', 'n', 'f', 'a'].all printedChars.contains = true := by decide
    exact List.contains_iff_mem.1 (List.all_eq_true.1 hnames c hname)

theorem mem_printedChars_of_mem {x : Float} {c : Char} (h : c ∈ printNumber x) :
    c ∈ printedChars :=
  mem_printedChars (isPrintedChar_of_mem h)

theorem dropWhile_eq_self {p : Char → Bool} {s : Text} (h : ∀ c ∈ s, p c = false) :
    s.dropWhile p = s := by
  cases s with
  | nil => rfl
  | cons c s => rw [List.dropWhile_cons_of_neg (by simp [h c])]

theorem trimEnd_eq_self {p : Char → Bool} {s : Text} (h : ∀ c ∈ s, p c = false) :
    trimEnd p s = s := by
  rw [trimEnd, dropWhile_eq_self (by simpa using h), List.reverse_reverse]

theorem trim_eq_self {p : Char → Bool} {s : Text} (h : ∀ c ∈ s, p c = false) : trim p s = s := by
  rw [trim, dropWhile_eq_self h, trimEnd_eq_self h]

namespace Numeral

theorem asciiDigits_eq_self {s : Text} (h : ∀ c ∈ s, c ∈ printedChars) : asciiDigits s = s := by
  have hall : printedChars.all (fun c => ((digitValue? c).map Nat.digitChar).getD c == c) = true := by
    decide
  have hsame : ∀ c ∈ s, ((digitValue? c).map Nat.digitChar).getD c = c :=
    fun c hc => beq_iff_eq.1 (List.all_eq_true.1 hall c (h c hc))
  rw [asciiDigits, List.map_congr_left hsame, List.map_id']

theorem ofText?_eq_ofPlain? {s : Text} (h : ∀ c ∈ s, c ∈ printedChars) :
    ofText? s = ofPlain? s := by
  have hall : printedChars.all (fun c => !isNumeralBlank c) = true := by decide
  have hblank : ∀ c ∈ s, isNumeralBlank c = false :=
    fun c hc => by simpa using List.all_eq_true.1 hall c (h c hc)
  rw [ofText?, trim_eq_self hblank, asciiDigits_eq_self h]

/-! ## Digits and what follows them -/

theorem splitDigits_append {digits behind : Text} (hdigits : ∀ c ∈ digits, c.isDigit = true)
    (hbehind : ∀ c ∈ behind.head?, c.isDigit = false ∧ c ≠ '_') (afterDigit : Bool) :
    splitDigits afterDigit (digits ++ behind) = (digits, behind) := by
  induction digits generalizing afterDigit with
  | nil =>
    cases behind with
    | nil => rfl
    | cons c behind =>
      obtain ⟨hc, hbar⟩ := hbehind c rfl
      have hbar' : (c == '_') = false := beq_false_of_ne hbar
      rw [List.nil_append, splitDigits, hc, hbar', Bool.and_false]
      rfl
  | cons c digits ih =>
    obtain ⟨hc, hdigits⟩ := List.forall_mem_cons.1 hdigits
    rw [List.cons_append, splitDigits, hc, ih hdigits]
    rfl

/-- An exponent is read as it is written. -/
theorem exponent?_written (e : Int) (count : Nat) :
    exponent? ('e' :: (if e < 0 then '-' else '+') ::
      (List.replicate count '0' ++ Nat.toDigits 10 e.natAbs)) = some e := by
  have hdigits : ∀ c ∈ List.replicate count '0' ++ Nat.toDigits 10 e.natAbs, c.isDigit = true := by
    intro c hc
    rcases List.mem_append.1 hc with hzero | hdigit
    · rw [List.eq_of_mem_replicate hzero]
      rfl
    · exact Nat.isDigit_of_mem_toDigits (by decide) (by decide) hdigit
  have hnone : ∀ c ∈ ([] : Text).head?, c.isDigit = false ∧ c ≠ '_' := by simp
  have hsplit := splitDigits_append hdigits hnone false
  rw [List.append_nil] at hsplit
  have hvalue : Nat.ofDigitChars 10 (List.replicate count '0' ++ Nat.toDigits 10 e.natAbs) 0 =
      e.natAbs := by
    rw [Nat.ofDigitChars_append, Nat.ofDigitChars_replicate_zero, Nat.mul_zero,
      Nat.ofDigitChars_ten_toDigits]
  have hne : (List.replicate count '0' ++ Nat.toDigits 10 e.natAbs).isEmpty = false := by
    simp [Nat.toDigits_ne_nil]
  rw [exponent?]
  by_cases hnegative : e < 0
  · have hminus : -(e.natAbs : Int) = e := by omega
    simp only [if_pos hnegative, beq_self_eq_true, Bool.true_or, if_true, splitSign, hsplit, hne,
      List.isEmpty_nil, Bool.not_true, Bool.or_self, Bool.false_eq_true, if_false, hvalue, hminus]
  · have hplus : (e.natAbs : Int) = e := by omega
    simp only [if_neg hnegative, beq_self_eq_true, Bool.true_or, if_true, splitSign, hsplit, hne,
      List.isEmpty_nil, Bool.not_true, Bool.or_self, Bool.false_eq_true, if_false, hvalue, hplus]

/-- What may follow the digits of a significand. -/
def IsTail (s : Text) : Prop :=
  s = [] ∨ ∃ rest, s = 'e' :: rest

theorem IsTail.head {s : Text} (h : IsTail s) : ∀ c ∈ s.head?, c.isDigit = false ∧ c ≠ '_' := by
  rcases h with rfl | ⟨rest, rfl⟩
  · simp
  · simp

theorem decimal?_whole {whole tail : Text} (hne : whole ≠ [])
    (hwhole : ∀ c ∈ whole, c.isDigit = true) (htail : IsTail tail) :
    decimal? (whole ++ tail) =
      (exponent? tail).map fun e => ⟨Nat.ofDigitChars 10 whole 0, e⟩ := by
  have hsplit := splitDigits_append hwhole htail.head false
  have hfraction : splitFraction tail = ([], tail) := by
    rcases htail with rfl | ⟨rest, rfl⟩ <;> rfl
  have hempty : whole.isEmpty = false := by simpa using hne
  simp [decimal?, hsplit, hfraction, hempty]

theorem decimal?_point {whole fraction tail : Text} (hne : whole ≠ [])
    (hwhole : ∀ c ∈ whole, c.isDigit = true) (hfraction : ∀ c ∈ fraction, c.isDigit = true)
    (htail : IsTail tail) :
    decimal? (whole ++ '.' :: (fraction ++ tail)) =
      (exponent? tail).map fun e =>
        ⟨Nat.ofDigitChars 10 (whole ++ fraction) 0, e - fraction.length⟩ := by
  have hsplit : splitDigits false (whole ++ '.' :: (fraction ++ tail)) =
      (whole, '.' :: (fraction ++ tail)) :=
    splitDigits_append hwhole (by simp) false
  have hsplit' : splitFraction ('.' :: (fraction ++ tail)) = (fraction, tail) :=
    splitDigits_append hfraction htail.head false
  have hempty : whole.isEmpty = false := by simpa using hne
  simp [decimal?, hsplit, hsplit', hempty]

/-! ## Layouts -/

theorem ofDigitChars_zeros_append (count : Nat) (digits : Text) :
    Nat.ofDigitChars 10 (List.replicate count '0' ++ digits) 0 = Nat.ofDigitChars 10 digits 0 := by
  rw [Nat.ofDigitChars_append, Nat.ofDigitChars_replicate_zero, Nat.mul_zero]

theorem isDigit_of_mem_zeros {count : Nat} {c : Char} (hc : c ∈ List.replicate count '0') :
    c.isDigit = true := by
  rw [List.eq_of_mem_replicate hc]
  rfl

/-- Digits with a point among them, and nothing else. -/
theorem decimal?_digits {left right : Text} (hne : left ≠ [])
    (hdigits : ∀ c ∈ left ++ right, c.isDigit = true) :
    decimal? (left ++ '.' :: right) =
      some ⟨Nat.ofDigitChars 10 (left ++ right) 0, 0 - right.length⟩ := by
  obtain ⟨hleft, hright⟩ := List.forall_mem_append.1 hdigits
  have hread := decimal?_point hne hleft hright (.inl rfl)
  rwa [List.append_nil] at hread

/-- Digits that are filled up with zeros to reach the point. -/
theorem decimal?_filled {digits : Text} (hne : digits ≠ [])
    (hdigits : ∀ c ∈ digits, c.isDigit = true) (count : Nat) :
    decimal? (digits ++ List.replicate count '0' ++ ['.', '0']) =
      some ⟨Nat.ofDigitChars 10 digits 0 * 10 ^ (count + 1), -1⟩ := by
  have hzeros : digits ++ List.replicate count '0' ++ ['0'] =
      digits ++ List.replicate (count + 1) '0' := by
    rw [List.append_assoc, List.replicate_succ']
  have hall : ∀ c ∈ digits ++ List.replicate count '0' ++ ['0'], c.isDigit = true := by
    rw [hzeros]
    exact List.forall_mem_append.2 ⟨hdigits, fun c => isDigit_of_mem_zeros⟩
  have hleft : digits ++ List.replicate count '0' ≠ [] := by simp [hne]
  have hvalue : Nat.ofDigitChars 10 (digits ++ List.replicate count '0' ++ ['0']) 0 =
      Nat.ofDigitChars 10 digits 0 * 10 ^ (count + 1) := by
    rw [hzeros, Nat.ofDigitChars_append, Nat.ofDigitChars_replicate_zero, Nat.mul_comm]
  rw [decimal?_digits hleft hall, hvalue]
  rfl

/-- Digits with a point are read as a decimal for the same double. -/
theorem decimal?_positional {digits : Text} (hne : digits ≠ [])
    (hdigits : ∀ c ∈ digits, c.isDigit = true) (whole : Int) :
    ∃ d, decimal? (Layout.positional digits whole) = some d ∧
      d.toBits = Decimal.toBits ⟨Nat.ofDigitChars 10 digits 0, whole - digits.length⟩ := by
  have hzero : List.replicate 1 '0' ≠ [] := by simp
  unfold Layout.positional
  split
  · have hall : ∀ c ∈ List.replicate 1 '0' ++ digits, c.isDigit = true :=
      List.forall_mem_append.2 ⟨fun c => isDigit_of_mem_zeros, hdigits⟩
    refine ⟨_, decimal?_digits hzero hall, ?_⟩
    rw [ofDigitChars_zeros_append]
    rfl
  · next n hn =>
    have hpos : n ≠ 0 := fun h => hn h
    split
    · next hlt =>
      have htake : digits.take n ≠ [] := by simp [hpos, hne]
      have hparts : digits.take n ++ digits.drop n = digits := List.take_append_drop n digits
      have hplaces : (0 : Int) - (digits.drop n).length = (n : Int) - digits.length := by
        rw [List.length_drop]
        omega
      refine ⟨_, decimal?_digits htake (by rwa [hparts]), ?_⟩
      rw [hparts, hplaces]
      rfl
    · next hle =>
      have hplaces : (-1 : Int) + (n - digits.length + 1 : Nat) = (n : Int) - digits.length := by
        omega
      refine ⟨_, decimal?_filled hne hdigits (n - digits.length), ?_⟩
      rw [Decimal.toBits_mul_pow, hplaces]
      rfl
  · next n =>
    have hall : ∀ c ∈ List.replicate 1 '0' ++ (List.replicate (n + 1) '0' ++ digits),
        c.isDigit = true := by
      simp only [List.forall_mem_append]
      exact ⟨fun c => isDigit_of_mem_zeros, fun c => isDigit_of_mem_zeros, hdigits⟩
    have hplaces : (0 : Int) - (List.replicate (n + 1) '0' ++ digits).length =
        Int.negSucc n - digits.length := by
      rw [List.length_append, List.length_replicate]
      omega
    refine ⟨_, decimal?_digits hzero hall, ?_⟩
    rw [ofDigitChars_zeros_append, ofDigitChars_zeros_append, hplaces]

/-- Digits with an exponent are read as the decimal that they are. -/
theorem decimal?_scientific (layout : Layout) {digits : Text} (hne : digits ≠ [])
    (hdigits : ∀ c ∈ digits, c.isDigit = true) (exponent : Int) :
    decimal? (layout.scientific digits exponent) =
      some ⟨Nat.ofDigitChars 10 digits 0, exponent + 1 - digits.length⟩ := by
  obtain ⟨tail, htail, hexponent, hone, hmore⟩ :
      ∃ tail, IsTail tail ∧ exponent? tail = some exponent ∧
        (∀ d, layout.scientific [d] exponent = [d] ++ tail) ∧
        ∀ d e rest, layout.scientific (d :: e :: rest) exponent =
          [d] ++ '.' :: ((e :: rest) ++ tail) :=
    ⟨_, .inr ⟨_, rfl⟩, exponent?_written exponent _, fun _ => rfl, fun _ _ _ => rfl⟩
  cases digits with
  | nil => exact absurd rfl hne
  | cons d rest =>
    cases rest with
    | nil =>
      have hplaces : exponent + 1 - [d].length = exponent := by simp
      rw [hone, decimal?_whole hne hdigits htail, hexponent, Option.map_some, hplaces]
    | cons e rest =>
      obtain ⟨hd, hrest⟩ := List.forall_mem_cons.1 hdigits
      have hwhole : ∀ c ∈ [d], c.isDigit = true := by simpa using hd
      have hplaces : exponent + 1 - (d :: e :: rest).length = exponent - (e :: rest).length := by
        simp only [List.length_cons]
        omega
      rw [hmore, decimal?_point (List.cons_ne_nil d []) hwhole hrest htail, hexponent,
        Option.map_some, hplaces]
      rfl

/-! ## Decimals -/

/-- The digits of a decimal without the zeros at their end. -/
def significantDigits (d : Decimal) : Text :=
  trimEnd (· == '0') (Nat.toDigits 10 d.significand)

theorem exists_zeros (s : Text) :
    ∃ count, s = trimEnd (· == '0') s ++ List.replicate count '0' := by
  refine ⟨(s.reverse.takeWhile (· == '0')).length, ?_⟩
  have hzeros : s.reverse.takeWhile (· == '0') =
      List.replicate (s.reverse.takeWhile (· == '0')).length '0' := by
    refine List.eq_replicate_of_mem fun c hc => ?_
    simpa using List.mem_takeWhile_imp hc
  have hsplit : s.reverse.takeWhile (· == '0') ++ s.reverse.dropWhile (· == '0') = s.reverse :=
    List.takeWhile_append_dropWhile
  rw [trimEnd, ← List.reverse_inj, List.reverse_append, List.reverse_reverse, List.reverse_replicate,
    ← hzeros, hsplit]

theorem toDigits_eq (d : Decimal) :
    ∃ count, Nat.toDigits 10 d.significand = significantDigits d ++ List.replicate count '0' ∧
      d.significand = Nat.ofDigitChars 10 (significantDigits d) 0 * 10 ^ count := by
  obtain ⟨count, hwritten⟩ := exists_zeros (Nat.toDigits 10 d.significand)
  refine ⟨count, hwritten, ?_⟩
  calc d.significand = Nat.ofDigitChars 10 (Nat.toDigits 10 d.significand) 0 :=
        Nat.ofDigitChars_ten_toDigits.symm
    _ = Nat.ofDigitChars 10 (significantDigits d ++ List.replicate count '0') 0 :=
        congrArg (Nat.ofDigitChars 10 · 0) hwritten
    _ = Nat.ofDigitChars 10 (significantDigits d) 0 * 10 ^ count := by
        rw [Nat.ofDigitChars_append, Nat.ofDigitChars_replicate_zero, Nat.mul_comm]

theorem significantDigits_ne_nil {d : Decimal} (hd : d.significand ≠ 0) :
    significantDigits d ≠ [] := by
  obtain ⟨count, -, hvalue⟩ := toDigits_eq d
  intro hnone
  rw [hnone, Nat.ofDigitChars_nil, Nat.zero_mul] at hvalue
  exact hd hvalue

theorem isDigit_of_mem_significantDigits {d : Decimal} {c : Char}
    (hc : c ∈ significantDigits d) : c.isDigit = true := by
  obtain ⟨count, hwritten, -⟩ := toDigits_eq d
  have hmem : c ∈ Nat.toDigits 10 d.significand := by
    rw [hwritten]
    exact List.mem_append_left _ hc
  exact Nat.isDigit_of_mem_toDigits (by decide) (by decide) hmem

/-- A laid-out decimal is read as one for the same double. -/
theorem decimal?_decimal (layout : Layout) {d : Decimal} (hd : d.significand ≠ 0) :
    ∃ d', decimal? (layout.decimal d) = some d' ∧ d'.toBits = d.toBits := by
  have hne := significantDigits_ne_nil hd
  have hdigits : ∀ c ∈ significantDigits d, c.isDigit = true :=
    fun c => isDigit_of_mem_significantDigits
  obtain ⟨count, hwritten, hvalue⟩ := toDigits_eq d
  have hlength : (Nat.toDigits 10 d.significand).length =
      (significantDigits d).length + count := by
    rw [hwritten, List.length_append, List.length_replicate]
  -- The zeros at the end of the digits are not laid out; the exponent makes up for them.
  have hplaces : d.exponent + (Nat.toDigits 10 d.significand).length - 1 + 1 -
      (significantDigits d).length = d.exponent + count := by
    omega
  have hbits : d.toBits =
      Decimal.toBits ⟨Nat.ofDigitChars 10 (significantDigits d) 0, d.exponent + count⟩ := by
    rw [← Decimal.toBits_mul_pow, ← hvalue]
  rw [Layout.decimal]
  split
  · obtain ⟨d', hread, hd'⟩ := decimal?_positional hne hdigits
      (d.exponent + (Nat.toDigits 10 d.significand).length - 1 + 1)
    exact ⟨d', hread, by rw [hd', hplaces, hbits]⟩
  · refine ⟨_, decimal?_scientific layout hne hdigits _, ?_⟩
    rw [hplaces, hbits]

/-- A laid-out decimal begins with a digit. -/
theorem exists_decimal_eq_cons (layout : Layout) {d : Decimal} (hd : d.significand ≠ 0) :
    ∃ c rest, layout.decimal d = c :: rest ∧ c.isDigit = true := by
  obtain ⟨c, rest, hcons⟩ := List.exists_cons_of_ne_nil (significantDigits_ne_nil hd)
  have hmem : c ∈ significantDigits d := by
    rw [hcons]
    exact List.mem_cons_self
  have hc := isDigit_of_mem_significantDigits hmem
  rw [significantDigits] at hcons
  rw [Layout.decimal, hcons]
  split
  · unfold Layout.positional
    split
    · exact ⟨'0', _, rfl, rfl⟩
    · next n hzero _ =>
      split
      · obtain ⟨k, rfl⟩ := Nat.exists_eq_succ_of_ne_zero fun h : n = 0 => hzero h
        exact ⟨c, _, rfl, hc⟩
      · exact ⟨c, _, rfl, hc⟩
    · exact ⟨'0', _, rfl, rfl⟩
  · cases rest with
    | nil => exact ⟨c, _, rfl, hc⟩
    | cons e rest => exact ⟨c, _, rfl, hc⟩

/-! ## Numerals -/

/-- A text that begins with a digit is read as a decimal, behind a sign or not. -/
theorem ofPlain?_of_isDigit {c : Char} {rest : Text} (hc : c.isDigit = true) (negative : Bool) :
    ofPlain? ((if negative then ['-'] else []) ++ c :: rest) =
      (decimal? (c :: rest)).map (.decimal negative) := by
  obtain ⟨n, hn, hcn⟩ := exists_digitChar hc
  have hsign : splitSign ((if negative then ['-'] else []) ++ c :: rest) =
      (negative, c :: rest) := by
    have hdigits : ∀ n < 10, Nat.digitChar n ≠ '-' ∧ Nat.digitChar n ≠ '+' := by decide
    obtain ⟨hminus, hplus⟩ := hdigits n hn
    rw [hcn] at hminus hplus
    cases negative with
    | true => rfl
    | false =>
      show splitSign (c :: rest) = _
      unfold splitSign
      split
      · next h => exact absurd (List.cons.inj h).1 hminus
      · next h => exact absurd (List.cons.inj h).1 hplus
      · rfl
  have hname (d : Char) (name : Text) (hd : d.isAlpha = true) :
      (c :: rest).map Char.toLower ≠ d :: name := by
    have hdigits : ∀ n < 10, (Nat.digitChar n).toLower.isAlpha = false := by decide
    intro h
    rw [← (List.cons.inj h).1, ← hcn, hdigits n hn] at hd
    cases hd
  have hinf := hname 'i' ['n', 'f'] rfl
  have hinfinity := hname 'i' ['n', 'f', 'i', 'n', 'i', 't', 'y'] rfl
  have hnan := hname 'n' ['a', 'n'] rfl
  rw [ofPlain?, hsign]
  simp only [hinf, hinfinity, hnan, or_self, if_false]

end Numeral

end LineCalc
