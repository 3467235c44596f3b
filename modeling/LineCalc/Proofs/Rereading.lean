import LineCalc.Proofs.Classification
import LineCalc.Proofs.Division
import LineCalc.Proofs.Legality
import LineCalc.Proofs.Numerals
import LineCalc.Proofs.Scanning
import LineCalc.Proofs.Verdicts

/-!
# Outputs as lines

The output for a line with a value is itself a line with a value, in every session: it is one
token, it prints itself again, and it changes no variable.

* A number is printed as a numeral for the same double (`readNumber?_printNumber`), and what is
  not a number as the name of what is not a number (`printNumber_of_isNaN`).
* A numeral is no other token, so that a line that is a printed number has the value of the
  number (`evaluate_printNumber`).
* Two doubles are printed alike only if they are the same double, zeros of different signs being
  different, or both not numbers (`printNumber_eq_iff`).
-/

namespace LineCalc

open Text

namespace Binary64

/-! ## The bits of a double -/

theorem ofSignedBits_parts (x : Float) : ofSignedBits (isNegative x) (magnitudeBits x) = x := by
  have hlt : x.toBits.toNat < 2 ^ 64 := UInt64.toNat_lt x.toBits
  have hbits : (if isNegative x then Nat.pow 2 63 + magnitudeBits x else magnitudeBits x) =
      x.toBits.toNat := by
    simp only [isNegative, magnitudeBits, Nat.pow_eq, decide_eq_true_eq]
    split <;> omega
  rw [ofSignedBits, hbits, UInt64.ofNat_toNat, Float.ofBits_toBits]

open Float.Model in
/-- What is not a number stands behind infinity. -/
theorem isNaN_iff (x : Float) : x.isNaN = true ↔ infinityBits < magnitudeBits x := by
  have hcanonical : x.isNaN = true ↔
      x.toBits.toBitVec = UnpackedFloat.packedNaN Format.binary64 :=
    UnpackedFloat.isNaN_unpack_iff_of_valid x.toModel.valid
  rw [hcanonical]
  constructor
  · intro h
    have hnat : x.toBits.toNat = (UnpackedFloat.packedNaN Format.binary64).toNat :=
      congrArg BitVec.toNat h
    rw [magnitudeBits, hnat]
    decide +kernel
  · intro h
    have hvalid := x.toModel.valid
    change 2047 * 2 ^ 52 < x.toModel.toBits.toBitVec.toNat % 2 ^ 63 at h
    change x.toModel.toBits.toBitVec = _
    generalize x.toModel.toBits.toBitVec = bits at *
    apply hvalid.eq_packedNaN
    · rw [← BitVec.toNat_inj]
      simp [UnpackedFloat.unpackExponent, BitVec.extractLsb, Nat.shiftRight_eq_div_pow]
      omega
    · rw [Ne, ← BitVec.toNat_inj]
      simp [UnpackedFloat.unpackMantissa, BitVec.extractLsb]
      omega

/-- Whether two doubles are the same, bit by bit, or both not numbers. -/
def Same (x y : Float) : Prop :=
  x.toBits = y.toBits ∨ x.isNaN = true ∧ y.isNaN = true

theorem Same.symm {x y : Float} (h : Same x y) : Same y x := by
  rcases h with hbits | ⟨hx, hy⟩
  · exact .inl hbits.symm
  · exact .inr ⟨hy, hx⟩

theorem Same.trans {x y z : Float} (h : Same x y) (h' : Same y z) : Same x z := by
  rcases h with hbits | ⟨hx, hy⟩
  · rwa [Float.toBits_inj.1 hbits]
  · rcases h' with hbits | ⟨-, hz⟩
    · rw [Float.toBits_inj.1 hbits] at hy
      exact .inr ⟨hx, hy⟩
    · exact .inr ⟨hx, hz⟩

end Binary64

open Binary64

/-! ## Reading a printed number -/

theorem printNumber_of_isNaN {x : Float} (hx : x.isNaN = true) : printNumber x = ['n', 'a', 'n'] := by
  rw [printNumber, if_pos ((isNaN_iff x).1 hx)]

/-- A sign and what is printed behind it are a numeral for the double with these bits. -/
theorem exists_ofPlain? (negative : Bool) {bits : Nat} (hbits : bits ≤ infinityBits) :
    ∃ n : Numeral, n.value = ofSignedBits negative bits ∧
      Numeral.ofPlain? ((if negative then ['-'] else []) ++
        if bits = infinityBits then ['i', 'n', 'f']
        else if bits = 0 then ['0', '.', '0']
        else Layout.standard.decimal (Decimal.shortest bits)) = some n := by
  by_cases hinfinite : bits = infinityBits
  · refine ⟨.infinity negative, by rw [hinfinite, Numeral.value], ?_⟩
    rw [if_pos hinfinite]
    cases negative <;> rfl
  by_cases hzero : bits = 0
  · refine ⟨.decimal negative ⟨0, -1⟩, by rw [hzero, Numeral.value, Decimal.toBits, if_pos rfl], ?_⟩
    rw [if_neg hinfinite, if_pos hzero]
    cases negative <;> rfl
  have hshortest := Decimal.toBits_shortest hbits
  have hsignificand : (Decimal.shortest bits).significand ≠ 0 := by
    intro hnone
    rw [Decimal.toBits, if_pos hnone] at hshortest
    exact hzero hshortest.symm
  obtain ⟨d, hread, hd⟩ := Numeral.decimal?_decimal Layout.standard hsignificand
  obtain ⟨c, rest, htext, hc⟩ := Numeral.exists_decimal_eq_cons Layout.standard hsignificand
  refine ⟨.decimal negative d, by rw [Numeral.value, hd, hshortest], ?_⟩
  rw [htext] at hread
  rw [if_neg hinfinite, if_neg hzero, htext, Numeral.ofPlain?_of_isDigit hc, hread]
  rfl

/-- A number is read as what was printed. -/
theorem readNumber?_printNumber {x : Float} (hx : x.isNaN = false) :
    readNumber? (printNumber x) = some x := by
  have hle : magnitudeBits x ≤ infinityBits := by
    rw [← Nat.not_lt, ← isNaN_iff, hx]
    exact Bool.false_ne_true
  obtain ⟨n, hvalue, hn⟩ := exists_ofPlain? (isNegative x) hle
  have hprinted : Numeral.ofPlain? (printNumber x) = some n := by
    rw [printNumber, if_neg (Nat.not_lt.2 hle)]
    exact hn
  have hplain : Numeral.ofText? (printNumber x) = some n := by
    rw [Numeral.ofText?_eq_ofPlain? fun _ => mem_printedChars_of_mem, hprinted]
  rw [readNumber?, hplain, Option.map_some, hvalue, ofSignedBits_parts]

/-- What is printed for a double is read as the same double. -/
theorem exists_readNumber?_printNumber (x : Float) :
    ∃ y, readNumber? (printNumber x) = some y ∧ Same y x := by
  cases hx : x.isNaN with
  | false => exact ⟨x, readNumber?_printNumber hx, .inl rfl⟩
  | true =>
    rw [printNumber_of_isNaN hx]
    exact ⟨0.0 / 0.0, rfl, .inr ⟨by decide +kernel, hx⟩⟩

/-- Doubles are printed alike if and only if they are the same. -/
theorem printNumber_eq_iff (x y : Float) : printNumber x = printNumber y ↔ Same x y := by
  constructor
  · intro h
    obtain ⟨u, hu, hux⟩ := exists_readNumber?_printNumber x
    obtain ⟨v, hv, hvy⟩ := exists_readNumber?_printNumber y
    rw [h, hv] at hu
    obtain rfl : v = u := Option.some.inj hu
    exact hux.symm.trans hvy
  · rintro (hbits | ⟨hx, hy⟩)
    · rw [Float.toBits_inj.1 hbits]
    · rw [printNumber_of_isNaN hx, printNumber_of_isNaN hy]

/-- Zeros of different signs are printed differently. -/
example : printNumber (-0.0) = "-0.0".toList ∧ printNumber 0.0 = "0.0".toList := by
  decide +kernel

/-! ## Printed numbers as tokens -/

/-- A line that is a printed number is one token. -/
theorem tokenTexts_printNumber (x : Float) : tokenTexts (printNumber x) = [printNumber x] := by
  have hne : printNumber x ≠ [] := by
    obtain ⟨y, hy, -⟩ := exists_readNumber?_printNumber x
    intro hempty
    rw [hempty] at hy
    cases hy
  have hchars : printedChars.all isTokenChar = true := by decide
  exact tokenTexts_word hne fun c hc => List.all_eq_true.1 hchars c (mem_printedChars_of_mem hc)

namespace Calculator

/-- A line that is a printed number has the value of the number, whatever the variables are. -/
theorem evaluate_printNumber (x : Float) :
    ∃ y, Same y x ∧ ∀ c : Calculator, c.evaluate (printNumber x) = (.ok y, c) := by
  obtain ⟨y, hy, hsame⟩ := exists_readNumber?_printNumber x
  refine ⟨y, hsame, fun c => ?_⟩
  have hlex : lex (printNumber x) = .ok [.number (printNumber x) y] := by
    rw [lex, tokenTexts_printNumber, classifyAll_cons, (Classified.number hy).classify_eq]
    rfl
  have hconverted : postfixOfLine (printNumber x) = .ok [.number (printNumber x) y] := by
    rw [postfixOfLine_of_lex hlex]
    rfl
  have hchars : '=' ∉ printedChars := by decide
  have hsign : '=' ∉ printNumber x := fun hmem => hchars (mem_printedChars_of_mem hmem)
  rw [c.evaluate_of_not_mem hsign, c.infixValue_of_postfixOfLine hconverted]
  rfl

end Calculator

namespace Session

theorem lineText_printNumber (x : Float) : lineText (printNumber x) = printNumber x :=
  trimEnd_eq_self fun _ hc => isLineEnd_of_mem_printNumber hc

theorem processLine_fst_of_ok {s : Session} {line : Text} {x : Float}
    (h : (s.calculator.evaluate (lineText line)).1 = .ok x) :
    (s.processLine line).1 = printNumber x := by
  rw [processLine_output, h]

/-- The output for a line with a value has a value in every session.  It is the very double that
was printed, or it is not a number and neither was that; it prints the same output again and
changes no variable.  Hence two lines with values have the same output if and only if the values
are the same double or both not numbers. -/
theorem output_reads_back {s : Session} {line : Text} {x : Float}
    (hline : (s.calculator.evaluate (lineText line)).1 = .ok x) :
    (∀ s' : Session, ∃ y,
        s'.calculator.evaluate (lineText (s.processLine line).1) = (.ok y, s'.calculator) ∧
        (y.toBits = x.toBits ∨
          (s.processLine line).1 = ['n', 'a', 'n'] ∧ y.isNaN = true ∧ x.isNaN = true) ∧
        s'.processLine (s.processLine line).1 =
          ((s.processLine line).1, { s' with linesProcessed := s'.linesProcessed + 1 })) ∧
      ∀ (s' : Session) (line' : Text) (x' : Float),
        (s'.calculator.evaluate (lineText line')).1 = .ok x' →
          ((s.processLine line).1 = (s'.processLine line').1 ↔
            x.toBits = x'.toBits ∨ x.isNaN = true ∧ x'.isNaN = true) := by
  rw [processLine_fst_of_ok hline]
  constructor
  · intro s'
    obtain ⟨y, hsame, hevaluate⟩ := Calculator.evaluate_printNumber x
    refine ⟨y, ?_, ?_, ?_⟩
    · rw [lineText_printNumber, hevaluate]
    · rcases hsame with hbits | ⟨hy, hx⟩
      · exact .inl hbits
      · exact .inr ⟨printNumber_of_isNaN hx, hy, hx⟩
    · rw [processLine, lineText_printNumber, hevaluate, ← (printNumber_eq_iff y x).2 hsame]
  · intro s' line' x' hline'
    rw [processLine_fst_of_ok hline']
    exact printNumber_eq_iff x x'

/-- A third is printed by a lenient session, and read again by a strict one. -/
theorem output_reads_back_third :
    let s := start ⟨['?'], false, true⟩ ⟨[('x', 3)]⟩
    let s' := start {} ⟨[('x', -0)]⟩
    let third := Binary64.divide 1 3
    (s.calculator.evaluate (lineText "y = 1 / x\r\n".toList)).1 = .ok third ∧
      (s'.calculator.evaluate (lineText "2e0 / 6".toList)).1 = .ok third ∧
      (s.processLine "y = 1 / x\r\n".toList).1 = "0.3333333333333333".toList ∧
      s'.processLine "0.3333333333333333".toList =
        ("0.3333333333333333".toList, { s' with linesProcessed := 1 }) ∧
      (s.processLine "y = 1 / x\r\n".toList).1 = (s'.processLine "2e0 / 6".toList).1 := by
  intro s s' third
  have hline : (s.calculator.evaluate (lineText "y = 1 / x\r\n".toList)).1 = .ok third := by
    decide +kernel
  have hline' : (s'.calculator.evaluate (lineText "2e0 / 6".toList)).1 = .ok third := by
    decide +kernel
  have hprinted : (s.processLine "y = 1 / x\r\n".toList).1 = "0.3333333333333333".toList := by
    decide +kernel
  obtain ⟨hreads, hprints⟩ := output_reads_back hline
  obtain ⟨y, -, -, hagain⟩ := hreads s'
  rw [hprinted] at hagain
  exact ⟨hline, hline', hprinted, hagain, (hprints s' _ third hline').2 (.inl rfl)⟩

end Session

end LineCalc
