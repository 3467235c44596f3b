import LineCalc.Token
import Mathlib

/-!
# Division of doubles

`divide` looks at the divisor first.  This changes nothing: with the case of a divisor that
is zero, division is what double arithmetic calls division, for all doubles
(`divide_eq_div`).

A double is taken apart into its sign and what it is apart from that (`unpack_cases`).  Only
these parts of the dividend and the sign of the divisor matter for a division by zero.
-/

namespace LineCalc

namespace Binary64

open Float.Model

/-! ## The parts of a double -/

/-- The sign that a sign bit stands for. -/
def signOf (negative : Bool) : UnpackedFloat.Sign :=
  if negative then .negative else .positive

private theorem ofBitVec_unpackSign (x : Float) :
    UnpackedFloat.Sign.ofBitVec
        (@UnpackedFloat.unpackSign .binary64 x.toModel.toBits.toBitVec) =
      signOf (isNegative x) := by
  have hbit : @UnpackedFloat.unpackSign .binary64 x.toModel.toBits.toBitVec = 0#1 ↔
      ¬ 2 ^ 63 ≤ x.toBits.toNat := by
    have hlt : x.toModel.toBits.toBitVec.toNat < 2 ^ 64 := UInt64.toNat_lt x.toBits
    change _ ↔ ¬ 2 ^ 63 ≤ x.toModel.toBits.toBitVec.toNat
    generalize x.toModel.toBits.toBitVec = bits at *
    rw [← BitVec.toNat_inj]
    simp [UnpackedFloat.unpackSign, BitVec.extractLsb, Nat.shiftRight_eq_div_pow]
    omega
  rw [UnpackedFloat.Sign.ofBitVec]
  cases hnegative : isNegative x with
  | true =>
    have h : 2 ^ 63 ≤ x.toBits.toNat := of_decide_eq_true hnegative
    rw [if_neg fun hzero => hbit.1 hzero h]
    rfl
  | false =>
    rw [if_pos (hbit.2 (of_decide_eq_false hnegative))]
    rfl

/-- A double is no number, infinite, zero or finite, and its sign is its sign bit. -/
theorem unpack_cases (x : Float) :
    x.toModel.unpack = .notANumber ∨
      x.toModel.unpack = .infinity (signOf (isNegative x)) ∨
      x.toModel.unpack = .zero (signOf (isNegative x)) ∨
      ∃ m e hm, x.toModel.unpack = .finite (signOf (isNegative x)) m e hm := by
  simp only [Float.Model.unpack, UnpackedFloat.unpack, ofBitVec_unpackSign]
  split
  · split
    · exact .inr (.inl rfl)
    · exact .inl rfl
  · split
    · split
      · exact .inr (.inr (.inl rfl))
      · next hm =>
        refine .inr (.inr (.inr ⟨_, _, ?_, rfl⟩))
        simpa [BitVec.toNat_pos, BitVec.pos_iff_ne_zero] using hm
    · refine .inr (.inr (.inr ⟨_, _, ?_, rfl⟩))
      rw [BitVec.toNat_append]
      exact Nat.lt_of_lt_of_le (by decide) Nat.left_le_or

theorem beq_zero_iff (x : Float) :
    (x == 0) = true ↔ x.toModel.unpack = .zero (signOf (isNegative x)) := by
  have hbeq : (x == 0) = x.toModel.unpack.beq (.zero .positive) := rfl
  rw [hbeq]
  rcases unpack_cases x with h | h | h | ⟨m, e, hm, h⟩ <;> rw [h] <;>
    cases isNegative x <;> simp [UnpackedFloat.beq, UnpackedFloat.compare, signOf]

/-! ## Division by zero -/

theorem notANumber_eq : notANumber = .ofModel (.pack .notANumber) := by
  decide +kernel

theorem copySign_infinity_mul (x y : Float) :
    copySign infinity x * copySign 1 y =
      .ofModel (.pack (.infinity (signOf (isNegative x) / signOf (isNegative y)))) := by
  rw [copySign, copySign]
  cases isNegative x <;> cases isNegative y <;> decide +kernel

/-- Looking at the divisor first does not change division. -/
theorem divide_eq_div (x y : Float) : divide x y = x / y := by
  unfold divide
  split
  · next hy =>
    have hdiv : x / y =
        .ofModel (.pack (UnpackedFloat.div .binary64 x.toModel.unpack y.toModel.unpack)) := rfl
    have hnan : x.isNaN = x.toModel.unpack.isNaN := rfl
    have hzero := beq_zero_iff x
    rw [hdiv, copySign_infinity_mul, notANumber_eq, hnan, (beq_zero_iff y).1 hy]
    rcases unpack_cases x with h | h | h | ⟨m, e, hm, h⟩ <;> rw [h] at hzero ⊢ <;>
      simp [UnpackedFloat.isNaN, UnpackedFloat.div, hzero]
  · rfl

end Binary64

/-- The operation of division is that of double arithmetic. -/
theorem Operation.apply_div (x y : Float) : apply .div x y = x / y :=
  Binary64.divide_eq_div x y

end LineCalc
