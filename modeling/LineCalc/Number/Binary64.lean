/-!
# Doubles and the fractions nearest to them

A finite double is a sign and a magnitude `m * 2 ^ k` in units of the smallest
positive double, `2 ^ -1074`.  Either `k` is zero and `m` is below `2 ^ 53`, or `m`
lies between `2 ^ 52` and `2 ^ 53`.  The bits of the magnitude are then
`k * 2 ^ 52 + m`, so that magnitudes and their bits have one order, and the bits
after those of the greatest finite magnitude stand for infinity.

* `Magnitude.ofBits` and `Magnitude.toBits` go from the bits to the magnitude and
  back;
* `nearest num den` gives the bits of the double nearest to the fraction
  `num / den`, of two the one whose last bit is zero;
* `ofSignedBits` makes the double of a sign and the bits of a magnitude;
* `toInt?` and `ofInt?` go from a double to the integer that it is equal to, and from
  an integer to the double nearest to it.
-/

namespace LineCalc.Binary64

/-- The bits of infinity, which stand after those of every finite magnitude. -/
def infinityBits : Nat := 2047 * Nat.pow 2 52

/-- The number of units `2 ^ -1074` in one. -/
def unitsPerOne : Nat := Nat.pow 2 1074

/-- The quotient `num / den` rounded to the nearest natural number.  Of two that are
equally near, the even one is taken. -/
def roundQuotient (num den : Nat) : Nat :=
  let quotient := num / den
  let rest := num % den
  if 2 * rest < den then quotient
  else if den < 2 * rest then quotient + 1
  else quotient + quotient % 2

/-- A finite magnitude: `significand * 2 ^ exponent` units. -/
structure Magnitude where
  significand : Nat
  exponent : Nat
  deriving DecidableEq, Repr

namespace Magnitude

/-- The number of units in a magnitude. -/
def units (x : Magnitude) : Nat :=
  x.significand * Nat.pow 2 x.exponent

def toBits (x : Magnitude) : Nat :=
  x.exponent * Nat.pow 2 52 + x.significand

/-- The magnitude with the given bits, for bits below those of infinity. -/
def ofBits (bits : Nat) : Magnitude :=
  if bits < Nat.pow 2 53 then ⟨bits, 0⟩
  else ⟨bits % Nat.pow 2 52 + Nat.pow 2 52, bits / Nat.pow 2 52 - 1⟩

/-- Whether a magnitude is the one that its bits stand for. -/
def IsNormal (x : Magnitude) : Prop :=
  x.significand < Nat.pow 2 53 ∧ (x.exponent = 0 ∨ Nat.pow 2 52 ≤ x.significand)

end Magnitude

/-- The bits of the double nearest to the fraction `num / den`. -/
def nearest (num den : Nat) : Nat :=
  let exponent := (num * unitsPerOne / den).log2 - 52
  let significand := roundQuotient (num * unitsPerOne) (den * Nat.pow 2 exponent)
  min (Magnitude.toBits ⟨significand, exponent⟩) infinityBits

/-- The double with the given sign and the given bits of its magnitude. -/
def ofSignedBits (negative : Bool) (bits : Nat) : Float :=
  Float.ofBits (UInt64.ofNat (if negative then Nat.pow 2 63 + bits else bits))

/-- Whether the sign of a double is negative. -/
def isNegative (x : Float) : Bool :=
  Nat.pow 2 63 ≤ x.toBits.toNat

def magnitudeBits (x : Float) : Nat :=
  x.toBits.toNat % Nat.pow 2 63

/-- The integer that a double is equal to, if it is one. -/
def toInt? (x : Float) : Option Int :=
  let bits := magnitudeBits x
  if infinityBits ≤ bits then none
  else
    let units := (Magnitude.ofBits bits).units
    if units % unitsPerOne = 0 then
      let n : Int := (units / unitsPerOne : Nat)
      some (if isNegative x then -n else n)
    else none

/-- The double nearest to an integer, unless that is infinite. -/
def ofInt? (n : Int) : Option Float :=
  let bits := nearest n.natAbs 1
  if bits < infinityBits then some (ofSignedBits (n < 0) bits) else none

/-! ## Magnitudes and their bits -/

theorem Magnitude.ofBits_isNormal (bits : Nat) : (Magnitude.ofBits bits).IsNormal := by
  simp only [ofBits, IsNormal, Nat.pow_eq]
  split <;> dsimp only <;> omega

theorem Magnitude.toBits_ofBits (bits : Nat) : (Magnitude.ofBits bits).toBits = bits := by
  simp only [ofBits, toBits, Nat.pow_eq]
  split <;> dsimp only <;> omega

/-- A quotient without a rest is not changed by rounding. -/
theorem roundQuotient_mul_self (n : Nat) {den : Nat} (hden : 0 < den) :
    roundQuotient (n * den) den = n := by
  simp [roundQuotient, Nat.mul_div_cancel _ hden, hden]

/-- Rounding depends on the value of the fraction alone. -/
theorem roundQuotient_mul_right (num den : Nat) {c : Nat} (hc : 0 < c) :
    roundQuotient (num * c) (den * c) = roundQuotient num den := by
  have hlt (a b : Nat) : 2 * (a * c) < b * c ↔ 2 * a < b := by
    rw [← Nat.mul_assoc]
    exact Nat.mul_lt_mul_right hc
  have hgt (a b : Nat) : b * c < 2 * (a * c) ↔ b < 2 * a := by
    rw [← Nat.mul_assoc]
    exact Nat.mul_lt_mul_right hc
  simp only [roundQuotient, Nat.mul_div_mul_right _ _ hc, Nat.mul_mod_mul_right, hlt, hgt]

/-- The nearest double depends on the value of the fraction alone. -/
theorem nearest_mul_right (num den : Nat) {c : Nat} (hc : 0 < c) :
    nearest (num * c) (den * c) = nearest num den := by
  have hnum : num * c * unitsPerOne = num * unitsPerOne * c := by
    rw [Nat.mul_right_comm]
  have hden (k : Nat) : den * c * Nat.pow 2 k = den * Nat.pow 2 k * c := by
    rw [Nat.mul_right_comm]
  simp only [nearest, hnum, hden, Nat.mul_div_mul_right _ _ hc, roundQuotient_mul_right _ _ hc]

end LineCalc.Binary64
