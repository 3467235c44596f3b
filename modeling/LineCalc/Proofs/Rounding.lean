import Mathlib.Algebra.Order.Ring.Nat
import LineCalc.Number.Decimal

/-!
# The double that a decimal stands for

`Decimal.toBits` leaves out the decimals that are too great or too small to be computed.  This
changes nothing: the double of a decimal is the one nearest to its fraction (`toBits_eq`), so
that decimals of one value stand for one double, however they are written (`toBits_congr`).

A magnitude is nearest to itself (`nearest_units`).  Hence the exact decimal of a double stands
for it, and so does the shortest one (`toBits_shortest`): a decimal on a grid is taken only
if it does.
-/

namespace LineCalc

namespace Binary64

/-! ## Nearest doubles -/

theorem unitsPerOne_eq : unitsPerOne = 2 ^ 1074 := by
  decide +kernel

theorem unitsPerOne_pos : 0 < unitsPerOne := by
  decide +kernel

theorem two_pow_mul_unitsPerOne (n : Nat) : 2 ^ n * unitsPerOne = 2 ^ (n + 1074) := by
  rw [unitsPerOne_eq, Nat.pow_add]

theorem le_log2_of_two_pow_le {m n : Nat} (h : 2 ^ m ≤ n) : m ≤ n.log2 := by
  have hpos : 0 < n := Nat.lt_of_lt_of_le (Nat.two_pow_pos m) h
  exact (Nat.le_log2 (Nat.ne_of_gt hpos)).2 h

/-- Equal fractions have one nearest double. -/
theorem nearest_congr {num den num' den' : Nat} (hden : 0 < den) (hden' : 0 < den')
    (h : num * den' = num' * den) : nearest num den = nearest num' den' := by
  calc nearest num den = nearest (num * den') (den * den') := (nearest_mul_right num den hden').symm
    _ = nearest (num' * den) (den' * den) := by rw [h, Nat.mul_comm den den']
    _ = nearest num' den' := nearest_mul_right num' den' hden

/-- A fraction of less than half a unit is nearest to zero. -/
theorem nearest_eq_zero {num den : Nat} (h : 2 * (num * unitsPerOne) < den) :
    nearest num den = 0 := by
  have hlt : num * unitsPerOne < den := by omega
  have hround : roundQuotient (num * unitsPerOne) den = 0 := by
    rw [roundQuotient, Nat.div_eq_of_lt hlt, Nat.mod_eq_of_lt hlt, if_pos h]
  have hexponent : (num * unitsPerOne / den).log2 - 52 = 0 := by
    rw [Nat.div_eq_of_lt hlt]
    rfl
  rw [nearest, hexponent, Nat.pow_eq, Nat.pow_zero, Nat.mul_one, hround]
  rfl

/-- A fraction beyond all finite magnitudes is nearest to infinity. -/
theorem nearest_eq_infinityBits {num den n : Nat} (hden : 0 < den) (hn : 1025 ≤ n)
    (h : 2 ^ n * den ≤ num) : nearest num den = infinityBits := by
  have hunits : 2 ^ (n + 1074) ≤ num * unitsPerOne / den := by
    rw [Nat.le_div_iff_mul_le hden, ← two_pow_mul_unitsPerOne, Nat.mul_right_comm]
    exact Nat.mul_le_mul_right unitsPerOne h
  have hlog : n + 1074 ≤ (num * unitsPerOne / den).log2 := le_log2_of_two_pow_le hunits
  have hexponent : 2047 ≤ (num * unitsPerOne / den).log2 - 52 := by omega
  rw [nearest]
  apply Nat.min_eq_right
  rw [Magnitude.toBits, infinityBits]
  exact Nat.le_add_right_of_le (Nat.mul_le_mul_right _ hexponent)

theorem log2_units {x : Magnitude} (hx : x.IsNormal) : x.units.log2 - 52 = x.exponent := by
  obtain ⟨hlt, hexponent | hle⟩ := hx
  · rw [Magnitude.units, hexponent, Nat.pow_eq, Nat.pow_zero, Nat.mul_one]
    by_cases hzero : x.significand = 0
    · rw [hzero]
      rfl
    · have hlog := (Nat.log2_lt hzero).2 hlt
      omega
  · have hpos : 0 < x.significand := Nat.lt_of_lt_of_le (Nat.two_pow_pos 52) hle
    have hne : x.units ≠ 0 := Nat.ne_of_gt (Nat.mul_pos hpos (Nat.two_pow_pos x.exponent))
    have hlog : x.units.log2 = 52 + x.exponent := by
      rw [Nat.log2_eq_iff hne, Magnitude.units]
      constructor
      · rw [Nat.pow_add]
        exact Nat.mul_le_mul_right _ hle
      · rw [Nat.add_right_comm, Nat.pow_add]
        exact Nat.mul_lt_mul_of_pos_right hlt (Nat.two_pow_pos x.exponent)
    omega

/-- A magnitude is the double nearest to it. -/
theorem nearest_units {x : Magnitude} (hx : x.IsNormal) :
    nearest x.units unitsPerOne = min x.toBits infinityBits := by
  have hden : 0 < unitsPerOne * Nat.pow 2 x.exponent :=
    Nat.mul_pos unitsPerOne_pos (Nat.two_pow_pos x.exponent)
  have hnum : x.units * unitsPerOne = x.significand * (unitsPerOne * Nat.pow 2 x.exponent) := by
    rw [Magnitude.units, Nat.mul_assoc, Nat.mul_comm (Nat.pow 2 x.exponent)]
  have hround : roundQuotient (x.units * unitsPerOne) (unitsPerOne * Nat.pow 2 x.exponent) =
      x.significand := by
    rw [hnum, roundQuotient_mul_self _ hden]
  rw [nearest, Nat.mul_div_cancel _ unitsPerOne_pos, log2_units hx, hround]

end Binary64

namespace Decimal

open Binary64

/-! ## The fraction of a decimal -/

def numerator (d : Decimal) : Nat :=
  d.significand * 10 ^ d.exponent.toNat

def denominator (d : Decimal) : Nat :=
  10 ^ (-d.exponent).toNat

theorem denominator_pos (d : Decimal) : 0 < d.denominator :=
  Nat.pow_pos (by decide)

theorem two_pow_le_ten_pow (n : Nat) : 2 ^ (3 * n) ≤ 10 ^ n := by
  rw [Nat.pow_mul]
  exact Nat.pow_le_pow_left (by decide) n

/-- The greatest finite double has less than 400 digits. -/
theorem nearest_of_great {significand n : Nat} (hpos : 1 ≤ significand) (hn : 400 < n) :
    nearest (significand * 10 ^ n) 1 = infinityBits := by
  have hexponent : 1025 ≤ 3 * n := by omega
  refine nearest_eq_infinityBits Nat.one_pos hexponent ?_
  calc 2 ^ (3 * n) * 1 = 2 ^ (3 * n) := Nat.mul_one _
    _ ≤ 10 ^ n := two_pow_le_ten_pow n
    _ ≤ significand * 10 ^ n := Nat.le_mul_of_pos_left _ hpos

theorem nearest_of_small {significand n : Nat} (hn : significand.log2 + 1100 < 3 * n) :
    nearest significand (10 ^ n) = 0 := by
  have hlog : significand < 2 ^ (significand.log2 + 1) := Nat.lt_log2_self
  apply nearest_eq_zero
  calc 2 * (significand * unitsPerOne)
      < 2 * (2 ^ (significand.log2 + 1) * unitsPerOne) :=
        Nat.mul_lt_mul_of_pos_left (Nat.mul_lt_mul_of_pos_right hlog unitsPerOne_pos) (by decide)
    _ = 2 ^ (significand.log2 + 1 + 1074 + 1) := by
        rw [two_pow_mul_unitsPerOne, ← Nat.pow_succ']
    _ ≤ 2 ^ (3 * n) := Nat.pow_le_pow_right (by decide) (by omega)
    _ ≤ 10 ^ n := two_pow_le_ten_pow n

/-- The double of a decimal is the one nearest to its fraction. -/
theorem toBits_eq (d : Decimal) : d.toBits = nearest d.numerator d.denominator := by
  obtain ⟨significand, exponent⟩ := d
  by_cases hzero : significand = 0
  · subst hzero
    have hnearest : nearest 0 (denominator ⟨0, exponent⟩) = 0 :=
      nearest_eq_zero (by rw [Nat.zero_mul]; exact denominator_pos _)
    rw [numerator, Nat.zero_mul, hnearest]
    rfl
  rw [toBits, if_neg hzero]
  cases exponent with
  | ofNat n =>
    have hnum : numerator ⟨significand, .ofNat n⟩ = significand * 10 ^ n := rfl
    have hden : denominator ⟨significand, .ofNat n⟩ = 1 := by simp [denominator]
    rw [hnum, hden]
    dsimp only
    split
    · next hn => exact (nearest_of_great (Nat.one_le_iff_ne_zero.2 hzero) hn).symm
    · rfl
  | negSucc n =>
    have hnum : numerator ⟨significand, .negSucc n⟩ = significand := by simp [numerator]
    have hden : denominator ⟨significand, .negSucc n⟩ = 10 ^ (n + 1) := rfl
    rw [hnum, hden]
    dsimp only
    split
    · next hn => exact (nearest_of_small hn).symm
    · rfl

/-- Decimals of one value stand for one double. -/
theorem toBits_congr {d d' : Decimal}
    (h : d.numerator * d'.denominator = d'.numerator * d.denominator) : d.toBits = d'.toBits := by
  rw [toBits_eq, toBits_eq, nearest_congr d.denominator_pos d'.denominator_pos h]

/-- Zeros at the end of a significand belong to the exponent. -/
theorem toBits_mul_pow (n : Nat) (e : Int) (count : Nat) :
    toBits ⟨n * 10 ^ count, e⟩ = toBits ⟨n, e + count⟩ := by
  have hpowers : count + e.toNat + (-(e + count)).toNat = (e + count).toNat + (-e).toNat := by
    omega
  apply toBits_congr
  simp only [numerator, denominator]
  rw [Nat.mul_assoc, Nat.mul_assoc, Nat.mul_assoc, ← Nat.pow_add, ← Nat.pow_add, ← Nat.pow_add,
    ← hpowers, Nat.add_assoc]

/-! ## Decimals that stand for a given double -/

/-- The exact decimal of a double stands for it. -/
theorem toBits_exact {bits : Nat} (h : bits ≤ infinityBits) : (exact bits).toBits = bits := by
  have hvalue : (exact bits).numerator * unitsPerOne =
      (Magnitude.ofBits bits).units * (exact bits).denominator := by
    rw [exact, Magnitude.units]
    generalize Magnitude.ofBits bits = x
    split
    · next hle =>
      have hpower : 2 ^ (x.exponent - 1074) * unitsPerOne = 2 ^ x.exponent := by
        rw [two_pow_mul_unitsPerOne, Nat.sub_add_cancel hle]
      show x.significand * 2 ^ (x.exponent - 1074) * 10 ^ 0 * unitsPerOne =
        x.significand * 2 ^ x.exponent * 10 ^ 0
      rw [← hpower, Nat.pow_zero, Nat.mul_one, Nat.mul_one, Nat.mul_assoc]
    · next hlt =>
      have hsum : x.exponent + (1074 - x.exponent) = 1074 := by omega
      have hpower : 2 ^ x.exponent * 2 ^ (1074 - x.exponent) = unitsPerOne := by
        rw [← pow_add, hsum, unitsPerOne_eq]
      generalize 1074 - x.exponent = places at hpower
      have hnum : (-(places : Int)).toNat = 0 := by omega
      have hden : (- -(places : Int)).toNat = places := by omega
      have hten : 10 ^ places = 5 ^ places * 2 ^ places := Nat.mul_pow 5 2 places
      simp only [numerator, denominator, hnum, hden, hten, Nat.pow_eq]
      rw [← hpower, Nat.pow_zero, Nat.mul_one, Nat.mul_mul_mul_comm]
  rw [toBits_eq, nearest_congr (denominator_pos _) unitsPerOne_pos hvalue,
    nearest_units (Magnitude.ofBits_isNormal bits), Magnitude.toBits_ofBits, Nat.min_eq_left h]

/-- The shortest decimal of a double stands for it. -/
theorem toBits_shortest {bits : Nat} (h : bits ≤ infinityBits) : (shortest bits).toBits = bits := by
  rw [shortest]
  cases hfound : (List.range' 1 17).findSome? (onGrid? bits (exact bits)) with
  | none => exact toBits_exact h
  | some d =>
    obtain ⟨count, -, hd⟩ := List.exists_of_findSome?_eq_some hfound
    have htaken : (d.toBits == bits) = true := by
      rw [onGrid?] at hd
      have hfind := List.find?_some hd
      exact hfind
    exact beq_iff_eq.1 htaken

end Decimal

end LineCalc
