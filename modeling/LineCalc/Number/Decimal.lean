import LineCalc.Number.Binary64

/-!
# Decimals, and the shortest one that stands for a double

A decimal is a natural number with an exponent of ten.  Each decimal stands for the
double nearest to it, `Decimal.toBits`; many decimals stand for one double.

`shortest` chooses the decimal to print.  The exact value of a double lies between
two neighbours on the grid of decimals with one digit, between two on the grid with
two digits, and so on.  The first grid on which a neighbour stands for the double
wins, of two such neighbours the one nearer to the exact value, and of two equally
near the even one.  Seventeen digits are always enough; should no grid up to that one
serve, the exact value itself is taken, so that `shortest` stands for its double
whatever is known about grids.
-/

namespace LineCalc

/-- The number `significand * 10 ^ exponent`. -/
structure Decimal where
  significand : Nat
  exponent : Int
  deriving DecidableEq, Repr

namespace Decimal

open Binary64

/-- The bits of the double that a decimal stands for.  A decimal whose exponent alone
takes it out of the range of finite doubles is not computed: `10 ^ 400` is above all
of them, and `10 ^ -n` is less than `2 ^ (-3 * n)`. -/
def toBits (d : Decimal) : Nat :=
  if d.significand = 0 then 0
  else
    match d.exponent with
    | .ofNat n =>
      if 400 < n then infinityBits else nearest (d.significand * Nat.pow 10 n) 1
    | .negSucc n =>
      if d.significand.log2 + 1100 < 3 * (n + 1) then 0
      else nearest d.significand (Nat.pow 10 (n + 1))

/-- The exact value of a magnitude of `m * 2 ^ k` units `2 ^ -1074`: a natural number
if `k` is at least 1074, else a decimal with `1074 - k` places. -/
def exact (bits : Nat) : Decimal :=
  let x := Magnitude.ofBits bits
  if 1074 ≤ x.exponent then ⟨x.significand * Nat.pow 2 (x.exponent - 1074), 0⟩
  else ⟨x.significand * Nat.pow 5 (1074 - x.exponent), -((1074 - x.exponent : Nat) : Int)⟩

/-- The largest decimal with `count` digits that is not above `d`, for a `d` of more
digits. -/
def truncate (count : Nat) (d : Decimal) : Decimal :=
  let dropped := (Nat.toDigits 10 d.significand).length - count
  ⟨d.significand / Nat.pow 10 dropped, d.exponent + dropped⟩

/-- The next decimal with the same exponent. -/
def next (d : Decimal) : Decimal :=
  ⟨d.significand + 1, d.exponent⟩

/-- Whether `d` is nearer to the exact decimal `x` than the next one is, or equally
near and even.  The exponent of `x` is not above that of `d`. -/
def isNearer (x d : Decimal) : Bool :=
  let scale := Nat.pow 10 (d.exponent - x.exponent).toNat
  let below := x.significand - d.significand * scale
  2 * below < scale || (2 * below == scale && d.significand % 2 == 0)

/-- The decimal with `count` digits that stands for the double with the given bits and
is nearest to its exact value `x`, if there is one. -/
def onGrid? (bits : Nat) (x : Decimal) (count : Nat) : Option Decimal :=
  let lower := x.truncate count
  let candidates := if isNearer x lower then [lower, lower.next] else [lower.next, lower]
  candidates.find? fun d => d.toBits == bits

/-- The shortest decimal that stands for the double with the given bits. -/
def shortest (bits : Nat) : Decimal :=
  let x := exact bits
  ((List.range' 1 17).findSome? (onGrid? bits x)).getD x

end Decimal

end LineCalc
