import LineCalc.Number.Decimal
import LineCalc.Text.Basic

/-!
# Printed numbers

A double is printed as the shortest decimal that stands for it.  The decimal is
written with a point if its leading digit stands for a power of ten from `10 ^ -4` to
`10 ^ 15`, always with a digit on either side of the point; otherwise as a leading
digit, its further digits behind a point if there are any, and an exponent with a sign
and at least two digits.  Those limits are in one record, `Layout.standard`.

Zero keeps its sign, infinity is `inf`, and what is not a number is `nan` without a
sign.
-/

namespace LineCalc

/-- How decimals are laid out. -/
structure Layout where
  /-- The least power of ten that a leading digit written with a point stands for. -/
  leastPositional : Int
  /-- The greatest such power of ten. -/
  greatestPositional : Int
  /-- The least number of digits of an exponent. -/
  exponentWidth : Nat

namespace Layout

/-- Positional from `10 ^ -4` to `10 ^ 15`; at least two digits in an exponent. -/
def standard : Layout := ⟨-4, 15, 2⟩

/-- Digits with a point behind the first `whole` of them. -/
def positional (digits : Text) (whole : Int) : Text :=
  match whole with
  | .ofNat 0 => '0' :: '.' :: digits
  | .ofNat n =>
    if n < digits.length then digits.take n ++ '.' :: digits.drop n
    else digits ++ List.replicate (n - digits.length) '0' ++ ['.', '0']
  | .negSucc n => '0' :: '.' :: (List.replicate (n + 1) '0' ++ digits)

/-- Digits with a point behind the first of them, and an exponent. -/
def scientific (layout : Layout) (digits : Text) (exponent : Int) : Text :=
  let significand := match digits with
    | d :: e :: rest => d :: '.' :: e :: rest
    | digits => digits
  let sign := if exponent < 0 then '-' else '+'
  let power := Nat.toDigits 10 exponent.natAbs
  significand ++
    'e' :: sign :: (List.replicate (layout.exponentWidth - power.length) '0' ++ power)

def decimal (layout : Layout) (d : Decimal) : Text :=
  let written := Nat.toDigits 10 d.significand
  let digits := Text.trimEnd (· == '0') written
  let leading := d.exponent + written.length - 1
  if layout.leastPositional ≤ leading ∧ leading ≤ layout.greatestPositional then
    positional digits (leading + 1)
  else layout.scientific digits leading

end Layout

open Binary64 in
def printNumber (x : Float) : Text :=
  let bits := magnitudeBits x
  if infinityBits < bits then ['n', 'a', 'n']
  else
    let sign := if isNegative x then ['-'] else []
    sign ++
      if bits = infinityBits then ['i', 'n', 'f']
      else if bits = 0 then ['0', '.', '0']
      else Layout.standard.decimal (Decimal.shortest bits)

end LineCalc
