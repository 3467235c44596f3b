import LineCalc.Number.Binary64

/-!
# Division of doubles

A quotient is only formed for a divisor that is not zero: `quotient` asks for the
evidence, so there is no way to divide by zero.  `divide` looks at the divisor first.
Zero and what is not a number, divided by zero, are not a number; any other double
divided by zero is infinite, and its sign is that of the two signs together.
-/

namespace LineCalc.Binary64

def infinity : Float :=
  ofSignedBits false infinityBits

def notANumber : Float :=
  0 / 0

/-- The double with the magnitude of `x` and the sign of `y`. -/
def copySign (x y : Float) : Float :=
  ofSignedBits (isNegative y) (magnitudeBits x)

/-- The quotient of two doubles, for a divisor that is not zero. -/
def quotient (x y : Float) (_ : (y == 0) = false) : Float :=
  x / y

def divide (x y : Float) : Float :=
  if hy : y == 0 then
    if x == 0 || x.isNaN then notANumber
    else copySign infinity x * copySign 1 y
  else quotient x y (by simpa using hy)

end LineCalc.Binary64
