import LineCalc.Number.Numeral

/-!
# Integers to a base

An integer to a base may stand between blanks, and its decimal digits may be those of any
script.  Apart from that, it is an optional sign and at least one digit; the digits to
base two, eight and sixteen may stand behind a mark of their base: `0b`, `0o` or `0x`.

The number of digits to base ten is limited.  `readInteger` reads an integer.
-/

namespace LineCalc

/-- Why a text is no integer to a base. -/
inductive IntegerError where
  | unreadable
  /-- The number of digits at the beginning of the integer is beyond the limit. -/
  | tooLong (count : Nat)
  deriving DecidableEq, Repr

namespace Integer

/-- The value of a digit of ASCII, where letters are digits from ten on. -/
def digit? (base : Nat) (c : Char) : Option Nat :=
  let value :=
    if c.isDigit then c.toNat - '0'.toNat
    else if c.isLower then c.toNat - 'a'.toNat + 10
    else if c.isUpper then c.toNat - 'A'.toNat + 10
    else base
  if value < base then some value else none

/-- The letters that mark a base behind a zero, in lower case. -/
def marks : List (Nat × Char) :=
  [(2, 'b'), (8, 'o'), (16, 'x')]

/-- The text behind a mark of the base, if there is one. -/
def withoutMark (base : Nat) : Text → Text
  | '0' :: c :: rest => if marks.lookup base = some c.toLower then rest else '0' :: c :: rest
  | s => s

/-- The number that a text without a sign consists of. -/
def ofDigits (base : Nat) (s : Text) : Except IntegerError Nat :=
  let digits := s.takeWhile fun c => (digit? base c).isSome
  if base = 10 ∧ Text.digitLimit < digits.length then .error (.tooLong digits.length)
  else if digits.isEmpty ∨ digits.length < s.length then .error .unreadable
  else .ok ((digits.filterMap (digit? base)).foldl (base * · + ·) 0)

/-- The integer that a text of ASCII digits without blanks consists of. -/
def ofPlain (base : Nat) (s : Text) : Except IntegerError Int :=
  let (negative, rest) := Numeral.splitSign s
  (ofDigits base (withoutMark base rest)).map fun n => if negative then -(n : Int) else n

end Integer

/-- The integer to a base that a text consists of, blanks at its ends apart. -/
def readInteger (base : Nat) (s : Text) : Except IntegerError Int :=
  Integer.ofPlain base (Numeral.asciiDigits (Text.trim Text.isNumeralBlank s))

end LineCalc
