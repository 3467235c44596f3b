import LineCalc.Number.Decimal
import LineCalc.Text.Blank
import LineCalc.Text.Digit

/-!
# Numerals

A numeral may stand between blanks, and its decimal digits may be those of any
script.  Apart from that, it is an optional sign followed by

* `inf`, `infinity` or `nan` in any mixture of cases, or
* digits with at most one point among them, at least one digit, and optionally an
  exponent: `e` or `E`, an optional sign and at least one digit.

An underscore may stand between two digits.  `Numeral.ofText?` reads a numeral and
`Numeral.value` gives the double nearest to it.
-/

namespace LineCalc

/-- What a numeral says. -/
inductive Numeral where
  | decimal (negative : Bool) (magnitude : Decimal)
  | infinity (negative : Bool)
  | notANumber
  deriving DecidableEq, Repr

namespace Numeral

open Text

/-- The text with the decimal digits of all scripts replaced by those of ASCII. -/
def asciiDigits (s : Text) : Text :=
  s.map fun c => ((digitValue? c).map Nat.digitChar).getD c

/-- Whether a sign says minus, and what follows the sign. -/
def splitSign : Text → Bool × Text
  | '-' :: rest => (true, rest)
  | '+' :: rest => (false, rest)
  | rest => (false, rest)

/-- The digits at the beginning of a text without the underscores between them, and
what follows.  An underscore belongs to the digits if the character before it is a
digit, as `afterDigit` says, and the character behind it is one. -/
def splitDigits (afterDigit : Bool) : Text → Text × Text
  | [] => ([], [])
  | c :: rest =>
    if c.isDigit then
      let (digits, behind) := splitDigits true rest
      (c :: digits, behind)
    else if afterDigit && c == '_' && rest.head?.any Char.isDigit then
      splitDigits false rest
    else
      ([], c :: rest)

/-- The fraction of a numeral and what follows it.  Without a point there is none. -/
def splitFraction : Text → Text × Text
  | '.' :: rest => splitDigits false rest
  | rest => ([], rest)

/-- The exponent that a text consists of.  The empty text is the exponent zero. -/
def exponent? : Text → Option Int
  | [] => some 0
  | mark :: rest =>
    if mark == 'e' || mark == 'E' then
      let (negative, rest) := splitSign rest
      let (digits, behind) := splitDigits false rest
      if digits.isEmpty || !behind.isEmpty then none
      else
        let n : Int := Nat.ofDigitChars 10 digits 0
        some (if negative then -n else n)
    else none

/-- The decimal that a text without a sign consists of. -/
def decimal? (s : Text) : Option Decimal :=
  let (whole, rest) := splitDigits false s
  let (fraction, rest) := splitFraction rest
  if whole.isEmpty && fraction.isEmpty then none
  else
    (exponent? rest).map fun e =>
      ⟨Nat.ofDigitChars 10 (whole ++ fraction) 0, e - fraction.length⟩

/-- The numeral that a text of ASCII digits without blanks consists of. -/
def ofPlain? (s : Text) : Option Numeral :=
  let (negative, rest) := splitSign s
  let name := rest.map Char.toLower
  if name = ['i', 'n', 'f'] ∨ name = ['i', 'n', 'f', 'i', 'n', 'i', 't', 'y'] then
    some (.infinity negative)
  else if name = ['n', 'a', 'n'] then some .notANumber
  else (decimal? rest).map (.decimal negative)

/-- The numeral that a text consists of, blanks at its ends apart. -/
def ofText? (s : Text) : Option Numeral :=
  ofPlain? (asciiDigits (trim isNumeralBlank s))

/-- The double nearest to a numeral. -/
def value : Numeral → Float
  | .decimal negative magnitude => Binary64.ofSignedBits negative magnitude.toBits
  | .infinity negative => Binary64.ofSignedBits negative Binary64.infinityBits
  | .notANumber => 0.0 / 0.0

end Numeral

/-- The double that a text spells, if it is a numeral. -/
def readNumber? (s : Text) : Option Float :=
  (Numeral.ofText? s).map Numeral.value

end LineCalc
