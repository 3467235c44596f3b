import LineCalc.Text.Basic

/-!
# Base 64

Bytes may be written as digits to base 64, four digits for three bytes.  Characters that
are no digits are skipped.  The last digits may be fewer than four; then signs of equality
must stand in the place of the others, and what follows those is not read.

`bytesOfBase64?` reads the bytes.
-/

namespace LineCalc.Text

/-- The value of a digit to base 64. -/
def base64Digit? (c : Char) : Option Nat :=
  if c.isUpper then some (c.toNat - 'A'.toNat)
  else if c.isLower then some (c.toNat - 'a'.toNat + 26)
  else if c.isDigit then some (c.toNat - '0'.toNat + 52)
  else if c = '+' then some 62
  else if c = '/' then some 63
  else none

/-- The byte that two digits one after the other complete, if the second one is the digit
number `place` of its group of four. -/
def base64Byte (place before digit : Nat) : UInt8 :=
  UInt8.ofNat (before * Nat.pow 4 place + digit / Nat.pow 4 (3 - place))

/-- The bytes behind `place` digits of a group, of which `before` is the last one, and
behind `signs` signs of equality. -/
def bytesFrom (place before signs : Nat) : Text → Option (List UInt8)
  | [] => if place = 0 then some [] else none
  | '=' :: rest =>
    if place < 2 then bytesFrom place before signs rest
    else if 4 ≤ place + signs + 1 then some []
    else bytesFrom place before (signs + 1) rest
  | c :: rest =>
    match base64Digit? c with
    | none => bytesFrom place before signs rest
    | some digit =>
      let more := bytesFrom ((place + 1) % 4) digit 0 rest
      if place = 0 then more else more.map (base64Byte place before digit :: ·)

/-- The bytes that a text writes, or `none` if its last group of digits is not complete. -/
def bytesOfBase64? (s : Text) : Option (List UInt8) :=
  bytesFrom 0 0 0 s

end LineCalc.Text
