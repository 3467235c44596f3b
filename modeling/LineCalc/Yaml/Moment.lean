import LineCalc.Moment
import LineCalc.Text.Blank
import LineCalc.Yaml.Fault

/-!
# Dates and times in documents

A date is written as a year, a month and a day with dashes between them.  A time may
follow, with a fraction of a second and with its distance from universal time.

`momentOfText?` reads what has the form of a date or a time, and `outOfRange?` finds the
first part of it that is out of range.
-/

namespace LineCalc.Yaml

/-! ## The form of a date or a time -/

/-- The number that at least `least` and at most `most` digits at the beginning of a
text write, and what stands behind them. -/
def digits? (least most : Nat) (s : Text) : Option (Nat × Text) :=
  let digits := (s.take most).takeWhile Char.isDigit
  if digits.length < least then none
  else some (Nat.ofDigitChars 10 digits 0, s.drop digits.length)

/-- The text behind a character. -/
def behind? (c : Char) : Text → Option Text
  | [] => none
  | d :: rest => if d = c then some rest else none

/-- The digits behind the point of a fraction, as millionths. -/
def microseconds (digits : Text) : Nat :=
  let leading := digits.take 6
  Nat.ofDigitChars 10 leading 0 * Nat.pow 10 (6 - leading.length)

/-- The distance from universal time, in minutes, that a text consists of. -/
def offset? : Text → Option Int
  | [] => none
  | ['Z'] => some 0
  | sign :: rest => do
    guard (sign = '+' ∨ sign = '-')
    let (hours, rest) ← digits? 1 2 rest
    let minutes ←
      if rest.isEmpty then some 0
      else do
        let (minutes, rest) ← digits? 2 2 (← behind? ':' rest)
        guard rest.isEmpty
        some minutes
    let distance : Int := 60 * hours + minutes
    some (if sign = '-' then -distance else distance)

/-- The time of day that a text consists of. -/
def clock? (s : Text) : Option Clock := do
  let (hour, s) ← digits? 1 2 s
  let (minute, s) ← digits? 2 2 (← behind? ':' s)
  let (second, s) ← digits? 2 2 (← behind? ':' s)
  let fraction := ((behind? '.' s).getD []).takeWhile Char.isDigit
  let s := match s with
    | '.' :: rest => rest.drop fraction.length
    | s => s
  let offset ← if s.isEmpty then some none else (offset? (s.dropWhile Text.isGap)).map some
  some ⟨hour, minute, second, microseconds fraction, offset⟩

/-- The time that stands behind a date. -/
def clockBehindDate? : Text → Option Clock
  | [] => none
  | c :: rest =>
    if c = 'T' ∨ c = 't' then clock? rest
    else if Text.isGap c then clock? (rest.dropWhile Text.isGap)
    else none

/-- The date or time that a text has the form of. -/
def momentOfText? (s : Text) : Option Moment := do
  let (year, rest) ← digits? 4 4 s
  let (month, rest) ← digits? 1 2 (← behind? '-' rest)
  let (day, rest) ← digits? 1 2 (← behind? '-' rest)
  if rest.isEmpty then some ⟨year, month, day, none⟩
  else (clockBehindDate? rest).map fun clock => ⟨year, month, day, some clock⟩

/-- Whether a text is written like a date or a time.  A date without a time has two digits
each for its month and its day. -/
def isMoment (s : Text) : Bool :=
  (momentOfText? s).any fun m => m.clock.isSome || s.length == 10

/-! ## What is out of range -/

/-- The first part of a time of day that is out of range. -/
def clockOutOfRange? (c : Clock) : Option MomentPart :=
  if 23 < c.hour then some .hour
  else if 59 < c.minute then some .minute
  else if 59 < c.second then some .second
  else none

/-- The first part, the distance from universal time apart, that is out of range. -/
def fieldOutOfRange? (m : Moment) : Option MomentPart :=
  if m.year = 0 then some .year
  else if m.month = 0 ∨ 12 < m.month then some .month
  else if m.day = 0 ∨ Moment.daysOfMonth m.year m.month < m.day then some .day
  else m.clock.bind clockOutOfRange?

/-- The first part that is out of range.  The distance from universal time must be less
than a day. -/
def outOfRange? (m : Moment) : Option MomentPart :=
  match m.clock.bind (·.offset) with
  | some minutes =>
    if minutes.natAbs < 1440 then fieldOutOfRange? m
    else some (.offset (Moment.shownDistance minutes))
  | none => fieldOutOfRange? m

end LineCalc.Yaml
