/-!
# Dates and times

A moment is a date, perhaps with a time of day, and a time of day may have a distance from
universal time.

* `Moment.same` says when two moments are one: with distances from universal time they
  are when they are the same instant, and otherwise when they are equal part by part.
* `Moment.shown` describes a moment.
-/

namespace LineCalc

/-- A time of day. -/
structure Clock where
  hour : Nat
  minute : Nat
  second : Nat
  microsecond : Nat
  /-- The distance from universal time in minutes, if it is given. -/
  offset : Option Int
  deriving DecidableEq, Repr

/-- A date, perhaps with a time of day. -/
structure Moment where
  year : Nat
  month : Nat
  day : Nat
  clock : Option Clock
  deriving DecidableEq, Repr

namespace Moment

def daysOfMonth (year month : Nat) : Nat :=
  if month = 2 then
    if year % 4 = 0 ∧ (year % 100 ≠ 0 ∨ year % 400 = 0) then 29 else 28
  else if month ∈ [4, 6, 9, 11] then 30
  else 31

/-! ## Instants -/

/-- The number of days from the beginning of the year 1 to the end of a date. -/
def dayNumber (m : Moment) : Nat :=
  let years := m.year - 1
  let months := (List.range' 1 (m.month - 1)).map (daysOfMonth m.year)
  365 * years + years / 4 - years / 100 + years / 400 + months.foldl (· + ·) 0 + m.day

/-- The number of microseconds from the beginning of the year 1, in universal time, to a
time of day with the given distance. -/
def instant (m : Moment) (c : Clock) (offset : Int) : Int :=
  let minutes : Int := (24 * m.dayNumber + c.hour) * 60 + c.minute - offset
  (minutes * 60 + c.second) * 1000000 + c.microsecond

/-- Whether two moments are one. -/
def same (a b : Moment) : Bool :=
  match a.clock, b.clock with
  | some c, some d =>
    match c.offset, d.offset with
    | some x, some y => a.instant c x == b.instant d y
    | _, _ => a == b
  | _, _ => a == b

theorem same_self (m : Moment) : m.same m = true := by
  simp only [same]
  split
  · split <;> simp_all
  · simp

/-! ## Descriptions -/

/-- The name of a kind of value before what it is made of. -/
def call (name : String) (parts : List String) : String :=
  name ++ "(" ++ ", ".intercalate parts ++ ")"

/-- A distance in minutes as it is shown: whole days, and seconds. -/
def shownDistance (minutes : Int) : String :=
  let days := minutes / 1440
  let seconds := minutes % 1440 * 60
  call "datetime.timedelta"
    ((if days = 0 then [] else [s!"days={days}"]) ++
      (if seconds = 0 then [] else [s!"seconds={seconds}"]))

/-- The name of the kind of value that a date is, with or without a time of day. -/
def kind (m : Moment) : String :=
  if m.clock.isNone then "datetime.date" else "datetime.datetime"

/-- A date or time as it is shown. -/
def shown (m : Moment) : String :=
  let date := [m.year, m.month, m.day]
  match m.clock with
  | none => call m.kind (date.map toString)
  | some c =>
    let seconds := if c.second = 0 ∧ c.microsecond = 0 then [] else [c.second]
    let microseconds := if c.microsecond = 0 then [] else [c.microsecond]
    let zone := match c.offset with
      | none => []
      | some 0 => ["tzinfo=datetime.timezone.utc"]
      | some minutes => ["tzinfo=" ++ call "datetime.timezone" [shownDistance minutes]]
    let numbers := date ++ [c.hour, c.minute] ++ seconds ++ microseconds
    call m.kind (numbers.map toString ++ zone)

end Moment

end LineCalc
