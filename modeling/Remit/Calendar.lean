import Remit.Text.Basic

/-!
# Calendar

Days of the Gregorian calendar, counted from the first day of year 1, and moments: a day, a time of day and, where it
is known, the distance of the local clock from universal time.
-/

namespace Remit

/-- A day, as year, month and day of the month. -/
structure Date where
  year : Nat
  month : Nat
  day : Nat
deriving DecidableEq

namespace Date

/-- Every fourth year is a leap year, except the full centuries that 400 does not divide. -/
def isLeap (year : Nat) : Bool := year % 4 == 0 && (year % 100 != 0 || year % 400 == 0)

/-- The number of days in a month. -/
def daysInMonth (year month : Nat) : Nat :=
  if month = 2 then (if isLeap year then 29 else 28)
  else if month = 4 || month = 6 || month = 9 || month = 11 then 30 else 31

/-- The number of days in a year. -/
def daysInYear (year : Nat) : Nat := if isLeap year then 366 else 365

/-- The number of days in the years 1 to `years`. -/
def daysOfYears (years : Nat) : Nat := 365 * years + years / 4 - years / 100 + years / 400

/-- The number of days of a year before a month. -/
def daysBeforeMonth (year : Nat) : (month : Nat) → Nat
  | 0 | 1 => 0
  | month + 2 => daysBeforeMonth year (month + 1) + daysInMonth year (month + 1)

/-- The number of days before a day; none before the first day of year 1. -/
def toDays (d : Date) : Nat := daysOfYears (d.year - 1) + daysBeforeMonth d.year d.month + (d.day - 1)

/-- The month from `month` on in which a day of the year falls, and its place in that month. -/
def findMonth (year : Nat) : (left month dayOfYear : Nat) → Nat × Nat
  | 0, month, day => (month, day)
  | left + 1, month, day =>
    let size := daysInMonth year month
    if day < size then (month, day) else findMonth year left (month + 1) (day - size)

/-- The year in which a day falls, given a year that is not later and at most `left` years too early. -/
def findYear : (left year days : Nat) → Nat
  | 0, year, _ => year
  | left + 1, year, days => if days < daysOfYears year then year else findYear left (year + 1) days

/-- The day with a given number of days before it. -/
def ofDays (days : Nat) : Date :=
  let year := findYear 3 (days * 400 / 146097) days
  let year := if year = 0 then 1 else year
  let (month, day) := findMonth year 11 1 (days - daysOfYears (year - 1))
  ⟨year, month, day + 1⟩

/-- The day in figures, with dashes. -/
def text (d : Date) : Text :=
  Text.decimalPadded 4 d.year ++ "-" ++ Text.decimalPadded 2 d.month ++ "-" ++ Text.decimalPadded 2 d.day

end Date

/-- A moment on a clock: a day, a time of day, and the seconds by which the clock is ahead of universal time. A clock
without that number is taken to show universal time. -/
structure Moment where
  date : Date
  hour : Nat
  minute : Nat
  second : Nat
  microsecond : Nat
  offset : Option Int
deriving DecidableEq

namespace Moment

/-- Whole seconds of universal time since the start of year 1. They are negative where the clock runs ahead of it. -/
def utcSeconds (m : Moment) : Int :=
  (m.date.toDays * 86400 + m.hour * 3600 + m.minute * 60 + m.second : Nat) - m.offset.getD 0

/-- The distance from universal time as hours, minutes and, if there are any, seconds. -/
def offsetText (offset : Int) : Text :=
  let n := offset.natAbs
  let sign : Text := if offset < 0 then "-" else "+"
  let seconds : Text := if n % 60 = 0 then [] else ":" ++ Text.decimalPadded 2 (n % 60)
  sign ++ Text.decimalPadded 2 (n / 3600) ++ ":" ++ Text.decimalPadded 2 (n / 60 % 60) ++ seconds

/-- The moment in figures. -/
def text (m : Moment) : Text :=
  let fraction : Text := if m.microsecond = 0 then [] else "." ++ Text.decimalPadded 6 m.microsecond
  let zone : Text := match m.offset with
    | none => []
    | some offset => offsetText offset
  m.date.text ++ " " ++ Text.decimalPadded 2 m.hour ++ ":" ++ Text.decimalPadded 2 m.minute ++ ":" ++
    Text.decimalPadded 2 m.second ++ fraction ++ zone

end Moment

end Remit
