/-!
# Dates

The Gregorian calendar of the years 1 to 9999, days counted from 1 January of year 1 as
day 1, and the ISO week calendar.
-/

namespace RouteBook.Calendar

/-- Whether a year has a 29 February. -/
def isLeap (year : Nat) : Bool :=
  year % 4 == 0 && (year % 100 != 0 || year % 400 == 0)

/-- The days of a month. -/
def daysInMonth (year month : Nat) : Nat :=
  match month with
  | 2 => if isLeap year then 29 else 28
  | 4 | 6 | 9 | 11 => 30
  | _ => 31

/-- The days of a common year before the first of a month. -/
def commonDaysBefore : Nat → Nat
  | 2 => 31
  | 3 => 59
  | 4 => 90
  | 5 => 120
  | 6 => 151
  | 7 => 181
  | 8 => 212
  | 9 => 243
  | 10 => 273
  | 11 => 304
  | 12 => 334
  | _ => 0

/-- The days of a year before the first of a month. -/
def daysBeforeMonth (year month : Nat) : Nat :=
  commonDaysBefore month + (if 2 < month && isLeap year then 1 else 0)

/-- The days before 1 January of a year from 1 on. -/
def daysBeforeYear (year : Nat) : Nat :=
  let y := year - 1
  y * 365 + y / 4 - y / 100 + y / 400

/-- A day of the calendar. -/
structure Date where
  year : Nat
  month : Nat
  day : Nat
  deriving DecidableEq, Repr, Inhabited

namespace Date

/-- Whether the day exists, in the years 1 to 9999. -/
def isValid (d : Date) : Bool :=
  1 ≤ d.year && d.year ≤ 9999 && 1 ≤ d.month && d.month ≤ 12 && 1 ≤ d.day &&
    d.day ≤ daysInMonth d.year d.month

end Date

/-- The month and day of a day of the year, counted from 0. -/
def monthDay (year : Nat) : (months : Nat) → (dayOfYear : Nat) → Nat × Nat
  | 0, n => (1, n + 1)
  | months + 1, n =>
    let before := daysBeforeMonth year (months + 1)
    if before ≤ n then (months + 1, n - before + 1) else monthDay year months n

/-- The day with a number, 1 January of year 1 being 1. -/
def ofOrdinal (ordinal : Nat) : Date :=
  let n := ordinal - 1
  let n400 := n / 146097
  let n := n % 146097
  let n100 := min (n / 36524) 3
  let n := n - n100 * 36524
  let n4 := n / 1461
  let n := n % 1461
  let n1 := min (n / 365) 3
  let n := n - n1 * 365
  let year := n400 * 400 + n100 * 100 + n4 * 4 + n1 + 1
  let (month, day) := monthDay year 12 n
  ⟨year, month, day⟩

/-- The day of the week of the day with a number, Monday being 0. -/
def weekday (ordinal : Nat) : Nat :=
  (ordinal + 6) % 7

/-- The number of the Monday of the first ISO week of a year, as an integer because it may
lie before day 1. -/
def firstMonday (year : Nat) : Int :=
  let first := (daysBeforeYear year + 1 : Int)
  let w := weekday (daysBeforeYear year + 1)
  if w ≤ 3 then first - w else first + 7 - w

/-- Whether an ISO year has a week 53: it starts on a Thursday, or on a Wednesday in a leap
year. -/
def hasWeek53 (year : Nat) : Bool :=
  let w := weekday (daysBeforeYear year + 1)
  w == 3 || (w == 2 && isLeap year)

/-- The day that an ISO year, week and weekday name, if they name one from year 1 on. -/
def ofIsoWeek? (year week day : Nat) : Option Date :=
  if 1 ≤ year && year ≤ 9999 && 1 ≤ week && (week ≤ 52 || (week == 53 && hasWeek53 year)) &&
      1 ≤ day && day ≤ 7 then
    let ordinal := firstMonday year + ((week - 1) * 7 + (day - 1) : Nat)
    if 1 ≤ ordinal then some (ofOrdinal ordinal.toNat) else none
  else none

end RouteBook.Calendar
