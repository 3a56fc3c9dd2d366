import RouteBook.Calendar.Date

/-!
# Moments

A date with a time of day and perhaps an offset from UTC, and its ISO 8601 text.
-/

namespace RouteBook.Calendar

/-- A point in time. Offsets count microseconds east of UTC; a moment without one is
local to nowhere. -/
structure Moment where
  date : Date
  hour : Nat := 0
  minute : Nat := 0
  second : Nat := 0
  micro : Nat := 0
  offset : Option Int := none
  deriving DecidableEq, Repr, Inhabited

/-- The microseconds of a day. -/
def microsPerDay : Nat := 86400000000

namespace Moment

/-- Whether every part is in range; an offset is less than a day. -/
def isValid (t : Moment) : Bool :=
  t.date.isValid && t.hour < 24 && t.minute < 60 && t.second < 60 && t.micro < 1000000 &&
    (match t.offset with
      | none => true
      | some o => o.natAbs < microsPerDay)

/-- The last `width` decimal digits of a number. -/
def padded : Nat → Nat → List Char
  | 0, _ => []
  | width + 1, n => padded width (n / 10) ++ [Char.ofNat (48 + n % 10)]

/-- Microseconds after a point, unless there are none. -/
def fractionText (micro : Nat) : List Char :=
  if micro = 0 then [] else '.' :: padded 6 micro

/-- The text of an offset: a sign, hours and minutes, and seconds and their fraction when
there are any. -/
def offsetText (offset : Int) : List Char :=
  let n := offset.natAbs
  let micro := n % 1000000
  let seconds := n / 1000000
  let body := padded 2 (seconds / 3600) ++ ':' :: padded 2 (seconds / 60 % 60)
  let tail :=
    if seconds % 60 = 0 && micro = 0 then []
    else ':' :: padded 2 (seconds % 60) ++ fractionText micro
  (if offset < 0 then '-' else '+') :: body ++ tail

/-- Year, month and day joined by hyphens. -/
def dateText (d : Date) : List Char :=
  padded 4 d.year ++ '-' :: padded 2 d.month ++ '-' :: padded 2 d.day

/-- The ISO text with a separator between date and time. -/
def textWith (separator : Char) (t : Moment) : List Char :=
  dateText t.date ++ separator :: padded 2 t.hour ++ ':' :: padded 2 t.minute ++ ':' ::
    padded 2 t.second ++ fractionText t.micro ++
    (match t.offset with
      | none => []
      | some o => offsetText o)

/-- The ISO text, with the letter T before the time. -/
def isoText (t : Moment) : String :=
  String.ofList (t.textWith 'T')

/-- The ISO text for readers, with a space before the time. -/
def spacedText (t : Moment) : String :=
  String.ofList (t.textWith ' ')

end Moment

end RouteBook.Calendar
