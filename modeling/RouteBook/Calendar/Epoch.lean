import RouteBook.Calendar.Moment
import RouteBook.Decimal.Binary64

/-!
# Epoch time

The moment a number of seconds after the start of 1970 in UTC. The fraction is scaled to
microseconds in double precision and then rounded half to even.
-/

namespace RouteBook.Calendar

open RouteBook (Binary64)

-- Powers are those of the core library, whatever else is imported beside this module.
attribute [local instance (high)] instPowNat

/-- Why a number of seconds names no moment. -/
inductive EpochError where
  | notANumber
  | beyondClock
  | beyondCalendar
  | beyondYears
  deriving DecidableEq, Repr

/-- The day number of 1 January 1970. -/
def epochOrdinal : Nat := 719163

/-- The first second whose year no longer fits the machine's calendar. -/
def calendarEnd : Int := 67768036191676800

/-- The first second whose year fits the machine's calendar. -/
def calendarStart : Int := -67768040609740800

/-- The moment in UTC some whole seconds and microseconds after the epoch. -/
def ofEpochSeconds (seconds : Int) (micro : Nat) : Except EpochError Moment :=
  if seconds < calendarStart || calendarEnd ≤ seconds then .error .beyondCalendar
  else
    let day := seconds.fdiv 86400 + epochOrdinal
    let rest := (seconds.fmod 86400).toNat
    if day < 1 || (daysBeforeYear 10000 : Int) < day then .error .beyondYears
    else
      .ok { date := ofOrdinal day.toNat, hour := rest / 3600, minute := rest / 60 % 60,
            second := rest % 60, micro, offset := some 0 }

/-- The moment a number of seconds after the epoch. -/
def ofEpoch (x : Binary64) : Except EpochError Moment :=
  match x.view with
  | .nan => .error .notANumber
  | .infinite _ => .error .beyondClock
  | .finite .. =>
    match x.toQuotient? with
    | none => .error .notANumber
    | some (negative, num, den) =>
      let whole := Binary64.signed negative (num / den)
      let scaled := Binary64.ofQuotient false (num % den * 1000000) den
      let micros :=
        match scaled.toQuotient? with
        | some (_, n, d) => Binary64.roundHalfEven n d
        | none => 0
      let (seconds, micro) : Int × Nat :=
        if negative then
          if micros = 0 then (whole, 0)
          else (whole - 1, 1000000 - micros)
        else if 1000000 ≤ micros then (whole + 1, micros - 1000000)
        else (whole, micros)
      if seconds < -(2 ^ (63 : Nat)) || (2 : Int) ^ (63 : Nat) ≤ seconds then .error .beyondClock
      else ofEpochSeconds seconds micro

end RouteBook.Calendar
