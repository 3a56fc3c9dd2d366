import RouteBook.Calendar.Moment
import RouteBook.Text.Class

/-!
# Reading ISO 8601 text

Basic and extended dates, week dates, any one character between date and time, times with
or without colons, a fraction cut to microseconds, and an offset.
-/

namespace RouteBook.Calendar

open RouteBook.Text

-- Powers and sums are those of the core library, whatever else is imported beside this module.
attribute [local instance (high)] instPowNat Zero.ofOfNat0

/-- The end of the text, as the character that stands there. -/
def endMark : Char := Char.ofNat 0

/-- Reads `count` ASCII digits on top of a number. -/
def readDigits : (count : Nat) → (n : Nat) → List Char → Option (Nat × List Char)
  | 0, n, cs => some (n, cs)
  | count + 1, n, c :: rest =>
    if isAsciiDigit c then readDigits count (10 * n + (c.toNat - 48)) rest else none
  | _ + 1, _, [] => none

/-- Where the date ends and the separator stands. Week dates with a seventh character that
could belong to either part are told apart by the character after it, and undashed ones by
the parity of the run of digits. -/
def separatorIndex? (cs : List Char) : Option Nat :=
  let len := cs.length
  let charAt (i : Nat) : Char := cs.getD i endMark
  if len = 7 then some 7
  else if charAt 4 == '-' then
    if charAt 5 == 'W' then
      if 8 < len && charAt 8 == '-' then
        if len = 9 then none
        else if 10 < len && isAsciiDigit (charAt 10) then some 8
        else some 10
      else some 8
    else some 10
  else if charAt 4 == 'W' then
    let stop := 7 + ((cs.drop 7).takeWhile isAsciiDigit).length
    if stop < 9 then some stop
    else if stop % 2 = 0 then some 7
    else some 8
  else some 8

/-- Reads a dash if the date uses dashes. -/
def readDash (dashed : Bool) : List Char → Option (List Char)
  | '-' :: rest => if dashed then some rest else some ('-' :: rest)
  | cs => if dashed then none else some cs

/-- Reads a date whose text is `len` characters long. -/
def readDate? (cs : List Char) (len : Nat) : Option Date := do
  let (year, rest) ← readDigits 4 0 cs
  let dashed := rest.head? == some '-'
  let rest := if dashed then rest.drop 1 else rest
  match rest with
  | 'W' :: rest =>
    let (week, rest) ← readDigits 2 0 rest
    if (if dashed then 8 else 7) < len then
      let rest ← readDash dashed rest
      let (day, _) ← readDigits 1 0 rest
      ofIsoWeek? year week day
    else ofIsoWeek? year week 1
  | rest =>
    let (month, rest) ← readDigits 2 0 rest
    let rest ← readDash dashed rest
    let (day, _) ← readDigits 2 0 rest
    pure ⟨year, month, day⟩

/-- Hours, minutes, seconds and microseconds, and whether unread text follows them. -/
structure Clock where
  hour : Nat := 0
  minute : Nat := 0
  second : Nat := 0
  micro : Nat := 0
  followed : Bool := false

/-- Sets the part with a number: hours, minutes or seconds. -/
def Clock.withPart (t : Clock) (part n : Nat) : Clock :=
  match part with
  | 0 => { t with hour := n }
  | 1 => { t with minute := n }
  | _ => { t with second := n }

/-- Reads the fraction of a second, cut to six digits. `stop` is the character after the
text. -/
def readFraction? (t : Clock) (cs : List Char) (stop : Char) : Option Clock := do
  let count := min cs.length 6
  let (n, rest) ← readDigits count 0 cs
  let micro := n * 10 ^ (6 - count)
  let next := (rest.dropWhile isAsciiDigit).headD stop
  pure { t with micro := micro, followed := next != endMark }

/-- Reads the parts of a time from part `3 - left` on. -/
def readParts? (t : Clock) (colons : Bool) (stop : Char) : (left : Nat) → List Char → Option Clock
  | 0, cs => readFraction? t cs stop
  | left + 1, cs => do
    let (n, rest) ← readDigits 2 0 cs
    let t := t.withPart (2 - left) n
    let c := rest.headD stop
    let colons := if left = 2 then c == ':' else colons
    match rest with
    | [] => pure { t with followed := stop != endMark }
    | [c] => pure { t with followed := c != endMark }
    | c :: tail =>
      if colons && c == ':' then readParts? t colons stop left tail
      else if c == '.' || c == ',' then readFraction? t tail stop
      else if !colons then readParts? t colons stop left rest
      else none

/-- Whether a character starts an offset. -/
def startsOffset (c : Char) : Bool :=
  c == '+' || c == '-' || c == 'Z'

/-- Reads a time of day with an optional offset. -/
def readTime? (cs : List Char) : Option (Clock × Option Int) := do
  let clockText := cs.takeWhile fun c => !startsOffset c
  match cs.dropWhile fun c => !startsOffset c with
  | [] =>
    let t ← readParts? {} true endMark 3 clockText
    if t.followed then none else pure (t, none)
  | sign :: rest =>
    let t ← readParts? {} true sign 3 clockText
    if sign == 'Z' then
      if rest.isEmpty then pure (t, some 0) else none
    else
      let o ← readParts? {} true endMark 3 rest
      if o.followed then none
      else
        let micros := ((o.hour * 3600 + o.minute * 60 + o.second) * 1000000 + o.micro : Nat)
        pure (t, some (if sign == '-' then -(micros : Int) else micros))

/-- The length of a text in octets of UTF-8. -/
def octetLength (cs : List Char) : Nat :=
  (cs.map fun c => c.utf8Size).sum

/-- The moment that an ISO text names. -/
def readMoment? (cs : List Char) : Option Moment := do
  if octetLength cs < 7 then none
  else
    let index ← separatorIndex? cs
    let date ← readDate? cs index
    let moment : Moment ← (
      if (cs.drop index).isEmpty then pure { date }
      else do
        let (t, offset) ← readTime? (cs.drop (index + 1))
        pure { date, hour := t.hour, minute := t.minute, second := t.second, micro := t.micro, offset })
    if moment.isValid then pure moment else none

end RouteBook.Calendar
