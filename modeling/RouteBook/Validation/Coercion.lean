import RouteBook.Calendar.Epoch
import RouteBook.Calendar.IsoReader
import RouteBook.Json.Reader
import RouteBook.Schema.Rule
import RouteBook.Validation.Rejection
import RouteBook.Value.Number

/-!
# Coercion

The conversion of a parameter to the kind that its rule names. Numbers are read from the
longest beginning of a text that writes one.
-/

namespace RouteBook.Coercion

open RouteBook.Text

/-! ## Leading numbers -/

/-- A sign, if there is one, and what follows. -/
def leadingSign : List Char → List Char × List Char
  | '+' :: rest => (['+'], rest)
  | '-' :: rest => (['-'], rest)
  | cs => ([], cs)

/-- The longest beginning that is a sign and digits. -/
def leadingInt? (cs : List Char) : Option (List Char) :=
  let (sign, rest) := leadingSign cs
  let digits := rest.takeWhile isDigit
  if digits.isEmpty then none else some (sign ++ digits)

/-- Digits, a point and more digits, of which one side may be empty. -/
def leadingDecimal? (cs : List Char) : Option (List Char × List Char) :=
  let whole := cs.takeWhile isDigit
  let rest := cs.dropWhile isDigit
  match rest with
  | '.' :: tail =>
    let part := tail.takeWhile isDigit
    if whole.isEmpty && part.isEmpty then none
    else some (whole ++ '.' :: part, tail.dropWhile isDigit)
  | _ => if whole.isEmpty then none else some (whole, rest)

/-- An exponent at the beginning; nothing if its letter has no digits after it. -/
def leadingExponent (cs : List Char) : List Char :=
  match cs with
  | c :: rest =>
    if c == 'e' || c == 'E' then
      match leadingInt? rest with
      | some digits => c :: digits
      | none => []
    else []
  | [] => []

/-- What infinity is called at the beginning of a text. -/
def infinityName : List Char := "Infinity".toList

/-- The longest beginning that writes a number, with a short name for infinity. -/
def leadingFloat? (cs : List Char) : Option (List Char) :=
  let (sign, rest) := leadingSign cs
  if infinityName.isPrefixOf rest then some (sign ++ "inf".toList)
  else (leadingDecimal? rest).map fun (digits, tail) => sign ++ digits ++ leadingExponent tail

/-! ## Kinds -/

/-- A text as an integer, by its leading digits. -/
def readLeadingInt (cs : List Char) : Except Fault (Option Int) :=
  match leadingInt? cs with
  | none => .ok none
  | some beginning =>
    match Decimal.readInt? beginning with
    | some n => .ok (some n)
    | none => .error .badValue

/-- A text as a number, by its longest numeric beginning. -/
def readLeadingFloat (cs : List Char) : Except Fault (Option Binary64) :=
  match leadingFloat? cs with
  | none => .ok none
  | some beginning =>
    match Decimal.readFloat? beginning with
    | some x => .ok (some x)
    | none => .error .badValue

/-- The integer that a value stands for. Integers beyond the range of the floating-point
numbers are refused. -/
def toNumber? : Value → Except Fault (Option Int)
  | .bool _ => .ok none
  | .int n => if (Binary64.ofInt? n).isSome then .ok (some n) else .error .overflow
  | .float x => .ok x.truncate?
  | v => do readLeadingInt (← v.wireText).toList

/-- The floating-point number that a value stands for. -/
def toFloat? : Value → Except Fault (Option Binary64)
  | .bool _ => .ok none
  | .int n => some <$> (Value.int n).toFloat
  | .float x => .ok (some x)
  | v => do readLeadingFloat (← v.wireText).toList

/-- The fault of a time out of range. -/
def epochFault : Calendar.EpochError → Fault
  | .notANumber | .beyondYears => .badValue
  | .beyondClock => .overflow
  | .beyondCalendar => .system

/-- The moment a number of milliseconds after the epoch. -/
def ofMilliseconds (seconds : Binary64) : Except Fault Value :=
  match Calendar.ofEpoch seconds with
  | .ok t => .ok (.moment t)
  | .error e => .error (epochFault e)

/-- A rejection that shows a value. -/
def reject {α : Type} (make : String → String → Rejection) (name : String) (v : Value) :
    Except CheckError α := do
  let shown ← v.shown
  throw (.rejected (make name shown))

/-- A value as a moment: moments as they are, numbers as milliseconds, texts in ISO form. -/
def toDate (name : String) : Value → Except CheckError Value
  | .moment t => .ok (.moment t)
  | .int n =>
    match Binary64.ofIntQuotient? n 1000 with
    | some x => liftM (ofMilliseconds x)
    | none => .error (.fault .overflow)
  | .float x => liftM (ofMilliseconds (x.divNat 1000))
  | v =>
    match v.wireText with
    | .error f => if f.isValueFault then reject .notDate name v else .error (.fault f)
    | .ok s =>
      match Calendar.readMoment? s.toList with
      | some t => .ok (.moment t)
      | none => reject .notDate name v

/-- The document that was read from a text. A text that writes none is rejected. -/
def document (name text : String) : Except Fault Value → Except CheckError Value
  | .ok v => .ok v
  | .error f =>
    if f.isValueFault then .error (.rejected (.notJson name text)) else .error (.fault f)

/-- A text as the document that it writes; any other value as it is. -/
def toDocument (name : String) : Value → Except CheckError Value
  | .text s => document name s (Json.read s)
  | .ragged r => document name r.face (Json.readRagged r)
  | v => .ok v

/-- Converts the value of a parameter. A rejection shows the value that was given. -/
def coerce (name : String) (v : Value) (kind : ParamKind) (given : Value) :
    Except CheckError Value :=
  match kind with
  | .number => do
    match ← toNumber? v with
    | some n => pure (.int n)
    | none => reject .notNumeric name given
  | .float => do
    match ← toFloat? v with
    | some x => pure (.float x)
    | none => reject .notNumeric name given
  | .json => toDocument name v
  | .date => toDate name v
  | .other _ => .ok v

end RouteBook.Coercion
