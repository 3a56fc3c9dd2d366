import RouteBook.Decimal.Reader
import RouteBook.Text.Case
import RouteBook.Text.Percent
import RouteBook.Value.Text

/-!
# Values as numbers

Conversions that schemas and settings ask for: truth values count as 0 and 1, numbers are
cut or rounded, texts are read.
-/

namespace RouteBook.Value

/-- Whether an octet may stand around or in a number: ASCII without the four separators, which
are blanks of texts only. -/
def isNumberOctet (b : UInt8) : Bool :=
  b < 128 && !(28 ≤ b && b < 32)

/-- Octets as the text of a number; octets that may not stand there write none. -/
def asciiOctets? (bytes : List UInt8) : Option (List Char) :=
  if bytes.all isNumberOctet then some (bytes.map fun b => Char.ofNat b.toNat) else none

/-- The value as an integer. -/
def toInt : Value → Except Fault Int
  | int n => .ok n
  | bool b => .ok (if b then 1 else 0)
  | float x =>
    match x.truncate? with
    | some n => .ok n
    | none => .error (if x.isNaN then .badValue else .overflow)
  | text s => ((Decimal.readInt? s.toList).map .ok).getD (.error .badValue)
  | ragged _ => .error .badValue
  | bytes b =>
    (((asciiOctets? b).bind Decimal.readInt?).map .ok).getD (.error .badValue)
  | _ => .error .wrongType

/-- The value as a floating-point number. -/
def toFloat : Value → Except Fault Binary64
  | int n => ((Binary64.ofInt? n).map .ok).getD (.error .overflow)
  | bool b => .ok ((Binary64.ofInt? (if b then 1 else 0)).getD Binary64.zero)
  | float x => .ok x
  | text s => ((Decimal.readFloat? s.toList).map .ok).getD (.error .badValue)
  | ragged _ => .error .badValue
  | bytes b =>
    (((asciiOctets? b).bind Decimal.readFloat?).map .ok).getD (.error .badValue)
  | _ => .error .wrongType

/-- The value if it is a text. -/
def text? : Value → Option String
  | text s => some s
  | _ => none

/-- The text that a value must be. Octets have the members of a text but do not mix with
texts; other values lack the members. A ragged text is refused at once, where no use of it in an address
could be sent. -/
def asText : Value → Except Fault String
  | text s => .ok s
  | ragged _ => .error .unencodable
  | bytes _ => .error .wrongType
  | _ => .error (.noMember "not a text")

/-- A value as percent-encoded text for one part of an address. -/
def encoded (v : Value) : Except Fault String :=
  v.encodableText.map fun s => String.ofList (Text.Percent.encodeComponent s.toList)

/-- Whether a setting is switched on: `1`, `true`, `yes` and `on` in any case, and any value
other than a text that counts as true. -/
def isOn : Value → Bool
  | text s => ["1", "true", "yes", "on"].contains (Text.lower (Text.trim s))
  | ragged _ => false
  | v => v.truthy

end RouteBook.Value
