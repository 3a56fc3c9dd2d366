import RouteBook.Json.ReadFault
import RouteBook.Text.Encoding

/-!
# Faults

What goes wrong when data has a kind or a shape that an operation cannot use. Faults are
apart from the errors that a call reports about its parameters or its response.
-/

namespace RouteBook

/-- A use of data that is not possible. -/
inductive Fault where
  /-- A value of another kind has no member of this name. -/
  | noMember (text : String)
  /-- A value of this kind cannot be used here. -/
  | wrongType
  /-- A value of the right kind is out of its domain. -/
  | badValue
  /-- An integer has too many digits to be read from text or written as text. -/
  | tooManyDigits (digits : Nat)
  /-- A number is out of the range of the target. -/
  | overflow
  /-- A key is not present. -/
  | unknownKey
  /-- A pattern is malformed. -/
  | badPattern
  /-- An address cannot be read. -/
  | badUrl
  /-- A text is not JSON. -/
  | badJson (f : Json.ReadFault)
  /-- Octets are no text. -/
  | undecodable (f : Text.Decoding.Fault)
  /-- A text has characters that its place cannot hold. -/
  | unencodable
  /-- A call ended and nothing was delivered. -/
  | noOutcome
  /-- A response body was used in a way its state does not allow. -/
  | stream (text : String)
  /-- A value contains itself where it has to be finite. -/
  | endless
  /-- The operating system refused. -/
  | system
  deriving DecidableEq, Repr

namespace Fault

/-- Whether the fault says that a value is out of its domain. -/
def isValueFault : Fault → Bool
  | badValue | tooManyDigits _ | badJson _ | undecodable _ | unencodable => true
  | _ => false

/-- Whether the fault says that a value cannot be written: its kind has no written form, or
this value of it has none. -/
def isUnwritable (f : Fault) : Bool :=
  f == wrongType || f.isValueFault

/-- The words of the faults that have some. -/
def message : Fault → String
  | noMember text => text
  | tooManyDigits n =>
    s!"Exceeds the limit (4300 digits) for integer string conversion: value has {n} digits; use sys.set_int_max_str_digits() to increase the limit"
  | badJson f => f.message
  | undecodable f => f.message
  | noOutcome => "Call finished without delivering an outcome"
  | stream text => text
  | _ => ""

end Fault

end RouteBook
