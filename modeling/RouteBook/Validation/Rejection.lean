import RouteBook.ApiError
import RouteBook.Fault

/-!
# Rejections

Why a parameter of a message is refused.
-/

namespace RouteBook

/-- Why a parameter is refused. `shown` is the text of its value. -/
inductive Rejection where
  | empty (param shown : String)
  /-- The pattern of the rule is not found in the value. -/
  | invalid (param shown : String)
  | notNumeric (param shown : String)
  | notJson (param shown : String)
  | notDate (param shown : String)
  /-- A route that sends a file got no file path. -/
  | missingFile
  deriving DecidableEq, Repr

namespace Rejection

/-- The parameter that is refused. -/
def param : Rejection → String
  | empty p _ | invalid p _ | notNumeric p _ | notJson p _ | notDate p _ => p
  | missingFile => "filePath"

/-- The words for a rejection. -/
def message : Rejection → String
  | empty p v => s!"Empty value for parameter '{p}': {v}"
  | invalid p v => s!"Invalid value for parameter '{p}': {v}"
  | notNumeric p v => s!"Invalid value for parameter '{p}': {v} is NaN"
  | notJson p v => s!"JSON parse error of value for parameter '{p}': {v}"
  | notDate p v => s!"Invalid date for parameter '{p}': {v}"
  | missingFile => "Missing 'filePath' for file upload"

/-- The error that reports a rejection. -/
def toError (r : Rejection) : ApiError :=
  .badRequest r.message r.param

end Rejection

/-- Why a check of parameters stops: one of them is refused, or cannot be handled. -/
inductive CheckError where
  | rejected (r : Rejection)
  | fault (f : Fault)
  deriving DecidableEq, Repr

instance : MonadLift (Except Fault) (Except CheckError) where
  monadLift
    | .ok a => .ok a
    | .error f => .error (.fault f)

end RouteBook
