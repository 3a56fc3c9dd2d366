import RouteBook.Pattern.Match
import RouteBook.Pattern.Parser
import RouteBook.Validation.Coercion

/-!
# Checking a message

Each rule looks at one parameter: a value that counts as not supplied is left alone or
refused, any other value has to contain the pattern and is converted. Converted values are
written into the message at once, so a failure leaves those before it.
-/

namespace RouteBook.Validation

/-- Whether the pattern that a value writes is found in a text. -/
def matchesPattern (pattern : Value) (text : String) : Except Fault Bool :=
  match pattern with
  | .text source => (Pattern.parse source.toList).map fun node => node.foundIn text.toList
  | _ => .error .wrongType

/-- Whether a value is the empty text. -/
def isEmptyText : Value → Bool
  | .text s => s == ""
  | _ => false

/-- Refuses a value in which the pattern of its rule is not found. -/
def checkPattern (name : String) (rule : Rule) (v : Value) : Except CheckError Unit :=
  match rule.validation with
  | none => .ok ()
  | some pattern => do
    let text ← v.wireText
    if ← matchesPattern pattern text then pure () else Coercion.reject .invalid name v

/-- Converts a value to the kind of its rule, if it has one. -/
def convert (name : String) (rule : Rule) (v given : Value) : Except CheckError Value :=
  match rule.kind with
  | some kind => Coercion.coerce name v kind given
  | none => .ok v

/-- The value to write for a parameter; none if it is left alone. -/
def checkParam (name : String) (rule : Rule) (given : Value) :
    Except CheckError (Option Value) :=
  let v := given.trimmed
  if v.isBlank then
    if !rule.required || (rule.allowEmpty && isEmptyText v) then .ok none
    else Coercion.reject .empty name v
  else do
    checkPattern name rule v
    let result ← convert name rule v given
    pure (some result)

/-- Checks a message against rules. What is left is the message with the values written so
far and, if a parameter failed, why. -/
def check : Entries Rule → Message → Message × Except CheckError Unit
  | [], message => (message, .ok ())
  | (name, rule) :: rest, message =>
    match checkParam name rule (message.value name) with
    | .ok none => check rest message
    | .ok (some v) => check rest (message.put name v)
    | .error e => (message, .error e)

/-- Checks a value that should be a message. A value that is no map passes when there are no
rules. -/
def checkValue (rules : Entries Rule) (message : Value) : Value × Except CheckError Unit :=
  if rules.isEmpty then (message, .ok ())
  else
    match message with
    | .map entries =>
      let (after, result) := check rules entries
      (.map after, result)
    | .raggedMap entries =>
      let (after, result) := check rules entries
      (.raggedMap after, result)
    | .loop =>
      let (after, result) := check rules [("self", .loop)]
      (match after with
        | [("self", .loop)] => .loop
        | entries => .map entries, result)
    | _ => (message, .error (.fault Value.notMap))

end RouteBook.Validation
