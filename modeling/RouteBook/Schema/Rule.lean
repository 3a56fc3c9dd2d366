import RouteBook.Text.Case
import RouteBook.Value.Text

/-!
# Rules

What a schema says about one parameter.
-/

namespace RouteBook

/-- What a parameter is converted to. -/
inductive ParamKind where
  | number
  | float
  | json
  | date
  /-- Any other name: the value stays as it is. -/
  | other (name : String)
  deriving DecidableEq, Repr

namespace ParamKind

/-- The kind with the given name. -/
def ofName (name : String) : ParamKind :=
  if name == "number" then number
  else if name == "float" then float
  else if name == "json" then json
  else if name == "date" then date
  else other name

/-- The name of a kind. -/
def name : ParamKind → String
  | number => "number"
  | float => "float"
  | json => "json"
  | date => "date"
  | other n => n

theorem ofName_name_of_builtin (kind : ParamKind) (h : ∀ n, kind ≠ other n) :
    ofName kind.name = kind := by
  cases kind with
  | other n => exact absurd rfl (h n)
  | _ => rfl

end ParamKind

/-- What is asked of one parameter. -/
structure Rule where
  required : Bool := false
  allowEmpty : Bool := false
  kind : Option ParamKind := none
  /-- The pattern that the text of the value must contain. Whether it is a text, and a
  pattern, shows when it is used. -/
  validation : Option Value := none
  /-- Whether the value is a list of terms with a plus sign between them. -/
  combined : Bool := false
  description : Value := .null

namespace Rule

/-- The kind that a schema names, in any case. -/
def kindOf : Value → Option ParamKind
  | .text s => if s == "" then none else some (.ofName (Text.lower s))
  | _ => none

/-- The rule that a block of a schema writes. A block that counts as false asks nothing. -/
def ofSchema (block : Value) : Except Fault Rule :=
  if block.truthy then do
    let es ← block.entries
    pure {
      required := (es.value "required").truthy
      allowEmpty := (es.value "allow-empty").truthy
      kind := kindOf (es.value "type")
      validation := (es.value "validation").whenTrue?
      combined := (es.value "combined").truthy
      description := es.value "description" }
  else .ok {}

end Rule

end RouteBook
