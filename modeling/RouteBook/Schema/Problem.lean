import RouteBook.ApiError
import RouteBook.Fault

/-!
# Problems of a schema

Why a client cannot be built from a schema and an API version.
-/

namespace RouteBook

/-- A schema and an API version that do not fit, or a version that is not there. -/
inductive SchemaProblem where
  /-- A route refers to a rule that the definitions do not have. -/
  | unknownRule (name path : String)
  /-- The version has no section for a route. -/
  | unknownSection (version path block : String)
  /-- The section has no implementation for a route. -/
  | unknownFunction (version path block : String)
  /-- An API class has no version. -/
  | noVersion (className : String)
  /-- No API class has this version. -/
  | unknownVersion (version : String)
  deriving DecidableEq, Repr

namespace SchemaProblem

/-- The words for a problem. -/
def message : SchemaProblem → String
  | unknownRule name path =>
    s!"Invalid variable parameter name substitution; param '{name}' not found in defines block (route '{path}')"
  | unknownSection version path block =>
    s!"Unsupported route section, not implemented in version {version} for route '{path}' and block: {block}"
  | unknownFunction version path block =>
    s!"Unsupported route, not implemented in version {version} for route '{path}' and block: {block}"
  | noVersion className => s!"API version class {className} does not declare a version"
  | unknownVersion version => s!"Unsupported API version '{version}'"

/-- The path of the route where a problem shows. -/
def route? : SchemaProblem → Option String
  | unknownRule _ path | unknownSection _ path _ | unknownFunction _ path _ => some path
  | noVersion _ | unknownVersion _ => none

/-- The error that reports a problem. -/
def toError (p : SchemaProblem) : ApiError :=
  .schema p.message p.route?

end SchemaProblem

/-- Why a client cannot be built. -/
inductive SchemaError where
  | problem (p : SchemaProblem)
  | fault (f : Fault)
  deriving DecidableEq, Repr

instance : MonadLift (Except Fault) (Except SchemaError) where
  monadLift
    | .ok a => .ok a
    | .error f => .error (.fault f)

end RouteBook
