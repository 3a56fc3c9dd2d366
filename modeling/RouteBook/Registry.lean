import RouteBook.Schema.Route

/-!
# The registry of API versions

Classes by version. Versions are compared as values, so a number is not the text of it, and
a version that counts as false is none.
-/

namespace RouteBook

namespace Value

/-- Whether the value has one identity for good, so that it can be a key. -/
def isKey : Value → Bool
  | list _ | map _ | raggedMap _ | set _ | loop => false
  | tuple items => items.attach.all fun ⟨v, _⟩ => v.isKey
  | _ => true

/-- The number that a value is, as an integer or as bits. -/
def number? : Value → Option (Int ⊕ UInt64)
  | int n => some (.inl n)
  | bool b => some (.inl (if b then 1 else 0))
  | float x =>
    match x.toInt? with
    | some n => some (.inl n)
    | none => if x.isNaN then none else some (.inr x.bits)
  | _ => none

mutual

/-- Whether two keys are equal. Numbers of different kinds are compared by their value. -/
def sameKey : Value → Value → Bool
  | text a, v => match v with
    | text b => a == b
    | _ => false
  | ragged a, v => match v with
    | ragged b => a == b
    | _ => false
  | bytes a, v => match v with
    | bytes b => a == b
    | _ => false
  | moment a, v => match v with
    | moment b => a == b
    | _ => false
  | tuple a, v => match v with
    | tuple b => sameKeys a b
    | _ => false
  | null, v => v.isNull
  | a, b => a.number?.isSome && a.number? == b.number?

/-- Whether two lists of keys are equal. -/
def sameKeys : List Value → List Value → Bool
  | [], bs => bs.isEmpty
  | a :: as, bs => match bs with
    | b :: rest => sameKey a b && sameKeys as rest
    | [] => false

end

end Value

/-- Classes by version, the one registered last first. -/
abbrev Registry (κ : Type) := List (Value × κ)

namespace Registry

variable {κ : Type}

/-- The version if it can be a key. -/
def key (version : Value) : Except SchemaError Value :=
  if version.isKey then .ok version else .error (.fault .wrongType)

/-- Registers a class under its version. -/
def register (r : Registry κ) (className : String) (version : Value) (c : κ) :
    Except SchemaError (Registry κ) := do
  if version.truthy then
    let k ← key version
    pure ((k, c) :: r)
  else throw (.problem (.noVersion className))

/-- The class that was registered last under a version. -/
def find (r : Registry κ) (version : Value) : Except SchemaError κ := do
  let k ← key version
  match r.find? fun e => e.1.sameKey k with
  | some (_, c) => pure c
  | none => do
    let shown ← version.shown
    throw (.problem (.unknownVersion shown))

end Registry

end RouteBook
