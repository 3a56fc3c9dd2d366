import RouteBook.Log
import RouteBook.Schema.Route

/-!
# The table of routes

The routes of a schema, each with the implementation that an API version has for it, by
namespace and by name. A schema with a route that the version does not implement has no
table.
-/

namespace RouteBook

/-- A route that can be called. -/
structure Endpoint (ι : Type) where
  route : Route
  implementation : ι

/-- The implementations of an API version by namespace and by name; some may be missing. -/
abbrev Sections (ι : Type) := Entries (Entries (Option ι))

/-- The endpoints by namespace and by name. -/
structure RouteTable (ι : Type) where
  namespaces : Entries (Entries (Endpoint ι))

/-- The name of the function that gives a namespace. -/
def accessorName (space : String) : String :=
  match space.toList with
  | [] => "getApi"
  | c :: rest => "get" ++ String.ofList (Text.upperChars [c] ++ rest) ++ "Api"

/-- The accessor of a namespace that any value names. Only a text has a first letter. -/
def accessorNameOf : Value → Except Fault String
  | .text space => .ok (accessorName space)
  | .list _ | .tuple _ => .error (.noMember "not a text")
  | _ => .error .wrongType

namespace Endpoint

variable {ι : Type}

/-- How an endpoint is shown. -/
def shown (e : Endpoint ι) : Except Fault String := do
  let url ← e.route.url.shown
  pure s!"<CompiledEndpoint {e.route.space}.{e.route.name} {e.route.method} {url}>"

end Endpoint

namespace RouteTable

-- Sums are those of the core library, whatever else is imported beside this module.
attribute [local instance (high)] Zero.ofOfNat0

variable {ι : Type}

/-- The endpoint of a name in a namespace. -/
def get? (t : RouteTable ι) (space name : String) : Option (Endpoint ι) :=
  (t.namespaces.get? space).bind fun es => es.get? name

/-- The names of the accessors with the namespaces that they give. -/
def accessors (t : RouteTable ι) : Entries String :=
  .ofList (t.namespaces.map fun n => (accessorName n.1, n.1))

/-- The number of endpoints. -/
def size (t : RouteTable ι) : Nat :=
  (t.namespaces.map fun n => n.2.length).sum

/-- All endpoints, namespace by namespace. -/
def endpoints (t : RouteTable ι) : List (String × String × Endpoint ι) :=
  t.namespaces.flatMap fun (space, es) => es.map fun (name, e) => (space, name, e)

/-- How a namespace is shown. -/
def namespaceShown (space : String) (endpoints : Entries (Endpoint ι)) : String :=
  s!"<Namespace {space}: {Value.commaSeparated endpoints.keys}>"

/-- How the endpoints of a namespace are shown as a map that cannot be changed. -/
def endpointsShown (endpoints : Entries (Endpoint ι)) : Except Fault String := do
  let rows ← endpoints.mapM fun (name, e) => do
    pure (String.ofList (Text.quote name.toList) ++ ": " ++ (← e.shown))
  pure s!"mappingproxy({Value.braced (Value.commaSeparated rows)})"

/-- What a name on a namespace stands for: the name of the namespace itself, the map of its
endpoints, or an endpoint. Other names that start with a low line are reserved. -/
def meaning (space : String) (endpoints : Entries (Endpoint ι)) (key : String) :
    Except Fault (String ⊕ Endpoint ι) :=
  if key == "_name" then .ok (.inl (String.ofList (Text.quote space.toList)))
  else if key == "_endpoints" then .inl <$> endpointsShown endpoints
  else if key.toList.head? == some '_' then .error (.noMember key)
  else
    match endpoints.get? key with
    | some e => .ok (.inr e)
    | none => .error (.noMember s!"Namespace '{space}' has no endpoint '{key}'")

end RouteTable

namespace Compile

variable {ι : Type}

mutual

/-- Whether following the members of a value never ends. Lists are not followed. -/
def isEndless : Value → Bool
  | .loop => true
  | .map entries => anyEndless entries
  | _ => false

/-- Whether following one of the members never ends. -/
def anyEndless : List (String × Value) → Bool
  | [] => false
  | (_, v) :: rest => isEndless v || anyEndless rest

end

/-- The block of a route as it is shown. -/
def describe (route : Route) : Except Fault String :=
  if anyEndless route.source then .error .endless
  else String.ofList <$> Json.write Value.spacedJson (.map route.source)

/-- The implementation of a route, or why there is none. The log lines say which function is
missing. -/
def implementationOf (version : String) (sections : Sections ι) (route : Route) :
    Except (List LogLine × SchemaError) ι :=
  match sections.get? route.space with
  | none => .error ([], problem .unknownSection)
  | some functions =>
    match functions.get? route.name with
    | some (some f) => .ok f
    | _ =>
      .error ([.debug s!"No implementation for {route.space}.{route.name}"],
        problem .unknownFunction)
where
  /-- The problem with the block of the route in it. -/
  problem (make : String → String → String → SchemaProblem) : SchemaError :=
    match describe route with
    | .ok block => .problem (make version route.path block)
    | .error f => .fault f

/-- Adds an endpoint to its namespace. -/
def attach (spaces : Entries (Entries (Endpoint ι))) (e : Endpoint ι) :
    Entries (Entries (Endpoint ι)) :=
  spaces.put e.route.space (((spaces.get? e.route.space).getD []).put e.route.name e)

/-- The endpoints of routes, added to those of the routes before them. -/
def attachAll (version : String) (sections : Sections ι) :
    List Route → Entries (Entries (Endpoint ι)) →
      Except (List LogLine × SchemaError) (Entries (Entries (Endpoint ι)))
  | [], spaces => .ok spaces
  | route :: rest, spaces =>
    match implementationOf version sections route with
    | .error e => .error e
    | .ok f => attachAll version sections rest (attach spaces ⟨route, f⟩)

/-- The table of a schema for an API version. Namespaces stand in the order of the sections;
those without routes are left out. -/
def table (version : String) (sections : Sections ι) (routes : List Route) :
    Except (List LogLine × SchemaError) (RouteTable ι) := do
  let spaces ← attachAll version sections routes (sections.map fun s => (s.1, []))
  pure ⟨spaces.filter fun s => !s.2.isEmpty⟩

end Compile

end RouteBook
