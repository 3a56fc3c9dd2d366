import RouteBook.Schema.Route

/-!
# Resolving a schema

A schema is a tree of blocks. A block with an address and a map of parameters is a route;
any other block that is not empty is searched for routes. Parameters whose name starts with
a dollar sign stand for rules of the definitions.
-/

namespace RouteBook

namespace Schema

/-- Whether a block is a route: it has an address and a map of parameters. -/
def isTerminal (block : Entries Value) : Bool :=
  (block.value "url").truthy && (block.value "params").isMap

/-- What a search of the tree meets. -/
inductive Branch where
  | route (path : String) (block : Entries Value)
  /-- A block that contains itself. -/
  | endless

mutual

/-- The routes in a block and below it, in tree order. -/
def branchesOf (path : String) : Value → List Branch
  | .map entries =>
    if entries.isEmpty then []
    else if isTerminal entries then [.route path entries]
    else branches path entries
  | .loop => [.endless]
  | _ => []

/-- The routes below a list of blocks, in tree order. -/
def branches (base : String) : List (String × Value) → List Branch
  | [] => []
  | (part, block) :: rest => branchesOf (RoutePath.below base part) block ++ branches base rest

end

/-- The key of the definitions. -/
def definesKey : String := "defines"

/-- The blocks of a schema without its definitions. -/
def sections (schema : Entries Value) : Entries Value :=
  schema.filter fun e => e.1 != definesKey

/-- The name that a parameter name refers to, if it is a reference. -/
def reference? (name : String) : Option String :=
  match name.toList with
  | '$' :: rest => some (String.ofList rest)
  | _ => none

/-- The rules of a route's parameters. -/
def resolveParams (path : String) (defines : Defines) (params : Entries Value) :
    Except SchemaError (Entries Rule) :=
  params.foldlM (fun rules (name, block) =>
    match reference? name with
    | some target =>
      match defines.params.get? target with
      | some rule => .ok (rules.put target rule)
      | none => .error (.problem (.unknownRule target path))
    | none => do
      let rule ← Rule.ofSchema block
      pure (rules.put name rule)) []

/-- The method that a block names, in capitals. -/
def methodOf (block : Entries Value) : Except Fault String :=
  Text.upper <$> ((block.value "method").orElse (.text "GET")).shown

/-- The time limit that a block sets. -/
def timeoutOf (block : Entries Value) : Except Fault (Option Binary64) :=
  match block.value "timeout" with
  | .null => .ok none
  | v => some <$> v.toFloat

/-- The route that a block writes. -/
def resolveRoute (defines : Defines) (path : String) (block : Entries Value) :
    Except SchemaError Route := do
  let (space, name) := RoutePath.split path
  let headers ← headerNames (block.value "request-headers")
  let method ← methodOf block
  let rules ← (block.value "params").entries
  let params ← resolveParams path defines rules
  let timeout ← timeoutOf block
  pure {
    path, space, name, method, params, timeout
    url := block.value "url"
    requestFormat := block.value "requestFormat"
    requestHeaders := headers ++ defines.requestHeaders
    hasFileBody := (block.value "hasFileBody").truthy
    host := block.value "host"
    source := block }

/-- The route at a branch. -/
def resolveBranch (defines : Defines) : Branch → Except SchemaError Route
  | .route path block => resolveRoute defines path block
  | .endless => .error (.fault .endless)

/-- The definitions and the routes of a schema. -/
def resolve (schema : Value) : Except SchemaError ResolvedSchema := do
  let blocks ← schema.entries
  let defines ← Defines.ofSchema (blocks.value definesKey)
  let routes ← (branches "" (sections blocks)).mapM (resolveBranch defines)
  pure { defines, routes }

end Schema

end RouteBook
