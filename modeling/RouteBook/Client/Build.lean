import RouteBook.Client.Call
import RouteBook.Registry
import RouteBook.Schema.Resolve

/-!
# Clients

A client is built once from settings and an API version; a schema that does not fit builds
none. After that only its credentials change.
-/

namespace RouteBook

/-- An API version: a schema with the implementations of its routes. -/
structure ApiClass where
  name : String
  version : Value
  schema : Value
  sections : Sections Implementation
  policy : ErrorPolicy := .asIs

/-- A client. -/
structure Client where
  site : Site
  version : Value
  policy : ErrorPolicy
  table : RouteTable Implementation
  /-- Whether the client closes its connection at the end. -/
  ownsConnection : Bool
  auth : Option Auth := none

namespace Client

/-- The log level that the settings ask for. -/
def levelOf (config : Config) : LogLevel :=
  if config.debug then .debug else .warning

/-- The log lines of a client that was built. -/
def builtLines (version : String) (schema : ResolvedSchema) (table : RouteTable Implementation) :
    List LogLine :=
  [.debug s!"Resolved {schema.routes.length} routes from schema",
    .debug s!"Compiled {table.size} endpoints in {table.namespaces.length} namespaces for version {version}"]

/-- Builds a client of an API version, and what is logged. -/
def build (api : ApiClass) (config : Config) (env : Environment) (files : Files)
    (ownsConnection : Bool) : Except SchemaError (Client × List LogLine) := do
  let schema ← Schema.resolve api.schema
  let version ← api.version.shown
  match Compile.table version api.sections schema.routes with
  | .error (_, e) => throw e
  | .ok table =>
    let site : Site := { config, env, constants := schema.defines.constants, files }
    pure ({ site, version := api.version, policy := api.policy, table, ownsConnection },
      builtLines version schema table)

/-- Builds a client of the API version that the settings name. -/
def buildRegistered (registry : Registry ApiClass) (config : Config) (env : Environment)
    (files : Files) (ownsConnection : Bool) : Except SchemaError (Client × List LogLine) := do
  let api ← registry.find config.version
  build api config env files ownsConnection

/-- Sets the credentials of all calls to come. Those that say nothing are none. -/
def authenticate (c : Client) (auth : Option Auth) : Client :=
  { c with auth := auth.filter (·.enabled) }

/-- The log line for credentials that were set. -/
def authenticatedLine (c : Client) : LogLine :=
  let name := match c.auth with
    | some a => a.scheme.name
    | none => "none"
  .debug s!"Authentication set to {name}"

/-- Calls an endpoint of the client. -/
def call (c : Client) (e : Endpoint Implementation) (message : Value) (withCallback : Bool)
    (b : Behaviour) : CallReport :=
  Call.run c.site c.policy c.auth e message withCallback b

/-! ## Attributes -/

/-- The names that a client has of its own. They go before namespaces. -/
def ownNames : List String :=
  ["config", "api", "version", "constants", "routes", "auth", "authenticate", "http_send",
    "namespace", "aclose", "_owns_http", "_http", "_dispatcher", "__init__", "__getattr__",
    "__dir__", "__aenter__", "__aexit__", "__class__", "__delattr__", "__dict__", "__doc__",
    "__eq__", "__format__", "__ge__", "__getattribute__", "__getstate__", "__gt__", "__hash__",
    "__init_subclass__", "__le__", "__lt__", "__module__", "__ne__", "__new__", "__reduce__",
    "__reduce_ex__", "__repr__", "__setattr__", "__sizeof__", "__str__", "__subclasshook__",
    "__weakref__"]

/-- What a name on a client stands for. -/
inductive Attribute where
  | own
  | space (name : String)
  /-- A function that gives a namespace. -/
  | accessor (space : String)
  | missing (message : String)
  deriving DecidableEq, Repr

/-- Whether a name is reserved for the client itself. -/
def isReserved (name : String) : Bool :=
  name.toList.head? == some '_'

/-- What a name on a client stands for. -/
def meaning (c : Client) (name : String) : Attribute :=
  if ownNames.contains name then .own
  else if isReserved name then .missing name
  else if c.table.namespaces.has name then .space name
  else
    match c.table.accessors.get? name with
    | some space => .accessor space
    | none => .missing s!"RouteClient has no namespace or accessor '{name}'"

/-- Whether a name is listed among the attributes of a client. -/
def lists (c : Client) (name : String) : Bool :=
  ownNames.contains name || c.table.namespaces.has name || c.table.accessors.has name

end Client

end RouteBook
