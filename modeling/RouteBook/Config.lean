import RouteBook.Value.Number

/-!
# Settings of a client

The settings are read once and do not change. The prefix of all paths is kept in its normal
form: one slash in front, none at the end.
-/

namespace RouteBook

/-- The variables of the environment of a process. -/
abbrev Environment := Entries String

/-- The settings of a client. -/
structure Config where
  version : Value := .null
  url : Value := .null
  host : Value := .null
  port : Value := .null
  protocol : Value := .null
  /-- The proxy; null leaves it to the environment, the empty text forbids one. -/
  proxy : Value := .null
  pathPrefix : Option String := none
  timeout : Value := .null
  rejectUnauthorized : Value := .null
  headers : Entries Value := []
  requestMedia : Value := .null
  debug : Bool := false

namespace Config

/-- The text without the slashes around it. -/
def trimSlashes (cs : List Char) : List Char :=
  ((cs.dropWhile (· == '/')).reverse.dropWhile (· == '/')).reverse

/-- The normal form of a path prefix. -/
def normalizePrefix (s : String) : String :=
  String.ofList ('/' :: trimSlashes s.toList)

/-- The name and the value of a header, from a sequence of two items. -/
def headerPair (v : Value) : Except Fault (String × Value) := do
  match ← v.items with
  | [.text name, value] => pure (name, value)
  | [.ragged name, value] => pure (name.face, value)
  | [.list _, _] | [.map _, _] | [.raggedMap _, _] | [.set _, _] | [.loop, _] => throw .wrongType
  | [_, _] => throw Value.notMap
  | _ => throw .badValue

/-- The headers that a setting lists: a map, or pairs. -/
def headersOf (v : Value) : Except Fault (Entries Value) :=
  if v.truthy then
    match v.entries? with
    | some es => .ok es
    | none => do
      let pairs ← v.items
      return .ofList (← pairs.mapM headerPair)
  else .ok []

/-- The normal form of the path prefix that a setting names. -/
def pathPrefixOf : Value → Except Fault (Option String)
  | .null => .ok none
  | v => do return some (normalizePrefix (← v.asText))

/-- The names of the settings. -/
def fieldNames : List String :=
  ["version", "url", "host", "port", "protocol", "proxy", "path_prefix", "timeout",
    "reject_unauthorized", "headers", "request_media", "debug"]

/-- The settings with the given fields. -/
def ofFields (fields : Entries Value) : Except Fault Config := do
  let pathPrefix ← pathPrefixOf (fields.value "path_prefix")
  let headers ← headersOf (fields.value "headers")
  pure {
    version := fields.value "version"
    url := fields.value "url"
    host := fields.value "host"
    port := fields.value "port"
    protocol := fields.value "protocol"
    proxy := fields.value "proxy"
    pathPrefix
    timeout := fields.value "timeout"
    rejectUnauthorized := fields.value "reject_unauthorized"
    headers
    requestMedia := fields.value "request_media"
    debug := (fields.value "debug").isOn }

/-- The settings with exactly the given fields; no others may be named. -/
def ofExactFields (fields : Entries Value) : Except Fault Config :=
  if fields.all fun f => fieldNames.contains f.1 then ofFields fields else .error .wrongType

/-- The setting that a key names, if it names one. -/
def fieldOf? (key : String) : Option String :=
  if key == "pathPrefix" then some "path_prefix"
  else if key == "rejectUnauthorized" then some "reject_unauthorized"
  else if key == "requestMedia" then some "request_media"
  else if fieldNames.contains key then some key
  else none

/-- The fields that a map sets, with their proper names. Keys that name no setting are left
out. -/
def fieldsOf (entries : Entries Value) : Entries Value :=
  .ofList (entries.filterMap fun e => (fieldOf? e.1).map (·, e.2))

/-- The settings that a map writes. A port has to be an integer or read as one. -/
def ofMap (v : Value) : Except Fault Config := do
  let fields := fieldsOf (← v.entries)
  match fields.value "port" with
  | .null => ofFields fields
  | port => do
    let n ← port.toInt
    ofFields (fields.put "port" (.int n))

/-- The variables that name a proxy, the first one first. -/
def proxyVariables : List String := ["HTTPS_PROXY", "HTTP_PROXY"]

/-- The proxy that the environment names. -/
def environmentProxy (env : Environment) : Value :=
  match proxyVariables.findSome? fun name => (env.get? name).filter (· != "") with
  | some s => .text s
  | none => .null

/-- The proxy to use, null for none: the setting, else the environment. -/
def resolveProxy (config : Config) (env : Environment) : Value :=
  match config.proxy with
  | .null => environmentProxy env
  | v => v.orElse .null

/-- Settings that leave everything open and forbid a proxy. -/
def withoutProxy : Config := { proxy := .text "" }

end Config

end RouteBook
