import RouteBook.Auth.Context
import RouteBook.Config
import RouteBook.Request.Assembly
import RouteBook.Request.Authority

/-!
# Outbound requests

All that is needed to send one request: the machine, the path, the headers and the body. A
request through a proxy goes to the proxy and has a whole address for its path.
-/

namespace RouteBook

/-- A request that is ready to be sent. -/
structure Outbound where
  method : String
  protocol : Value
  host : Value
  port : Int
  path : String
  headers : Entries Value
  body : List UInt8 := []
  proxied : Bool := false
  /-- The time limit in milliseconds, null for none. -/
  timeout : Value := .null
  /-- The file that is the body, null for none. -/
  filePath : Value := .null

/-- The port of a protocol. -/
def defaultPort (protocol : Value) : Int :=
  match protocol with
  | .text "https" => 443
  | _ => 80

namespace Outbound

/-- The name of this library as a user agent. -/
def userAgent : String := "route-client-core/0.1.0"

/-- The machine that a request goes to. -/
structure Machine where
  protocol : Value
  host : Value
  port : Value

/-- The text of a machine and its protocol. -/
def originText (protocol host port : Value) : Except Fault String := do
  let protocol ← protocol.shown
  let host ← host.shown
  let port ← port.shown
  pure (protocol ++ "://" ++ host ++ ":" ++ port)

/-- The machine that a request goes to. -/
def origin (o : Outbound) : Except Fault String :=
  originText o.protocol o.host (.int o.port)

/-- A number, or null. -/
def portValue : Option Int → Value
  | some n => .int n
  | none => .null

/-- The machine that a route names, or the settings, or the schema. -/
def machine (config : Config) (constants : Constants) (route : Route) : Machine :=
  let protocol := (config.protocol.orElse constants.protocol).orElse (.text "http")
  { protocol
    host := (route.host.orElse config.host).orElse constants.host
    port := (config.port.orElse (portValue constants.port)).orElse (.int (defaultPort protocol)) }

/-- The machine of a proxy. -/
def proxyMachine (place : Authority.Place) : Machine :=
  let protocol := Value.text place.scheme
  { protocol
    host := match place.host with
      | some h => .text h
      | none => .null
    port := match place.port with
      | some n => .int n
      | none => .int (defaultPort protocol) }

/-- The path of a route's address, after the address of the settings. -/
def basePath (config : Config) (url : String) : Except Fault String :=
  if config.url.truthy then do
    let base ← config.url.shown
    pure (base ++ url)
  else .ok url

/-- The path through a proxy, and the machine of the proxy. Without a proxy both stay. -/
def throughProxy (proxy : Value) (m : Machine) (path : String) :
    Except Fault (Machine × String) :=
  if proxy.truthy then do
    let origin ← originText m.protocol m.host m.port
    let proxyText ← proxy.asText
    let place ← Authority.ofText proxyText
    pure (proxyMachine place, origin ++ path)
  else .ok (m, path)

/-- The path with the pairs of a query, if there are any and they do not go into a body. -/
def withQuery (hasBody : Bool) (payload : Payload) (path : String) : String :=
  match hasBody, payload with
  | false, .pairs (item :: items) => path ++ "?" ++ "&".intercalate (item :: items)
  | _, _ => path

/-- The octets of a body. A text must have a form in UTF-8. -/
def bodyOf : Payload → Except Fault (List UInt8)
  | .members entries => Text.Utf8.ofString <$> (Value.map entries).encodableText
  | .whole (.bytes b) => .ok b
  | .whole v => Text.Utf8.ofString <$> (v.orElse (.text "")).encodableText
  | .pairs items => .ok (Text.Utf8.ofString ("&".intercalate items))

/-- The media type of a body. -/
def contentType : Format → Except Fault String
  | .json => .ok "application/json; charset=utf-8"
  | .raw => .ok "text/plain; charset=utf-8"
  | .other (.list _) | .other (.map _) | .other (.raggedMap _) | .other (.set _) | .other .loop =>
    .error .wrongType
  | _ => .ok "application/x-www-form-urlencoded; charset=utf-8"

/-- A number as the value of a header. -/
def countText (n : Nat) : Value :=
  .text (toString n)

/-- The headers that every request has, and its body. -/
def ownHeaders (host : Value) (hasBody : Bool) (format : Format) (payload : Payload) :
    Except Fault (Entries Value × List UInt8) :=
  if hasBody then do
    let body ← bodyOf payload
    let type ← contentType format
    pure ([("host", host), ("content-length", countText body.length),
      ("content-type", .text type)], body)
  else .ok ([("host", host), ("content-length", countText 0)], [])

/-- The headers that a message and the settings ask for. Those of the settings win. -/
def customHeaders (message : Message) (config : Config) : Except Fault (Entries Value) :=
  let given := message.value "headers"
  if given.truthy then
    match given.entries? with
    | some es => .ok (es.merge config.headers)
    | none => .error .wrongType
  else .ok (Entries.ofList config.headers)

/-- Adds the headers whose names are allowed. -/
def addAllowed (allowed : List String) (headers custom : Entries Value) :
    Except Fault (Entries Value) :=
  custom.foldlM (fun acc (name, v) =>
    if allowed.contains (Text.lower name) then do
      let text ← v.shown
      pure (acc.put (Text.lower name) (.text text))
    else .ok acc) headers

/-- Adds a header unless it is there. -/
def putDefault (headers : Entries Value) (name : String) (v : Value) : Entries Value :=
  if headers.has name then headers else headers.put name v

/-- Adds the headers that hold unless others were given. -/
def addDefaults (config : Config) (constants : Constants) (headers : Entries Value) :
    Entries Value :=
  let headers := putDefault headers "user-agent" (.text userAgent)
  let media := config.requestMedia.orElse constants.requestMedia
  if media.truthy then putDefault headers "accept" media else headers

/-- The time limit of a request: that of the route, else that of the settings. Zero is
none. -/
def timeLimit (route : Route) (config : Config) : Value :=
  match route.timeout with
  | some x => (Value.float x).orElse .null
  | none => config.timeout.orElse .null

/-- The request that an assembled message makes. -/
def ofAssembly (config : Config) (env : Environment) (constants : Constants) (route : Route)
    (auth : Option Auth) (message : Message) (format : Format) (a : Assembly) :
    Except Fault Outbound := do
  let path ← basePath config (String.ofList a.url)
  let proxy := config.resolveProxy env
  let (m, path) ← throughProxy proxy (machine config constants route) path
  let path := withQuery route.hasBody a.payload path
  let (headers, body) ← ownHeaders m.host route.hasBody format a.payload
  let (path, headers) ← Auth.applyTo auth path headers
  let custom ← customHeaders message config
  let headers ← addAllowed route.requestHeaders headers custom
  let port ← m.port.toInt
  pure {
    method := Text.upper route.method
    protocol := m.protocol
    host := m.host
    port
    path
    headers := addDefaults config constants headers
    body
    proxied := proxy.truthy
    timeout := timeLimit route config
    filePath := if route.hasFileBody then message.value "filePath" else .null }

/-- The assembled message of a route. -/
def assembled (config : Config) (constants : Constants) (route : Route) (message : Message) :
    Except Fault Assembly :=
  Assembly.assemble message route (route.format constants) config.pathPrefix

/-- The request that a message makes, and the warnings on the way. -/
def prepare (config : Config) (env : Environment) (constants : Constants) (route : Route)
    (auth : Option Auth) (message : Message) : Except Fault (Outbound × List LogLine) := do
  let a ← assembled config constants route message
  let o ← ofAssembly config env constants route auth message (route.format constants) a
  pure (o, a.warnings)

end Outbound

end RouteBook
