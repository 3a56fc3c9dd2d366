import RouteBook.Schema.Path
import RouteBook.Schema.Problem
import RouteBook.Schema.Rule
import RouteBook.Value.Number

/-!
# Routes

The definitions that all routes of a schema share, and a route on its own.
-/

namespace RouteBook

/-- The values that hold where neither a route nor the settings say otherwise. -/
structure Constants where
  protocol : Value := .null
  host : Value := .null
  port : Option Int := none
  requestMedia : Value := .null
  requestFormat : Value := .null

/-- The constants that a block of a schema writes. -/
def Constants.ofSchema (block : Value) : Except Fault Constants :=
  if block.truthy then do
    let es ← block.entries
    let port ← match (es.value "port").whenTrue? with
      | none => pure none
      | some v => some <$> v.toInt
    pure {
      protocol := es.value "protocol"
      host := es.value "host"
      port
      requestMedia := es.value "requestMedia"
      requestFormat := es.value "requestFormat" }
  else .ok {}

/-- What all routes of a schema share. -/
structure Defines where
  constants : Constants := {}
  params : Entries Rule := []
  requestHeaders : List String := []

/-- The entries of a block, none if it counts as false. -/
def Value.blockEntries (v : Value) : Except Fault (Entries Value) :=
  if v.truthy then v.entries else .ok []

/-- The names of headers in lower case. -/
def headerNames (v : Value) : Except Fault (List String) :=
  if v.truthy then do
    let names ← v.items
    names.mapM fun name => Text.lower <$> name.asText
  else .ok []

/-- The definitions that a block of a schema writes. -/
def Defines.ofSchema (block : Value) : Except Fault Defines := do
  let es ← block.blockEntries
  let rules ← (es.value "params").blockEntries
  let params ← rules.mapM fun (name, rule) => do pure (name, ← Rule.ofSchema rule)
  let constants ← Constants.ofSchema (es.value "constants")
  let requestHeaders ← headerNames (es.value "request-headers")
  pure { constants, params, requestHeaders }

/-- A route with its rules, all references resolved. -/
structure Route where
  /-- The place in the schema tree. -/
  path : String
  /-- The namespace. -/
  space : String
  /-- The name of the function. -/
  name : String
  url : Value
  method : String
  params : Entries Rule
  requestFormat : Value := .null
  /-- The names of the headers that callers may set, in lower case. -/
  requestHeaders : List String := []
  hasFileBody : Bool := false
  timeout : Option Binary64 := none
  host : Value := .null
  /-- The block of the schema that the route was read from. -/
  source : Entries Value := []

/-- A schema with its references resolved: its routes stand in tree order. -/
structure ResolvedSchema where
  defines : Defines
  routes : List Route

end RouteBook
