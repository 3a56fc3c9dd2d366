import RouteBook.Json.Reader
import RouteBook.Log
import RouteBook.Schema.Route

/-!
# Assembling a request

Each parameter of a message goes to one place: into the address where its name stands after
a colon, or into the query or body, or, if it has no written form, nowhere, with a warning.
-/

namespace RouteBook

open RouteBook.Text

/-- How the parameters that are not in the address are written. -/
inductive Format where
  | json
  | raw
  | query
  | form
  /-- Any other value that a schema gives: written like a form. -/
  | other (v : Value)

namespace Format

/-- The format that a value names. -/
def ofValue : Value → Format
  | .text s =>
    if s == "json" then json
    else if s == "raw" then raw
    else if s == "query" then query
    else if s == "form" then form
    else other (.text s)
  | v => other v

/-- The value that names a format. -/
def toValue : Format → Value
  | json => .text "json"
  | raw => .text "raw"
  | query => .text "query"
  | form => .text "form"
  | other v => v

end Format

namespace Route

/-- The methods whose requests have no body. -/
def bodylessMethods : List String := ["HEAD", "GET", "DELETE"]

/-- Whether the parameters of a route go into a body. A route that sends a file has its body
from there. -/
def hasBody (route : Route) : Bool :=
  !route.hasFileBody && !bodylessMethods.contains (Text.upper route.method)

/-- The format of a route's parameters: the query, unless they go into a body. -/
def format (route : Route) (constants : Constants) : Format :=
  if route.hasBody then
    .ofValue ((route.requestFormat.orElse constants.requestFormat).orElse (.text "json"))
  else .query

end Route

/-- Where the parameters go that are not in the address. -/
inductive Payload where
  /-- The members of a document. -/
  | members (entries : Entries Value)
  /-- One value as it is. -/
  | whole (v : Value)
  /-- Pairs of a name and a percent-encoded value. -/
  | pairs (items : List String)

/-- The address of a request, its payload and the warnings about parameters that are left
out. -/
structure Assembly where
  url : List Char
  payload : Payload
  warnings : List LogLine

namespace Assembly

/-! ## Placeholders -/

/-- Whether a character would continue the name of a placeholder. -/
def isNameChar (c : Char) : Bool :=
  isAsciiLetter c || isAsciiDigit c || c == '_'

/-- Whether a name ends here. -/
def endsName : List Char → Bool
  | [] => true
  | c :: _ => !isNameChar c

/-- What follows a placeholder of the given name that stands at the front. -/
def afterPlaceholder? (name cs : List Char) : Option (List Char) :=
  (Text.after? (':' :: name) cs).filter endsName

/-- What stands before and after the first placeholder of a name. -/
def splitAt? (name : List Char) : List Char → Option (List Char × List Char)
  | [] => (afterPlaceholder? name []).map fun rest => ([], rest)
  | c :: rest =>
    match afterPlaceholder? name (c :: rest) with
    | some after => some ([], after)
    | none => (splitAt? name rest).map fun (before, after) => (c :: before, after)

/-! ## Values -/

/-- The terms of a text: the pieces between plus signs without the blanks beside the
signs. -/
def terms (cs : List Char) : List (List Char) :=
  match pieces '+' cs with
  | [] => []
  | [one] => [one]
  | first :: others =>
    let inner := others.dropLast.map trimChars
    let last := (others.getLastD []).dropWhile isBlank
    trimRight first :: inner ++ [last]

/-- The texts with a plus sign between them. -/
def plusSeparated (parts : List (List Char)) : List Char :=
  joinWith ['+'] parts

/-- A value as it stands in an address or in a pair. -/
def encodeValue (combined : Bool) (v : Value) : Except Fault (List Char) := do
  let text ← v.encodableText
  if combined && !v.isContainer then
    pure (plusSeparated ((terms text.toList).map Percent.encodeComponent))
  else pure (Percent.encodeComponent text.toList)

/-- The warning that a parameter is left out. Its end, the reason between parentheses, is left out here. -/
def dropped (path name : String) : LogLine :=
  .warning s!"Dropping parameter '{name}' for route '{path}': cannot serialize value"

/-- One pair of a query. -/
def pairText (name : String) (encoded : List Char) : String :=
  name ++ "=" ++ String.ofList encoded

/-! ## Places -/

/-- What is assembled before any parameter: the address, the empty payload, and for a raw
body its value. -/
def start (message : Message) (path : String) (format : Format) (url : List Char) : Assembly :=
  match format with
  | .json => ⟨url, .members [], []⟩
  | .raw =>
    let data := message.value "data"
    if data.isContainer then
      match Json.writeCompact data with
      | .ok _ => ⟨url, .whole data, []⟩
      | .error _ => ⟨url, .whole .null, [dropped path "data"]⟩
    else ⟨url, .whole data, []⟩
  | _ => ⟨url, .pairs [], []⟩

/-- Leaves a parameter out if its value has no written form; other faults stay. -/
def orDropped (a : Assembly) (path name : String) (r : Except Fault Assembly) :
    Except Fault Assembly :=
  match r with
  | .ok b => .ok b
  | .error f =>
    if f.isUnwritable then .ok { a with warnings := a.warnings ++ [dropped path name] }
    else .error f

/-- Puts the value of a parameter into its place. -/
def place (a : Assembly) (name : String) (rule : Rule) (v : Value) : Except Fault Assembly :=
  match splitAt? name.toList a.url with
  | some (before, after) => do
    let encoded ← encodeValue rule.combined v
    pure { a with url := before ++ encoded ++ after }
  | none =>
    match a.payload with
    | .members entries => do
      let _ ← Json.writeCompact v
      pure { a with payload := .members (entries.put name v) }
    | .pairs items => do
      let encoded ← encodeValue rule.combined v
      pure { a with payload := .pairs (items ++ [pairText name encoded]) }
    | .whole _ => do
      let _ ← encodeValue rule.combined v
      pure a

/-- Handles one parameter. One that is absent or null has no place. -/
def step (message : Message) (path : String) (a : Assembly) (param : String × Rule) :
    Except Fault Assembly :=
  match message.value param.1 with
  | .null => .ok a
  | v => a.orDropped path param.1 (a.place param.1 param.2 v)

/-- The address with the prefix of all paths before it, unless it starts with it. -/
def withPrefix (pathPrefix : Option String) (url : List Char) : List Char :=
  match pathPrefix with
  | none => url
  | some p => if p.toList.isPrefixOf url then url else p.toList ++ url

/-- The address of a route as a text. A route whose address is no text cannot be sent. -/
def urlText (pathPrefix : Option String) : Value → Except Fault (List Char)
  | .text s => .ok s.toList
  | .ragged _ => .error .unencodable
  | _ => .error (if (pathPrefix.getD "").isEmpty then .wrongType else Value.notMap)

/-- Assembles the parameters of a message for a route. -/
def assemble (message : Message) (route : Route) (format : Format)
    (pathPrefix : Option String) : Except Fault Assembly := do
  let url ← urlText pathPrefix route.url
  route.params.foldlM (step message route.path)
    (start message route.path format (withPrefix pathPrefix url))

end Assembly

end RouteBook
