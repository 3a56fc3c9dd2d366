import RouteBook.ApiError
import RouteBook.Json.Octets

/-!
# Responses

What came back for a request, whether that is an error, and the document that it holds. How the octets
of a body become a text, by their charset and compression, and how they are read as JSON is the business
of the library that does the exchange. A response has both results, whatever they are, and only one thing
is supposed of them: octets that cannot be read as JSON are values out of their domain.
-/

namespace RouteBook

/-- A response as it comes out of the exchange. -/
structure Response where
  status : Int
  headers : List (String × String)
  /-- The body as a text. -/
  text : String
  /-- The value that the body writes as JSON. -/
  json : Except Fault Value
  isValueFault_of_json : ∀ f, json = .error f → f.isValueFault = true

/-- A response with a body in UTF-8 that is not compressed. -/
def Response.ofOctets (status : Int) (headers : List (String × String)) (body : List UInt8) :
    Response where
  status
  headers
  text := String.ofList (Text.Utf8.decodeLossy body)
  json := Json.readOctets body
  isValueFault_of_json _ h := Json.isValueFault_of_readOctets h

/-- Whether a status says that a request failed: 400 to 599, and below 10. -/
def isErrorStatus (status : Int) : Bool :=
  (400 ≤ status && status < 600) || status < 10

/-- Whether a number is an error status. A number with a fraction counts as the integer below
it. -/
def Value.isErrorStatus : Value → Except Fault Bool
  | .int n => .ok (RouteBook.isErrorStatus n)
  | .bool b => .ok (RouteBook.isErrorStatus (if b then 1 else 0))
  | .float x =>
    match x.view, x.toQuotient? with
    | .infinite negative, _ => .ok negative
    | _, some (negative, num, den) =>
      .ok (RouteBook.isErrorStatus ((Binary64.signed negative num).fdiv den))
    | _, none => .ok false
  | _ => .error .wrongType

namespace Response

/-- The value of a header, whose name may be written in any case. The values of a header
that is repeated stand with commas between them. -/
def header? (r : Response) (name : String) : Option String :=
  match r.headers.filter fun h => Text.lower h.1 == Text.lower name with
  | [] => none
  | found => some (", ".intercalate (found.map Prod.snd))

/-! ## Errors -/

/-- The kind of error of a status. -/
def kindOf (r : Response) : HttpKind :=
  if r.status == 401 then .unauthorized
  else if r.status == 403 then .forbidden
  else if r.status == 404 then .notFound
  else if r.status == 429 then
    .rateLimit ((r.header? "retry-after").bind fun s => Decimal.readInt? s.toList)
  else if 400 ≤ r.status && r.status < 500 then .client
  else if 500 ≤ r.status && r.status < 600 then .server
  else .plain

/-- How much of a body stands in the message of an error. -/
def excerptLength : Nat := 200

/-- The message for an error status. -/
def errorMessage (r : Response) : String :=
  let start := s!"HTTP {Decimal.intText r.status}"
  if r.text == "" then start
  else start ++ ": " ++ String.ofList (r.text.toList.take excerptLength)

/-- The error that a response reports, if it does. -/
def error? (r : Response) : Option ApiError :=
  if isErrorStatus r.status then
    some ⟨r.errorMessage, some r.status, .http r.kindOf r.text⟩
  else none

/-! ## Documents -/

/-- The headers that are kept beside a document. -/
def metaHeaders : List String :=
  ["x-ratelimit-limit", "x-ratelimit-remaining", "x-ratelimit-reset", "x-oauth-scopes", "link",
    "location", "last-modified", "etag", "status"]

end Response

/-- The document of a response and some of its headers. -/
structure Document where
  data : Value
  headers : List (String × String)

namespace Document

/-- The document that a response holds. An empty body holds null. -/
def ofResponse (r : Response) : Except Fault Document := do
  let data ← if r.text == "" then pure .null else r.json
  pure ⟨data, Response.metaHeaders.filterMap fun name => (r.header? name).map (name, ·)⟩

end Document

/-- The error for a body that is not the document it should be. -/
def Response.notDocument (r : Response) (f : Fault) : ApiError :=
  ⟨s!"Invalid JSON in response body: {f.message}", some r.status, .http .plain r.text⟩

end RouteBook
