import RouteBook.Pattern.Match
import RouteBook.Request.Outbound

/-!
# Requests on the wire

The last step before sending: the address is taken apart, checked and written in its plain
form, and the values of headers must be ASCII texts. The time limit is in seconds.

This is how the library that sends requests reads what it is given, as far as it is known here. Results
about calls use of it that it keeps the headers and the body, and that none of its faults is that of a call
without an outcome. Nothing more is proved about addresses.
-/

namespace RouteBook

open RouteBook.Text

/-- A request as the other side sees it. -/
structure WireRequest where
  method : String
  scheme : String
  host : String
  /-- The port; none for the usual one of the scheme. -/
  port : Option Int
  /-- The path with the query, or the whole address for a proxy. -/
  target : String
  /-- The headers in the order of their names. -/
  headers : List (String × String)
  body : List UInt8
  /-- The time limit in seconds. -/
  timeout : Option Binary64
  deriving DecidableEq, Repr

namespace Wire

/-! ## Addresses -/

/-- The parts of an address. -/
structure Address where
  scheme : String
  host : String
  port : Option Int
  target : String
  deriving DecidableEq, Repr

/-- The greatest length of an address. -/
def maxLength : Nat := 65536

/-- A control character. -/
def isControl (c : Char) : Bool :=
  c.toNat < 32 || c.toNat == 127

/-- The ports that schemes have if no other is named. -/
def usualPorts : List (String × Int) :=
  [("ftp", 21), ("http", 80), ("https", 443), ("ws", 80), ("wss", 443)]

/-- The scheme at the front of an address, and what follows its colon. -/
def splitScheme (cs : List Char) : List Char × List Char :=
  let name := cs.takeWhile fun c =>
    isAsciiLetter c || isAsciiDigit c || c == '+' || c == '.' || c == '-'
  match cs.drop name.length with
  | ':' :: rest => if name.head?.any isAsciiLetter then (name, rest) else ([], cs)
  | _ => ([], cs)

/-- Whether a character ends an authority. -/
def endsAuthority (c : Char) : Bool :=
  c == '/' || c == '?' || c == '#'

/-- The host and the port of an authority, still with the brackets of the host. -/
def splitAuthority (cs : List Char) : List Char × List Char :=
  let place := Authority.withoutUser cs
  let host := match place with
    | '[' :: _ =>
      if place.contains ']' then
        (place.reverse.dropWhile (· != ']')).reverse
      else place.takeWhile fun c => !(c == ':' || c == '@')
    | _ => place.takeWhile fun c => !(c == ':' || c == '@')
  match place.drop host.length with
  | ':' :: port => (host, port)
  | port => (host, port)

/-- Digits, any character, digits, and so on to the fourth run of digits and the end. -/
def numericLook : Pattern.Node :=
  let digits := Pattern.Node.times 1 none .greedy (.oneOf false [.range 48 57] .exact)
  let gap := Pattern.Node.any false
  .seq digits (.seq gap (.seq digits (.seq gap (.seq digits (.seq gap (.seq digits
    (.at .lastLineEnd)))))))

/-- Whether a host looks like four numbers with one character between them. -/
def looksNumeric (cs : List Char) : Bool :=
  (numericLook.run (Pattern.Cursor.start cs) some).isSome

/-- The host as it is compared: brackets off, letters small. An address that is no proper
one is refused. -/
def plainHost (cs : List Char) : Except Fault String :=
  if looksNumeric cs then
    if Authority.isPointAddress cs then .ok (String.ofList cs) else .error .badUrl
  else
    match cs with
    | '[' :: rest =>
      if rest.getLast? == some ']' then
        if Authority.isZonedAddress rest.dropLast then .ok (String.ofList rest.dropLast)
        else .error .badUrl
      else .ok (Text.lower (String.ofList cs))
    | _ => .ok (Text.lower (String.ofList cs))

/-- The port of an authority; none for the usual one of the scheme. -/
def plainPort (scheme : String) (cs : List Char) : Except Fault (Option Int) :=
  if cs.isEmpty then .ok none
  else
    match Decimal.readInt? cs with
    | none => .error .badUrl
    | some n => .ok (if usualPorts.lookup scheme == some n then none else some n)

/-- The path with its parts of one and two points worked off. -/
def withoutPoints (path : List Char) : List Char :=
  let parts := pieces '/' path
  if parts.contains ['.'] || parts.contains ['.', '.'] then
    joinWith ['/'] (parts.foldl (fun out part =>
      if part == ['.'] then out
      else if part == ['.', '.'] then (if out.isEmpty || out == [[]] then out else out.dropLast)
      else out ++ [part]) [])
  else path

/-- Whether an octet may stand in a path or, with fewer limits, in a query. -/
def mayStand (inQuery : Bool) (b : UInt8) : Bool :=
  let n := b.toNat
  32 < n && n < 127 && !(n == 34 || n == 35 || n == 60 || n == 62) &&
    (inQuery || !(n == 63 || n == 96 || n == 123 || n == 125))

/-- The text with every octet escaped that may not stand there. Escapes stay. -/
def escapeRest (inQuery : Bool) : List UInt8 → List Char
  | 0x25 :: a :: b :: rest =>
    if (hexValue? (Char.ofNat a.toNat)).isSome && (hexValue? (Char.ofNat b.toNat)).isSome then
      '%' :: Char.ofNat a.toNat :: Char.ofNat b.toNat :: escapeRest inQuery rest
    else '%' :: '2' :: '5' :: escapeRest inQuery (a :: b :: rest)
  | b :: rest =>
    (if b != 0x25 && mayStand inQuery b then [Char.ofNat b.toNat] else Percent.escape b) ++
      escapeRest inQuery rest
  | [] => []

/-- The path and the query of an address in their plain form, without a fragment. -/
def plainTarget (cs : List Char) : String :=
  let (whole, _) := Authority.cut '#' cs
  let path := escapeRest false (Utf8.encode (withoutPoints (whole.takeWhile (· != '?'))))
  let query := match whole.dropWhile (· != '?') with
    | _ :: q => '?' :: escapeRest true (Utf8.encode q)
    | [] => []
  String.ofList ((if path.isEmpty then ['/'] else path) ++ query)

/-- The parts of an address. -/
def readAddress (text : String) : Except Fault Address := do
  let cs := text.toList
  if maxLength < cs.length || cs.any isControl then throw .badUrl
  let (schemeText, rest) := splitScheme cs
  let scheme := Text.lower (String.ofList schemeText)
  match rest with
  | '/' :: '/' :: tail =>
    let authority := tail.takeWhile (!endsAuthority ·)
    let (hostText, portText) := splitAuthority authority
    let host ← plainHost hostText
    let port ← plainPort scheme portText
    pure { scheme, host, port, target := plainTarget (tail.drop authority.length) }
  | _ => pure { scheme, host := "", port := none, target := plainTarget rest }

/-! ## Headers -/

/-- A text that may stand in a header: ASCII alone. -/
def asciiText (s : String) : Except Fault String :=
  if s.toList.all (·.toNat < 128) then .ok s else .error .unencodable

/-- The value of a header, which has to be a text. -/
def headerText : Value → Except Fault String
  | .text s => asciiText s
  | .ragged _ => .error .unencodable
  | _ => .error .wrongType

/-- Headers that belong to the connection and are not shown. -/
def connectionHeaders : List String := ["accept-encoding", "connection"]

/-- The headers in the order of their names. Without a word about it any media type is
accepted. -/
def plainHeaders (headers : Entries Value) : Except Fault (List (String × String)) := do
  let texts ← headers.mapM fun (name, v) => do
    pure (← asciiText name, ← headerText v)
  let all := if headers.has "accept" then texts else texts ++ [("accept", "*/*")]
  pure ((all.filter fun h => !connectionHeaders.contains h.1).mergeSort fun a b => a.1 ≤ b.1)

/-- The time limit in seconds of a limit in milliseconds. -/
def seconds? (v : Value) : Except Fault (Option Binary64) :=
  if v.truthy then
    match v with
    | .int n =>
      match Binary64.ofIntQuotient? n 1000 with
      | some x => .ok (some x)
      | none => .error .overflow
    | .bool _ => .ok (Binary64.ofIntQuotient? 1 1000)
    | .float x => .ok (some (x.divNat 1000))
    | _ => .error .wrongType
  else .ok none

/-- The address of a request, which is that of the proxy if there is one. -/
def addressText (o : Outbound) : Except Fault String := do
  let origin ← o.origin
  pure (origin ++ if o.proxied then "/" else o.path)

/-- The request on the wire, with the given body. -/
def ofOutbound (o : Outbound) (body : List UInt8) : Except Fault WireRequest := do
  let timeout ← seconds? o.timeout
  let text ← addressText o
  let address ← readAddress text
  let headers ← plainHeaders o.headers
  pure {
    method := Text.upper o.method
    scheme := address.scheme
    host := address.host
    port := address.port
    target := if o.proxied then o.path else address.target
    headers, body, timeout }

end Wire

end RouteBook
