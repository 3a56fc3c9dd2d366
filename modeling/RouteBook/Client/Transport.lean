import RouteBook.Completion
import RouteBook.Request.Files
import RouteBook.Request.Mask
import RouteBook.Request.MediaType
import RouteBook.Request.Wire
import RouteBook.Response
import RouteBook.Text.AnyText
import RouteBook.Validation.Rejection

/-!
# Sending requests

What happens between a checked message and the delivery of its outcome to a completion. How the
other side behaves is given; everything else follows from the message. The exchange itself is the business
of another library, for which `Behaviour` and `RouteBook.Request.Wire` stand here: what it does with a
request is an argument of every call, and no result depends on how it does so.
-/

namespace RouteBook

/-- What the other side does with a request. -/
inductive Behaviour where
  | answers (r : Response)
  /-- Nothing comes in time. -/
  | timesOut (text : String)
  /-- The exchange breaks, for a reason of the given class. -/
  | breaks (className text : String)
  /-- The exchange ends in a way that is not reported as an outcome. -/
  | faults (f : Fault)

/-- The result of a call. -/
inductive Result where
  | response (r : Response)
  | document (d : Document)
  | value (v : Value)

/-- What sending leaves behind: the log, the requests that the other side saw, the completion
that took the outcome, and the fault that ended it early, if there was one. -/
structure Sent where
  logs : List LogLine
  requests : List WireRequest
  completion : Completion Result
  fault : Option Fault := none

/-- Where a client sends from. -/
structure Site where
  config : Config
  env : Environment
  constants : Constants
  files : Files

/-- An outcome that is an error. -/
def Delivery.failed (e : ApiError) : Delivery Result :=
  ⟨some e, .value .null⟩

namespace Sent

/-- Sending that a fault ends. -/
def stopped (logs : List LogLine) (requests : List WireRequest) (c : Completion Result)
    (f : Fault) : Sent :=
  ⟨logs, requests, c, some f⟩

/-- Sending that ends with a delivery. One that comes too late is noted in the log. -/
def delivered (logs : List LogLine) (requests : List WireRequest) (c : Completion Result)
    (d : Delivery Result) : Sent :=
  let (after, counts) := c.deliver d
  ⟨if counts then logs else logs ++ [.debug (droppedText d.error)], requests, after, none⟩

/-- What went before, with its log and its requests. -/
def after (lines : List LogLine) (requests : List WireRequest) (s : Sent) : Sent :=
  { s with logs := lines ++ s.logs, requests := requests ++ s.requests }

end Sent

/-- The path of a file: as the system has it, and as it is shown. -/
structure FilePath where
  name : String
  face : String

namespace Site

/-- The path of a file, which has to be a text that the system can have as a name, without the character
that ends names. -/
def filePath? (o : Outbound) : Except Fault (Option FilePath) :=
  if o.filePath.truthy then
    match AnyText.ofValue? o.filePath with
    | none => .error .wrongType
    | some path =>
      match path.systemName? with
      | none => .error .unencodable
      | some name =>
        if name.toList.contains (Char.ofNat 0) then .error .badValue else .ok (some ⟨name, path.face⟩)
  else .ok none

/-- The name that tells the type of a file: that of the message, else the path. -/
def fileName (message : Message) (path : String) : Except Fault String :=
  ((message.value "name").orElse (.text path)).shown

/-- A request with the headers of the file that is its body. -/
def withFileHeaders (o : Outbound) (size : Nat) (name : String) : Outbound :=
  { o with
    headers := (o.headers.put "content-length" (.text (toString size))).put "content-type"
      (.text (MediaType.ofName name)) }

/-- The log lines for a request that is about to be sent. -/
def requestLines (o : Outbound) : Except Fault (List LogLine) := do
  let origin ← o.origin
  let headers ← Value.quoted (.map (Mask.maskHeaders o.headers))
  let first := LogLine.debug
    s!"REQUEST: {o.method} {origin} {Mask.maskPath o.path} headers={headers}"
  let body := LogLine.debug
    s!"REQUEST BODY: {String.ofList (Text.quoteOctets (o.body.take 500))}"
  pure (if o.body.isEmpty then [first] else [first, body])

/-- The warning about a request that was not answered. -/
def unanswered (o : Outbound) (how text : String) : LogLine :=
  .warning s!"Request {o.method} {Mask.maskPath o.path} {how}: {text}"

/-- The outcome of a broken exchange. -/
def broken (className text : String) : Delivery Result :=
  .failed (.transport (if text == "" then className else text))

/-- The outcome of a response. -/
def classified (r : Response) : Delivery Result :=
  match r.error? with
  | some e => .failed e
  | none => ⟨none, .response r⟩

/-- What a request that was seen by the other side leads to. The log line with the headers of a response is
left out. -/
def exchange (o : Outbound) (w : WireRequest) (b : Behaviour) (c : Completion Result) : Sent :=
  match b with
  | .answers r =>
    .delivered [.debug s!"STATUS: {Decimal.intText r.status}"] [w] c (classified r)
  | .timesOut text => .delivered [unanswered o "timed out" text] [w] c (.failed .gatewayTimeout)
  | .breaks className text =>
    .delivered [unanswered o "failed" text] [w] c (broken className text)
  | .faults f => .stopped [] [w] c f

/-- The octets of the body of a request: its own, or those of a file. -/
def bodyOctets (site : Site) (o : Outbound) (path : Option FilePath) :
    Except (String × FileError) (List UInt8) :=
  match path with
  | none => .ok o.body
  | some p => (site.files.read p.name).mapError (p.face, ·)

/-- Sends a request that is ready. The body of a file is read while it is sent, so a file
that cannot be read breaks the exchange before the other side sees anything. -/
def perform (site : Site) (o : Outbound) (path : Option FilePath) (b : Behaviour)
    (c : Completion Result) : Sent :=
  match requestLines o with
  | .error f => .stopped [] [] c f
  | .ok lines =>
    match Wire.ofOutbound o [] with
    | .error f => .stopped lines [] c f
    | .ok w =>
      match bodyOctets site o path with
      | .error (p, e) =>
        let text := e.message p
        .delivered (lines ++ [unanswered o "failed" text]) [] c (broken "OSError" text)
      | .ok octets => (exchange o { w with body := octets } b c).after lines []

/-- Sends a request with a file for its body. -/
def sendFile (site : Site) (message : Message) (o : Outbound) (b : Behaviour)
    (c : Completion Result) : Sent :=
  match filePath? o with
  | .error f => .stopped [] [] c f
  | .ok none => .delivered [] [] c (.failed Rejection.missingFile.toError)
  | .ok (some path) =>
    match site.files.size (Files.tidy path.name) with
    | .error e =>
      let text := s!"Cannot read file body '{path.face}': {e.message (Files.tidy path.face)}"
      .delivered [] [] c (.failed (.transport text))
    | .ok size =>
      match fileName message path.face with
      | .error f => .stopped [] [] c f
      | .ok name => perform site (withFileHeaders o size name) (some path) b c

/-- Sends the message of a call. -/
def send (site : Site) (auth : Option Auth) (route : Route) (message : Message)
    (b : Behaviour) (c : Completion Result) : Sent :=
  match Outbound.assembled site.config site.constants route message with
  | .error f => .stopped [] [] c f
  | .ok a =>
    match Outbound.ofAssembly site.config site.env site.constants route auth message
        (route.format site.constants) a with
    | .error f => .stopped a.warnings [] c f
    | .ok o =>
      let sent := if route.hasFileBody then sendFile site message o b c
        else perform site o none b c
      sent.after a.warnings []

end Site

end RouteBook
