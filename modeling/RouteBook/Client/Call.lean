import RouteBook.Client.Transport
import RouteBook.Schema.Table
import RouteBook.Validation.Check

/-!
# Calls

A call checks its message, hands it to the implementation of its route and ends with one
outcome. A callback, if there is one, takes the delivery.
-/

namespace RouteBook

/-- The implementations that routes can have. -/
inductive Implementation where
  /-- Delivers the response. -/
  | forward
  /-- Delivers the document of the response. -/
  | documentForward
  /-- Delivers the path of the route and the message, and sends nothing. -/
  | echo
  /-- Delivers nothing. -/
  | never
  /-- Delivers an error and then a value. -/
  | twice
  deriving DecidableEq, Repr

/-- How an API version reports errors. -/
inductive ErrorPolicy where
  /-- As they are. -/
  | asIs
  /-- As errors of its own, which name the kind of the error and the route. -/
  | translated
  deriving DecidableEq, Repr

/-- The error that is reported. -/
def ErrorPolicy.apply (policy : ErrorPolicy) (route : Route) (e : ApiError) : ApiError :=
  match policy with
  | asIs => e
  | translated => ⟨s!"translated {e.kind.name} for {route.path}", none, .general⟩

/-- What a call leaves behind. -/
structure CallReport where
  messageAfter : Value
  /-- What the implementation did, with the completion of the call. -/
  sent : Sent

namespace CallReport

/-- The completion of the call. -/
def completion (r : CallReport) : Completion Result :=
  r.sent.completion

/-- What the caller gets: the fault that ended the call, else what the completion holds. -/
def outcome (r : CallReport) : Except Failure Result :=
  match r.sent.fault with
  | some f => .error (.fault f)
  | none => r.completion.outcome

/-- The requests that the other side saw. -/
def requests (r : CallReport) : List WireRequest :=
  r.sent.requests

/-- What the callback was called with. -/
def calls (r : CallReport) : List (Delivery Result) :=
  r.completion.calls

/-- The log of the call. -/
def logs (r : CallReport) : List LogLine :=
  r.sent.logs

end CallReport

/-- Reports an error to a completion. -/
def ErrorPolicy.send (policy : ErrorPolicy) (route : Route) (e : ApiError)
    (c : Completion Result) : Sent :=
  .delivered [] [] c (.failed (policy.apply route e))

/-- Sends a message that may be no map. -/
def Site.sendValue (site : Site) (auth : Option Auth) (route : Route) (message : Value)
    (b : Behaviour) (c : Completion Result) : Sent :=
  match message.entries with
  | .ok es => site.send auth route es b c
  | .error f => .stopped [] [] c f

namespace Implementation

/-- The warning about a body that is no document. -/
def notDocument (route : Route) (f : Fault) : LogLine :=
  .warning s!"Route '{route.path}' returned a body that is not JSON: {f.message}"

/-- The fault of asking for the text of what is no response. -/
def noText : Fault :=
  .noMember "'NoneType' object has no attribute 'text'"

/-- Hands on the document of the response that a completion of its own took, or the error. -/
def handOn (policy : ErrorPolicy) (route : Route) (inner : Completion Result)
    (c : Completion Result) : Sent :=
  match inner.held with
  | some ⟨some e, _⟩ => policy.send route e c
  | some ⟨none, .response r⟩ =>
    match Document.ofResponse r with
    | .ok d => .delivered [] [] c ⟨none, .document d⟩
    | .error f =>
      if f.isValueFault then
        (policy.send route (r.notDocument f) c).after [notDocument route f] []
      else .stopped [] [] c f
  | _ => .stopped [] [] c noText

/-- Sends the message to a completion of its own and hands on what it took. -/
def forwardDocument (site : Site) (policy : ErrorPolicy) (auth : Option Auth) (route : Route)
    (message : Value) (b : Behaviour) (c : Completion Result) : Sent :=
  let inner := site.sendValue auth route message b { withCallback := false }
  match inner.fault with
  | some f => .stopped inner.logs inner.requests c f
  | none => (handOn policy route inner.completion c).after inner.logs inner.requests

/-- Runs an implementation, which delivers to the completion of its call. -/
def run (impl : Implementation) (site : Site) (policy : ErrorPolicy) (auth : Option Auth)
    (route : Route) (message : Value) (b : Behaviour) (c : Completion Result) : Sent :=
  match impl with
  | .forward => site.sendValue auth route message b c
  | .documentForward => forwardDocument site policy auth route message b c
  | .echo =>
    .delivered [] [] c
      ⟨none, .value (.map [("path", .text route.path), ("message", message)])⟩
  | .never => ⟨[], [], c, none⟩
  | .twice =>
    let first := Sent.delivered [] [] c (.failed (.transport "first"))
    (Sent.delivered [] [] first.completion ⟨none, .value (.text "second")⟩).after first.logs []

end Implementation

namespace Call

/-- The warning about a message that was refused. -/
def rejectedLine (route : Route) (r : Rejection) : LogLine :=
  .warning s!"Rejected call to '{route.path}': {r.message}"

/-- The message of a call: nothing counts as an empty map. -/
def messageOf : Value → Value
  | .null => .map []
  | v => v

/-- The message that a caller sees after a call. Nothing stays nothing. -/
def seenAfter (given after : Value) : Value :=
  match given with
  | .null => .null
  | _ => after

/-- The message of a call after its check, and why it was refused if it was. -/
def checked (route : Route) (message : Value) : Value × Except CheckError Unit :=
  Validation.checkValue route.params (messageOf message)

/-- Checks the message and runs the implementation if it passed. -/
def dispatch (site : Site) (policy : ErrorPolicy) (auth : Option Auth)
    (e : Endpoint Implementation) (message : Value) (b : Behaviour) (c : Completion Result) :
    Sent :=
  match checked e.route message with
  | (_, .error (.fault f)) => .stopped [] [] c f
  | (_, .error (.rejected r)) =>
    (policy.send e.route r.toError c).after [rejectedLine e.route r] []
  | (after, .ok ()) => e.implementation.run site policy auth e.route after b c

/-- Calls an endpoint. -/
def run (site : Site) (policy : ErrorPolicy) (auth : Option Auth)
    (e : Endpoint Implementation) (message : Value) (withCallback : Bool) (b : Behaviour) :
    CallReport :=
  { messageAfter := seenAfter message (checked e.route message).1
    sent := dispatch site policy auth e message b { withCallback } }

end Call

end RouteBook
