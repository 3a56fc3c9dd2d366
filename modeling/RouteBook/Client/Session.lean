import RouteBook.Client.Build

/-!
# Sessions

What is done with a client step by step: its credentials are set, and its endpoints are called by name.
A call may fail in every way that calls can; the session goes on after it.
-/

namespace RouteBook.Client

/-- What is done with a client. -/
inductive Step where
  | authenticate (auth : Option Auth)
  | call (space name : String) (message : Value) (withCallback : Bool) (behaviour : Behaviour)

/-- What a step shows. -/
inductive Answer where
  /-- The credentials that hold from now on. -/
  | authenticated (auth : Option Auth) (line : LogLine)
  | called (report : CallReport)
  /-- The client has no such endpoint, so nothing is done. -/
  | unknown

namespace Answer

/-- The requests that the other side saw. -/
def requests : Answer → List WireRequest
  | called report => report.requests
  | _ => []

/-- The log of the step. -/
def logs : Answer → List LogLine
  | authenticated _ line => [line]
  | called report => report.logs
  | unknown => []

end Answer

/-- The client after a step, and what the step shows. -/
def step (c : Client) : Step → Client × Answer
  | .authenticate auth =>
    let c := c.authenticate auth
    (c, .authenticated c.auth c.authenticatedLine)
  | .call space name message withCallback b =>
    match c.table.get? space name with
    | none => (c, .unknown)
    | some e => (c, .called (c.call e message withCallback b))

/-- The client after some steps, and what each of them shows. -/
def run (c : Client) : List Step → Client × List Answer
  | [] => (c, [])
  | s :: steps =>
    let (c, answer) := c.step s
    let (c, answers) := c.run steps
    (c, answer :: answers)

end RouteBook.Client
