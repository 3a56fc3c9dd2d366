import RouteBook.ApiError
import RouteBook.Fault
import RouteBook.Text.Quoted

/-!
# Completions

The outcome of one call is delivered once: the first delivery counts and any later one is
dropped. A callback, if there is one, takes the delivery; otherwise asking for the outcome
gives the result or fails with the error.
-/

namespace RouteBook

/-- What is delivered: an error or none, and a result. -/
structure Delivery (ρ : Type) where
  error : Option ApiError
  result : ρ
  deriving DecidableEq, Repr

/-- Why a call fails. -/
inductive Failure where
  | error (e : ApiError)
  | fault (f : Fault)
  deriving DecidableEq, Repr

/-- The state of a call. -/
structure Completion (ρ : Type) where
  withCallback : Bool
  /-- The delivery that counts. -/
  held : Option (Delivery ρ) := none
  /-- What the callback was called with. -/
  calls : List (Delivery ρ) := []
  /-- The errors of the deliveries that were dropped. -/
  dropped : List (Option ApiError) := []

namespace Completion

variable {ρ : Type}

/-- Whether the outcome was delivered. -/
def done (c : Completion ρ) : Bool :=
  c.held.isSome

/-- Delivers an outcome. The answer tells whether it counts. -/
def deliver (c : Completion ρ) (d : Delivery ρ) : Completion ρ × Bool :=
  match c.held with
  | some _ => ({ c with dropped := c.dropped ++ [d.error] }, false)
  | none =>
    ({ c with held := some d, calls := if c.withCallback then c.calls ++ [d] else c.calls }, true)

/-- The result, or the error if no callback took it. -/
def outcome (c : Completion ρ) : Except Failure ρ :=
  match c.held with
  | none => .error (.fault .noOutcome)
  | some d =>
    match d.error with
    | some e => if c.withCallback then .ok d.result else .error (.error e)
    | none => .ok d.result

/-! ## Histories -/

/-- What is done with a completion: an outcome is delivered, or asked for. -/
inductive Operation (ρ : Type) where
  | deliver (d : Delivery ρ)
  | outcome

/-- What an operation answers. -/
inductive Answer (ρ : Type) where
  /-- Whether the delivery counts. -/
  | delivered (counts : Bool)
  | outcome (given : Except Failure ρ)

/-- The completion after an operation, and the answer. -/
def step (c : Completion ρ) : Operation ρ → Completion ρ × Answer ρ
  | .deliver d =>
    let (c, counts) := c.deliver d
    (c, .delivered counts)
  | .outcome => (c, .outcome c.outcome)

/-- The completion after some operations, and the answer of each. -/
def run (c : Completion ρ) : List (Operation ρ) → Completion ρ × List (Answer ρ)
  | [] => (c, [])
  | op :: ops =>
    let (c, answer) := c.step op
    let (c, answers) := c.run ops
    (c, answer :: answers)

end Completion

/-- An error as it is shown in the log. -/
def ApiError.shown (e : ApiError) : String :=
  e.kind.name ++ "(" ++ String.ofList (Text.quote e.message.toList) ++ ")"

/-- The log text for a delivery that was dropped. -/
def droppedText (error : Option ApiError) : String :=
  let shown := match error with
    | some e => e.shown
    | none => "None"
  s!"Dropping late outcome (error={shown}); call already completed"

end RouteBook
