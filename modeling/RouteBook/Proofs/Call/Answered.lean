import RouteBook.Proofs.Call.Outcome

/-!
# Answered calls

What becomes of a call that was answered. The response decides the outcome (`Response.Outcome`): an error
status is an error with the status and the text of the response, and otherwise the response or its document
is delivered, or an error that it holds no document. Nothing on the way to the completion of the call changes
that outcome or delivers another one (`EndsAnswered`).
-/

namespace RouteBook

variable {r : Response} {e : ApiError} {d : Delivery Result}

/-! ## What a response means -/

namespace Response

end Response

namespace Document

end Document

/-! ## Sending -/

/-- What ends, if the other side sees a request, with one of the given deliveries, whatever the
completion. -/
def EndsAnswered (P : Delivery Result → Prop) (run : Completion Result → Sent) : Prop :=
  ∀ c, (run c).requests ≠ [] → ∃ logs w d, P d ∧ run c = .delivered logs [w] c d

namespace EndsAnswered

variable {P : Delivery Result → Prop} {run : Completion Result → Sent} {logs : List LogLine}

theorem stopped (f : Fault) : EndsAnswered P fun c => .stopped logs [] c f :=
  fun _ h => absurd rfl h

theorem delivered {w : WireRequest} (hd : P d) : EndsAnswered P fun c => .delivered logs [w] c d :=
  fun _ _ => ⟨logs, w, d, hd, rfl⟩

theorem after (lines : List LogLine) (h : EndsAnswered P run) :
    EndsAnswered P fun c => (run c).after lines [] := by
  intro c hne
  obtain ⟨logs, w, d, hd, hrun⟩ := h c hne
  refine ⟨lines ++ logs, w, d, hd, ?_⟩
  show (run c).after lines [] = _
  rw [hrun, Sent.delivered_after]
  rfl

end EndsAnswered

variable (site : Site) (auth : Option Auth) (route : Route)

namespace Site

end Site

/-! ## Implementations -/

namespace Implementation

end Implementation

namespace Client

variable (client : Client) {e : Endpoint Implementation}

end Client

end RouteBook
