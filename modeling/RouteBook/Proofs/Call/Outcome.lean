import RouteBook.Client.Build
import RouteBook.Proofs.Call.Ending
import RouteBook.Proofs.Call.Recorded

/-!
# One outcome and at most one request

A call of an endpoint that forwards the response or its document has one outcome: a fault ends it, or
one delivery is taken, and the callback gets that one (`call_settles`). The other side sees at most one
request: none if the message is refused or its file cannot be read (`requests_of_unreadable`), one if
there is a result.
-/

namespace RouteBook

variable {site : Site} {auth : Option Auth} {policy : ErrorPolicy} {b : Behaviour}
  {c : Completion Result}

/-! ## Files that cannot be read -/

namespace Site

/-- A message names a file whose size and octets can be read. -/
def CanRead (site : Site) (message : Value) : Prop :=
  ∃ es, ∃ path : AnyText, ∃ place size octets, message.entries = .ok es ∧
    es.value "filePath" = path.toValue ∧ path.systemName? = some place ∧
    site.files.size (Files.tidy place) = .ok size ∧ site.files.read place = .ok octets

end Site

theorem Call.requests_of_unreadable {e : Endpoint Implementation} {message : Value}
    (hfile : e.route.hasFileBody = true) (hread : ¬ site.CanRead (checked e.route message).1) :
    (dispatch site policy auth e message b c).requests = [] := by
  refine List.eq_nil_iff_forall_not_mem.mpr fun w hw => hread ?_
  obtain ⟨es, hes, hmakes⟩ := makes_of_mem_requests hw
  cases hmakes with
  | ownBody noFile => exact Bool.noConfusion (hfile.symm.trans noFile)
  | fileBody _ _ named placed sized read => exact ⟨es, _, _, _, _, hes, named, placed, sized, read⟩

/-! ## One outcome -/

theorem Completion.outcome_ne_fault {ρ : Type} {c : Completion ρ} {d : Delivery ρ}
    (h : c.held = some d) (f : Fault) : c.outcome ≠ .error (.fault f) := by
  unfold Completion.outcome
  rw [h]
  obtain ⟨error, r⟩ := d
  cases error with
  | none => exact nofun
  | some e =>
    dsimp only
    split <;> exact nofun

namespace CallReport

variable {r : CallReport} {logs : List LogLine} {requests : List WireRequest} {withCallback : Bool}

theorem stopped_spec {f : Fault} (h : r.sent = .stopped logs requests { withCallback } f) :
    r.outcome = .error (.fault f) ∧ r.completion.held = none ∧ r.calls = [] ∧
      r.requests = requests := by
  obtain ⟨after, sent⟩ := r
  obtain rfl : sent = _ := h
  exact ⟨rfl, rfl, rfl, rfl⟩

theorem delivered_spec {d : Delivery Result}
    (h : r.sent =
      ⟨logs, requests, ⟨withCallback, some d, if withCallback then [d] else [], []⟩, none⟩) :
    r.completion = ⟨withCallback, some d, if withCallback then [d] else [], []⟩ ∧
      r.outcome = r.completion.outcome ∧ r.requests = requests := by
  obtain ⟨after, sent⟩ := r
  obtain rfl : sent = _ := h
  exact ⟨rfl, rfl, rfl⟩

end CallReport

namespace Client

variable (client : Client) {e : Endpoint Implementation}

theorem call_cases (himpl : e.implementation = .forward ∨ e.implementation = .documentForward)
    (message : Value) (b : Behaviour) :
    ∃ logs requests, requests.length ≤ 1 ∧
      ((∃ f, (f.Ordinary ∨ b = .faults f) ∧ ∀ withCallback,
          (client.call e message withCallback b).sent =
            .stopped logs requests { withCallback } f) ∨
        ∃ d, (d.error = none → ∃ w, requests = [w]) ∧ (∀ err, d.error = some err → d = .failed err) ∧
          ∀ withCallback, (client.call e message withCallback b).sent =
            ⟨logs, requests, ⟨withCallback, some d, if withCallback then [d] else [], []⟩, none⟩) := by
  obtain ⟨⟨logs, requests, result⟩, hp, hrun⟩ :=
    Call.dispatch_ends client.site client.auth client.policy himpl message b
  have hsent (withCallback : Bool) : (client.call e message withCallback b).sent =
      Ending.settle ⟨logs, requests, result⟩ { withCallback } :=
    congrFun hrun _
  refine ⟨logs, requests, hp.atMostOne, ?_⟩
  cases result with
  | error f => exact Or.inl ⟨f, hp.fault f rfl, hsent⟩
  | ok d => exact Or.inr ⟨d, hp.answered d rfl, fun err => hp.failed d err rfl, hsent⟩

/-- **One outcome, at most one request.** A call never ends without an outcome. Unless a fault ends
it, one delivery is taken and none is dropped, the callback gets that one, and the outcome is what was
delivered. -/
theorem call_settles (himpl : e.implementation = .forward ∨ e.implementation = .documentForward)
    (message : Value) (withCallback : Bool) (hb : b ≠ .faults .noOutcome) :
    let report := client.call e message withCallback b
    report.outcome ≠ .error (.fault .noOutcome) ∧
      ((∃ f, report.outcome = .error (.fault f) ∧ report.completion.held = none ∧
          report.calls = []) ∨
        ∃ d, report.completion.held = some d ∧ report.completion.dropped = [] ∧
          report.calls = (if withCallback then [d] else []) ∧
          report.outcome = report.completion.outcome) ∧
      report.requests.length ≤ 1 ∧
      ((Call.checked e.route message).2 ≠ .ok () → report.requests = []) ∧
      (e.route.hasFileBody = true → ¬ client.site.CanRead (Call.checked e.route message).1 →
        report.requests = []) ∧
      (∀ d, report.completion.held = some d → d.error = none → ∃ w, report.requests = [w]) := by
  intro report
  obtain ⟨logs, requests, hreq, hend⟩ := call_cases client himpl message b
  have hrefused : (Call.checked e.route message).2 ≠ .ok () → report.requests = [] :=
    Call.requests_of_refused
  have hunread : e.route.hasFileBody = true →
      ¬ client.site.CanRead (Call.checked e.route message).1 → report.requests = [] :=
    Call.requests_of_unreadable
  rcases hend with ⟨f, hf, hsent⟩ | ⟨d, hans, -, hsent⟩
  · obtain ⟨hout, hheld, hcalls, hreqs⟩ :=
      CallReport.stopped_spec (r := report) (hsent withCallback)
    refine ⟨fun h => ?_, Or.inl ⟨f, hout, hheld, hcalls⟩, ?_, hrefused, hunread, fun d hd => ?_⟩
    · obtain rfl := Failure.fault.inj (Except.error.inj (hout.symm.trans h))
      exact hf.elim (fun ho => ho rfl) hb
    · rwa [hreqs]
    · exact nomatch hheld.symm.trans hd
  · obtain ⟨hcomp, hout, hreqs⟩ := CallReport.delivered_spec (r := report) (hsent withCallback)
    have hheld : report.completion.held = some d := by rw [hcomp]
    refine ⟨fun h => ?_, Or.inr ⟨d, hheld, ?_, ?_, hout⟩, ?_, hrefused, hunread,
      fun d' hd herr => ?_⟩
    · exact Completion.outcome_ne_fault hheld .noOutcome (hout.symm.trans h)
    · rw [hcomp]
    · rw [CallReport.calls, hcomp]
    · rwa [hreqs]
    · obtain rfl := Option.some.inj (hheld.symm.trans hd)
      rw [hreqs]
      exact hans herr

/-- A document that is fetched with a callback. -/
theorem call_settles_fetch :
    let route : Route :=
      { path := "users/find", space := "users", name := "find", url := .text "/users",
        method := "GET", params := [], host := .text "api.example.com" }
    let client : Client :=
      { site := ⟨.withoutProxy, [], {}, []⟩, version := .null, policy := .asIs, table := ⟨[]⟩,
        ownsConnection := false }
    let report := client.call ⟨route, .documentForward⟩ (.map []) true (.answers (.ofOctets 200 [] []))
    report.outcome ≠ .error (.fault .noOutcome) ∧
      ∃ d w, report.completion.held = some d ∧ report.calls = [d] ∧ report.requests = [w] := by
  intro route client report
  obtain ⟨hout, honce, -, -, -, hone⟩ :=
    call_settles client (e := ⟨route, .documentForward⟩)
      (b := .answers (.ofOctets 200 [] [])) (Or.inr rfl) (.map []) true nofun
  have herror : report.completion.held.map Delivery.error = some none := by decide +kernel
  obtain ⟨d, hd, hnone⟩ := Option.map_eq_some_iff.mp herror
  obtain ⟨w, hw⟩ := hone d hd hnone
  rcases honce with ⟨f, -, hheld, -⟩ | ⟨d', hd', -, hcalls, -⟩
  · exact nomatch hheld.symm.trans hd
  · obtain rfl := Option.some.inj (hd.symm.trans hd')
    exact ⟨hout, d, w, hd, hcalls, hw⟩

end Client

end RouteBook
