import RouteBook.Client.Call
import RouteBook.Proofs.Fault.OrdinaryRequest

/-!
# How sending ends

Nothing that is sent depends on the completion that takes the outcome: sending ends with one delivery
to it or with a fault and none (`Ending`). Every way to end is proper, from the exchange with the
other side up to the implementation that hands on a document (`send_ends`, `forwardDocument_ends`).
-/

namespace RouteBook

namespace Sent

theorem stopped_after (lines logs : List LogLine) (more requests : List WireRequest)
    (c : Completion Result) (f : Fault) :
    (stopped logs requests c f).after lines more = stopped (lines ++ logs) (more ++ requests) c f :=
  rfl

theorem delivered_after (lines logs : List LogLine) (more requests : List WireRequest)
    (c : Completion Result) (d : Delivery Result) :
    (delivered logs requests c d).after lines more =
      delivered (lines ++ logs) (more ++ requests) c d := by
  unfold delivered after
  dsimp only
  cases (c.deliver d).2 with
  | true => rfl
  | false => simp only [Bool.false_eq_true, if_false, List.append_assoc]

end Sent

/-- A way to end: a log, requests, and one delivery or a fault in its place. -/
structure Ending where
  logs : List LogLine
  requests : List WireRequest
  result : Except Fault (Delivery Result)

namespace Ending

/-- What is left behind when a completion takes the delivery. -/
def settle (e : Ending) (c : Completion Result) : Sent :=
  match e.result with
  | .ok d => .delivered e.logs e.requests c d
  | .error f => .stopped e.logs e.requests c f

/-- The other side saw at most one request, and one if there is a result. An error comes without a
result. A fault is ordinary or that of the other side. -/
structure Proper (b : Behaviour) (e : Ending) : Prop where
  atMostOne : e.requests.length ≤ 1
  answered : ∀ d, e.result = .ok d → d.error = none → ∃ w, e.requests = [w]
  failed : ∀ d err, e.result = .ok d → d.error = some err → d = .failed err
  fault : ∀ f, e.result = .error f → f.Ordinary ∨ b = .faults f

end Ending

/-- What ends in one proper way, whatever the completion. -/
def EndsProperly (b : Behaviour) (run : Completion Result → Sent) : Prop :=
  ∃ e : Ending, e.Proper b ∧ run = e.settle

namespace EndsProperly

variable {b : Behaviour} {run : Completion Result → Sent} {logs : List LogLine}
  {requests : List WireRequest}

theorem stopped {f : Fault} (hf : f.Ordinary ∨ b = .faults f) (hreq : requests.length ≤ 1) :
    EndsProperly b fun c => .stopped logs requests c f :=
  ⟨⟨logs, requests, .error f⟩,
    { atMostOne := hreq
      answered := fun _ h => nomatch h
      failed := fun _ _ h => nomatch h
      fault := fun _ h => Except.error.inj h ▸ hf }, rfl⟩

theorem failed (err : ApiError) (hreq : requests.length ≤ 1) :
    EndsProperly b fun c => .delivered logs requests c (.failed err) :=
  ⟨⟨logs, requests, .ok (.failed err)⟩,
    { atMostOne := hreq
      answered := by
        rintro d h hd
        obtain rfl := Except.ok.inj h
        exact nomatch hd
      failed := by
        rintro d e h hd
        obtain rfl := Except.ok.inj h
        rw [← Option.some.inj hd]
      fault := fun _ h => nomatch h }, rfl⟩

theorem delivered (r : Result) (w : WireRequest) :
    EndsProperly b fun c => .delivered logs [w] c ⟨none, r⟩ :=
  ⟨⟨logs, [w], .ok ⟨none, r⟩⟩,
    { atMostOne := Nat.le_refl 1
      answered := fun _ _ _ => ⟨w, rfl⟩
      failed := by
        rintro d e h hd
        obtain rfl := Except.ok.inj h
        exact nomatch hd
      fault := fun _ h => nomatch h }, rfl⟩

theorem after (lines : List LogLine) (h : EndsProperly b run) :
    EndsProperly b fun c => (run c).after lines [] := by
  obtain ⟨⟨logs, requests, result⟩, hp, rfl⟩ := h
  refine ⟨⟨lines ++ logs, requests, result⟩, ⟨hp.atMostOne, hp.answered, hp.failed, hp.fault⟩, ?_⟩
  funext c
  cases result with
  | error f => exact Sent.stopped_after lines logs [] requests c f
  | ok d => exact Sent.delivered_after lines logs [] requests c d

end EndsProperly

variable (site : Site) (auth : Option Auth) (policy : ErrorPolicy) (route : Route)

/-! ## Sending -/

namespace Site

theorem exchange_ends (o : Outbound) (w : WireRequest) (b : Behaviour) :
    EndsProperly b (exchange o w b) := by
  cases b with
  | answers r =>
    show EndsProperly _ fun c => Sent.delivered _ [w] c (classified r)
    unfold classified
    cases r.error? with
    | some e => exact .failed e (Nat.le_refl 1)
    | none => exact .delivered (.response r) w
  | timesOut text => exact .failed .gatewayTimeout (Nat.le_refl 1)
  | breaks className text => exact .failed _ (Nat.le_refl 1)
  | faults f => exact .stopped (.inr rfl) (Nat.le_refl 1)

theorem perform_ends (o : Outbound) (path : Option FilePath) (b : Behaviour) :
    EndsProperly b (site.perform o path b) := by
  unfold perform
  cases hlines : requestLines o with
  | error f => exact .stopped (.inl (requestLines_ordinary o f hlines)) (Nat.zero_le 1)
  | ok lines =>
    cases hwire : Wire.ofOutbound o [] with
    | error f => exact .stopped (.inl (Wire.ofOutbound_ordinary o [] f hwire)) (Nat.zero_le 1)
    | ok w =>
      cases site.bodyOctets o path with
      | error failure => exact .failed _ (Nat.zero_le 1)
      | ok octets => exact (exchange_ends o { w with body := octets } b).after lines

theorem sendFile_ends (message : Message) (o : Outbound) (b : Behaviour) :
    EndsProperly b (site.sendFile message o b) := by
  unfold sendFile
  cases hpath : filePath? o with
  | error f => exact .stopped (.inl (filePath?_ordinary o f hpath)) (Nat.zero_le 1)
  | ok path? =>
    cases path? with
    | none => exact .failed _ (Nat.zero_le 1)
    | some path =>
      dsimp only
      cases site.files.size (Files.tidy path.name) with
      | error e => exact .failed _ (Nat.zero_le 1)
      | ok size =>
        cases hname : fileName message path.face with
        | error f => exact .stopped (.inl (Value.shown_ordinary _ f hname)) (Nat.zero_le 1)
        | ok name => exact perform_ends site _ _ b

theorem send_ends (message : Message) (b : Behaviour) :
    EndsProperly b (site.send auth route message b) := by
  unfold send
  cases ha : Outbound.assembled site.config site.constants route message with
  | error f =>
    exact .stopped (.inl (Outbound.assembled_ordinary _ _ _ _ f ha)) (Nat.zero_le 1)
  | ok a =>
    dsimp only
    cases ho : Outbound.ofAssembly site.config site.env site.constants route auth message
        (route.format site.constants) a with
    | error f =>
      exact .stopped (.inl (Outbound.ofAssembly_ordinary _ _ _ _ _ _ _ _ f ho)) (Nat.zero_le 1)
    | ok o =>
      refine EndsProperly.after a.warnings ?_
      cases route.hasFileBody with
      | true => exact sendFile_ends site message o b
      | false => exact perform_ends site o none b

theorem sendValue_ends (message : Value) (b : Behaviour) :
    EndsProperly b (site.sendValue auth route message b) := by
  unfold sendValue
  cases hes : message.entries with
  | error f => exact .stopped (.inl (Value.entries_ordinary message f hes)) (Nat.zero_le 1)
  | ok es => exact send_ends site auth route es b

end Site

/-! ## Implementations -/

theorem ErrorPolicy.send_ends (e : ApiError) (b : Behaviour) :
    EndsProperly b (policy.send route e) :=
  .failed _ (Nat.zero_le 1)

namespace Implementation

theorem handOn_ends {inner : Completion Result} {d : Delivery Result} {logs : List LogLine}
    {requests : List WireRequest} (hheld : inner.held = some d) (hreq : requests.length ≤ 1)
    (hans : d.error = none → ∃ w, requests = [w]) (b : Behaviour) :
    EndsProperly b fun c => (handOn policy route inner c).after logs requests := by
  -- Handing on sees no request of its own, so those before it are all.
  have hmore : (requests ++ []).length ≤ 1 := by rwa [List.append_nil]
  have hreport (lines : List LogLine) (e : ApiError) :
      EndsProperly b fun c => ((policy.send route e c).after lines []).after logs requests := by
    simp only [ErrorPolicy.send, Sent.delivered_after]
    exact .failed _ hmore
  have hstop {f : Fault} (hf : f.Ordinary) :
      EndsProperly b fun c => (Sent.stopped [] [] c f).after logs requests := by
    simp only [Sent.stopped_after]
    exact .stopped (.inl hf) hmore
  unfold handOn
  rw [hheld]
  obtain ⟨error, result⟩ := d
  cases error with
  | some e => exact hreport [] e
  | none =>
    obtain ⟨w, rfl⟩ := hans rfl
    cases result with
    | document d => exact hstop (f := noText) nofun
    | value v => exact hstop (f := noText) nofun
    | response r =>
      dsimp only
      cases hd : Document.ofResponse r with
      | ok d =>
        simp only [Sent.delivered_after]
        exact .delivered (.document d) w
      | error f =>
        dsimp only
        cases hf : f.isValueFault with
        | true => exact hreport [notDocument route f] (r.notDocument f)
        | false => exact hstop (Document.ofResponse_ordinary r f hd)

/-- The implementation that hands on a document ends its call as it should. -/
theorem forwardDocument_ends (message : Value) (b : Behaviour) :
    EndsProperly b (forwardDocument site policy auth route message b) := by
  obtain ⟨⟨logs, requests, result⟩, hp, hrun⟩ := Site.sendValue_ends site auth route message b
  unfold forwardDocument
  rw [hrun]
  cases result with
  | error f => exact .stopped (hp.fault f rfl) hp.atMostOne
  | ok d => exact handOn_ends policy route rfl hp.atMostOne (hp.answered d rfl) b

theorem run_ends {impl : Implementation} (himpl : impl = .forward ∨ impl = .documentForward)
    (message : Value) (b : Behaviour) :
    EndsProperly b (impl.run site policy auth route message b) := by
  rcases himpl with rfl | rfl
  · exact Site.sendValue_ends site auth route message b
  · exact forwardDocument_ends site auth policy route message b

end Implementation

/-- A call that is refused ends with the report of the refusal, and any other as its implementation ends. -/
theorem Call.dispatch_ends {e : Endpoint Implementation}
    (himpl : e.implementation = .forward ∨ e.implementation = .documentForward) (message : Value)
    (b : Behaviour) : EndsProperly b (dispatch site policy auth e message b) := by
  unfold dispatch
  rcases hc : checked e.route message with ⟨after, check⟩
  cases check with
  | ok u => exact Implementation.run_ends site auth policy e.route himpl after b
  | error err =>
    cases err with
    | rejected r => exact (ErrorPolicy.send_ends policy e.route r.toError b).after _
    | fault f =>
      refine .stopped (.inl fun hf => ?_) (Nat.zero_le 1)
      have h := Validation.checkValue_ordinary e.route.params (messageOf message) (.fault f)
      rw [show Validation.checkValue e.route.params (messageOf message) = _ from hc] at h
      exact h rfl (hf ▸ rfl)

end RouteBook
