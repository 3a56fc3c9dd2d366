import RouteBook.Proofs.Call.Outcome

/-!
# With a callback and without one

The same call with a callback and without one (`call_agrees`): the callback gets the error that the
call without one fails with, or the result that both calls give, and faults, requests and the message
left behind are the same.
-/

namespace RouteBook

variable (client : Client) {e : Endpoint Implementation}

namespace Completion

variable {ρ : Type} {d : Delivery ρ}

theorem outcome_awaited {calls : List (Delivery ρ)} {dropped : List (Option ApiError)} :
    (⟨false, some d, calls, dropped⟩ : Completion ρ).outcome =
      match d.error with
      | some err => .error (.error err)
      | none => .ok d.result := by
  obtain ⟨error, r⟩ := d
  cases error <;> rfl

theorem outcome_told {calls : List (Delivery ρ)} {dropped : List (Option ApiError)} :
    (⟨true, some d, calls, dropped⟩ : Completion ρ).outcome = .ok d.result := by
  obtain ⟨error, r⟩ := d
  cases error <;> rfl

end Completion

namespace Client

/-- **Both styles agree.** The callback gets an error exactly when the call without one fails with it,
and a result exactly when both calls give it. With a callback a call never fails with an error, and
gives null after one. A fault ends both calls or neither; the requests and the message left behind are
equal. -/
theorem call_agrees (himpl : e.implementation = .forward ∨ e.implementation = .documentForward)
    (message : Value) (b : Behaviour) :
    let told := client.call e message true b
    let awaited := client.call e message false b
    (∀ err, (∃ r, told.calls = [⟨some err, r⟩]) ↔ awaited.outcome = .error (.error err)) ∧
      (∀ r, told.calls = [⟨none, r⟩] ↔ told.outcome = .ok r ∧ awaited.outcome = .ok r) ∧
      (∀ err r, told.calls = [⟨some err, r⟩] → told.outcome = .ok (.value .null)) ∧
      (∀ err, told.outcome ≠ .error (.error err)) ∧
      (∀ f, told.outcome = .error (.fault f) ↔ awaited.outcome = .error (.fault f)) ∧
      told.requests = awaited.requests ∧ told.messageAfter = awaited.messageAfter := by
  intro told awaited
  obtain ⟨logs, requests, -, hend⟩ := call_cases client himpl message b
  rcases hend with ⟨f, -, hsent⟩ | ⟨d, -, hfailed, hsent⟩
  · obtain ⟨hout, -, hcalls, hreqs⟩ := CallReport.stopped_spec (r := told) (hsent true)
    obtain ⟨hout', -, -, hreqs'⟩ := CallReport.stopped_spec (r := awaited) (hsent false)
    rw [hout, hout', hcalls, hreqs, hreqs']
    refine ⟨fun err => ⟨?_, fun h => nomatch h⟩, fun r => ⟨fun h => (nomatch h), ?_⟩,
      fun err r h => (nomatch h), fun err h => (nomatch h), fun f => Iff.rfl, rfl, rfl⟩
    · rintro ⟨r, h⟩
      exact nomatch h
    · rintro ⟨h, -⟩
      exact nomatch h
  · obtain ⟨hcomp, hout, hreqs⟩ := CallReport.delivered_spec (r := told) (hsent true)
    obtain ⟨hcomp', hout', hreqs'⟩ := CallReport.delivered_spec (r := awaited) (hsent false)
    have hcalls : told.calls = [d] := congrArg Completion.calls hcomp
    rw [hout, hout', hcalls, hreqs, hreqs', hcomp, hcomp', Completion.outcome_told,
      Completion.outcome_awaited]
    obtain ⟨error, r⟩ := d
    cases error with
    | none =>
      refine ⟨fun err => ⟨?_, nofun⟩, fun r' => ⟨?_, ?_⟩, ?_, nofun, fun f => ⟨nofun, nofun⟩, rfl, rfl⟩
      · rintro ⟨r', h⟩
        exact nomatch h
      · rintro h
        obtain rfl : r = r' := by injection h with h; exact congrArg Delivery.result h
        exact ⟨rfl, rfl⟩
      · rintro ⟨h, -⟩
        obtain rfl : r = r' := Except.ok.inj h
        rfl
      · exact fun err r' h => nomatch h
    | some err =>
      -- An error comes with null for a result, and that is what a call with a callback gives.
      obtain rfl : r = .value .null := congrArg Delivery.result (hfailed err rfl)
      refine ⟨fun err' => ⟨?_, ?_⟩, fun r' => ⟨?_, ?_⟩, fun _ _ _ => rfl, nofun,
        fun f => ⟨nofun, nofun⟩, rfl, rfl⟩
      · rintro ⟨r', h⟩
        injection h with h
        rw [Option.some.inj (congrArg Delivery.error h)]
      · intro h
        rw [Failure.error.inj (Except.error.inj h)]
        exact ⟨_, rfl⟩
      · exact fun h => nomatch h
      · rintro ⟨-, h⟩
        exact nomatch h

/-- A request that is not answered in time. -/
theorem call_agrees_late :
    let route : Route :=
      { path := "users/find", space := "users", name := "find", url := .text "/users",
        method := "GET", params := [], host := .text "api.example.com" }
    let client : Client :=
      { site := ⟨.withoutProxy, [], {}, []⟩, version := .null, policy := .asIs, table := ⟨[]⟩,
        ownsConnection := false }
    let told := client.call ⟨route, .forward⟩ (.map []) true (.timesOut "late")
    let awaited := client.call ⟨route, .forward⟩ (.map []) false (.timesOut "late")
    (∃ r, told.calls = [⟨some .gatewayTimeout, r⟩]) ∧ told.outcome = .ok (.value .null) ∧
      awaited.outcome = .error (.error .gatewayTimeout) ∧ told.requests = awaited.requests := by
  intro route client told awaited
  obtain ⟨herror, -, hnull, -, -, hreqs, -⟩ :=
    call_agrees client (e := ⟨route, .forward⟩) (Or.inl rfl) (.map [])
      (.timesOut "late")
  have hcalls : told.calls.map Delivery.error = [some .gatewayTimeout] := by decide +kernel
  obtain ⟨⟨error, r⟩, hd, rfl⟩ := List.map_eq_singleton_iff.mp hcalls
  exact ⟨⟨r, hd⟩, hnull _ r hd, (herror _).mp ⟨r, hd⟩, hreqs⟩

end Client

end RouteBook
