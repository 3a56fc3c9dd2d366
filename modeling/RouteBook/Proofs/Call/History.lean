import RouteBook.Client.Session
import RouteBook.Proofs.Fault.Bind
import Mathlib.Data.List.Basic

/-!
# Calls and what was before them

A session may set credentials and call endpoints in any order, and calls may fail. A step changes nothing
of a client but its credentials (`step_eq`), so after any number of steps a client is the one that was
built, with the credentials that were given last (`run_eq`). What a call shows depends on nothing else of
the steps before it (`run_independent`).
-/

namespace RouteBook.Client

/-! ## Steps and the client -/

/-- The credentials that a step gives. -/
def Step.given? : Step → Option (Option Auth)
  | .authenticate auth => some auth
  | .call .. => none

/-- The credentials that were given last. -/
def lastGiven (steps : List Step) : Option (Option Auth) :=
  (steps.filterMap Step.given?).getLast?

/-- A client with credentials, if any were given. -/
def given (c : Client) : Option (Option Auth) → Client
  | some auth => c.authenticate auth
  | none => c

theorem given_of_disabled {c : Client} (hfresh : c.auth = none) {auth : Option Auth}
    (h : auth = none ∨ ∃ a, auth = some a ∧ a.enabled = false) : c.authenticate auth = c := by
  have hnone : auth.filter (·.enabled) = none := by
    rcases h with rfl | ⟨a, rfl, ha⟩
    · rfl
    · rw [Option.filter_some, ha]
      rfl
  unfold authenticate
  rw [hnone, ← hfresh]

theorem step_eq (c : Client) (s : Step) : (c.step s).1 = c.given s.given? := by
  cases s with
  | authenticate auth => rfl
  | call space name message withCallback b =>
    unfold step
    dsimp only
    split
    · rfl
    · rfl

theorem lastGiven_cons (s : Step) (steps : List Step) :
    lastGiven (s :: steps) = (lastGiven steps).or s.given? := by
  cases s with
  | authenticate auth =>
    show (auth :: steps.filterMap Step.given?).getLast? = (lastGiven steps).or (some auth)
    rw [List.getLast?_cons]
    unfold lastGiven
    cases (steps.filterMap Step.given?).getLast? <;> rfl
  | call space name message withCallback b =>
    show lastGiven steps = (lastGiven steps).or none
    simp

theorem given_given (c : Client) (first second : Option (Option Auth)) :
    (c.given first).given second = c.given (second.or first) := by
  cases second with
  | none => rfl
  | some auth =>
    cases first with
    | none => rfl
    | some before => rfl

/-- After a session a client is as before, with the credentials that were given last. -/
theorem run_eq (c : Client) (steps : List Step) : (c.run steps).1 = c.given (lastGiven steps) := by
  induction steps generalizing c with
  | nil => rfl
  | cons s steps ih =>
    show ((c.step s).1.run steps).1 = _
    rw [ih, step_eq, given_given, lastGiven_cons]

/-! ## Steps and what they show -/

/-- What a step shows follows from the step and from the client that the steps before it leave. -/
theorem getElem?_run (c : Client) (steps : List Step) (i : Nat) :
    (c.run steps).2[i]? = steps[i]?.map fun s => ((c.run (steps.take i)).1.step s).2 := by
  induction steps generalizing c i with
  | nil => rfl
  | cons s steps ih =>
    cases i with
    | zero => rfl
    | succ i =>
      show ((c.step s).1.run steps).2[i]? = _
      rw [ih]
      rfl

variable {api : ApiClass} {config : Config} {env : Environment} {files : Files} {owns : Bool}
  {client fresh : Client} {lines lines' : List LogLine} {steps : List Step} {i : Nat}
  {space name : String} {message : Value} {withCallback : Bool} {b : Behaviour}

theorem auth_of_build (h : build api config env files owns = .ok (client, lines)) :
    client.auth = none := by
  unfold build at h
  obtain ⟨schema, -, h⟩ := bind_eq_ok_iff.mp h
  obtain ⟨version, -, h⟩ := bind_eq_ok_iff.mp h
  split at h
  · exact nomatch h
  · obtain ⟨rfl, -⟩ := Prod.mk.inj (Except.ok.inj h)
    rfl

/-- **Calls are independent of history.** What a call shows at any place of a session, its requests and
its outcome with it, is what it shows on a fresh client that was given the same credentials, and on a
fresh client as it is if the credentials that were given last say nothing or there were none. -/
theorem run_independent (hclient : build api config env files owns = .ok (client, lines))
    (hfresh : build api config env files owns = .ok (fresh, lines'))
    (hcall : steps[i]? = some (.call space name message withCallback b)) :
    ∃ answer, (client.run steps).2[i]? = some answer ∧
      (∀ e, client.table.get? space name = some e → ∃ report, answer = .called report) ∧
      (∀ auth, lastGiven (steps.take i) = some auth →
        (fresh.run [.authenticate auth, .call space name message withCallback b]).2[1]? =
          some answer) ∧
      (lastGiven (steps.take i) = none ∨ lastGiven (steps.take i) = some none ∨
          (∃ a, lastGiven (steps.take i) = some (some a) ∧ a.enabled = false) →
        (fresh.run [.call space name message withCallback b]).2[0]? = some answer) := by
  have hsame : fresh = client := congrArg Prod.fst (Except.ok.inj (hfresh.symm.trans hclient))
  subst hsame
  have hauth := auth_of_build hfresh
  rw [getElem?_run, hcall, run_eq]
  refine ⟨_, rfl, ?_, ?_, ?_⟩
  · intro e he
    have htable : (fresh.given (lastGiven (steps.take i))).table = fresh.table := by
      cases lastGiven (steps.take i) <;> rfl
    unfold step
    dsimp only
    rw [htable, he]
    exact ⟨_, rfl⟩
  · intro auth hlast
    rw [hlast]
    rfl
  · intro hnothing
    have hgiven : fresh.given (lastGiven (steps.take i)) = fresh := by
      rcases hnothing with hlast | hlast | ⟨a, hlast, ha⟩
      · rw [hlast]
        rfl
      · rw [hlast]
        exact given_of_disabled hauth (.inl rfl)
      · rw [hlast]
        exact given_of_disabled hauth (.inr ⟨a, rfl, ha⟩)
    rw [hgiven]
    rfl

/-- A call with a token that breaks, and a call after the token is taken back. -/
theorem run_independent_takenBack :
    let block : Value := .map [("url", .text "/users"), ("params", .map [])]
    let api : ApiClass :=
      { name := "Users", version := .text "1", schema := .map [("users", .map [("find", block)])],
        sections := [("users", [("find", some .forward)])] }
    let config : Config := { Config.withoutProxy with host := .text "api.test" }
    let find (b : Behaviour) : Step := .call "users" "find" (.map []) false b
    let answered := find (.answers (.ofOctets 200 [] []))
    let steps : List Step :=
      [.authenticate (some { scheme := .token, token := .text "one" }),
        find (.breaks "ConnectError" "refused"), .authenticate none, answered]
    ∃ client lines answer w, build api config [] [] true = .ok (client, lines) ∧
      (client.run steps).2[3]? = some answer ∧ (client.run [answered]).2[0]? = some answer ∧
        answer.requests = [w] := by
  intro block api config find answered steps
  obtain ⟨⟨client, lines⟩, hbuild⟩ : ∃ r, build api config [] [] true = .ok r :=
    exists_of_isOk (by decide +kernel)
  have hcall : steps[3]? = some answered := rfl
  have hlast : lastGiven (steps.take 3) = some none := rfl
  obtain ⟨answer, hanswer, -, -, hfresh⟩ := run_independent hbuild hbuild hcall
  have hone : (build api config [] [] true).map
      (fun r => (r.1.run steps).2[3]?.map fun x => x.requests.length) = .ok (some 1) := by
    decide +kernel
  rw [hbuild] at hone
  have hlength : (client.run steps).2[3]?.map (fun x => x.requests.length) = some 1 :=
    Except.ok.inj hone
  rw [hanswer] at hlength
  obtain ⟨w, hw⟩ := List.length_eq_one_iff.mp (Option.some.inj hlength)
  exact ⟨client, lines, answer, w, hbuild, hanswer, hfresh (.inr (.inl hlast)), hw⟩

end RouteBook.Client
