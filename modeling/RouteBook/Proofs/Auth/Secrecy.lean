import RouteBook.Proofs.Auth.Preference

/-!
# What the log shows of variables

Two runs of a resolver whose environments have the same variables, empty alike (`SameShape`), and whose
steps differ only in the values they are given (`Step.Alike`). Of a value, a step only asks whether it
is there and whether it is empty. So both runs log the same and end in the same errors (`run_secret`).
-/

namespace RouteBook.Credential

open Entries

/-! ## Runs that differ in values -/

/-- Two environments have the same variables, and these are empty alike. -/
def SameShape (env env' : Entries AnyText) : Prop :=
  ∀ name, (env'.get? name).map (· != .plain "") = (env.get? name).map (· != .plain "")

/-- Two requests differ only in the contents of the value and of the default they give. -/
structure Request.Alike (r r' : Request) : Prop where
  value : r'.value.isNull = r.value.isNull
  envName : r'.envName = r.envName
  default : r'.default.isNull = r.default.isNull
  required : r'.required = r.required

/-- Two steps differ only in the contents of what they are given. -/
inductive Step.Alike : Step → Step → Prop
  | resolve {r r' : Request} (h : r.Alike r') : Alike (.resolve r) (.resolve r')
  | resolveAuth (group : String) : Alike (.resolveAuth group) (.resolveAuth group)

/-- The error that a step ends in. It has the message and the variable that is named. -/
def Answer.error? : Answer → Option CredentialError
  | .resolved (.error e) | .authenticated (.error e) => some e
  | _ => none

variable {env env' : Entries AnyText} {r r' : Request}

/-! ## Variables -/

theorem SameShape.lookUp?_map (h : SameShape env env') (name : AnyText) :
    (lookUp? env' name).map (· != .plain "") = (lookUp? env name).map (· != .plain "") := by
  unfold lookUp?
  cases name.systemName? with
  | none => rfl
  | some s => exact h s

theorem SameShape.isSome_lookUp?_eq (h : SameShape env env') (name : AnyText) :
    (lookUp? env' name).isSome = (lookUp? env name).isSome := by
  have hname := congrArg Option.isSome (h.lookUp?_map name)
  rwa [Option.isSome_map, Option.isSome_map] at hname

theorem isSome_filled? (env : Entries AnyText) (name : String) :
    (filled? env name).isSome = ((lookUp? env name).map (· != .plain "")).getD false := by
  unfold filled?
  cases lookUp? env name with
  | none => rfl
  | some t => cases ht : t != "" <;> simp [Option.filter, ht]

theorem SameShape.isSome_filled?_eq (h : SameShape env env') (name : String) :
    (filled? env' name).isSome = (filled? env name).isSome := by
  rw [isSome_filled?, isSome_filled?, h.lookUp?_map name]

/-! ## One credential -/

theorem find_eq (env : Entries AnyText) (r : Request) :
    find env r =
      if r.value.isNull then
        match fromEnvironment? env r.envName with
        | some (name, v) => (v.toValue, .environment name)
        | none => (r.default, .default)
      else (r.value, .given) := by
  unfold find
  cases r.value <;> rfl

theorem resolve_fst (env : Entries AnyText) {r : Request} (h : r.isAskable = true) :
    (resolve env r).1 = if (find env r).1.isNull then [] else [foundLine (find env r).2] := by
  unfold resolve
  rw [if_pos h]
  rcases find env r with ⟨v, source⟩
  cases v <;> rfl

theorem SameShape.fromEnvironment?_fst (h : SameShape env env') (envName : Option AnyText) :
    (fromEnvironment? env' envName).map Prod.fst = (fromEnvironment? env envName).map Prod.fst := by
  cases envName with
  | none => rfl
  | some name =>
    have hname := h.isSome_lookUp?_eq name
    unfold fromEnvironment?
    by_cases hempty : name = ""
    · simp [hempty]
    · cases hget : lookUp? env name <;> cases hget' : lookUp? env' name <;> simp_all

theorem find_alike (henv : SameShape env env') (h : r.Alike r') :
    (find env' r').2 = (find env r).2 ∧ (find env' r').1.isNull = (find env r).1.isNull := by
  have hfrom := henv.fromEnvironment?_fst r.envName
  rw [find_eq, find_eq, h.value, h.envName]
  cases hvalue : r.value.isNull with
  | false => exact ⟨rfl, h.value⟩
  | true =>
    cases hv : fromEnvironment? env r.envName with
    | none =>
      rw [hv] at hfrom
      rw [Option.map_eq_none_iff.mp hfrom]
      exact ⟨rfl, h.default⟩
    | some found =>
      rw [hv] at hfrom
      obtain ⟨found', hv', hname⟩ := Option.map_eq_some_iff.mp hfrom
      rw [hv']
      exact ⟨congrArg Source.environment hname,
        found'.2.isNull_toValue.trans found.2.isNull_toValue.symm⟩

theorem Request.Alike.isAskable_eq (h : r.Alike r') : r'.isAskable = r.isAskable := by
  unfold isAskable
  rw [h.value, h.envName]

/-- Credentials with values alike resolve with the same line in the log, or none, and the same error,
or none. -/
theorem resolve_alike (henv : SameShape env env') (h : r.Alike r') :
    (resolve env' r').1 = (resolve env r).1 ∧
      Answer.error? (.resolved (resolve env' r').2) = Answer.error? (.resolved (resolve env r).2) := by
  obtain ⟨hsource, hnull⟩ := find_alike henv h
  cases hr : r.isAskable with
  | false =>
    rw [resolve_of_not_askable env hr, resolve_of_not_askable env' (h.isAskable_eq.trans hr)]
    exact ⟨rfl, rfl⟩
  | true =>
    have hr' := h.isAskable_eq.trans hr
    constructor
    · rw [resolve_fst env hr, resolve_fst env' hr', hsource, hnull]
    · rw [resolve_snd hr, resolve_snd hr', hnull, h.required, h.envName]
      split <;> rfl

/-! ## Sets of variables -/

theorem SameShape.lines_eq (h : SameShape env env') (group : String) (set : VariableSet) :
    set.lines env' group = set.lines env group :=
  VariableSet.lines_congr fun part _ => h.isSome_lookUp?_eq (variableName group part)

theorem SameShape.isSome_offer?_eq (h : SameShape env env') (group : String) (set : VariableSet) :
    (set.offer? env' group).isSome = (set.offer? env group).isSome := by
  rw [VariableSet.isSome_offer?, VariableSet.isSome_offer?]
  simp only [h.isSome_filled?_eq]

/-- Environments of the same shape pass over the same sets and take the same one. -/
theorem resolveSets_alike (h : SameShape env env') (group : String) (sets : List VariableSet) :
    (resolveSets env' group sets).1 = (resolveSets env group sets).1 := by
  induction sets with
  | nil => rfl
  | cons set rest ih =>
    have hoffer := h.isSome_offer?_eq group set
    rw [resolveSets_cons, resolveSets_cons, h.lines_eq]
    cases hset : set.offer? env group <;> cases hset' : set.offer? env' group
    · exact congrArg (set.lines env group ++ ·) ih
    · simp [hset, hset'] at hoffer
    · simp [hset, hset'] at hoffer
    · rfl

/-! ## Runs -/

/-- What a step logs, and the error it ends in, do not depend on the values. -/
theorem Resolver.step_alike {c c' : Resolver} {s s' : Step} (henv : SameShape c.env c'.env)
    (hlogs : c'.logs = c.logs) (h : s.Alike s') :
    (c'.step s').1.logs = (c.step s).1.logs ∧ (c'.step s').2.error? = (c.step s).2.error? := by
  cases h with
  | resolve h =>
    obtain ⟨hlines, herror⟩ := resolve_alike henv h
    rw [step_resolve, step_resolve, hlines, hlogs]
    exact ⟨rfl, herror⟩
  | resolveAuth group =>
    rw [step_resolveAuth, step_resolveAuth]
    unfold resolveAuth
    rw [resolveSets_alike henv, resolveSets_snd, resolveSets_snd, hlogs]
    exact ⟨rfl, rfl⟩

/-- The environments stay as they are, so each pair of steps is alike in them. -/
theorem Resolver.run_alike {c c' : Resolver} {steps steps' : List Step}
    (henv : SameShape c.env c'.env) (hlogs : c'.logs = c.logs)
    (h : List.Forall₂ Step.Alike steps steps') :
    (c'.run steps').1.logs = (c.run steps).1.logs ∧
      (c'.run steps').2.map Answer.error? = (c.run steps).2.map Answer.error? := by
  induction h generalizing c c' with
  | nil => exact ⟨hlogs, rfl⟩
  | @cons s s' steps steps' hs _ ih =>
    obtain ⟨hline, herror⟩ := step_alike henv hlogs hs
    have hnext : SameShape (c.step s).1.env (c'.step s').1.env := by
      rwa [step_env, step_env]
    obtain ⟨hrest, herrors⟩ := ih hnext hline
    exact ⟨hrest, List.cons_eq_cons.mpr ⟨herror, herrors⟩⟩

/-! ## Main result -/

/-- **Values are never logged.** Two resolvers without a file, in environments that have the same
variables, empty alike, log the same and end in the same errors, step by step, if they are asked for the
same with other given values and defaults. -/
theorem run_secret (henv : SameShape env env') {steps steps' : List Step}
    (hsteps : List.Forall₂ Step.Alike steps steps') :
    ∃ c c', (Resolver.start env .ignored).2 = .ok c ∧ (Resolver.start env' .ignored).2 = .ok c' ∧
      (c'.run steps').1.logs = (c.run steps).1.logs ∧
      (c'.run steps').2.map Answer.error? = (c.run steps).2.map Answer.error? :=
  ⟨⟨env, []⟩, ⟨env', []⟩, rfl, rfl, Resolver.run_alike henv rfl hsteps⟩

/-- The log does not tell one token from another, nor one given value from another. -/
theorem run_secret_token :
    let env : Entries AnyText := [("API_TOKEN", "ghp_a"), ("API_KEY", "")]
    let env' : Entries AnyText := [("API_KEY", ""), ("API_TOKEN", "ghp_bb")]
    let steps : List Step := [.resolve { value := .text "a" }, .resolve { envName := some "API_KEY" },
      .resolve { envName := some "API_SECRET", required := true }, .resolveAuth "api"]
    let steps' : List Step := [.resolve { value := .text "" }, .resolve { envName := some "API_KEY" },
      .resolve { envName := some "API_SECRET", required := true }, .resolveAuth "api"]
    SameShape env env' ∧ List.Forall₂ Step.Alike steps steps' ∧
      ∃ c c', (Resolver.start env .ignored).2 = .ok c ∧ (Resolver.start env' .ignored).2 = .ok c' ∧
        (c'.run steps').1.logs = (c.run steps).1.logs ∧
        (c.run steps).1.logs.map LogLine.text =
          ["Resolved credential from explicit parameter: ***",
            "Resolved credential from environment variable 'API_KEY': ***",
            "Resolved credential from environment variable 'API_TOKEN': ***"] ∧
        (c'.run steps').2.map Answer.error? =
          [none, none, some (.notFound (some "API_SECRET")), none] := by
  intro env env' steps steps'
  have henv : SameShape env env' := by
    intro name
    simp only [env, env', get?_cons]
    split_ifs with htoken hkey
    · exact absurd (htoken.trans hkey.symm) (by decide)
    all_goals rfl
  have hsteps : List.Forall₂ Step.Alike steps steps' :=
    .cons (.resolve ⟨rfl, rfl, rfl, rfl⟩) (.cons (.resolve ⟨rfl, rfl, rfl, rfl⟩)
      (.cons (.resolve ⟨rfl, rfl, rfl, rfl⟩) (.cons (.resolveAuth "api") .nil)))
  obtain ⟨c, c', hc, hc', hlogs, herrors⟩ := run_secret henv hsteps
  obtain rfl := Except.ok.inj hc
  refine ⟨henv, hsteps, _, c', hc, hc', hlogs, by decide +kernel, ?_⟩
  rw [herrors]
  decide +kernel

end RouteBook.Credential
