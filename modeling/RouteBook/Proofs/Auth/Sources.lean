import RouteBook.Auth.Resolver
import RouteBook.Proofs.Entries
import RouteBook.Proofs.Fault.Bind

/-!
# Sources of credentials

A file of variables fills gaps in the environment and changes nothing in it (`setMissing_eq_append`,
`get?_setMissing`). The steps of a resolver leave the environment alone, so what a step gives depends on
no other step (`run_answers`). Together these settle the order of the sources: a given value, the
environment, the file, the default (`resolver_sources`).

Of the library that loads the file only this is supposed (`VariableFile.Binds`): it sets the variables
that the file binds one after another, and none that is there already.
-/

namespace RouteBook.Credential

open Entries

/-! ## Filling gaps -/

/-- The environment after some variables are set, one after another. Names that are set already keep their
value, and a name that is bound to nothing is passed over. -/
def setMissing (env : Entries AnyText) : Entries (Option AnyText) → Entries AnyText
  | [] => env
  | (_, none) :: rest => setMissing env rest
  | (name, some v) :: rest => setMissing (if env.has name then env else env.put name v) rest

/-- What is supposed of a file of variables and of the library that loads it. The variables that it comes
to have distinct names, none of them empty, and it sets those that are missing. If loading ends well these
are all variables that the file binds, and none if there is no file. -/
inductive VariableFile.Binds (env : Entries AnyText) :
    VariableFile → Entries (Option AnyText) → Prop
  | ignored : Binds env .ignored []
  | read {load : Loader} {bound : Entries (Option AnyText)} (hkeys : bound.keys.Nodup)
    (hnamed : "" ∉ bound.keys) (hsets : (load env).1 = setMissing env bound) :
    Binds env (.read load) bound

theorem setMissing_eq_append (env : Entries AnyText) (bound : Entries (Option AnyText)) :
    ∃ added, setMissing env bound = env ++ added ∧
      ∀ e ∈ added, e.1 ∉ env.keys ∧ (e.1, some e.2) ∈ bound := by
  induction bound generalizing env with
  | nil => exact ⟨[], (List.append_nil env).symm, fun e he => absurd he List.not_mem_nil⟩
  | cons b rest ih =>
    obtain ⟨name, value⟩ := b
    have hskip : ∃ added, setMissing env rest = env ++ added ∧
        ∀ e ∈ added, e.1 ∉ env.keys ∧ (e.1, some e.2) ∈ (name, value) :: rest := by
      obtain ⟨added, hadded, hall⟩ := ih env
      exact ⟨added, hadded, fun e he => ⟨(hall e he).1, List.mem_cons_of_mem _ (hall e he).2⟩⟩
    cases value with
    | none => exact hskip
    | some v =>
      rw [setMissing]
      split
      · exact hskip
      · next hunset =>
        have hnew : name ∉ env.keys := fun hmem => hunset (has_of_mem hmem)
        obtain ⟨added, hadded, hall⟩ := ih (env.put name v)
        rw [put_of_not_mem v hnew] at hadded hall
        refine ⟨(name, v) :: added, ?_, List.forall_mem_cons.mpr ⟨⟨hnew, List.mem_cons_self⟩, ?_⟩⟩
        · rw [put_of_not_mem v hnew, hadded, List.append_assoc, List.singleton_append]
        · intro e he
          obtain ⟨hkeys, hbound⟩ := hall e he
          refine ⟨fun hmem => hkeys ?_, List.mem_cons_of_mem _ hbound⟩
          rw [keys, List.map_append]
          exact List.mem_append_left _ hmem

theorem get?_setMissing {env : Entries AnyText} {bound : Entries (Option AnyText)}
    (hkeys : bound.keys.Nodup) (name : String) :
    (setMissing env bound).get? name = (env.get? name).or (bound.get? name).join := by
  induction bound generalizing env with
  | nil => exact (Option.or_none).symm
  | cons b rest ih =>
    obtain ⟨key, value⟩ := b
    obtain ⟨hkey, hrest⟩ := nodup_keys_cons.mp hkeys
    rw [get?_cons]
    cases value with
    | none =>
      rw [setMissing, ih hrest]
      split_ifs with hname
      · have hnone : Entries.get? rest name = none := get?_of_not_mem (hname ▸ hkey)
        rw [hnone]
        rfl
      · rfl
    | some v =>
      rw [setMissing, ih hrest]
      split_ifs with hhas hname hname
      · obtain ⟨old, hold⟩ := Option.isSome_iff_exists.mp hhas
        rw [← hname, hold]
        rfl
      · rfl
      · have hnone : env.get? key = none := Option.not_isSome_iff_eq_none.mp hhas
        rw [← hname, get?_put_self, hnone]
        rfl
      · rw [get?_put_of_ne env v (Ne.symm hname)]

/-! ## Steps of a resolver -/

namespace Resolver

theorem step_resolve (c : Resolver) (r : Request) :
    c.step (.resolve r) =
      (⟨c.env, c.logs ++ (resolve c.env r).1⟩, .resolved (resolve c.env r).2) := by
  simp only [step]

theorem step_resolveAuth (c : Resolver) (group : String) :
    c.step (.resolveAuth group) =
      (⟨c.env, c.logs ++ (resolveAuth c.env group).1⟩,
        .authenticated (resolveAuth c.env group).2) := by
  simp only [step]

theorem step_env (c : Resolver) (s : Step) : (c.step s).1.env = c.env := by
  cases s with
  | resolve r => rw [step_resolve]
  | resolveAuth group => rw [step_resolveAuth]

theorem step_answer_of_env {c c' : Resolver} (h : c.env = c'.env) (s : Step) :
    (c.step s).2 = (c'.step s).2 := by
  cases s with
  | resolve r => rw [step_resolve, step_resolve, h]
  | resolveAuth group => rw [step_resolveAuth, step_resolveAuth, h]

theorem run_env (c : Resolver) (steps : List Step) : (c.run steps).1.env = c.env := by
  induction steps generalizing c with
  | nil => rfl
  | cons s rest ih => exact (ih _).trans (step_env c s)

/-- A step of a run gives what it gives alone, since none changes the environment. -/
theorem run_answers (c : Resolver) (steps : List Step) :
    (c.run steps).2 = steps.map fun s => (c.step s).2 := by
  induction steps generalizing c with
  | nil => rfl
  | cons s rest ih =>
    show (c.step s).2 :: ((c.step s).1.run rest).2 = _
    rw [ih, List.map_cons]
    congr 1
    exact List.map_congr_left fun s' _ => step_answer_of_env (step_env c s) s'

end Resolver

/-! ## The order of the sources -/

/-- The first of some values that is not null, or null. -/
def firstGiven (vs : List Value) : Value :=
  (vs.find? fun v => !v.isNull).getD .null

/-- The value of a variable, null if there is none. -/
def ofVariable (v : Option AnyText) : Value :=
  (v.map AnyText.toValue).getD .null

/-- The sources of a credential in their order: the given value, the variable that the environment has,
the variable that the file binds, the default. -/
def Request.sources (r : Request) (env : Entries AnyText) (bound : Entries (Option AnyText)) :
    List Value :=
  [r.value, ofVariable (r.envName.bind (lookUp? env)),
    ofVariable (r.envName.bind fun name => (lookUp? bound name).join), r.default]

/-- The first source that has the credential, or the error that a required one is nowhere. -/
def Request.answer (r : Request) (env : Entries AnyText) (bound : Entries (Option AnyText)) :
    Except CredentialError Value :=
  let found := firstGiven (r.sources env bound)
  if found.isNull && r.required then .error (.notFound r.envName) else .ok found

theorem firstGiven_cons (v : Value) (vs : List Value) :
    firstGiven (v :: vs) = if v.isNull then firstGiven vs else v := by
  cases hv : v.isNull <;> simp [firstGiven, hv]

theorem firstGiven_singleton (v : Value) : firstGiven [v] = v := by
  cases v <;> rfl

theorem find_fst (env : Entries AnyText) (r : Request) :
    (find env r).1 =
      firstGiven [r.value, ofVariable ((fromEnvironment? env r.envName).map Prod.snd), r.default] := by
  rw [firstGiven_cons, firstGiven_cons, firstGiven_singleton]
  unfold find
  cases r.value with
  | null => rcases fromEnvironment? env r.envName with _ | ⟨name, v | v⟩ <;> rfl
  | _ => rfl

theorem resolve_snd {env : Entries AnyText} {r : Request} (h : r.isAskable = true) :
    (resolve env r).2 =
      if (find env r).1.isNull && r.required then .error (.notFound r.envName)
      else .ok (find env r).1 := by
  unfold resolve
  rw [if_pos h]
  rcases find env r with ⟨v, source⟩
  cases v <;> rfl

theorem resolve_of_not_askable (env : Entries AnyText) {r : Request} (h : r.isAskable = false) :
    resolve env r = ([], .error (.fault .unencodable)) := by
  unfold resolve
  rw [h]
  rfl

theorem fromEnvironment?_map_snd {env : Entries AnyText} (h : env.get? "" = none)
    (envName : Option AnyText) :
    (fromEnvironment? env envName).map Prod.snd = envName.bind (lookUp? env) := by
  cases envName with
  | none => rfl
  | some name =>
    by_cases hname : name = ""
    · have hempty : lookUp? env ↑"" = none := h
      simp [fromEnvironment?, hname, hempty]
    · cases hget : lookUp? env name <;> simp [fromEnvironment?, hname, hget]

theorem lookUp?_setMissing {env : Entries AnyText} {bound : Entries (Option AnyText)}
    (hkeys : bound.keys.Nodup) (name : AnyText) :
    lookUp? (setMissing env bound) name = (lookUp? env name).or (lookUp? bound name).join := by
  unfold lookUp?
  cases name.systemName? with
  | none => rfl
  | some s => exact get?_setMissing hkeys s

theorem resolve_answer {env : Entries AnyText} {bound : Entries (Option AnyText)}
    (hkeys : bound.keys.Nodup) (hempty : (setMissing env bound).get? "" = none) {r : Request}
    (hr : r.isAskable = true) : (resolve (setMissing env bound) r).2 = r.answer env bound := by
  have hfind : (find (setMissing env bound) r).1 = firstGiven (r.sources env bound) := by
    rw [find_fst, fromEnvironment?_map_snd hempty]
    unfold Request.sources
    simp only [firstGiven_cons]
    cases r.envName with
    | none => rfl
    | some name =>
      simp only [Option.bind_some, lookUp?_setMissing hkeys]
      rcases lookUp? env name with _ | (s | s) <;> rfl
  rw [resolve_snd hr, hfind]
  rfl

/-! ## Making a resolver -/

namespace VariableFile.Binds

variable {env : Entries AnyText} {file : VariableFile} {bound : Entries (Option AnyText)}

theorem keys (h : file.Binds env bound) : bound.keys.Nodup ∧ "" ∉ bound.keys := by
  cases h with
  | ignored => exact ⟨List.nodup_nil, List.not_mem_nil⟩
  | read hkeys hnamed _ => exact ⟨hkeys, hnamed⟩

theorem start_fst (h : file.Binds env bound) :
    (Resolver.start env file).1 = setMissing env bound := by
  cases h with
  | ignored => rfl
  | @read load _ _ _ hsets =>
    rw [← hsets]
    unfold Resolver.start
    dsimp only
    split <;> rfl

end VariableFile.Binds

theorem Resolver.env_of_start {env : Entries AnyText} {file : VariableFile} {c : Resolver}
    (h : (start env file).2 = .ok c) : c.env = (start env file).1 := by
  cases file with
  | ignored =>
    obtain rfl := Except.ok.inj h
    rfl
  | read load =>
    unfold start at h ⊢
    dsimp only at h ⊢
    cases hload : (load env).2 <;> rw [hload] at h
    case fault f => exact nomatch h
    all_goals
      obtain rfl := Except.ok.inj h
      rfl

theorem Resolver.exists_start (env : Entries AnyText) (file : VariableFile) :
    (∃ c, (start env file).2 = .ok c) ∨ ∃ load f, file = .read load ∧ (load env).2 = .fault f := by
  cases file with
  | ignored => exact .inl ⟨_, rfl⟩
  | read load =>
    unfold start
    dsimp only
    cases hload : (load env).2 with
    | fault f => exact .inr ⟨load, f, rfl, hload⟩
    | done | refused _ => exact .inl ⟨_, rfl⟩

/-! ## Main result -/

/-- **Order of the sources.** Making a resolver keeps the variables of the environment and adds only
such as its file binds and the environment lacks, and it gives a resolver unless loading ends with a fault.
No step of the resolver changes the environment, each gives what it gives alone, and a credential comes
from the first source that has it. Where none is given and the system cannot have a variable of the name,
asking for it is a fault. No variable of a process has an empty name. -/
theorem resolver_sources {env : Entries AnyText} {file : VariableFile}
    {bound : Entries (Option AnyText)} (hnamed : "" ∉ env.keys) (hfile : file.Binds env bound) :
    (∃ added, (Resolver.start env file).1 = env ++ added ∧
      ∀ e ∈ added, e.1 ∉ env.keys ∧ bound.get? e.1 = some (some e.2)) ∧
    ((∃ c, (Resolver.start env file).2 = .ok c) ∨
      ∃ load f, file = .read load ∧ (load env).2 = .fault f) ∧
    ∀ c, (Resolver.start env file).2 = .ok c →
      c.env = (Resolver.start env file).1 ∧
      ∀ steps, (c.run steps).1.env = c.env ∧
        (c.run steps).2 = steps.map (fun s => (c.step s).2) ∧
        ∀ r, (r.isAskable = true → (c.step (.resolve r)).2 = .resolved (r.answer env bound)) ∧
          (r.isAskable = false →
            (c.step (.resolve r)).2 = .resolved (.error (.fault .unencodable))) := by
  obtain ⟨hnodup, hempty⟩ := hfile.keys
  refine ⟨?_, Resolver.exists_start env file, fun c hc => ?_⟩
  · obtain ⟨added, hadded, hall⟩ := setMissing_eq_append env bound
    refine ⟨added, hfile.start_fst.trans hadded, fun e he => ?_⟩
    obtain ⟨hnew, hbound⟩ := hall e he
    exact ⟨hnew, get?_of_mem hnodup hbound⟩
  · have henv := Resolver.env_of_start hc
    have hset : c.env = setMissing env bound := henv.trans hfile.start_fst
    have hnone : (setMissing env bound).get? "" = none := by
      rw [get?_setMissing hnodup, get?_of_not_mem hnamed, get?_of_not_mem hempty]
      rfl
    refine ⟨henv, fun steps => ⟨Resolver.run_env c steps, Resolver.run_answers c steps, fun r => ?_⟩⟩
    rw [Resolver.step_resolve, hset]
    exact ⟨fun hr => by rw [resolve_answer hnodup hnone hr],
      fun hr => by rw [resolve_of_not_askable _ hr]⟩

/-- An empty variable goes before the file, and what no source has is not found. -/
theorem resolver_sources_gap :
    let env : Entries AnyText := [("API_TOKEN", "")]
    let bound : Entries (Option AnyText) := [("API_TOKEN", some "secret"), ("API_KEY", some "abc")]
    let file : VariableFile := .read fun env => (setMissing env bound, .done)
    let steps : List Step :=
      [.resolve { envName := some "API_TOKEN", default := .text "none" },
        .resolve { envName := some "API_KEY", required := true }, .resolveAuth "other",
        .resolve { envName := some "API_SECRET", required := true }]
    "" ∉ env.keys ∧ file.Binds env bound ∧
      ∃ c, (Resolver.start env file).2 = .ok c ∧ (c.run steps).1.env = c.env ∧
        (c.run steps).2[0]? = some (.resolved (.ok (.text ""))) ∧
        (c.run steps).2[1]? = some (.resolved (.ok (.text "abc"))) ∧
        (c.run steps).2[3]? = some (.resolved (.error (.notFound (some "API_SECRET")))) := by
  intro env bound file steps
  have hnamed : "" ∉ env.keys := by decide
  have hfile : file.Binds env bound := .read (by decide) (by decide) rfl
  obtain ⟨-, -, hresolver⟩ := resolver_sources hnamed hfile
  obtain ⟨c, hc⟩ : ∃ c, (Resolver.start env file).2 = .ok c := ⟨_, rfl⟩
  obtain ⟨henv, hanswers, hresolve⟩ := (hresolver c hc).2 steps
  refine ⟨hnamed, hfile, c, hc, henv, ?_, ?_, ?_⟩
  · rw [hanswers]
    exact congrArg some ((hresolve _).1 rfl)
  · rw [hanswers]
    exact congrArg some ((hresolve _).1 rfl)
  · rw [hanswers]
    exact congrArg some ((hresolve _).1 rfl)

/-- Names that the system refuses end in faults. A file that binds a name with an equals sign leaves no
resolver that could give what it binds, and asking for a name that the system cannot have is not the error
that no source has the credential. -/
theorem refused_names_fault :
    let bound : Entries (Option AnyText) := [("A=B", some "x")]
    let file : VariableFile := .read fun env => (env, .fault .badValue)
    let named : Request := { envName := some "A=B" }
    let unaskable : Request := { envName := some (.ragged ⟨[.lone 0], rfl⟩), required := true }
    (named.answer [] bound = .ok (.text "x") ∧ (Resolver.start [] file).2 = .error .badValue) ∧
      unaskable.answer [] [] = .error (.notFound unaskable.envName) ∧
        ∃ c, (Resolver.start [] .ignored).2 = .ok c ∧
          (c.step (.resolve unaskable)).2 = .resolved (.error (.fault .unencodable)) :=
  ⟨⟨rfl, rfl⟩, rfl, ⟨[], []⟩, rfl, rfl⟩

end RouteBook.Credential
