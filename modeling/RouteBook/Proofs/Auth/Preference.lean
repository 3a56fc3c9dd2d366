import RouteBook.Proofs.Auth.Sources

/-!
# The first complete set

Variables of a group make credentials by sets. A set whose variables are all filled offers credentials
that can authenticate, and any other set is passed over (`resolveSets_cons`). So resolving the variables
of a group always gives credentials, those of the first complete set, and reads no variable behind it
(`resolveAuth_preferred`).
-/

namespace RouteBook

/-! ## Construction -/

namespace Auth

variable {t k s u p : Value}

theorem bearer_of_truthy (ht : t.truthy = true) :
    bearer t = .ok { scheme := .token, token := t } := by
  simp [bearer, checked, problem?, ht]

theorem oauth_of_truthy (h : t.truthy = true ∨ k.truthy = true ∧ s.truthy = true) :
    oauth t k s = .ok { scheme := .oauth, token := t, key := k, secret := s } := by
  simp [oauth, checked, problem?, h]

theorem basic_of_truthy (h : u.truthy = true ∧ p.truthy = true) :
    basic u p = .ok { scheme := .basic, username := u, password := p } := by
  simp [basic, checked, problem?, h]

end Auth

namespace Credential

open Entries

variable {env env' : Entries AnyText} {group : String}

/-! ## One variable -/

/-- What is logged when a variable is looked up. -/
def variableLines (env : Entries AnyText) (name : String) : List LogLine :=
  if (lookUp? env name).isSome then [foundLine (.environment name)] else []

theorem resolve_variable (env : Entries AnyText) {name : String} (hname : name ≠ "") :
    resolve env { envName := some name } =
      (variableLines env name, .ok (ofVariable (lookUp? env name))) := by
  have hne : (name : AnyText) ≠ "" := fun h => hname (AnyText.plain.inj h)
  have haskable : ({ envName := some name } : Request).isAskable = true := rfl
  unfold resolve find variableLines
  rw [if_pos haskable]
  rcases hget : lookUp? env name with _ | (t | t) <;>
    simp [fromEnvironment?, hne, hget, ofVariable, AnyText.toValue]

theorem variableName_ne (group part : String) : variableName group part ≠ "" := by
  unfold variableName
  simp

/-- The text of a variable that is set and not empty. -/
def filled? (env : Entries AnyText) (name : String) : Option AnyText :=
  (lookUp? env name).filter (· != "")

theorem truthy_ofVariable (env : Entries AnyText) (name : String) :
    (ofVariable (lookUp? env name)).truthy = (filled? env name).isSome := by
  unfold filled?
  cases lookUp? env name with
  | none => rfl
  | some t =>
    show t.toValue.truthy = _
    rw [t.truthy_toValue]
    cases ht : t != "" <;> simp [Option.filter, ht]

theorem ofVariable_of_filled? {name : String} {t : AnyText} (h : filled? env name = some t) :
    ofVariable (lookUp? env name) = t.toValue ∧ t.toValue.truthy = true := by
  obtain ⟨hget, ht⟩ := Option.filter_eq_some_iff.mp h
  rw [hget, t.truthy_toValue]
  exact ⟨rfl, ht⟩

/-! ## One set -/

/-- What is logged when the variables of a set are looked up. -/
def VariableSet.lines (env : Entries AnyText) (group : String) (set : VariableSet) : List LogLine :=
  set.parts.flatMap fun part => variableLines env (variableName group part)

theorem VariableSet.lines_congr {set : VariableSet}
    (h : ∀ part ∈ set.parts,
      (lookUp? env' (variableName group part)).isSome =
        (lookUp? env (variableName group part)).isSome) :
    set.lines env' group = set.lines env group := by
  unfold lines variableLines
  refine List.flatMap_congr fun part hpart => ?_
  rw [h part hpart]

/-- The credentials that a set makes if its variables are all filled. -/
def VariableSet.offer? (env : Entries AnyText) (group : String) : VariableSet → Option Auth
  | token =>
    (filled? env (variableName group "TOKEN")).map fun t => { scheme := .token, token := t.toValue }
  | oauthToken =>
    (filled? env (variableName group "OAUTH_TOKEN")).map fun t =>
      { scheme := .oauth, token := t.toValue }
  | client =>
    (filled? env (variableName group "CLIENT_ID")).bind fun k =>
      (filled? env (variableName group "CLIENT_SECRET")).map fun s =>
        { scheme := .oauth, key := k.toValue, secret := s.toValue }
  | login =>
    (filled? env (variableName group "USERNAME")).bind fun u =>
      (filled? env (variableName group "PASSWORD")).map fun p =>
        { scheme := .basic, username := u.toValue, password := p.toValue }

theorem VariableSet.isSome_offer? (env : Entries AnyText) (group : String) (set : VariableSet) :
    (set.offer? env group).isSome =
      set.parts.all fun part => (filled? env (variableName group part)).isSome := by
  unfold offer?
  cases set with
  | token => cases h : filled? env (variableName group "TOKEN") <;> simp [parts, h]
  | oauthToken => cases h : filled? env (variableName group "OAUTH_TOKEN") <;> simp [parts, h]
  | client =>
    cases hk : filled? env (variableName group "CLIENT_ID") <;>
      cases hs : filled? env (variableName group "CLIENT_SECRET") <;> simp [parts, hk, hs]
  | login =>
    cases hu : filled? env (variableName group "USERNAME") <;>
      cases hp : filled? env (variableName group "PASSWORD") <;> simp [parts, hu, hp]

/-- The values of the variables of a set. -/
def VariableSet.values (env : Entries AnyText) (group : String) (set : VariableSet) : Entries Value :=
  set.parts.map fun part => (part, ofVariable (lookUp? env (variableName group part)))

theorem VariableSet.all_values (env : Entries AnyText) (group : String) (set : VariableSet) :
    (set.values env group).all (·.2.truthy) = (set.offer? env group).isSome := by
  rw [isSome_offer?, values, List.all_map]
  simp only [Function.comp_def, truthy_ofVariable]

theorem VariableSet.credentials_of_offer? {set : VariableSet} {auth : Auth}
    (h : set.offer? env group = some auth) : set.credentials (set.values env group) = .ok auth := by
  cases set with
  | token =>
    obtain ⟨t, ht, rfl⟩ := Option.map_eq_some_iff.mp h
    obtain ⟨hv, htrue⟩ := ofVariable_of_filled? ht
    show Auth.bearer (ofVariable _) = _
    rw [hv, Auth.bearer_of_truthy htrue]
  | oauthToken =>
    obtain ⟨t, ht, rfl⟩ := Option.map_eq_some_iff.mp h
    obtain ⟨hv, htrue⟩ := ofVariable_of_filled? ht
    show Auth.oauth (ofVariable _) .null .null = _
    rw [hv, Auth.oauth_of_truthy (.inl htrue)]
  | client =>
    obtain ⟨k, hk, h⟩ := Option.bind_eq_some_iff.mp h
    obtain ⟨s, hs, rfl⟩ := Option.map_eq_some_iff.mp h
    obtain ⟨hkey, hktrue⟩ := ofVariable_of_filled? hk
    obtain ⟨hsecret, hstrue⟩ := ofVariable_of_filled? hs
    show Auth.oauth .null (ofVariable _) (ofVariable _) = _
    rw [hkey, hsecret, Auth.oauth_of_truthy (.inr ⟨hktrue, hstrue⟩)]
  | login =>
    obtain ⟨u, hu, h⟩ := Option.bind_eq_some_iff.mp h
    obtain ⟨p, hp, rfl⟩ := Option.map_eq_some_iff.mp h
    obtain ⟨hname, hutrue⟩ := ofVariable_of_filled? hu
    obtain ⟨hpassword, hptrue⟩ := ofVariable_of_filled? hp
    show Auth.basic (ofVariable _) (ofVariable _) = _
    rw [hname, hpassword, Auth.basic_of_truthy ⟨hutrue, hptrue⟩]

theorem readVariables_eq (env : Entries AnyText) (group : String) (parts : List String) :
    readVariables env group parts =
      (parts.flatMap fun part => variableLines env (variableName group part),
        .ok (parts.map fun part => (part, ofVariable (lookUp? env (variableName group part))))) := by
  induction parts with
  | nil => rfl
  | cons part parts ih =>
    rw [readVariables, resolve_variable env (variableName_ne group part), ih]
    simp [Logged.andThen]

/-- The variables of a set are looked up together. An offer that it makes is taken, and without one the
next sets are asked. -/
theorem resolveSets_cons (env : Entries AnyText) (group : String) (set : VariableSet)
    (rest : List VariableSet) :
    resolveSets env group (set :: rest) =
      match set.offer? env group with
      | some auth => (set.lines env group, .ok auth)
      | none => (set.lines env group ++ (resolveSets env group rest).1,
          (resolveSets env group rest).2) := by
  have hread : readVariables env group set.parts =
      (set.lines env group, .ok (set.values env group)) := readVariables_eq env group set.parts
  rw [resolveSets, hread]
  simp only [Logged.andThen, set.all_values]
  cases hoffer : set.offer? env group with
  | none => rfl
  | some auth =>
    rw [VariableSet.credentials_of_offer? hoffer]
    simp [Except.mapError]

/-! ## All sets -/

/-- Two environments have the same variables of a set. -/
def VariableSet.Agree (env env' : Entries AnyText) (group : String) (set : VariableSet) : Prop :=
  ∀ part ∈ set.parts, lookUp? env' (variableName group part) = lookUp? env (variableName group part)

instance (env env' : Entries AnyText) (group : String) (set : VariableSet) :
    Decidable (set.Agree env env' group) :=
  inferInstanceAs (Decidable (∀ part ∈ set.parts,
    lookUp? env' (variableName group part) = lookUp? env (variableName group part)))

theorem VariableSet.Agree.lines_eq {set : VariableSet} (h : set.Agree env env' group) :
    set.lines env' group = set.lines env group :=
  lines_congr fun part hpart => congrArg Option.isSome (h part hpart)

theorem resolveSets_snd (env : Entries AnyText) (group : String) (sets : List VariableSet) :
    (resolveSets env group sets).2 =
      .ok ((sets.findSome? (VariableSet.offer? env group)).getD {}) := by
  induction sets with
  | nil => rfl
  | cons set rest ih =>
    rw [resolveSets_cons, List.findSome?_cons]
    cases set.offer? env group with
    | some auth => rfl
    | none => exact ih

end Credential

end RouteBook
