import RouteBook.Proofs.Decimal.Range
import RouteBook.Proofs.Schema.Routes

/-!
# References to rules

A parameter whose name starts with a dollar sign stands for a rule of the definitions. A schema with a
route that refers to a missing rule is refused, and the problem names the first missing rule of the first
such route (`firstMissing_of_error`). Every other schema resolves, and each name of a parameter has the rule
of its last entry (`rulesOf_of_resolveParams`).

The conditions on a schema (`Regular`) are on the kinds of the values that are read. Where one of them is
not met, resolving may end in a fault before a reference is looked up (`missing_rule_unreported`).
-/

namespace RouteBook.Schema

open Entries

/-! ## Values of the expected kinds -/

/-- A map or nothing. -/
def MapOrNull (v : Value) : Prop :=
  v = .null ∨ v.isMap = true

/-- A list of texts or nothing. -/
def TextsOrNull (v : Value) : Prop :=
  v = .null ∨ ∃ texts : List String, v = .list (texts.map .text)

/-- A truth value or an integer of at most fifty-three bits, or nothing. -/
def SmallOrNull (v : Value) : Prop :=
  v = .null ∨ (∃ b, v = .bool b) ∨ ∃ n : Int, v = .int n ∧ n.natAbs < 2 ^ 53

/-- The entries of a map. Other values have none. -/
def entriesOf (v : Value) : Entries Value :=
  v.entries?.getD []

variable {v : Value} {defines : Defines} {root block : Entries Value} {path x name : String}

theorem entries_of_isMap (h : v.isMap = true) : v.entries = .ok (entriesOf v) := by
  obtain ⟨es, hes⟩ := Option.isSome_iff_exists.mp h
  unfold Value.entries entriesOf
  rw [hes]
  rfl

theorem MapOrNull.entries (h : MapOrNull v) (ht : v.truthy = true) : v.entries = .ok (entriesOf v) := by
  rcases h with rfl | h
  · exact nomatch ht
  · exact entries_of_isMap h

theorem MapOrNull.blockEntries (h : MapOrNull v) : v.blockEntries = .ok (entriesOf v) := by
  unfold Value.blockEntries
  split_ifs with ht
  · exact h.entries ht
  · rcases h with rfl | h
    · rfl
    · cases v with
      | map es | raggedMap es =>
        have hempty : es = [] := by simpa [Value.truthy] using ht
        rw [hempty]
        rfl
      | loop => exact absurd rfl ht
      | _ => simp [Value.isMap, Value.entries?] at h

theorem MapOrNull.exists_rule (h : MapOrNull v) : ∃ rule, Rule.ofSchema v = .ok rule := by
  unfold Rule.ofSchema
  split_ifs with ht
  · rw [h.entries ht]
    exact ⟨_, rfl⟩
  · exact ⟨_, rfl⟩

theorem TextsOrNull.exists_headerNames (h : TextsOrNull v) : ∃ names, headerNames v = .ok names := by
  unfold headerNames
  split_ifs with ht
  · rcases h with rfl | ⟨texts, rfl⟩
    · exact nomatch ht
    · refine ⟨texts.map Text.lower, ?_⟩
      show List.mapM _ (texts.map Value.text) = _
      rw [mapM_eq_ok_iff, List.forall₂_map_left_iff, List.forall₂_map_right_iff]
      exact List.forall₂_same.mpr fun _ _ => rfl
  · exact ⟨_, rfl⟩

theorem SmallOrNull.exists_toFloat (h : SmallOrNull v) (hne : v ≠ .null) : ∃ y, v.toFloat = .ok y := by
  rcases h with rfl | ⟨b, rfl⟩ | ⟨n, rfl, hn⟩
  · exact absurd rfl hne
  · exact ⟨_, rfl⟩
  · have hbound : n.natAbs < Binary64.overflowBound :=
      hn.trans (by unfold Binary64.overflowBound; decide +kernel)
    obtain ⟨y, hy⟩ := Option.isSome_iff_exists.mp ((Binary64.isSome_ofInt?_iff n).mpr hbound)
    refine ⟨y, ?_⟩
    show ((Binary64.ofInt? n).map Except.ok).getD _ = _
    rw [hy]
    rfl

theorem SmallOrNull.exists_toInt (h : SmallOrNull v) (hne : v ≠ .null) : ∃ n, v.toInt = .ok n := by
  rcases h with rfl | ⟨b, rfl⟩ | ⟨n, rfl, -⟩
  · exact absurd rfl hne
  · exact ⟨_, rfl⟩
  · exact ⟨_, rfl⟩

/-! ## Regular schemas -/

/-- The parameters of a block. -/
def paramsOf (block : Entries Value) : Entries Value :=
  entriesOf (block.value "params")

/-- The definitions of a schema. -/
def definesOf (root : Entries Value) : Entries Value :=
  entriesOf (root.value definesKey)

/-- A block of definitions whose values are of the expected kinds. -/
structure RegularDefines (block : Entries Value) : Prop where
  params : MapOrNull (block.value "params")
  rules : ∀ e ∈ paramsOf block, MapOrNull e.2
  constants : MapOrNull (block.value "constants")
  port : SmallOrNull ((entriesOf (block.value "constants")).value "port")
  headers : TextsOrNull (block.value "request-headers")

/-- A block of a route whose values are of the expected kinds, with a method that has a text. -/
structure RegularRoute (block : Entries Value) : Prop where
  rules : ∀ e ∈ paramsOf block, MapOrNull e.2
  headers : TextsOrNull (block.value "request-headers")
  timeout : SmallOrNull (block.value "timeout")
  method : ∃ text, ((block.value "method").orElse (.text "GET")).shown = .ok text

/-- A schema of expected kinds in which the search meets no block that contains itself. -/
structure Regular (root : Entries Value) : Prop where
  isMap : MapOrNull (root.value definesKey)
  defines : RegularDefines (definesOf root)
  finite : .endless ∉ branches "" (sections root)
  routes : ∀ keys block, Reaches (sections root) keys block → RegularRoute block

theorem exists_constants (h : MapOrNull v) (hport : SmallOrNull ((entriesOf v).value "port")) :
    ∃ constants, Constants.ofSchema v = .ok constants := by
  unfold Constants.ofSchema
  split_ifs with ht
  · rw [h.entries ht]
    dsimp only [bind, Except.bind]
    unfold Value.whenTrue?
    by_cases hp : ((entriesOf v).value "port").truthy = true
    · obtain ⟨n, hn⟩ := hport.exists_toInt fun hnull => by simp [hnull, Value.truthy] at hp
      rw [if_pos hp]
      dsimp only
      rw [hn]
      exact ⟨_, rfl⟩
    · rw [if_neg hp]
      exact ⟨_, rfl⟩
  · exact ⟨_, rfl⟩

/-- The definitions of a regular schema can be read. They have the names that it defines. -/
theorem exists_defines (hmap : MapOrNull (root.value definesKey))
    (h : RegularDefines (definesOf root)) :
    ∃ defines, Defines.ofSchema (root.value definesKey) = .ok defines ∧
      defines.params.keys = (paramsOf (definesOf root)).keys := by
  have hrules : ∀ e ∈ paramsOf (definesOf root), ∃ p : String × Rule,
      (do pure (e.1, ← Rule.ofSchema e.2) : Except Fault (String × Rule)) = .ok p := by
    intro e he
    obtain ⟨rule, hrule⟩ := (h.rules e he).exists_rule
    exact ⟨(e.1, rule), bind_eq_ok_iff.mpr ⟨rule, hrule, rfl⟩⟩
  obtain ⟨params, hparams⟩ := exists_mapM_iff.mpr hrules
  obtain ⟨constants, hconstants⟩ := exists_constants h.constants h.port
  obtain ⟨headers, hheaders⟩ := h.headers.exists_headerNames
  refine ⟨{ constants, params, requestHeaders := headers }, ?_, ?_⟩
  · unfold Defines.ofSchema
    refine bind_eq_ok_iff.mpr ⟨_, hmap.blockEntries, ?_⟩
    refine bind_eq_ok_iff.mpr ⟨_, h.params.blockEntries, ?_⟩
    refine bind_eq_ok_iff.mpr ⟨params, hparams, bind_eq_ok_iff.mpr ⟨constants, hconstants, ?_⟩⟩
    exact bind_eq_ok_iff.mpr ⟨headers, hheaders, rfl⟩
  · refine map_of_mapM_eq_ok (fun e p hp => ?_) hparams
    obtain ⟨rule, -, hp⟩ := bind_eq_ok_iff.mp hp
    rw [← Except.ok.inj hp]

/-! ## The rules of a route -/

/-- The name of a parameter: its key without one leading dollar sign. -/
def plainName (key : String) : String :=
  (reference? key).getD key

theorem reference?_eq_some_iff {key : String} : reference? key = some x ↔ key = "$" ++ x := by
  unfold reference?
  constructor
  · intro h
    split at h
    case h_1 rest hkey =>
      rw [← Option.some.inj h, ← String.ofList_toList (s := key), hkey]
      simp
    case h_2 => exact nomatch h
  · rintro rfl
    simp

/-- The rule of one parameter under its name. -/
def namedRule (path : String) (defines : Defines) (param : String × Value) :
    Except SchemaError (String × Rule) :=
  match reference? param.1 with
  | some target =>
    match defines.params.get? target with
    | some rule => .ok (target, rule)
    | none => .error (.problem (.unknownRule target path))
  | none => do
    let rule ← Rule.ofSchema param.2
    pure (param.1, rule)

theorem foldlM_put {ε α β : Type} {step : Entries β → α → Except ε (Entries β)}
    {f : α → Except ε (String × β)}
    (hstep : ∀ acc x, step acc x = (f x).map fun p => acc.put p.1 p.2) (acc : Entries β) (xs : List α) :
    xs.foldlM step acc = (xs.mapM f).map acc.merge := by
  induction xs generalizing acc with
  | nil => rfl
  | cons x xs ih =>
    rw [List.foldlM_cons, List.mapM_cons, hstep]
    cases f x with
    | error e => rfl
    | ok p =>
      show xs.foldlM step (acc.put p.1 p.2) = _
      rw [ih]
      cases xs.mapM f <;> rfl

theorem resolveParams_eq (path : String) (defines : Defines) (params : Entries Value) :
    resolveParams path defines params =
      (params.mapM (namedRule path defines)).map Entries.ofList := by
  refine foldlM_put (fun acc param => ?_) [] params
  obtain ⟨key, v⟩ := param
  unfold namedRule
  dsimp only
  cases reference? key with
  | some target =>
    dsimp only
    cases defines.params.get? target <;> rfl
  | none =>
    dsimp only
    cases Rule.ofSchema v <;> rfl

theorem namedRule_eq_error_iff {param : String × Value} {e : SchemaError} (h : MapOrNull param.2) :
    namedRule path defines param = .error e ↔
      ∃ x, param.1 = "$" ++ x ∧ x ∉ defines.params.keys ∧ e = .problem (.unknownRule x path) := by
  unfold namedRule
  cases hname : reference? param.1 with
  | some target =>
    have hkey := reference?_eq_some_iff.mp hname
    dsimp only
    cases hget : defines.params.get? target with
    | some rule =>
      constructor
      · intro h
        cases h
      · rintro ⟨x, hx, hundefined, -⟩
        obtain rfl : target = x := Option.some.inj (hname.symm.trans (reference?_eq_some_iff.mpr hx))
        exact absurd (mem_keys (mem_of_get? hget)) hundefined
    | none =>
      have hundefined : target ∉ defines.params.keys := fun hmem => by
        simpa [has, hget] using has_of_mem hmem
      constructor
      · intro h
        exact ⟨target, hkey, hundefined, (Except.error.inj h).symm⟩
      · rintro ⟨x, hx, -, rfl⟩
        obtain rfl : target = x := Option.some.inj (hname.symm.trans (reference?_eq_some_iff.mpr hx))
        rfl
  | none =>
    obtain ⟨rule, hrule⟩ := h.exists_rule
    rw [hrule]
    constructor
    · intro h
      cases h
    · rintro ⟨x, hkey, -⟩
      simp [reference?_eq_some_iff.mpr hkey] at hname

/-- A rule that a parameter is given: if it is a reference the one of the definitions, else the one that
its block writes. -/
def GivenRule (defines : Defines) (param : String × Value) (rule : Rule) : Prop :=
  match reference? param.1 with
  | some target => defines.params.get? target = some rule
  | none => Rule.ofSchema param.2 = .ok rule

theorem namedRule_eq_ok {param : String × Value} {p : String × Rule}
    (h : namedRule path defines param = .ok p) :
    p.1 = plainName param.1 ∧ GivenRule defines param p.2 := by
  unfold namedRule at h
  unfold plainName GivenRule
  cases hname : reference? param.1 with
  | some target =>
    rw [hname] at h
    dsimp only at h
    cases hget : defines.params.get? target with
    | some rule =>
      rw [hget] at h
      rw [← Except.ok.inj h]
      exact ⟨rfl, hget⟩
    | none =>
      rw [hget] at h
      exact nomatch h
  | none =>
    rw [hname] at h
    obtain ⟨rule, hrule, h⟩ := bind_eq_ok_iff.mp h
    rw [← Except.ok.inj h]
    exact ⟨rfl, lift_eq_ok_iff.mp hrule⟩

/-- The rules that parameters are given: one for each name, in the order in which the names first come,
and for each name that of its last entry. -/
structure RulesOf (defines : Defines) (params : Entries Value) (rules : Entries Rule) : Prop where
  names : rules.keys = (params.keys.map plainName).eraseDups
  given : ∀ name param, params.last? (fun key => plainName key = name) = some param →
    ∃ rule, GivenRule defines param rule ∧ rules.get? name = some rule

theorem rulesOf_of_resolveParams {params : Entries Value} {rules : Entries Rule}
    (h : resolveParams path defines params = .ok rules) : RulesOf defines params rules := by
  rw [resolveParams_eq] at h
  obtain ⟨pairs, hpairs, rfl⟩ := map_eq_ok_iff.mp h
  have hnames : Entries.keys pairs = params.keys.map plainName := by
    unfold keys
    rw [List.map_map]
    exact map_of_mapM_eq_ok (fun _ _ hp => (namedRule_eq_ok hp).1) hpairs
  refine ⟨by rw [keys_ofList, hnames], fun name param hlast => ?_⟩
  have hrel : Option.Rel (fun e p => GivenRule defines e p.2)
      (params.last? fun key => plainName key = name) (last? (fun key => key = name) pairs) := by
    refine last?_rel ((mapM_eq_ok_iff.mp hpairs).imp fun e p hp => ?_)
    obtain ⟨hname, hgiven⟩ := namedRule_eq_ok hp
    exact ⟨by rw [hname], hgiven⟩
  rw [hlast] at hrel
  cases hrel' : last? (fun key => key = name) pairs with
  | none =>
    rw [hrel'] at hrel
    exact nomatch hrel
  | some p =>
    rw [hrel'] at hrel
    cases hrel with
    | some hgiven =>
      refine ⟨p.2, hgiven, ?_⟩
      show (merge [] pairs).get? name = _
      rw [get?_merge, hrel']
      rfl

/-! ## One route -/

/-- The first name in some keys that is referred to and not defined. -/
def FirstUndefined (defined keys : List String) (x : String) : Prop :=
  x ∉ defined ∧ ∃ before after, keys = before ++ ("$" ++ x) :: after ∧
    ∀ y, "$" ++ y ∈ before → y ∈ defined

theorem resolveParams_eq_error {params : Entries Value} {e : SchemaError}
    (hrules : ∀ param ∈ params, MapOrNull param.2) (h : resolveParams path defines params = .error e) :
    ∃ x, FirstUndefined defines.params.keys params.keys x ∧ e = .problem (.unknownRule x path) := by
  rw [resolveParams_eq, map_eq_error_iff, mapM_eq_error_iff] at h
  obtain ⟨before, param, after, rfl, hbefore, hparam⟩ := h
  obtain ⟨x, hkey, hundefined, rfl⟩ := (namedRule_eq_error_iff (hrules param (by simp))).mp hparam
  refine ⟨x, ⟨hundefined, Entries.keys before, Entries.keys after, ?_, fun y hy => ?_⟩, rfl⟩
  · simp [keys, hkey]
  · by_contra hmissing
    obtain ⟨other, hmem, hother⟩ := List.mem_map.mp hy
    obtain ⟨p, hp⟩ := hbefore other hmem
    have herror : namedRule path defines other = .error (.problem (.unknownRule y path)) :=
      (namedRule_eq_error_iff (hrules other (by simp [hmem]))).mpr ⟨y, hother, hmissing, rfl⟩
    simp [hp] at herror

theorem defined_of_resolveParams {params : Entries Value} {rules : Entries Rule}
    (h : resolveParams path defines params = .ok rules) (hx : "$" ++ x ∈ params.keys) :
    x ∈ defines.params.keys := by
  rw [resolveParams_eq] at h
  obtain ⟨pairs, hpairs, -⟩ := map_eq_ok_iff.mp h
  obtain ⟨param, hmem, hparam⟩ := List.mem_map.mp hx
  obtain ⟨p, hp⟩ := exists_mapM_iff.mp ⟨pairs, hpairs⟩ param hmem
  have hgiven := (namedRule_eq_ok hp).2
  unfold GivenRule at hgiven
  rw [reference?_eq_some_iff.mpr hparam] at hgiven
  exact mem_keys (mem_of_get? hgiven)

variable {r : Route}

theorem params_of_resolveRoute (hroute : IsRoute block) (h : resolveRoute defines path block = .ok r) :
    resolveParams path defines (paramsOf block) = .ok r.params := by
  unfold resolveRoute at h
  dsimp only at h
  obtain ⟨headers, -, h⟩ := bind_eq_ok_iff.mp h
  obtain ⟨method, -, h⟩ := bind_eq_ok_iff.mp h
  obtain ⟨blocks, hblocks, h⟩ := bind_eq_ok_iff.mp h
  obtain ⟨rules, hrules, h⟩ := bind_eq_ok_iff.mp h
  obtain ⟨timeout, -, h⟩ := bind_eq_ok_iff.mp h
  rw [lift_eq_ok_iff, entries_of_isMap hroute.params] at hblocks
  rw [← Except.ok.inj hblocks] at hrules
  rw [← Except.ok.inj h]
  exact hrules

theorem SmallOrNull.exists_timeout (h : SmallOrNull (block.value "timeout")) :
    ∃ timeout, timeoutOf block = .ok timeout := by
  unfold timeoutOf
  split
  case h_1 => exact ⟨none, rfl⟩
  case h_2 hne =>
    obtain ⟨y, hy⟩ := h.exists_toFloat hne
    exact ⟨some y, by rw [hy]; rfl⟩

/-- A regular route fails only in its parameters. -/
theorem resolveRoute_eq_error (hroute : IsRoute block) (h : RegularRoute block) {e : SchemaError}
    (he : resolveRoute defines path block = .error e) :
    resolveParams path defines (paramsOf block) = .error e := by
  obtain ⟨headers, hheaders⟩ := h.headers.exists_headerNames
  obtain ⟨text, htext⟩ := h.method
  have hmethod : methodOf block = .ok (Text.upper text) := by
    unfold methodOf
    rw [htext]
    rfl
  obtain ⟨timeout, htimeout⟩ := h.timeout.exists_timeout
  unfold resolveRoute at he
  dsimp only at he
  rw [lift_eq_ok_iff.mpr hheaders, lift_eq_ok_iff.mpr hmethod,
    lift_eq_ok_iff.mpr (entries_of_isMap hroute.params), lift_eq_ok_iff.mpr htimeout] at he
  cases hparams : resolveParams path defines (paramsOf block) with
  | ok rules =>
    unfold paramsOf at hparams
    dsimp only [bind, Except.bind] at he
    rw [hparams] at he
    exact nomatch he
  | error e' =>
    unfold paramsOf at hparams
    dsimp only [bind, Except.bind] at he
    rw [hparams] at he
    exact congrArg Except.error (Except.error.inj he)

/-! ## All routes -/

theorem Leads.isRoute {keys : List String} (h : Leads v keys block) : IsRoute block := by
  induction h with
  | here hroute => exact hroute
  | through _ _ _ ih => exact ih

theorem Reaches.isRoute {entries : Entries Value} {keys : List String}
    (h : Reaches entries keys block) : IsRoute block := by
  obtain ⟨_, _, _, _, _, hleads⟩ := h
  exact hleads.isRoute

/-- The names of the rules that a schema defines. -/
def definedNames (root : Entries Value) : List String :=
  (paramsOf (definesOf root)).keys

/-- A parameter of a block refers to a rule that the schema does not define. -/
def Missing (root block : Entries Value) (x : String) : Prop :=
  "$" ++ x ∈ (paramsOf block).keys ∧ x ∉ definedNames root

/-- The first missing rule of the first route that refers to one. -/
structure FirstMissing (root : Entries Value) (keys : List String) (block : Entries Value)
    (x : String) : Prop where
  reached : Reaches (sections root) keys block
  first : FirstUndefined (definedNames root) (paramsOf block).keys x
  before : ∀ keys' block' y, Reaches (sections root) keys' block' → Missing root block' y →
    keys' = keys ∧ block' = block ∨ Before (sections root) keys keys'

theorem Regular.of_branches (hmap : MapOrNull (root.value definesKey))
    (hdefines : RegularDefines (definesOf root))
    (hbranches : ∀ b ∈ branches "" (sections root), ∃ path block, b = .route path block ∧
      RegularRoute block) : Regular root := by
  have hends : .endless ∉ branches "" (sections root) := by
    intro hmem
    obtain ⟨_, _, heq, -⟩ := hbranches _ hmem
    exact nomatch heq
  obtain ⟨found, hfound, hfinds⟩ := branches_finds "" (sections root) hends
  refine ⟨hmap, hdefines, hends, fun keys block hreached => ?_⟩
  have hmem : branchTo "" (keys, block) ∈ branches "" (sections root) := by
    rw [hfound]
    exact List.mem_map_of_mem ((hfinds.mem_iff keys block).mpr hreached)
  obtain ⟨path, block', heq, hregular⟩ := hbranches _ hmem
  obtain ⟨-, rfl⟩ := Branch.route.inj heq
  exact hregular

theorem resolve_eq (h : Regular root) :
    ∃ defines found, Defines.ofSchema (root.value definesKey) = .ok defines ∧
      defines.params.keys = definedNames root ∧
      Finds (Reaches (sections root)) (Before (sections root)) found ∧
      resolve (.map root) = (found.mapM fun p => resolveRoute defines (pathTo "" p.1) p.2).map
        fun routes => { defines, routes } := by
  obtain ⟨defines, hdefines, hnames⟩ := exists_defines h.isMap h.defines
  obtain ⟨found, hfound, hfinds⟩ := branches_finds "" (sections root) h.finite
  refine ⟨defines, found, hdefines, hnames, hfinds, ?_⟩
  have hroutes : (branches "" (sections root)).mapM (resolveBranch defines) =
      found.mapM fun p => resolveRoute defines (pathTo "" p.1) p.2 := by
    rw [hfound, List.mapM_map]
    rfl
  have hentries : (liftM (Value.map root).entries : Except SchemaError (Entries Value)) = .ok root :=
    rfl
  unfold resolve
  rw [hentries]
  dsimp only [bind, Except.bind]
  rw [lift_eq_ok_iff.mpr hdefines]
  dsimp only
  rw [hroutes]
  cases found.mapM fun p => resolveRoute defines (pathTo "" p.1) p.2 <;> rfl

variable {found : List (List String × Entries Value)}

theorem not_missing_of_resolveRoute (hnames : defines.params.keys = definedNames root)
    (hroute : IsRoute block) (h : resolveRoute defines path block = .ok r) : ¬ Missing root block x := by
  rintro ⟨hx, hundefined⟩
  rw [← hnames] at hundefined
  exact hundefined (defined_of_resolveParams (params_of_resolveRoute hroute h) hx)

/-- Where a search of a regular schema stops, the first missing rule of the first route that refers to
one is named. -/
theorem firstMissing_of_error (h : Regular root) (hnames : defines.params.keys = definedNames root)
    (hfinds : Finds (Reaches (sections root)) (Before (sections root)) found) {e : SchemaError}
    (he : found.mapM (fun p => resolveRoute defines (pathTo "" p.1) p.2) = .error e) :
    ∃ keys block x, FirstMissing root keys block x ∧
      e = .problem (.unknownRule x (pathTo "" keys)) := by
  obtain ⟨before, ⟨keys, block⟩, after, rfl, hbefore, he⟩ := mapM_eq_error_iff.mp he
  have hreached : Reaches (sections root) keys block := (hfinds.mem_iff keys block).mp (by simp)
  have hregular := h.routes keys block hreached
  obtain ⟨x, hfirst, rfl⟩ :=
    resolveParams_eq_error hregular.rules (resolveRoute_eq_error hreached.isRoute hregular he)
  refine ⟨keys, block, x, ⟨hreached, hnames ▸ hfirst, ?_⟩, rfl⟩
  intro keys' block' y hreached' hmissing
  rcases List.mem_append.mp ((hfinds.mem_iff keys' block').mpr hreached') with hmem | hmem
  · obtain ⟨r, hr⟩ := hbefore _ hmem
    exact absurd hmissing (not_missing_of_resolveRoute hnames hreached'.isRoute hr)
  · rcases List.mem_cons.mp hmem with heq | hmem
    · exact Or.inl (Prod.mk.inj heq)
    · have hordered := (List.pairwise_append.mp hfinds.ordered).2.1
      exact Or.inr ((List.pairwise_cons.mp hordered).1 _ hmem)

theorem FirstMissing.missing {keys : List String} (h : FirstMissing root keys block x) :
    Missing root block x := by
  obtain ⟨hundefined, before, after, hsplit, -⟩ := h.first
  exact ⟨by simp [hsplit], hundefined⟩

/-- What a schema without missing rules resolves to: each route has the rules that its parameters are
given. -/
structure Settles (root : Entries Value) (resolved : ResolvedSchema) : Prop where
  defines : Defines.ofSchema (root.value definesKey) = .ok resolved.defines
  routes : ∀ r ∈ resolved.routes, ∃ keys, Reaches (sections root) keys r.source ∧
    r.path = pathTo "" keys ∧ RulesOf resolved.defines (paramsOf r.source) r.params

/-- A regular schema is refused for the first missing rule, or no rule is missing and it resolves. -/
theorem resolve_cases (h : Regular root) :
    (∃ keys block x, FirstMissing root keys block x ∧
        resolve (.map root) = .error (.problem (.unknownRule x (pathTo "" keys)))) ∨
      (∀ keys block x, Reaches (sections root) keys block → ¬ Missing root block x) ∧
        ∃ resolved, resolve (.map root) = .ok resolved ∧ Settles root resolved := by
  obtain ⟨defines, found, hdefines, hnames, hfinds, hresolve⟩ := resolve_eq h
  cases hroutes : found.mapM fun p => resolveRoute defines (pathTo "" p.1) p.2 with
  | error e =>
    obtain ⟨keys, block, x, hfirst, rfl⟩ := firstMissing_of_error h hnames hfinds hroutes
    exact Or.inl ⟨keys, block, x, hfirst, by rw [hresolve, hroutes]; rfl⟩
  | ok routes =>
    refine Or.inr ⟨fun keys block x hreached => ?_, { defines, routes }, ?_, hdefines, fun r hr => ?_⟩
    · obtain ⟨r, hr⟩ :=
        exists_mapM_iff.mp ⟨routes, hroutes⟩ (keys, block) ((hfinds.mem_iff keys block).mpr hreached)
      exact not_missing_of_resolveRoute hnames hreached.isRoute hr
    · rw [hresolve, hroutes]
      rfl
    · obtain ⟨⟨keys, block⟩, hmem, hbuilt⟩ := mem_of_mapM_eq_ok hroutes r hr
      have hreached : Reaches (sections root) keys block := (hfinds.mem_iff keys block).mp hmem
      obtain ⟨hpath, hsource, -⟩ := eq_of_resolveRoute hbuilt
      rw [hsource]
      exact ⟨keys, hreached, hpath,
        rulesOf_of_resolveParams (params_of_resolveRoute hreached.isRoute hbuilt)⟩

/-- **References.** A regular schema is refused for a problem exactly if a route refers to a rule that is
not defined, and then the problem is the first such name of the first such route. Every other regular
schema resolves, and each route has the rules that its parameters are given. -/
theorem resolve_references (h : Regular root) :
    ((∃ p, resolve (.map root) = .error (.problem p)) ↔
        ∃ keys block x, Reaches (sections root) keys block ∧ Missing root block x) ∧
      (∀ p, resolve (.map root) = .error (.problem p) →
        ∃ keys block x, FirstMissing root keys block x ∧ p = .unknownRule x (pathTo "" keys)) ∧
      ((∀ keys block x, Reaches (sections root) keys block → ¬ Missing root block x) →
        ∃ resolved, resolve (.map root) = .ok resolved ∧ Settles root resolved) := by
  rcases resolve_cases h with ⟨keys, block, x, hfirst, herror⟩ | ⟨hnone, resolved, hok, hsettles⟩
  · refine ⟨⟨fun _ => ⟨keys, block, x, hfirst.reached, hfirst.missing⟩, fun _ => ⟨_, herror⟩⟩,
      ?_, ?_⟩
    · intro p hp
      have hsame := SchemaError.problem.inj (Except.error.inj (herror.symm.trans hp))
      exact ⟨keys, block, x, hfirst, hsame.symm⟩
    · intro hnone
      exact absurd hfirst.missing (hnone keys block x hfirst.reached)
  · refine ⟨⟨?_, ?_⟩, ?_, fun _ => ⟨resolved, hok, hsettles⟩⟩
    · rintro ⟨p, hp⟩
      exact nomatch hok.symm.trans hp
    · rintro ⟨keys, block, x, hreached, hmissing⟩
      exact absurd hmissing (hnone keys block x hreached)
    · intro p hp
      exact nomatch hok.symm.trans hp

/-- A route that refers to a missing rule behind one that is defined, and a route with a reference and a
name of its own for the same parameter. -/
theorem resolve_references_repos :
    let route (params : Entries Value) : Entries Value :=
      [("url", .text "/repos"), ("timeout", .int 500), ("params", .map params)]
    let schema (params : Entries Value) : Entries Value :=
      [("defines", .map [("params", .map [("page", .map [("type", .text "Number")])])]),
        ("repos", .map [("list", .map (route params))])]
    let dangling : Entries Value := [("$page", .null), ("$sort", .null)]
    let settled : Entries Value :=
      [("$page", .null), ("sort", .null), ("page", .map [("required", .bool true)])]
    (∃ p, resolve (.map (schema dangling)) = .error (.problem p)) ∧
      ∃ resolved, resolve (.map (schema settled)) = .ok resolved ∧
        Settles (schema settled) resolved := by
  intro route schema dangling settled
  have hregular (params : Entries Value) (hrules : ∀ e ∈ params, MapOrNull e.2) :
      Regular (schema params) := by
    have hdefines : RegularDefines (definesOf (schema params)) := by
      refine ⟨Or.inr rfl, fun e he => ?_, Or.inl rfl, Or.inl rfl, Or.inl rfl⟩
      rw [List.mem_singleton.mp he]
      exact Or.inr rfl
    refine .of_branches (Or.inr rfl) hdefines fun b hb => ?_
    obtain rfl : b = .route "repos/list" (route params) := List.mem_singleton.mp hb
    exact ⟨_, _, rfl, hrules, Or.inl rfl, Or.inr (Or.inr ⟨500, rfl, by decide⟩), "GET", rfl⟩
  have hdangling : Regular (schema dangling) := hregular dangling (by simp [dangling, MapOrNull])
  have hsettled : Regular (schema settled) :=
    hregular settled (by simp [settled, MapOrNull, Value.isMap, Value.entries?])
  have hnoRoute : ¬ IsRoute [("list", .map (route dangling))] := fun h =>
    Bool.false_ne_true h.url
  have hreached : Reaches (sections (schema dangling)) ["repos", "list"] (route dangling) :=
    ⟨"repos", _, ["list"], rfl, List.mem_singleton.mpr rfl,
      .through ⟨rfl, List.cons_ne_nil _ _, hnoRoute⟩ (List.mem_singleton.mpr rfl)
        (.here ⟨List.cons_ne_nil _ _, rfl, rfl⟩)⟩
  constructor
  · exact (resolve_references hdangling).1.mpr
      ⟨_, _, "sort", hreached, by decide +kernel, by decide +kernel⟩
  · apply (resolve_references hsettled).2.2
    intro keys block x hkeys hmissing
    obtain ⟨p, hp⟩ := (resolve_references hsettled).1.mpr ⟨keys, block, x, hkeys, hmissing⟩
    obtain ⟨resolved, hok⟩ : ∃ s, resolve (.map (schema settled)) = .ok s :=
      exists_of_isOk (by decide +kernel)
    simp [hok] at hp

/-- Two schemas with a missing rule that end in a fault: in one the method of the route has more digits
than may be written, in the other a block that contains itself stands before the route. -/
theorem missing_rule_unreported :
    let route (method : Value) : Entries Value :=
      [("url", .text "/repos"), ("method", method), ("params", .map [("$page", .null)])]
    let long : Entries Value := [("repos", .map (route (.int (10 ^ 4300))))]
    let endless : Entries Value := [("users", .loop), ("repos", .map (route (.text "GET")))]
    (Reaches (sections long) ["repos"] (route (.int (10 ^ 4300))) ∧
        Missing long (route (.int (10 ^ 4300))) "page" ∧
        resolve (.map long) = .error (.fault .badValue)) ∧
      Reaches (sections endless) ["repos"] (route (.text "GET")) ∧
        Missing endless (route (.text "GET")) "page" ∧
        resolve (.map endless) = .error (.fault .endless) := by
  intro route long endless
  have hroute (method : Value) : IsRoute (route method) :=
    ⟨List.cons_ne_nil _ _, rfl, rfl⟩
  have hfault {root : Entries Value} {f : Fault}
      (h : (resolve (.map root)).map (fun s => s.routes.length) = .error (.fault f)) :
      resolve (.map root) = .error (.fault f) := map_eq_error_iff.mp h
  refine ⟨⟨⟨"repos", _, [], rfl, List.mem_singleton.mpr rfl, .here (hroute _)⟩, ?_, ?_⟩,
    ⟨"repos", _, [], rfl, List.mem_cons_of_mem _ List.mem_cons_self, .here (hroute _)⟩, ?_, ?_⟩
  · exact ⟨by decide +kernel, by decide +kernel⟩
  · exact hfault (by decide +kernel)
  · exact ⟨by decide +kernel, by decide +kernel⟩
  · exact hfault (by decide +kernel)

end RouteBook.Schema
