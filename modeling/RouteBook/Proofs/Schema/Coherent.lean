import RouteBook.Proofs.Schema.Table
import RouteBook.Proofs.Value.Long

/-!
# Tables are coherent

A schema has a table exactly when every route has an implementation (`exists_table_iff`). The endpoints
of a table are found by the places of routes, with the implementations of the sections, and the list of
endpoints has what is found and nothing else, each once (`coherent_of_table`).

Without a table the first route that has no implementation is reported. The report shows the block of
the route, so a block that has no text ends the compilation in its place (`report_of_plain`).
-/

namespace RouteBook

open Entries
open Value (Plain HasLong)

variable {ι : Type}

/-- The implementation that sections declare at a place, if there is one. -/
def Sections.implementation? (sections : Sections ι) (space name : String) : Option ι :=
  ((sections.get? space).bind fun functions => functions.get? name).join

/-! ## Tables that list what they hold -/

namespace RouteTable

/-- A table with distinct namespaces, none of them empty, and distinct names in each. -/
structure Proper (t : RouteTable ι) : Prop where
  spaces : t.namespaces.keys.Nodup
  names : ∀ n ∈ t.namespaces, n.2.keys.Nodup
  inhabited : ∀ n ∈ t.namespaces, n.2 ≠ []

variable {t : RouteTable ι}

theorem mem_endpoints_iff {space name : String} {e : Endpoint ι} :
    (space, name, e) ∈ t.endpoints ↔ ∃ es, (space, es) ∈ t.namespaces ∧ (name, e) ∈ es := by
  unfold endpoints
  simp

theorem Proper.mem_endpoints_iff_get? (h : t.Proper) {space name : String} {e : Endpoint ι} :
    (space, name, e) ∈ t.endpoints ↔ t.get? space name = some e := by
  rw [mem_endpoints_iff, get?, Option.bind_eq_some_iff]
  constructor
  · rintro ⟨es, hspace, hname⟩
    exact ⟨es, get?_of_mem h.spaces hspace, get?_of_mem (h.names _ hspace) hname⟩
  · rintro ⟨es, hspace, hname⟩
    exact ⟨es, mem_of_get? hspace, mem_of_get? hname⟩

theorem Proper.nodup_endpoints (h : t.Proper) :
    (t.endpoints.map fun e => (e.1, e.2.1)).Nodup := by
  unfold endpoints
  rw [List.map_flatMap, List.nodup_flatMap]
  constructor
  · rintro ⟨space, es⟩ hmem
    rw [List.map_map, show (fun e => (e.1, e.2.1)) ∘ (fun (p : String × Endpoint ι) =>
      (space, p.1, p.2)) = Prod.mk space ∘ Prod.fst from rfl, ← List.map_map]
    exact (h.names _ hmem).map (Prod.mk_right_injective space)
  · refine (List.pairwise_map.mp h.spaces).imp ?_
    rintro ⟨space, es⟩ ⟨space', es'⟩ hne place hp hp'
    simp only [List.map_map, List.mem_map, Function.comp_apply] at hp hp'
    obtain ⟨p, -, rfl⟩ := hp
    obtain ⟨p', -, heq⟩ := hp'
    exact hne (congrArg Prod.fst heq).symm

theorem size_eq_length (t : RouteTable ι) : t.size = t.endpoints.length := by
  unfold size endpoints
  induction t.namespaces with
  | nil => rfl
  | cons n rest ih =>
    rw [List.map_cons, List.sum_cons, ih, List.flatMap_cons, List.length_append, List.length_map]

end RouteTable

namespace Compile

variable {version : String} {sections : Sections ι} {routes : List Route} {r : Route}
  {spaces : Entries (Entries (Endpoint ι))} {t : RouteTable ι}

/-! ## Two phases -/

/-- The endpoint of a route, or why there is none. -/
def endpointOf (version : String) (sections : Sections ι) (r : Route) :
    Except (List LogLine × SchemaError) (Endpoint ι) :=
  (implementationOf version sections r).map fun f => ⟨r, f⟩

/-- The declared namespaces, without endpoints. -/
def declared (sections : Sections ι) : Entries (Entries (Endpoint ι)) :=
  sections.map fun s => (s.1, [])

theorem attachAll_eq (version : String) (sections : Sections ι) (routes : List Route)
    (spaces : Entries (Entries (Endpoint ι))) :
    attachAll version sections routes spaces =
      (routes.mapM (endpointOf version sections)).map fun es => es.foldl attach spaces := by
  induction routes generalizing spaces with
  | nil => rfl
  | cons r rest ih =>
    rw [attachAll, List.mapM_cons, endpointOf]
    cases implementationOf version sections r with
    | error e => rfl
    | ok f =>
      dsimp only
      rw [ih]
      show _ = Except.map _ (rest.mapM (endpointOf version sections) >>= fun es => pure (⟨r, f⟩ :: es))
      cases rest.mapM (endpointOf version sections) <;> rfl

theorem table_eq (version : String) (sections : Sections ι) (routes : List Route) :
    table version sections routes =
      (routes.mapM (endpointOf version sections)).map fun es =>
        ⟨(es.foldl attach (declared sections)).filter fun s => !s.2.isEmpty⟩ := by
  unfold table
  rw [attachAll_eq]
  cases routes.mapM (endpointOf version sections) <;> rfl

/-! ## What attaching keeps -/

theorem nodup_names_attach (h : ∀ n ∈ spaces, n.2.keys.Nodup) (e : Endpoint ι) :
    ∀ n ∈ attach spaces e, n.2.keys.Nodup := by
  intro n hn
  rcases mem_put hn with hold | rfl
  · exact h n hold
  · refine nodup_keys_put ?_ e.route.name e
    cases hget : spaces.get? e.route.space with
    | none => exact List.nodup_nil
    | some es => exact h _ (mem_of_get? hget)

theorem nodup_names_attachEach (h : ∀ n ∈ spaces, n.2.keys.Nodup) (es : List (Endpoint ι)) :
    ∀ n ∈ es.foldl attach spaces, n.2.keys.Nodup := by
  induction es generalizing spaces with
  | nil => exact h
  | cons e rest ih => exact ih (nodup_names_attach h e)

/-- Where only the first namespace of a name holds endpoints, those that hold some have distinct
names. -/
theorem nodup_keys_filter (h : FirstHolds spaces) :
    (keys (spaces.filter fun s => !s.2.isEmpty)).Nodup := by
  refine List.pairwise_map.mpr ((h.filter _).imp_of_mem fun {p q} _ hq hpq hname => ?_)
  have hinhabited := (List.mem_filter.mp hq).2
  simp [hpq hname] at hinhabited

theorem proper_of_table (h : table version sections routes = .ok t) : t.Proper := by
  rw [table_eq] at h
  obtain ⟨es, -, rfl⟩ := map_eq_ok_iff.mp h
  have hfirst : FirstHolds (declared sections) :=
    List.pairwise_map.mpr (List.pairwise_of_forall fun _ _ _ => rfl)
  have hnames : ∀ n ∈ declared sections, (keys n.2).Nodup := by
    intro n hn
    obtain ⟨s, hs, rfl⟩ := List.mem_map.mp hn
    exact List.nodup_nil
  have hinhabited {n : String × Entries (Endpoint ι)} (hn : n ∈ (es.foldl attach
      (declared sections)).filter fun s => !s.2.isEmpty) : n.2 ≠ [] := by
    intro hempty
    simp [hempty] at hn
  exact
    { spaces := nodup_keys_filter (firstHolds_attachEach hfirst es)
      names := fun n hn => nodup_names_attachEach hnames es n (List.mem_filter.mp hn).1
      inhabited := fun n hn => hinhabited hn }

/-! ## Implementations -/

theorem implementationOf_eq_ok_iff {f : ι} :
    implementationOf version sections r = .ok f ↔
      sections.implementation? r.space r.name = some f := by
  unfold implementationOf Sections.implementation?
  cases sections.get? r.space with
  | none => simp
  | some functions =>
    cases hname : functions.get? r.name with
    | none => simp [hname]
    | some f? => cases f? <;> simp [hname]

theorem implementationOf_eq_error {e : List LogLine × SchemaError}
    (h : implementationOf version sections r = .error e) :
    sections.implementation? r.space r.name = none ∧
      ∃ make : String → String → String → SchemaProblem,
        (∀ version path block, (make version path block).route? = some path) ∧
          e.2 = implementationOf.problem version r make := by
  constructor
  · cases himpl : sections.implementation? r.space r.name with
    | none => rfl
    | some f => exact nomatch (implementationOf_eq_ok_iff.mpr himpl).symm.trans h
  · unfold implementationOf at h
    split at h
    · obtain rfl := Except.error.inj h
      exact ⟨_, fun _ _ _ => rfl, rfl⟩
    · split at h
      · exact nomatch h
      · obtain rfl := Except.error.inj h
        exact ⟨_, fun _ _ _ => rfl, rfl⟩

theorem exists_endpointOf_iff :
    (∃ e, endpointOf version sections r = .ok e) ↔
      ∃ f, sections.implementation? r.space r.name = some f := by
  simp only [endpointOf, map_eq_ok_iff, implementationOf_eq_ok_iff]
  constructor
  · rintro ⟨e, f, hf, -⟩
    exact ⟨f, hf⟩
  · rintro ⟨f, hf⟩
    exact ⟨⟨r, f⟩, f, hf, rfl⟩

theorem exists_table_iff :
    (∃ t, table version sections routes = .ok t) ↔
      ∀ r ∈ routes, ∃ f, sections.implementation? r.space r.name = some f := by
  have hbuilt (r : Route) : (∃ f, sections.implementation? r.space r.name = some f) ↔
      ∃ e, endpointOf version sections r = .ok e :=
    exists_endpointOf_iff.symm
  simp only [hbuilt, ← exists_mapM_iff, table_eq, map_eq_ok_iff]
  constructor
  · rintro ⟨t, es, hes, -⟩
    exact ⟨es, hes⟩
  · rintro ⟨es, hes⟩
    exact ⟨_, es, hes, rfl⟩

theorem table_eq_error_iff {e : List LogLine × SchemaError} :
    table version sections routes = .error e ↔
      ∃ before r after, routes = before ++ r :: after ∧
        (∀ b ∈ before, ∃ f, sections.implementation? b.space b.name = some f) ∧
          implementationOf version sections r = .error e := by
  rw [table_eq, map_eq_error_iff, mapM_eq_error_iff]
  simp only [exists_endpointOf_iff]
  simp only [endpointOf, map_eq_error_iff]

/-! ## The report -/

theorem anyEndless_eq_false_iff {entries : Entries Value} :
    anyEndless entries = false ↔ ∀ e ∈ entries, isEndless e.2 = false := by
  induction entries with
  | nil => simp [anyEndless]
  | cons e rest ih => simp [anyEndless, ih]

theorem isEndless_of_plain {v : Value} (h : Plain v) : isEndless v = false := by
  induction h with
  | map _ ih =>
    rw [isEndless]
    exact anyEndless_eq_false_iff.mpr ih
  | _ => rfl

/-- A block that JSON has a form for is shown, unless an integer in it is too long. -/
theorem describe_failsWhen (h : Plain (.map r.source)) :
    FailsWhen (HasLong (.map r.source)) (describe r) := by
  have hends : anyEndless r.source = false := by
    have := isEndless_of_plain h
    rwa [isEndless] at this
  unfold describe
  rw [if_neg (by simp [hends])]
  exact (Json.write_failsWhen h).map String.ofList

/-- The report of a route names its path, unless its block has an integer that is too long. -/
theorem report_of_plain (hplain : Plain (.map r.source)) {e : List LogLine × SchemaError}
    (h : implementationOf version sections r = .error e) :
    (HasLong (.map r.source) → e.2 = .fault .badValue) ∧
      (¬ HasLong (.map r.source) → ∃ p, e.2 = .problem p ∧ p.route? = some r.path) := by
  obtain ⟨-, make, hmake, he⟩ := implementationOf_eq_error h
  have hshown := describe_failsWhen hplain
  rw [he, implementationOf.problem]
  constructor
  · intro hlong
    rw [hshown.fails hlong]
  · intro hshort
    obtain ⟨block, hblock⟩ := hshown.gives hshort
    rw [hblock]
    exact ⟨_, rfl, hmake version r.path block⟩

/-! ## Tables -/

/-- What a table holds for the routes of a schema. -/
structure Coherent (sections : Sections ι) (routes : List Route) (t : RouteTable ι) : Prop where
  /-- Something is found exactly at the places of routes. -/
  found : ∀ space name, (∃ e, t.get? space name = some e) ↔ ∃ r ∈ routes, r.place = (space, name)
  /-- What is found at a place is a route of that place with the implementation declared there. -/
  endpoint : ∀ space name e, t.get? space name = some e →
    e.route ∈ routes ∧ e.route.space = space ∧ e.route.name = name ∧
      sections.implementation? space name = some e.implementation
  inhabited : ∀ n ∈ t.namespaces, n.2 ≠ []
  declared : t.namespaces.keys.Sublist sections.keys
  /-- The list of endpoints has what is found. -/
  listed : ∀ space name e, (space, name, e) ∈ t.endpoints ↔ t.get? space name = some e
  once : (t.endpoints.map fun e => (e.1, e.2.1)).Nodup
  size : t.size = t.endpoints.length

theorem Implemented.of_mem {es : List (Endpoint ι)} (h : Implemented version sections routes es) :
    ∀ e ∈ es, e.route ∈ routes ∧
      sections.implementation? e.route.space e.route.name = some e.implementation := by
  induction h with
  | nil => exact nofun
  | cons hr _ ih =>
    refine List.forall_mem_cons.mpr ⟨?_, fun e he => ?_⟩
    · rw [hr.1]
      exact ⟨List.mem_cons_self, implementationOf_eq_ok_iff.mp hr.2⟩
    · obtain ⟨hmem, hf⟩ := ih e he
      exact ⟨List.mem_cons_of_mem _ hmem, hf⟩

theorem coherent_of_table (h : table version sections routes = .ok t) :
    Coherent sections routes t := by
  have hproper := proper_of_table h
  obtain ⟨es, himpl, hget, -⟩ := table_eq_ok h
  have hroutes := himpl.map_route
  refine
    { found := fun space name => ?_
      endpoint := fun space name e he => ?_
      inhabited := hproper.inhabited
      declared := keys_table h
      listed := fun _ _ _ => hproper.mem_endpoints_iff_get?
      once := hproper.nodup_endpoints
      size := t.size_eq_length }
  · simp only [hget, ← Option.isSome_iff_exists, List.find?_isSome, List.mem_reverse,
      decide_eq_true_eq]
    constructor
    · rintro ⟨e, he, hplace⟩
      exact ⟨e.route, (himpl.of_mem e he).1, hplace⟩
    · rintro ⟨r, hr, hplace⟩
      rw [← himpl.map_route] at hr
      obtain ⟨e, he, rfl⟩ := List.mem_map.mp hr
      exact ⟨e, he, hplace⟩
  · rw [hget] at he
    have hplace : e.route.place = (space, name) := by simpa using List.find?_some he
    obtain ⟨rfl, rfl⟩ := Prod.mk.inj hplace
    obtain ⟨hmem, hf⟩ := himpl.of_mem e (List.mem_reverse.mp (List.mem_of_find?_eq_some he))
    exact ⟨hmem, rfl, rfl, hf⟩

/-- **Tables are sound.** There is a table exactly when every route has an implementation, and it is
coherent. Otherwise the first route without an implementation is the reason. If JSON has a form for its
block, the reason names its path, unless an integer of the block is too long to be shown. -/
theorem table_sound (version : String) (sections : Sections ι) (routes : List Route) :
    ((∃ t, table version sections routes = .ok t) ↔
        ∀ r ∈ routes, ∃ f, sections.implementation? r.space r.name = some f) ∧
      (∀ t, table version sections routes = .ok t → Coherent sections routes t) ∧
      ∀ e, table version sections routes = .error e →
        ∃ before r after, routes = before ++ r :: after ∧
          (∀ b ∈ before, ∃ f, sections.implementation? b.space b.name = some f) ∧
          sections.implementation? r.space r.name = none ∧
          (Plain (.map r.source) →
            (HasLong (.map r.source) → e.2 = .fault .badValue) ∧
            (¬ HasLong (.map r.source) → ∃ p, e.2 = .problem p ∧ p.route? = some r.path)) := by
  refine ⟨exists_table_iff, fun t => coherent_of_table, fun e he => ?_⟩
  obtain ⟨before, r, after, hroutes, hbefore, hr⟩ := table_eq_error_iff.mp he
  exact ⟨before, r, after, hroutes, hbefore, (implementationOf_eq_error hr).1,
    fun hplain => report_of_plain hplain hr⟩

/-- Two functions of a section that is not the first, and a function that is declared as missing. -/
theorem table_sound_repos :
    let route (name : String) : Route :=
      { path := "repos/" ++ name, space := "repos", name, url := .text "/repos", method := "GET",
        params := [], source := [("url", .text "/repos"), ("params", .map [])] }
    let sections : Sections Bool :=
      [("users", [("find", some true)]),
        ("repos", [("get", some true), ("create", some false), ("fork", none)])]
    (∃ t, table "1" sections [route "create", route "get"] = .ok t ∧
        ∃ e, t.get? "repos" "create" = some e ∧ e.route.name = "create" ∧
          e.implementation = false) ∧
      ∃ lines p, table "1" sections [route "get", route "fork"] = .error (lines, .problem p) ∧
        p.route? = some "repos/fork" := by
  intro route sections
  constructor
  · obtain ⟨hexists, hcoherent, -⟩ := table_sound "1" sections [route "create", route "get"]
    obtain ⟨t, ht⟩ := hexists.mpr (by decide)
    have h := hcoherent t ht
    obtain ⟨e, he⟩ := (h.found "repos" "create").mpr ⟨route "create", List.mem_cons_self, rfl⟩
    obtain ⟨-, -, hname, himpl⟩ := h.endpoint "repos" "create" e he
    exact ⟨t, ht, e, he, hname, (Option.some.inj himpl).symm⟩
  · obtain ⟨hexists, -, hreport⟩ := table_sound "1" sections [route "get", route "fork"]
    cases htable : table "1" sections [route "get", route "fork"] with
    | ok t =>
      have hfork := hexists.mp ⟨t, htable⟩ (route "fork") (by simp)
      exact absurd hfork (by decide)
    | error e =>
      obtain ⟨lines, e⟩ := e
      obtain ⟨before, r, after, hsplit, -, hnone, hpath⟩ := hreport _ htable
      -- The first route has an implementation, so the second one is reported.
      obtain rfl : r = route "fork" := by
        have hr : r ∈ [route "get", route "fork"] := by simp [hsplit]
        rcases List.mem_pair.mp hr with rfl | rfl
        · exact absurd hnone (by decide)
        · rfl
      have hplain : Plain (.map (route "fork").source) := .map (by simp [route, Plain.text, Plain.map])
      have hshort : ¬ HasLong (.map (route "fork").source) := by
        simp only [route, Value.hasLong_map_iff, List.mem_cons, List.not_mem_nil, or_false,
          exists_eq_or_imp, exists_eq_left, false_and, exists_false]
        exact nofun
      obtain ⟨p, rfl, hp⟩ := (hpath hplain).2 hshort
      exact ⟨lines, p, rfl, hp⟩

/-- The report of a missing section is lost when an integer in the block of a route is too long to be
shown. -/
theorem table_unreported_longInteger :
    let block (limit : Int) : Entries Value :=
      [("url", .text "/repos"), ("params", .map []), ("limit", .int limit)]
    let route (limit : Int) : Route :=
      { path := "repos/get", space := "repos", name := "get", url := .text "/repos", method := "GET",
        params := [], source := block limit }
    let schema (limit : Int) : Value := .map [("repos", .map [("get", .map (block limit))])]
    Schema.resolve (schema (10 ^ 4300)) = .ok ⟨{}, [route (10 ^ 4300)]⟩ ∧
      Plain (.map (block (10 ^ 4300))) ∧
      ∃ lines, table "1" ([] : Sections Bool) [route (10 ^ 4300)] =
        .error (lines, .fault .badValue) := by
  intro block route schema
  have hresolve (limit : Int) : Schema.resolve (schema limit) = .ok ⟨{}, [route limit]⟩ := rfl
  have hplain : Plain (.map (block (10 ^ 4300))) :=
    .map (List.forall_mem_cons.mpr ⟨.text _, List.forall_mem_cons.mpr ⟨.map nofun,
      List.forall_mem_cons.mpr ⟨.int _, nofun⟩⟩⟩)
  have hlong : HasLong (.map (block (10 ^ 4300))) :=
    .map (e := ("limit", .int (10 ^ 4300)))
      (List.mem_cons_of_mem _ (List.mem_cons_of_mem _ List.mem_cons_self)) (.int (by decide +kernel))
  refine ⟨hresolve _, hplain, ?_⟩
  cases htable : table "1" ([] : Sections Bool) [route (10 ^ 4300)] with
  | ok t =>
    obtain ⟨f, hf⟩ := exists_table_iff.mp ⟨t, htable⟩ _ List.mem_cons_self
    exact nomatch hf
  | error e =>
    obtain ⟨before, r, after, hsplit, -, hr⟩ := table_eq_error_iff.mp htable
    obtain rfl : r = route (10 ^ 4300) := by
      have hmem : r ∈ before ++ r :: after := List.mem_append_right before List.mem_cons_self
      exact List.mem_singleton.mp (hsplit ▸ hmem)
    obtain ⟨lines, e⟩ := e
    obtain rfl : e = .fault .badValue := (report_of_plain hplain hr).1 hlong
    exact ⟨lines, rfl⟩

end Compile

end RouteBook
