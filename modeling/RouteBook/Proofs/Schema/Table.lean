import RouteBook.Proofs.Schema.Routes
import RouteBook.Schema.Table
import Mathlib.Data.List.Nodup

/-!
# What a table holds

A table is made by attaching endpoints one by one at the namespace and the name of their routes
(`Route.place`). What is found at a place is the last endpoint that was attached there
(`get?_attachEach`), so a table holds all routes exactly when no two of them have the same place
(`table_complete_iff`), that is, when no two paths are split into the same names.
-/

namespace RouteBook

variable {ι : Type}

/-- The namespace and the name that a route is found by. -/
def Route.place (r : Route) : String × String :=
  (r.space, r.name)

/-! ## Attaching one endpoint -/

namespace RouteTable

variable (spaces : Entries (Entries (Endpoint ι)))

theorem size_put (space : String) (es : Entries (Endpoint ι)) :
    size ⟨spaces.put space es⟩ + ((spaces.get? space).getD []).length =
      size ⟨spaces⟩ + es.length := by
  induction spaces with
  | nil => simp [size, Entries.put, Entries.get?]
  | cons p rest ih =>
    obtain ⟨s, old⟩ := p
    by_cases hs : s = space
    · simp only [size, Entries.put, Entries.get?, hs, if_true, List.map_cons, List.sum_cons,
        Option.getD_some]
      omega
    · simp only [size] at ih
      simp only [size, Entries.put, Entries.get?, hs, if_false, List.map_cons, List.sum_cons]
      omega

/-- An endpoint that is attached is found at its place; the other places stay. -/
theorem get?_attach (e : Endpoint ι) (space name : String) :
    get? ⟨Compile.attach spaces e⟩ space name =
      if (space, name) = e.route.place then some e else get? ⟨spaces⟩ space name := by
  unfold get? Compile.attach
  dsimp only
  by_cases hs : space = e.route.space
  · subst hs
    rw [Entries.get?_put_self, Option.bind_some]
    by_cases hn : name = e.route.name
    · subst hn
      rw [Entries.get?_put_self]
      exact (if_pos rfl).symm
    · rw [Entries.get?_put_of_ne _ _ hn, if_neg fun h => hn (congrArg Prod.snd h)]
      cases spaces.get? e.route.space <;> rfl
  · rw [Entries.get?_put_of_ne _ _ hs, if_neg fun h => hs (congrArg Prod.fst h)]

/-- A table grows by an endpoint at a new place only. -/
theorem size_attach (e : Endpoint ι) :
    size ⟨Compile.attach spaces e⟩ =
      size ⟨spaces⟩ + if (get? ⟨spaces⟩ e.route.space e.route.name).isSome then 0 else 1 := by
  have hput := size_put spaces e.route.space
    (((spaces.get? e.route.space).getD []).put e.route.name e)
  rw [Entries.length_put] at hput
  have hhas : Entries.has ((spaces.get? e.route.space).getD []) e.route.name =
      (get? ⟨spaces⟩ e.route.space e.route.name).isSome := by
    unfold get? Entries.has
    cases spaces.get? e.route.space <;> rfl
  rw [hhas] at hput
  unfold Compile.attach
  omega

/-! ## Attaching all endpoints -/

/-- What is found at a place is the last endpoint attached there. -/
theorem get?_attachEach (es : List (Endpoint ι)) (space name : String) :
    get? ⟨es.foldl Compile.attach spaces⟩ space name =
      (es.reverse.find? fun e => e.route.place = (space, name)).or
        (get? ⟨spaces⟩ space name) := by
  induction es generalizing spaces with
  | nil => rfl
  | cons e rest ih =>
    rw [List.foldl_cons, ih, get?_attach, List.reverse_cons, List.find?_append, Option.or_assoc]
    congr 1
    by_cases h : e.route.place = (space, name)
    · simp [h]
    · rw [if_neg (Ne.symm h)]
      simp [h]

theorem size_attachEach_le (es : List (Endpoint ι)) :
    size ⟨es.foldl Compile.attach spaces⟩ ≤ size ⟨spaces⟩ + es.length := by
  induction es generalizing spaces with
  | nil => exact Nat.le_refl _
  | cons e rest ih =>
    rw [List.foldl_cons, List.length_cons]
    refine Nat.le_trans (ih (Compile.attach spaces e)) ?_
    rw [size_attach]
    split <;> omega

theorem free_attach_iff (e : Endpoint ι) (rest : List (Endpoint ι)) :
    (∀ e' ∈ rest, get? ⟨Compile.attach spaces e⟩ e'.route.space e'.route.name = none) ↔
      e.route.place ∉ rest.map (fun e' => e'.route.place) ∧
        ∀ e' ∈ rest, get? ⟨spaces⟩ e'.route.space e'.route.name = none := by
  constructor
  · intro h
    refine ⟨fun hm => ?_, fun e' he => ?_⟩
    · obtain ⟨e', he, hplace⟩ := List.mem_map.mp hm
      have hfree := h e' he
      rw [get?_attach, if_pos (show (e'.route.space, e'.route.name) = _ from hplace)] at hfree
      exact nomatch hfree
    · have hfree := h e' he
      rw [get?_attach] at hfree
      split at hfree
      · exact nomatch hfree
      · exact hfree
  · rintro ⟨hnew, hold⟩ e' he
    have hne : (e'.route.space, e'.route.name) ≠ e.route.place :=
      fun hplace => hnew (List.mem_map.mpr ⟨e', he, hplace⟩)
    rw [get?_attach, if_neg hne]
    exact hold e' he

/-- Every endpoint takes a place of its own exactly when their places are distinct and were free. -/
theorem size_attachEach_eq_iff (es : List (Endpoint ι)) :
    size ⟨es.foldl Compile.attach spaces⟩ = size ⟨spaces⟩ + es.length ↔
      (es.map fun e => e.route.place).Nodup ∧
        ∀ e ∈ es, get? ⟨spaces⟩ e.route.space e.route.name = none := by
  induction es generalizing spaces with
  | nil => simp
  | cons e rest ih =>
    rw [List.foldl_cons, List.length_cons, List.map_cons, List.nodup_cons]
    cases hfree : get? ⟨spaces⟩ e.route.space e.route.name with
    | some old =>
      -- The endpoint takes no new place, and the rest cannot make up for it.
      have hle := size_attachEach_le (Compile.attach spaces e) rest
      rw [size_attach, hfree, Option.isSome_some, if_pos rfl] at hle
      refine ⟨fun h => absurd h (by omega), fun h => ?_⟩
      exact nomatch hfree.symm.trans (h.2 e List.mem_cons_self)
    | none =>
      have hsize := size_attach spaces e
      rw [hfree, Option.isSome_none, if_neg Bool.false_ne_true] at hsize
      have hmid : size ⟨spaces⟩ + (rest.length + 1) =
          size ⟨Compile.attach spaces e⟩ + rest.length := by omega
      rw [hmid, ih]
      rw [free_attach_iff, List.forall_mem_cons]
      tauto

theorem find?_place {es : List (Endpoint ι)} (hdistinct : (es.map fun e => e.route.place).Nodup)
    {e : Endpoint ι} (he : e ∈ es) :
    es.reverse.find? (fun e' => e'.route.place = e.route.place) = some e := by
  cases hfind : es.reverse.find? fun e' => e'.route.place = e.route.place with
  | none =>
    exact absurd (decide_eq_true rfl) (List.find?_eq_none.mp hfind e (List.mem_reverse.mpr he))
  | some e' =>
    have hplace : e'.route.place = e.route.place := by simpa using List.find?_some hfind
    have hmem : e' ∈ es := List.mem_reverse.mp (List.mem_of_find?_eq_some hfind)
    rw [List.inj_on_of_nodup_map hdistinct hmem he hplace]

end RouteTable

/-! ## Tables -/

namespace Compile

variable {version : String} {sections : Sections ι} {routes : List Route}
  {spaces out : Entries (Entries (Endpoint ι))}

/-- The endpoints are the routes in their order with their implementations. -/
def Implemented (version : String) (sections : Sections ι) (routes : List Route)
    (es : List (Endpoint ι)) : Prop :=
  List.Forall₂ (fun r e => e.route = r ∧ implementationOf version sections r = .ok e.implementation)
    routes es

theorem Implemented.map_route {es : List (Endpoint ι)}
    (h : Implemented version sections routes es) : es.map Endpoint.route = routes := by
  induction h with
  | nil => rfl
  | cons hr _ ih => rw [List.map_cons, hr.1, ih]

theorem attachAll_eq_ok (h : attachAll version sections routes spaces = .ok out) :
    ∃ es, Implemented version sections routes es ∧ es.foldl attach spaces = out := by
  induction routes generalizing spaces with
  | nil => exact ⟨[], .nil, Except.ok.inj h⟩
  | cons r rest ih =>
    unfold attachAll at h
    cases himpl : implementationOf version sections r with
    | error e =>
      rw [himpl] at h
      exact nomatch h
    | ok f =>
      rw [himpl] at h
      obtain ⟨es, hes, hout⟩ := ih h
      exact ⟨⟨r, f⟩ :: es, .cons ⟨rfl, himpl⟩ hes, hout⟩

/-- Only the first namespace of a name holds endpoints. -/
def FirstHolds (spaces : Entries (Entries (Endpoint ι))) : Prop :=
  spaces.Pairwise fun p q => p.1 = q.1 → q.2 = []

theorem firstHolds_put (h : FirstHolds spaces) (space : String) (es : Entries (Endpoint ι)) :
    FirstHolds (spaces.put space es) := by
  induction spaces with
  | nil => exact List.pairwise_singleton _ _
  | cons p rest ih =>
    obtain ⟨s, old⟩ := p
    obtain ⟨hhead, hrest⟩ := List.pairwise_cons.mp h
    unfold Entries.put
    split
    case isTrue hs =>
      subst hs
      exact List.pairwise_cons.mpr ⟨hhead, hrest⟩
    case isFalse hs =>
      refine List.pairwise_cons.mpr ⟨fun q hq hk => ?_, ih hrest⟩
      rcases Entries.mem_put hq with hq | rfl
      · exact hhead q hq hk
      · exact absurd hk hs

theorem firstHolds_attachEach (h : FirstHolds spaces) (es : List (Endpoint ι)) :
    FirstHolds (es.foldl attach spaces) := by
  induction es generalizing spaces with
  | nil => exact h
  | cons e rest ih => exact ih (firstHolds_put h _ _)

theorem get?_filter (h : FirstHolds spaces) (space name : String) :
    RouteTable.get? ⟨spaces.filter fun s => !s.2.isEmpty⟩ space name =
      RouteTable.get? ⟨spaces⟩ space name := by
  unfold RouteTable.get?
  induction spaces with
  | nil => rfl
  | cons p rest ih =>
    obtain ⟨s, es⟩ := p
    obtain ⟨hhead, hrest⟩ := List.pairwise_cons.mp h
    have hfilter := ih hrest
    dsimp only at hfilter ⊢
    cases es with
    | cons e es =>
      rw [List.filter_cons_of_pos rfl, Entries.get?_cons, Entries.get?_cons]
      by_cases hs : s = space
      · rw [if_pos hs, if_pos hs]
      · rw [if_neg hs, if_neg hs, hfilter]
    | nil =>
      rw [List.filter_cons_of_neg Bool.false_ne_true, hfilter, Entries.get?_cons]
      by_cases hs : s = space
      · rw [if_pos hs]
        cases hget : Entries.get? rest space with
        | none => rfl
        | some later =>
          obtain rfl : later = [] := hhead _ (Entries.mem_of_get? hget) hs
          rfl
      · rw [if_neg hs]

theorem size_filter :
    RouteTable.size ⟨spaces.filter fun s => !s.2.isEmpty⟩ = RouteTable.size ⟨spaces⟩ := by
  unfold RouteTable.size
  dsimp only
  induction spaces with
  | nil => rfl
  | cons p rest ih =>
    obtain ⟨s, es⟩ := p
    cases es with
    | nil =>
      rw [List.filter_cons_of_neg Bool.false_ne_true, ih, List.map_cons, List.sum_cons]
      exact (Nat.zero_add _).symm
    | cons e es =>
      rw [List.filter_cons_of_pos rfl, List.map_cons, List.sum_cons, ih, List.map_cons,
        List.sum_cons]

theorem get?_declared (sections : Sections ι) (space name : String) :
    RouteTable.get? (⟨sections.map fun s => (s.1, [])⟩ : RouteTable ι) space name = none := by
  unfold RouteTable.get?
  cases hget : Entries.get? (sections.map fun s => (s.1, ([] : Entries (Endpoint ι)))) space with
  | none => rfl
  | some es =>
    obtain ⟨s, -, hs⟩ := List.mem_map.mp (Entries.mem_of_get? hget)
    obtain rfl : [] = es := congrArg Prod.snd hs
    rfl

theorem size_declared (sections : Sections ι) :
    RouteTable.size (⟨sections.map fun s => (s.1, [])⟩ : RouteTable ι) = 0 := by
  unfold RouteTable.size
  induction sections with
  | nil => rfl
  | cons s rest ih => exact (Nat.zero_add _).trans ih

/-- A table finds at a place the last route of that place, with its implementation, and has room for all
routes exactly when their places are distinct. -/
theorem table_eq_ok {t : RouteTable ι} (h : table version sections routes = .ok t) :
    ∃ es, Implemented version sections routes es ∧
      (∀ space name, t.get? space name =
        es.reverse.find? fun e => e.route.place = (space, name)) ∧
      (t.size = routes.length ↔ (routes.map Route.place).Nodup) := by
  unfold table at h
  obtain ⟨out, hout, ht⟩ := bind_eq_ok_iff.mp h
  obtain ⟨es, himpl, rfl⟩ := attachAll_eq_ok hout
  obtain rfl := Except.ok.inj ht
  have hfirst : FirstHolds (sections.map fun s => (s.1, ([] : Entries (Endpoint ι)))) := by
    exact List.pairwise_map.mpr (List.pairwise_of_forall fun p q _ => rfl)
  refine ⟨es, himpl, fun space name => ?_, ?_⟩
  · rw [get?_filter (firstHolds_attachEach hfirst es), RouteTable.get?_attachEach, get?_declared,
      Option.or_none]
  · have hlen : routes.length = es.length := himpl.length_eq
    have hsize := RouteTable.size_attachEach_eq_iff (sections.map fun s => (s.1, [])) es
    rw [size_declared, Nat.zero_add] at hsize
    rw [size_filter, hlen, hsize, ← himpl.map_route, List.map_map]
    exact and_iff_left fun e _ => get?_declared sections _ _

/-! ## Namespaces -/

theorem space_mem_of_implementationOf {r : Route} {f : ι}
    (h : implementationOf version sections r = .ok f) : r.space ∈ sections.keys := by
  unfold implementationOf at h
  cases hget : sections.get? r.space with
  | none =>
    rw [hget] at h
    exact nomatch h
  | some functions => exact Entries.mem_keys (Entries.mem_of_get? hget)

theorem keys_attachAll (hkeys : spaces.keys = sections.keys)
    (h : attachAll version sections routes spaces = .ok out) : out.keys = sections.keys := by
  induction routes generalizing spaces with
  | nil =>
    obtain rfl := Except.ok.inj h
    exact hkeys
  | cons r rest ih =>
    unfold attachAll at h
    cases himpl : implementationOf version sections r with
    | error e =>
      rw [himpl] at h
      exact nomatch h
    | ok f =>
      rw [himpl] at h
      have hspace : r.space ∈ spaces.keys := hkeys ▸ space_mem_of_implementationOf himpl
      exact ih ((Entries.keys_put_of_has _ (Entries.has_of_mem hspace)).trans hkeys) h

theorem keys_table {t : RouteTable ι} (h : table version sections routes = .ok t) :
    t.namespaces.keys.Sublist sections.keys := by
  unfold table at h
  obtain ⟨out, hout, ht⟩ := bind_eq_ok_iff.mp h
  obtain rfl := Except.ok.inj ht
  have hdeclared : Entries.keys (sections.map fun s => (s.1, ([] : Entries (Endpoint ι)))) =
      sections.keys := by simp [Entries.keys]
  rw [← keys_attachAll hdeclared hout]
  exact List.filter_sublist.map Prod.fst

end Compile

/-! ## Schemas -/

theorem Schema.place_of_resolve {schema : Value} {resolved : ResolvedSchema}
    (h : Schema.resolve schema = .ok resolved) :
    ∀ r ∈ resolved.routes, r.place = RoutePath.split r.path := by
  obtain ⟨root, -, -, hroutes⟩ := Schema.resolve_eq_ok_iff.mp h
  intro r hr
  obtain ⟨branch, -, hbranch⟩ := mem_of_mapM_eq_ok hroutes r hr
  cases branch with
  | endless => exact nomatch hbranch
  | route path block =>
    obtain ⟨hpath, -, hplace⟩ := Schema.eq_of_resolveRoute hbranch
    rw [hpath]
    exact hplace

/-- **Completeness.** A table has as many endpoints as a schema has routes and holds each route at its
place, exactly when no two paths are split into the same names. -/
theorem table_complete_iff {schema : Value} {resolved : ResolvedSchema} {version : String}
    {sections : Sections ι} {t : RouteTable ι} (hres : Schema.resolve schema = .ok resolved)
    (htab : Compile.table version sections resolved.routes = .ok t) :
    (t.size = resolved.routes.length ∧
        ∀ r ∈ resolved.routes, ∃ e, t.get? r.space r.name = some e ∧ e.route = r) ↔
      (resolved.routes.map fun r => RoutePath.split r.path).Nodup := by
  obtain ⟨es, himpl, hget, hsize⟩ := Compile.table_eq_ok htab
  have hplaces : (resolved.routes.map fun r => RoutePath.split r.path) =
      resolved.routes.map Route.place :=
    List.map_congr_left fun r hr => (Schema.place_of_resolve hres r hr).symm
  rw [hplaces, ← hsize]
  refine ⟨And.left, fun hall => ⟨hall, fun r hr => ?_⟩⟩
  rw [← himpl.map_route] at hr
  obtain ⟨e, he, rfl⟩ := List.mem_map.mp hr
  refine ⟨e, ?_, rfl⟩
  have hdistinct : (es.map fun e => e.route.place).Nodup := by
    rw [hsize, ← himpl.map_route, List.map_map] at hall
    exact hall
  exact (hget _ _).trans (RouteTable.find?_place hdistinct he)

/-- Two routes of one namespace with names of their own. -/
theorem table_complete_distinct :
    let block (url : String) : Value := .map [("url", .text url), ("params", .map [])]
    let schema : Value := .map [("repos", .map [("get-all", block "/a"), ("create", block "/b")])]
    let sections : Sections Bool := [("repos", [("getAll", some true), ("create", some false)])]
    ∃ resolved t, Schema.resolve schema = .ok resolved ∧
      Compile.table "1" sections resolved.routes = .ok t ∧ t.size = resolved.routes.length ∧
      ∀ r ∈ resolved.routes, ∃ e, t.get? r.space r.name = some e ∧ e.route = r := by
  intro block schema sections
  have hpaths : (Schema.resolve schema).map (fun s => s.routes.map Route.path) =
      .ok ["repos/get-all", "repos/create"] := by decide +kernel
  obtain ⟨resolved, hres, hp⟩ := map_eq_ok_iff.mp hpaths
  have hok : ((Schema.resolve schema).map fun s =>
      (Compile.table "1" sections s.routes).isOk) = .ok true := by decide +kernel
  rw [hres] at hok
  obtain ⟨t, htab⟩ := exists_of_isOk (Except.ok.inj hok)
  have hdistinct : (resolved.routes.map fun r => RoutePath.split r.path).Nodup := by
    have h : ((resolved.routes.map Route.path).map RoutePath.split).Nodup := by
      rw [hp]
      decide +kernel
    rwa [List.map_map] at h
  obtain ⟨hsize, hall⟩ := (table_complete_iff hres htab).mpr hdistinct
  exact ⟨resolved, t, hres, htab, hsize, hall⟩

/-- Two paths that are split into the same names: the later route takes the place of the first. -/
theorem table_incomplete_sameNames :
    let block (url : String) : Value := .map [("url", .text url), ("params", .map [])]
    let schema : Value := .map [("repos", .map [("get-all", block "/a"),
      ("get", .map [("all", block "/b")])])]
    let sections : Sections Bool := [("repos", [("getAll", some true)])]
    ∃ resolved t, Schema.resolve schema = .ok resolved ∧
      Compile.table "1" sections resolved.routes = .ok t ∧ resolved.routes.length = 2 ∧
      t.size = 1 ∧ ∃ r ∈ resolved.routes, ∀ e, t.get? r.space r.name = some e → e.route ≠ r := by
  intro block schema sections
  have hroutes : (Schema.resolve schema).map (fun s => s.routes.map fun r => (r.path, r.place)) =
      .ok [("repos/get-all", "repos", "getAll"), ("repos/get/all", "repos", "getAll")] := by
    decide +kernel
  obtain ⟨resolved, hres, hp⟩ := map_eq_ok_iff.mp hroutes
  have htable : ((Schema.resolve schema).map fun s =>
      (Compile.table "1" sections s.routes).toOption.map fun t =>
        (t.size, (t.get? "repos" "getAll").map fun e => e.route.path)) =
      .ok (some (1, some "repos/get/all")) := by decide +kernel
  rw [hres] at htable
  have hlen := congrArg List.length hp
  rw [List.length_map] at hlen
  obtain ⟨r, rest, hr, hfirst, -⟩ := List.map_eq_cons_iff.mp hp
  obtain ⟨hpath, hplace⟩ := Prod.mk.inj hfirst
  obtain ⟨hspace, hname⟩ := Prod.mk.inj hplace
  cases htab : Compile.table "1" sections resolved.routes with
  | error err =>
    rw [Except.map, htab] at htable
    exact nomatch htable
  | ok t =>
    rw [Except.map, htab] at htable
    obtain ⟨hsize, hget⟩ := Prod.mk.inj (Option.some.inj (Except.ok.inj htable))
    refine ⟨resolved, t, hres, htab, hlen, hsize, r, ?_, fun e he hroute => ?_⟩
    · rw [hr]
      exact List.mem_cons_self
    · rw [hspace, hname] at he
      rw [he] at hget
      have hother : e.route.path = "repos/get/all" := Option.some.inj hget
      rw [hroute, hpath] at hother
      exact absurd hother (by decide)

end RouteBook
