import RouteBook.Proofs.Fault.Bind
import RouteBook.Proofs.Schema.Search
import RouteBook.Proofs.Text.Pieces

/-!
# The routes of a schema

A path is the keys of its route with slashes between them, so the keys are read back from it
(`keysOf_pathTo`). With that the routes that a schema resolves to are the ones that a search of its
sections finds: exactly the routes that keys lead to, in the order of declaration, each once
(`resolve_collects`).
-/

namespace RouteBook.Schema

open Entries
open RouteBook.Text

/-! ## Paths -/

/-- The keys of a path: its parts between slashes. -/
def keysOf (path : String) : List String :=
  (pieces '/' path.toList).map String.ofList

theorem below_of_ne {base : String} (h : base ≠ "") (key : String) :
    RoutePath.below base key = base ++ "/" ++ key := by
  unfold RoutePath.below
  simp [h]

theorem toList_pathTo {base : String} (h : base ≠ "") (keys : List String) :
    (pathTo base keys).toList = joinWith ['/'] (base.toList :: keys.map String.toList) := by
  induction keys generalizing base with
  | nil => rfl
  | cons key keys ih =>
    have hne : base ++ "/" ++ key ≠ "" := by
      intro hempty
      have hlist := congrArg String.toList hempty
      simp at hlist
    show (pathTo (RoutePath.below base key) keys).toList = _
    rw [below_of_ne h, ih hne, List.map_cons, joinWith_singleton]
    cases keys with
    | nil => simp [joinWith]
    | cons next keys =>
      rw [List.map_cons, joinWith_singleton, joinWith_singleton]
      simp

theorem keysOf_pathTo {keys : List String} (hne : keys ≠ [])
    (hparts : ∀ key ∈ keys, isPart key = true) : keysOf (pathTo "" keys) = keys := by
  cases keys with
  | nil => exact absurd rfl hne
  | cons key keys =>
    have hclean : ∀ k ∈ key :: keys, k ≠ "" ∧ '/' ∉ k.toList := by
      intro k hk
      simpa [isPart] using hparts k hk
    have hslashes : ∀ x ∈ (key :: keys).map String.toList, '/' ∉ x := by
      intro x hx
      obtain ⟨k, hk, rfl⟩ := List.mem_map.mp hx
      exact (hclean k hk).2
    have hcons : (key :: keys).map String.toList ≠ [] := by simp
    show (pieces '/' (pathTo key keys).toList).map String.ofList = _
    rw [toList_pathTo (hclean key List.mem_cons_self).1, ← List.map_cons,
      pieces_joinWith hcons hslashes, List.map_map]
    simp

/-! ## Routes and branches -/

variable {root block : Entries Value} {defines : Defines} {resolved : ResolvedSchema} {r : Route}

theorem eq_of_resolveRoute {path : String} (h : resolveRoute defines path block = .ok r) :
    r.path = path ∧ r.source = block ∧ (r.space, r.name) = RoutePath.split path := by
  unfold resolveRoute at h
  obtain ⟨headers, -, h⟩ := bind_eq_ok_iff.mp h
  obtain ⟨method, -, h⟩ := bind_eq_ok_iff.mp h
  obtain ⟨rules, -, h⟩ := bind_eq_ok_iff.mp h
  obtain ⟨params, -, h⟩ := bind_eq_ok_iff.mp h
  obtain ⟨timeout, -, h⟩ := bind_eq_ok_iff.mp h
  rw [← Except.ok.inj h]
  exact ⟨rfl, rfl, rfl⟩

/-- A search whose branches all make routes meets no endless block. -/
theorem endless_not_mem {branches : List Branch} {routes : List Route}
    (h : List.Forall₂ (fun b r => resolveBranch defines b = .ok r) branches routes) :
    .endless ∉ branches := by
  intro hmem
  induction h with
  | nil => exact absurd hmem List.not_mem_nil
  | cons hmade _ ih =>
    rcases List.mem_cons.mp hmem with rfl | hmem
    · exact nomatch hmade
    · exact ih hmem

theorem found_of_routes {found : List (List String × Entries Value)} {routes : List Route}
    (hclean : ∀ p ∈ found, keysOf (pathTo "" p.1) = p.1)
    (h : List.Forall₂ (fun p r => resolveRoute defines (pathTo "" p.1) p.2 = .ok r) found routes) :
    routes.map (fun r => (keysOf r.path, r.source)) = found ∧
      ∀ r ∈ routes, resolveRoute defines r.path r.source = .ok r := by
  induction h with
  | nil => exact ⟨rfl, fun r hr => absurd hr List.not_mem_nil⟩
  | @cons p r found routes hmade _ ih =>
    obtain ⟨hkeys, hrest⟩ := List.forall_mem_cons.mp hclean
    obtain ⟨hmap, hbuilt⟩ := ih hrest
    obtain ⟨hpath, hsource, -⟩ := eq_of_resolveRoute hmade
    constructor
    · rw [List.map_cons, hmap, hpath, hsource, hkeys]
    · rw [List.forall_mem_cons, hpath, hsource]
      exact ⟨hmade, hbuilt⟩

/-- A schema resolves when its definitions can be read and every branch of its sections makes a
route. -/
theorem resolve_eq_ok_iff {schema : Value} :
    resolve schema = .ok resolved ↔
      ∃ root, schema.entries = .ok root ∧
        Defines.ofSchema (root.value definesKey) = .ok resolved.defines ∧
        (branches "" (sections root)).mapM (resolveBranch resolved.defines) =
          .ok resolved.routes := by
  constructor
  · intro h
    obtain ⟨root, hroot, h⟩ := bind_eq_ok_iff.mp h
    obtain ⟨defines, hdefines, h⟩ := bind_eq_ok_iff.mp h
    obtain ⟨routes, hroutes, h⟩ := bind_eq_ok_iff.mp h
    obtain rfl := Except.ok.inj h
    exact ⟨root, lift_eq_ok_iff.mp hroot, lift_eq_ok_iff.mp hdefines, hroutes⟩
  · rintro ⟨root, hroot, hdefines, hroutes⟩
    refine bind_eq_ok_iff.mpr ⟨root, lift_eq_ok_iff.mpr hroot, ?_⟩
    refine bind_eq_ok_iff.mpr ⟨_, lift_eq_ok_iff.mpr hdefines, ?_⟩
    exact bind_eq_ok_iff.mpr ⟨_, hroutes, rfl⟩

theorem resolve_map_eq_ok_iff :
    resolve (.map root) = .ok resolved ↔
      Defines.ofSchema (root.value definesKey) = .ok resolved.defines ∧
        (branches "" (sections root)).mapM (resolveBranch resolved.defines) =
          .ok resolved.routes := by
  rw [resolve_eq_ok_iff]
  constructor
  · rintro ⟨entries, hroot, h⟩
    obtain rfl : root = entries := Except.ok.inj hroot
    exact h
  · intro h
    exact ⟨root, rfl, h⟩

/-- What the routes of a schema are. -/
structure Collects (root : Entries Value) (resolved : ResolvedSchema) : Prop where
  /-- Keys lead from the sections to a block exactly when it has a route with these keys. -/
  reached : ∀ keys block, Reaches (sections root) keys block ↔
    ∃ r ∈ resolved.routes, keysOf r.path = keys ∧ r.source = block
  built : ∀ r ∈ resolved.routes, resolveRoute resolved.defines r.path r.source = .ok r
  /-- The keys of a route lead from the root to the block that it was built from. -/
  followed : ∀ r ∈ resolved.routes, follow (.map root) (keysOf r.path) = some (.map r.source)
  ordered : resolved.routes.Pairwise fun r r' =>
    Before (sections root) (keysOf r.path) (keysOf r'.path)
  distinct : (resolved.routes.map Route.path).Nodup

theorem Reaches.parts {keys : List String} (h : Reaches (sections root) keys block)
    (hkeyed : wellKeyed (sections root) = true) :
    keysOf (pathTo "" keys) = keys ∧ follow (.map root) keys = some (.map block) := by
  obtain ⟨key, v, rest, rfl, hmem, hleads⟩ := h
  obtain ⟨hpart, hbelow⟩ := wellKeyed_of_mem hkeyed hmem
  obtain ⟨hparts, hfollow⟩ := hleads.parts hbelow
  constructor
  · exact keysOf_pathTo (List.cons_ne_nil key rest) (List.forall_mem_cons.mpr ⟨hpart, hparts⟩)
  · have hkey : key ≠ definesKey := by
      simpa using (List.mem_filter.mp hmem).2
    have hget : root.get? key = some v := by
      rw [← get?_without_of_ne hkey]
      exact get?_of_mem (nodup_of_wellKeyed hkeyed) hmem
    show ((root.get? key).bind fun w => follow w rest) = _
    rw [hget]
    exact hfollow

theorem collects (h : resolve (.map root) = .ok resolved)
    (hkeyed : wellKeyed (sections root) = true) :
    Collects root resolved := by
  obtain ⟨-, hroutes⟩ := resolve_map_eq_ok_iff.mp h
  rw [mapM_eq_ok_iff] at hroutes
  obtain ⟨found, hfound, hfinds⟩ := branches_finds "" (sections root) (endless_not_mem hroutes)
  rw [hfound, List.forall₂_map_left_iff] at hroutes
  have hreach (p : List String × Entries Value) (hp : p ∈ found) :=
    Reaches.parts ((hfinds.mem_iff p.1 p.2).mp hp) hkeyed
  obtain ⟨hmap, hbuilt⟩ := found_of_routes (fun p hp => (hreach p hp).1) hroutes
  have hmem (keys : List String) (block : Entries Value) :
      (keys, block) ∈ found ↔ ∃ r ∈ resolved.routes, keysOf r.path = keys ∧ r.source = block := by
    rw [← hmap]
    simp
  have hordered : resolved.routes.Pairwise fun r r' =>
      Before (sections root) (keysOf r.path) (keysOf r'.path) := by
    have hpairs := hfinds.ordered
    rw [← hmap, List.pairwise_map] at hpairs
    exact hpairs
  refine ⟨fun keys block => ?_, hbuilt, fun r hr => ?_, hordered, ?_⟩
  · rw [← hfinds.mem_iff, hmem]
  · exact (hreach (keysOf r.path, r.source) ((hmem _ _).mpr ⟨r, hr, rfl, rfl⟩)).2
  · rw [List.Nodup, List.pairwise_map]
    refine hordered.imp fun hbefore heq => ?_
    rw [heq] at hbefore
    exact hbefore.asymm hkeyed hbefore

/-! ## Schemas put together -/

theorem branches_append (base : String) (entries more : Entries Value) :
    branches base (entries ++ more) = branches base entries ++ branches base more := by
  induction entries with
  | nil => rfl
  | cons e rest ih =>
    obtain ⟨key, v⟩ := e
    rw [List.cons_append, branches, branches, ih, List.append_assoc]

theorem resolve_together {first second combined : Entries Value}
    (hsecond : second.value definesKey = first.value definesKey)
    (hcombined : combined.value definesKey = first.value definesKey)
    (hsections : sections combined = sections first ++ sections second) :
    resolve (.map combined) = .ok resolved ↔
      ∃ ours theirs, resolve (.map first) = .ok ours ∧ resolve (.map second) = .ok theirs ∧
        resolved = { defines := ours.defines, routes := ours.routes ++ theirs.routes } := by
  rw [resolve_map_eq_ok_iff, hsections, hcombined, branches_append, List.mapM_append]
  constructor
  · rintro ⟨hdefines, hroutes⟩
    obtain ⟨ours, hours, hroutes⟩ := bind_eq_ok_iff.mp hroutes
    obtain ⟨theirs, htheirs, hroutes⟩ := bind_eq_ok_iff.mp hroutes
    refine ⟨⟨resolved.defines, ours⟩, ⟨resolved.defines, theirs⟩, ?_, ?_, ?_⟩
    · exact resolve_map_eq_ok_iff.mpr ⟨hdefines, hours⟩
    · exact resolve_map_eq_ok_iff.mpr ⟨hsecond ▸ hdefines, htheirs⟩
    · rw [Except.ok.inj hroutes]
  · rintro ⟨ours, theirs, hours, htheirs, rfl⟩
    obtain ⟨hdefines, hours⟩ := resolve_map_eq_ok_iff.mp hours
    obtain ⟨hdefines', htheirs⟩ := resolve_map_eq_ok_iff.mp htheirs
    rw [hsecond, hdefines] at hdefines'
    rw [← Except.ok.inj hdefines'] at htheirs
    exact ⟨hdefines, bind_eq_ok_iff.mpr ⟨_, hours, bind_eq_ok_iff.mpr ⟨_, htheirs, rfl⟩⟩⟩

/-- **Resolution finds exactly the routes.** A schema whose keys differ and are parts of paths resolves
to the routes that keys lead to from its sections, in the order of declaration and each once, and their
paths lead back to their blocks. A schema that has the definitions of two others and their sections,
those of the first before those of the second, resolves to the routes of the first and then those of the
second. Two schemas that share no section can be put together so. -/
theorem resolve_collects :
    (∀ root resolved, resolve (.map root) = .ok resolved → wellKeyed (sections root) = true →
        Collects root resolved) ∧
      ∀ first second combined resolved, second.value definesKey = first.value definesKey →
        combined.value definesKey = first.value definesKey →
        sections combined = sections first ++ sections second →
        (resolve (.map combined) = .ok resolved ↔
          ∃ ours theirs, resolve (.map first) = .ok ours ∧ resolve (.map second) = .ok theirs ∧
            resolved = { defines := ours.defines, routes := ours.routes ++ theirs.routes }) :=
  ⟨fun _ _ => collects, fun _ _ _ _ => resolve_together⟩

/-- A section with a route and a map of more routes, and a section of another schema behind it. -/
theorem resolve_collects_users :
    let block (url : String) : Value := .map [("url", .text url), ("params", .map [])]
    let users : Entries Value :=
      [("defines", .map [("request-headers", .list [.text "X-Trace"])]),
        ("users", .map [("find", block "/users"), ("admin", .map [("ban", block "/ban")])])]
    let items : Entries Value :=
      [("items", .map [("get", block "/items")]),
        ("defines", .map [("request-headers", .list [.text "X-Trace"])])]
    ∃ ours theirs, resolve (.map users) = .ok ours ∧ resolve (.map items) = .ok theirs ∧
      Collects users ours ∧ ours.routes.map Route.path = ["users/find", "users/admin/ban"] ∧
      resolve (.map (users.merge (sections items))) =
        .ok { defines := ours.defines, routes := ours.routes ++ theirs.routes } := by
  intro block users items
  have hpaths : (resolve (.map users)).map (fun s => s.routes.map Route.path) =
      .ok ["users/find", "users/admin/ban"] := by decide +kernel
  obtain ⟨ours, hours, hp⟩ := map_eq_ok_iff.mp hpaths
  obtain ⟨theirs, htheirs⟩ : ∃ s, resolve (.map items) = .ok s := exists_of_isOk (by decide +kernel)
  have hkeyed : wellKeyed (sections users) = true := by decide +kernel
  refine ⟨ours, theirs, hours, htheirs, resolve_collects.1 users ours hours hkeyed, hp, ?_⟩
  apply (resolve_collects.2 users items (users.merge (sections items)) _ rfl rfl rfl).mpr
  exact ⟨ours, theirs, hours, htheirs, rfl⟩

end RouteBook.Schema
