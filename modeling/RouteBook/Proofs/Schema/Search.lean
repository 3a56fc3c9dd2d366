import RouteBook.Proofs.Entries
import RouteBook.Schema.Resolve

/-!
# What a search of the tree finds

Keys lead from a value to a route through maps that are neither empty nor routes themselves (`Leads`).
A search that meets no endless block finds exactly the routes that keys lead to, in the order in which
they are declared, depth first (`branchesOf_finds`). If every map that is searched has keys that differ,
each route is found once (`Before.asymm`) and its keys lead back to its block (`Leads.parts`).
-/

namespace RouteBook.Schema

open Entries

/-! ## Trees -/

/-- A block that is a route: it is not empty and has an address and a map of parameters. -/
structure IsRoute (block : Entries Value) : Prop where
  nonempty : block ≠ []
  url : (block.value "url").truthy = true
  params : (block.value "params").isMap = true

/-- A value that is searched: a map that is neither empty nor a route. -/
structure Opens (v : Value) (inner : Entries Value) : Prop where
  isMap : v = .map inner
  nonempty : inner ≠ []
  notRoute : ¬ IsRoute inner

/-- The keys that lead from a value to a route through maps that are searched. -/
inductive Leads : Value → List String → Entries Value → Prop
  | here {block : Entries Value} : IsRoute block → Leads (.map block) [] block
  | through {v w : Value} {inner block : Entries Value} {key : String} {keys : List String} :
      Opens v inner → (key, w) ∈ inner → Leads w keys block → Leads v (key :: keys) block

/-- The keys that lead to a route from some entries. -/
def Reaches (entries : Entries Value) (keys : List String) (block : Entries Value) : Prop :=
  ∃ key v rest, keys = key :: rest ∧ (key, v) ∈ entries ∧ Leads v rest block

/-- Keys that come before others in the order of declaration, depth first: where they first differ, in
one map that is searched, the key of the ones stands before that of the others. -/
inductive Before : Entries Value → List String → List String → Prop
  | here {entries : Entries Value} {key key' : String} {keys keys' : List String} :
      [key, key'].Sublist entries.keys → Before entries (key :: keys) (key' :: keys')
  | through {entries inner : Entries Value} {key : String} {v : Value} {keys keys' : List String} :
      (key, v) ∈ entries → Opens v inner → Before inner keys keys' →
      Before entries (key :: keys) (key :: keys')

/-- Whether a key is a part of paths: it is not empty and has no slash. -/
def isPart (key : String) : Bool :=
  key != "" && !key.toList.contains '/'

mutual

/-- Whether a value that is searched has keys that differ and are parts of paths. -/
def keyedBelow : Value → Bool
  | .map inner => inner.isEmpty || isTerminal inner || wellKeyed inner
  | _ => true

/-- Whether keys differ and are parts of paths, here and in all maps below that are searched. -/
def wellKeyed : List (String × Value) → Bool
  | [] => true
  | (key, v) :: rest =>
    isPart key && !(keys rest).contains key && keyedBelow v && wellKeyed rest

end

variable {entries rest block inner : Entries Value} {v : Value} {key : String}
  {keys keys' : List String}

theorem isRoute_iff : IsRoute block ↔ block ≠ [] ∧ isTerminal block = true := by
  unfold isTerminal
  rw [Bool.and_eq_true]
  constructor
  · intro h
    exact ⟨h.nonempty, h.url, h.params⟩
  · rintro ⟨hne, hurl, hparams⟩
    exact ⟨hne, hurl, hparams⟩

theorem Opens.unique {inner' : Entries Value} (h : Opens v inner) (h' : Opens v inner') :
    inner' = inner :=
  Value.map.inj (h'.isMap.symm.trans h.isMap)

theorem reaches_cons :
    Reaches ((key, v) :: rest) keys block ↔
      (∃ ks, keys = key :: ks ∧ Leads v ks block) ∨ Reaches rest keys block := by
  constructor
  · rintro ⟨k, w, ks, rfl, hmem, hleads⟩
    rcases List.mem_cons.mp hmem with heq | hmem
    · obtain ⟨rfl, rfl⟩ := Prod.mk.inj heq
      exact .inl ⟨ks, rfl, hleads⟩
    · exact .inr ⟨k, w, ks, rfl, hmem, hleads⟩
  · rintro (⟨ks, rfl, hleads⟩ | ⟨k, w, ks, rfl, hmem, hleads⟩)
    · exact ⟨key, v, ks, rfl, List.mem_cons_self, hleads⟩
    · exact ⟨k, w, ks, rfl, List.mem_cons_of_mem _ hmem, hleads⟩

theorem leads_of_opens (h : Opens v inner) : Leads v keys block ↔ Reaches inner keys block := by
  constructor
  · intro hleads
    cases hleads with
    | here hroute =>
      obtain rfl := Value.map.inj h.isMap
      exact absurd hroute h.notRoute
    | through hopens hmem hleads =>
      obtain rfl := h.unique hopens
      exact ⟨_, _, _, rfl, hmem, hleads⟩
  · rintro ⟨key, w, ks, rfl, hmem, hleads⟩
    exact .through h hmem hleads

theorem leads_of_isRoute (h : IsRoute inner) :
    Leads (.map inner) keys block ↔ keys = [] ∧ block = inner := by
  constructor
  · intro hleads
    cases hleads with
    | here _ => exact ⟨rfl, rfl⟩
    | through hopens _ _ =>
      obtain rfl := Value.map.inj hopens.isMap
      exact absurd h hopens.notRoute
  · rintro ⟨rfl, rfl⟩
    exact .here h

theorem not_leads (hroute : ∀ block, v = .map block → ¬ IsRoute block)
    (hopens : ∀ inner, ¬ Opens v inner) : ¬ Leads v keys block := by
  intro hleads
  cases hleads with
  | here h => exact hroute _ rfl h
  | through h _ _ => exact hopens _ h

theorem Before.cons (h : Before rest keys keys') : Before ((key, v) :: rest) keys keys' := by
  cases h with
  | here hkeys => exact .here (hkeys.cons key)
  | through hmem hopens hbefore => exact .through (List.mem_cons_of_mem _ hmem) hopens hbefore

/-! ## What is found -/

/-- What is found are the routes that keys lead to, in the given order. -/
structure Finds (leads : List String → Entries Value → Prop)
    (before : List String → List String → Prop) (found : List (List String × Entries Value)) :
    Prop where
  mem_iff : ∀ keys block, (keys, block) ∈ found ↔ leads keys block
  ordered : found.Pairwise fun p q => before p.1 q.1

/-- Keys in the order of the map that a value is. -/
def BeforeIn (v : Value) (keys keys' : List String) : Prop :=
  ∃ inner, Opens v inner ∧ Before inner keys keys'

theorem Finds.nothing {leads : List String → Entries Value → Prop}
    {before : List String → List String → Prop} (h : ∀ keys block, ¬ leads keys block) :
    Finds leads before [] where
  mem_iff keys block := by simp [h keys block]
  ordered := .nil

theorem finds_of_isRoute (h : IsRoute block) :
    Finds (Leads (.map block)) (BeforeIn (.map block)) [([], block)] where
  mem_iff keys block' := by
    rw [leads_of_isRoute h]
    simp
  ordered := List.pairwise_singleton ..

theorem finds_of_opens {found : List (List String × Entries Value)} (hopens : Opens v inner)
    (h : Finds (Reaches inner) (Before inner) found) : Finds (Leads v) (BeforeIn v) found where
  mem_iff keys block := by rw [h.mem_iff, leads_of_opens hopens]
  ordered := h.ordered.imp fun hbefore => ⟨inner, hopens, hbefore⟩

/-- What is found in entries is what is found under the first key, then what is found in the rest. -/
theorem finds_cons {head tail : List (List String × Entries Value)}
    (hhead : Finds (Leads v) (BeforeIn v) head) (htail : Finds (Reaches rest) (Before rest) tail) :
    Finds (Reaches ((key, v) :: rest)) (Before ((key, v) :: rest))
      ((head.map fun p => (key :: p.1, p.2)) ++ tail) where
  mem_iff keys block := by
    rw [reaches_cons, List.mem_append, htail.mem_iff, List.mem_map]
    refine or_congr_left ?_
    constructor
    · rintro ⟨⟨ks, b⟩, hp, heq⟩
      obtain ⟨rfl, rfl⟩ := Prod.mk.inj heq
      exact ⟨ks, rfl, (hhead.mem_iff ks b).mp hp⟩
    · rintro ⟨ks, rfl, hleads⟩
      exact ⟨(ks, block), (hhead.mem_iff ks block).mpr hleads, rfl⟩
  ordered := by
    rw [List.pairwise_append, List.pairwise_map]
    refine ⟨?_, htail.ordered.imp Before.cons, ?_⟩
    · apply hhead.ordered.imp
      rintro p q ⟨inner, hopens, hbefore⟩
      exact .through List.mem_cons_self hopens hbefore
    · rintro p hp ⟨keys, block⟩ hq
      obtain ⟨⟨ks, b⟩, -, rfl⟩ := List.mem_map.mp hp
      obtain ⟨k, w, ks', rfl, hmem, -⟩ := (htail.mem_iff _ _).mp hq
      have hk : [k].Sublist rest.keys := List.singleton_sublist.mpr (mem_keys hmem)
      exact .here (hk.cons_cons key)

/-! ## The search -/

/-- The path that keys make below a base. -/
def pathTo (base : String) (keys : List String) : String :=
  keys.foldl RoutePath.below base

/-- The branch at keys below a base. -/
def branchTo (base : String) (found : List String × Entries Value) : Branch :=
  .route (pathTo base found.1) found.2

mutual

theorem branchesOf_finds (path : String) (v : Value) (hends : .endless ∉ branchesOf path v) :
    ∃ found, branchesOf path v = List.map (branchTo path) found ∧
      Finds (Leads v) (BeforeIn v) found := by
  match v with
  | .map inner =>
    unfold branchesOf at hends ⊢
    by_cases hempty : inner = []
    · subst hempty
      refine ⟨[], rfl, .nothing fun keys block => not_leads ?_ ?_⟩
      · rintro _ ⟨⟩ hroute
        exact hroute.nonempty rfl
      · rintro _ ⟨⟨⟩, hne, -⟩
        exact hne rfl
    by_cases hroute : IsRoute inner
    · have hterminal : isTerminal inner = true := (isRoute_iff.mp hroute).2
      refine ⟨[([], inner)], ?_, finds_of_isRoute hroute⟩
      simp [hempty, hterminal, branchTo, pathTo]
    · have hterminal : isTerminal inner = false := by
        rw [isRoute_iff, not_and] at hroute
        exact Bool.eq_false_iff.mpr (hroute hempty)
      simp only [List.isEmpty_iff, hempty, hterminal, if_false, Bool.false_eq_true] at hends ⊢
      obtain ⟨found, hfound, hfinds⟩ := branches_finds path inner hends
      exact ⟨found, hfound, finds_of_opens ⟨rfl, hempty, hroute⟩ hfinds⟩
  | .loop => exact absurd List.mem_cons_self hends
  | .null | .bool _ | .int _ | .float _ | .text _ | .ragged _ | .bytes _ | .moment _ | .list _ | .tuple _
  | .set _ | .raggedMap _ =>
    refine ⟨[], rfl, .nothing fun keys block => not_leads ?_ ?_⟩
    · rintro _ ⟨⟩
    · rintro _ ⟨⟨⟩, -, -⟩

theorem branches_finds (base : String) (entries : List (String × Value))
    (hends : .endless ∉ branches base entries) :
    ∃ found, branches base entries = List.map (branchTo base) found ∧
      Finds (Reaches entries) (Before entries) found := by
  match entries with
  | [] =>
    refine ⟨[], rfl, .nothing fun keys block => ?_⟩
    rintro ⟨_, _, _, -, hmem, -⟩
    exact absurd hmem List.not_mem_nil
  | (key, v) :: rest =>
    unfold branches at hends ⊢
    rw [List.mem_append, not_or] at hends
    obtain ⟨head, hhead, hheadFinds⟩ := branchesOf_finds (RoutePath.below base key) v hends.1
    obtain ⟨tail, htail, htailFinds⟩ := branches_finds base rest hends.2
    refine ⟨_, ?_, finds_cons hheadFinds htailFinds⟩
    rw [hhead, htail, List.map_append, List.map_map]
    rfl

end

/-! ## Keys that differ -/

theorem wellKeyed_cons :
    wellKeyed ((key, v) :: rest) = true ↔
      isPart key = true ∧ key ∉ rest.keys ∧ keyedBelow v = true ∧ wellKeyed rest = true := by
  simp [wellKeyed, and_assoc]

theorem nodup_of_wellKeyed (h : wellKeyed entries = true) : entries.keys.Nodup := by
  induction entries with
  | nil => exact List.nodup_nil
  | cons e rest ih =>
    obtain ⟨-, hnew, -, hrest⟩ := wellKeyed_cons.mp h
    exact List.nodup_cons.mpr ⟨hnew, ih hrest⟩

theorem wellKeyed_of_mem (h : wellKeyed entries = true) (hmem : (key, v) ∈ entries) :
    isPart key = true ∧ keyedBelow v = true := by
  induction entries with
  | nil => exact absurd hmem List.not_mem_nil
  | cons e rest ih =>
    obtain ⟨hpart, -, hbelow, hrest⟩ := wellKeyed_cons.mp h
    rcases List.mem_cons.mp hmem with rfl | hmem
    · exact ⟨hpart, hbelow⟩
    · exact ih hrest hmem

theorem wellKeyed_of_opens (h : keyedBelow v = true) (hopens : Opens v inner) :
    wellKeyed inner = true := by
  obtain ⟨rfl, hne, hroute⟩ := hopens
  rw [isRoute_iff, not_and] at hroute
  have hterminal : isTerminal inner = false := Bool.eq_false_iff.mpr (hroute hne)
  simpa [keyedBelow, hne, hterminal] using h

/-- Of two elements of a list that stand once, only one stands before the other. -/
theorem not_pair_sublist {α : Type} {xs : List α} {x y : α} (hnodup : xs.Nodup)
    (h : [x, y].Sublist xs) : ¬ [y, x].Sublist xs := by
  induction xs with
  | nil => cases h
  | cons z zs ih =>
    intro h'
    obtain ⟨hz, hzs⟩ := List.nodup_cons.mp hnodup
    rw [List.cons_sublist_cons', List.singleton_sublist] at h h'
    rcases h with h | ⟨rfl, hy⟩
    · rcases h' with h' | ⟨rfl, -⟩
      · exact ih hzs h h'
      · exact hz (h.subset (by simp))
    · rcases h' with h' | ⟨rfl, -⟩
      · exact hz (h'.subset (by simp))
      · exact hz hy

theorem Before.asymm (hkeyed : wellKeyed entries = true) (h : Before entries keys keys') :
    ¬ Before entries keys' keys := by
  induction h with
  | here hkeys =>
    intro h'
    cases h' with
    | here hkeys' => exact not_pair_sublist (nodup_of_wellKeyed hkeyed) hkeys hkeys'
    | through _ _ _ => exact absurd ((nodup_of_wellKeyed hkeyed).sublist hkeys) (by simp)
  | through hmem hopens _ ih =>
    intro h'
    cases h' with
    | here hkeys => exact absurd ((nodup_of_wellKeyed hkeyed).sublist hkeys) (by simp)
    | through hmem' hopens' hbefore =>
      have hget := get?_of_mem (nodup_of_wellKeyed hkeyed) hmem
      rw [get?_of_mem (nodup_of_wellKeyed hkeyed) hmem'] at hget
      obtain rfl := Option.some.inj hget
      obtain rfl := hopens.unique hopens'
      exact ih (wellKeyed_of_opens (wellKeyed_of_mem hkeyed hmem).2 hopens) hbefore

/-- The value that keys lead to. -/
def follow : Value → List String → Option Value
  | v, [] => some v
  | v, key :: keys => (v.entries?.bind fun entries => entries.get? key).bind fun w => follow w keys

theorem Leads.parts (h : Leads v keys block) (hkeyed : keyedBelow v = true) :
    (∀ key ∈ keys, isPart key = true) ∧ follow v keys = some (.map block) := by
  induction h with
  | here _ => exact ⟨fun key hkey => absurd hkey List.not_mem_nil, rfl⟩
  | @through v w inner block key keys hopens hmem _ ih =>
    have hinner := wellKeyed_of_opens hkeyed hopens
    obtain ⟨hpart, hbelow⟩ := wellKeyed_of_mem hinner hmem
    obtain ⟨hparts, hfollow⟩ := ih hbelow
    refine ⟨List.forall_mem_cons.mpr ⟨hpart, hparts⟩, ?_⟩
    rw [follow, hopens.isMap]
    show ((inner.get? key).bind fun w => follow w keys) = _
    rw [get?_of_mem (nodup_of_wellKeyed hinner) hmem]
    exact hfollow

end RouteBook.Schema
