import RouteBook.Value.Basic
import Mathlib.Data.List.Forall2
import Mathlib.Data.List.Nodup

/-!
# Keys of ordered entries

Leaving out keys and writing entries do not disturb each other (`filter_merge`), and writing entries
with new and distinct keys appends them (`merge_of_nodup`). When entries are written over others, keys
that are present keep their places and the rest follows (`merge_eq`). `SameBut key` relates two maps with
the same keys in the same order that may differ in the value of one key; it is kept when both are
written alike.
-/

namespace RouteBook.Entries

variable {α : Type}

/-! ## Leaving out keys -/

theorem filter_put_of_pos {keep : String → Bool} {key : String} (h : keep key = true)
    (entries : Entries α) (value : α) :
    (entries.put key value).filter (fun e => keep e.1) =
      Entries.put (entries.filter fun e => keep e.1) key value := by
  induction entries with
  | nil => simp [put, h]
  | cons e rest ih =>
    obtain ⟨k, v⟩ := e
    by_cases hk : k = key
    · subst hk
      simp [put, h]
    · by_cases hkeep : keep k = true
      · simp [put, hk, hkeep, ih]
      · simp [put, hk, hkeep, ih]

theorem filter_put_of_neg {keep : String → Bool} {key : String} (h : keep key = false)
    (entries : Entries α) (value : α) :
    (entries.put key value).filter (fun e => keep e.1) = entries.filter fun e => keep e.1 := by
  induction entries with
  | nil => simp [put, h]
  | cons e rest ih =>
    obtain ⟨k, v⟩ := e
    by_cases hk : k = key
    · subst hk
      simp [put, h]
    · simp [put, hk, List.filter_cons, ih]

theorem filter_merge (keep : String → Bool) (entries pairs : Entries α) :
    (entries.merge pairs).filter (fun e => keep e.1) =
      Entries.merge (entries.filter fun e => keep e.1) (pairs.filter fun e => keep e.1) := by
  induction pairs generalizing entries with
  | nil => rfl
  | cons p rest ih =>
    obtain ⟨key, value⟩ := p
    have hstep := ih (entries.put key value)
    by_cases hkeep : keep key = true
    · rw [filter_put_of_pos hkeep] at hstep
      rw [List.filter_cons_of_pos (by exact hkeep)]
      exact hstep
    · rw [filter_put_of_neg (Bool.eq_false_iff.mpr hkeep)] at hstep
      rw [List.filter_cons_of_neg (by exact hkeep)]
      exact hstep

/-- The entries without a key. -/
def without (entries : Entries α) (key : String) : Entries α :=
  entries.filter fun e => e.1 != key

theorem get?_without_self (entries : Entries α) (key : String) :
    (entries.without key).get? key = none := by
  unfold without
  induction entries with
  | nil => rfl
  | cons e rest ih =>
    obtain ⟨k, v⟩ := e
    by_cases hk : k = key
    · simp [hk, ih]
    · simp [hk, get?_cons, ih]

theorem get?_without_of_ne {key other : String} (h : other ≠ key) (entries : Entries α) :
    (entries.without key).get? other = entries.get? other := by
  unfold without
  induction entries with
  | nil => rfl
  | cons e rest ih =>
    obtain ⟨k, v⟩ := e
    by_cases hk : k = key
    · subst hk
      simp [get?_cons, Ne.symm h, ih]
    · simp [hk, get?_cons, ih]

theorem without_put_self (entries : Entries α) (key : String) (value : α) :
    (entries.put key value).without key = entries.without key :=
  @filter_put_of_neg α (fun k => k != key) key (bne_self_eq_false key) entries value

theorem value_without_self (entries : Entries Value) (key : String) :
    (entries.without key).value key = .null := by
  unfold value
  rw [get?_without_self]
  rfl

theorem value_without_of_ne {key other : String} (h : other ≠ key) (entries : Entries Value) :
    (entries.without key).value other = entries.value other := by
  unfold value
  rw [get?_without_of_ne h]

theorem value_without_of_null {entries : Entries Value} {key : String}
    (h : entries.value key = .null) (other : String) :
    (entries.without key).value other = entries.value other := by
  by_cases hk : other = key
  · subst hk
    rw [value_without_self, h]
  · exact value_without_of_ne hk entries

/-! ## The entries of a key -/

/-- The entries of a key. -/
def under (entries : Entries α) (key : String) : Entries α :=
  entries.filter fun e => e.1 == key

theorem under_append (entries more : Entries α) (key : String) :
    under (entries ++ more) key = entries.under key ++ more.under key :=
  List.filter_append entries more

theorem under_put_of_ne {key other : String} (h : other ≠ key) (entries : Entries α) (value : α) :
    (entries.put other value).under key = entries.under key :=
  @filter_put_of_neg α (fun k => k == key) other (beq_eq_false_iff_ne.mpr h) entries value

theorem under_merge_of_not_mem {pairs : Entries α} {key : String} (h : key ∉ pairs.keys)
    (entries : Entries α) : (entries.merge pairs).under key = entries.under key := by
  induction pairs generalizing entries with
  | nil => rfl
  | cons p rest ih =>
    obtain ⟨k, v⟩ := p
    obtain ⟨hne, hrest⟩ : key ≠ k ∧ key ∉ keys rest := by simpa [keys, not_or] using h
    show (merge (entries.put k v) rest).under key = _
    rw [ih hrest, under_put_of_ne (Ne.symm hne)]

theorem under_put_self {entries : Entries α} {key : String} {value : α}
    (h : entries.under key = [(key, value)]) (value' : α) :
    (entries.put key value').under key = [(key, value')] := by
  calc (entries.put key value').under key
      = (entries.under key).put key value' :=
        @filter_put_of_pos α (fun k => k == key) key (beq_self_eq_true key) entries value'
    _ = [(key, value')] := by rw [h, put, if_pos rfl]

theorem under_filter {keep : String → Bool} {key : String} (h : keep key = true)
    (entries : Entries α) : under (entries.filter fun e => keep e.1) key = entries.under key := by
  unfold under
  rw [List.filter_filter]
  refine List.filter_congr fun e _ => ?_
  by_cases hkey : e.1 = key
  · rw [hkey, h, Bool.and_true]
  · rw [beq_eq_false_iff_ne.mpr hkey, Bool.false_and]

theorem under_map {β : Type} (f : α → β) (entries : Entries α) (key : String) :
    under (entries.map fun e => (e.1, f e.2)) key = (entries.under key).map fun e => (e.1, f e.2) := by
  unfold under
  rw [List.filter_map]
  rfl

/-! ## New keys -/

theorem put_of_not_mem {key : String} (value : α) {entries : Entries α} (h : key ∉ entries.keys) :
    entries.put key value = entries ++ [(key, value)] := by
  induction entries with
  | nil => rfl
  | cons e rest ih =>
    obtain ⟨k, v⟩ := e
    have hk : ¬ k = key := fun hk => h (by simp [keys, hk])
    have hrest : key ∉ Entries.keys rest := fun hm => h (List.mem_cons_of_mem _ hm)
    rw [put, if_neg hk, ih hrest]
    rfl

theorem merge_of_nodup {entries pairs : Entries α} (h : (entries.keys ++ pairs.keys).Nodup) :
    entries.merge pairs = entries ++ pairs := by
  induction pairs generalizing entries with
  | nil => exact (List.append_nil entries).symm
  | cons p rest ih =>
    obtain ⟨key, value⟩ := p
    have hnew : key ∉ entries.keys := by
      intro hm
      exact (List.nodup_append.mp h).2.2 key hm key (by simp [keys]) rfl
    have hkeys : (Entries.keys (entries ++ [(key, value)]) ++ Entries.keys rest).Nodup := by
      simpa [keys] using h
    show (entries.put key value).merge rest = _
    rw [put_of_not_mem value hnew, ih hkeys, List.append_assoc]
    rfl

theorem merge_nil_of_nodup {pairs : Entries α} (h : pairs.keys.Nodup) :
    Entries.merge [] pairs = pairs := by
  have hkeys : (Entries.keys ([] : Entries α) ++ pairs.keys).Nodup := by simpa [keys] using h
  rw [merge_of_nodup hkeys, List.nil_append]

/-! ## Writing over other entries -/

theorem mem_keys {entries : Entries α} {e : String × α} (h : e ∈ entries) : e.1 ∈ entries.keys :=
  List.mem_map_of_mem h

theorem nodup_keys_cons {key : String} {value : α} {rest : Entries α} :
    (keys ((key, value) :: rest)).Nodup ↔ key ∉ rest.keys ∧ rest.keys.Nodup :=
  List.nodup_cons

theorem get?_of_mem {entries : Entries α} (hkeys : entries.keys.Nodup) {key : String} {value : α}
    (h : (key, value) ∈ entries) : entries.get? key = some value := by
  induction entries with
  | nil => exact absurd h List.not_mem_nil
  | cons e rest ih =>
    obtain ⟨k, v⟩ := e
    obtain ⟨hk, hrest⟩ := nodup_keys_cons.mp hkeys
    rw [get?_cons]
    rcases List.mem_cons.mp h with heq | hmem
    · obtain ⟨rfl, rfl⟩ := Prod.mk.inj heq
      exact if_pos rfl
    · have hne : k ≠ key := by
        rintro rfl
        exact hk (mem_keys hmem)
      rw [if_neg hne]
      exact ih hrest hmem

theorem get?_ne_none_of_mem {entries : Entries α} {key : String} {value : α}
    (h : (key, value) ∈ entries) : entries.get? key ≠ none := by
  induction entries with
  | nil => exact absurd h List.not_mem_nil
  | cons e rest ih =>
    obtain ⟨k, v⟩ := e
    rw [get?_cons]
    by_cases hk : k = key
    · rw [if_pos hk]
      exact nofun
    · rw [if_neg hk]
      rcases List.mem_cons.mp h with heq | hmem
      · exact absurd (congrArg Prod.fst heq).symm hk
      · exact ih hmem

theorem get?_of_not_mem {entries : Entries α} {key : String} (h : key ∉ entries.keys) :
    entries.get? key = none := by
  cases hget : entries.get? key with
  | none => rfl
  | some v => exact absurd (mem_keys (mem_of_get? hget)) h

theorem get?_of_perm {entries others : Entries α} (h : entries.Perm others)
    (hkeys : entries.keys.Nodup) (key : String) : entries.get? key = others.get? key := by
  have hothers : others.keys.Nodup := (h.map Prod.fst).nodup_iff.mp hkeys
  ext value
  constructor
  · exact fun hget => get?_of_mem hothers (h.mem_iff.mp (mem_of_get? hget))
  · exact fun hget => get?_of_mem hkeys (h.mem_iff.mpr (mem_of_get? hget))

theorem has_of_mem {entries : Entries α} {key : String} (h : key ∈ entries.keys) :
    entries.has key = true := by
  unfold has
  cases hget : entries.get? key with
  | some v => rfl
  | none =>
    obtain ⟨⟨k, v⟩, he, rfl⟩ := List.mem_map.mp h
    exact absurd hget (get?_ne_none_of_mem he)

theorem mem_keys_of_has {entries : Entries α} {key : String} (h : entries.has key = true) :
    key ∈ entries.keys := by
  obtain ⟨v, hv⟩ := Option.isSome_iff_exists.mp h
  exact mem_keys (mem_of_get? hv)

theorem put_of_mem {entries : Entries α} (hkeys : entries.keys.Nodup) {key : String} (value : α)
    (h : key ∈ entries.keys) :
    entries.put key value = entries.map fun e => (e.1, if e.1 = key then value else e.2) := by
  induction entries with
  | nil => exact absurd h List.not_mem_nil
  | cons e rest ih =>
    obtain ⟨k, v⟩ := e
    obtain ⟨hk, hrest⟩ := nodup_keys_cons.mp hkeys
    by_cases heq : k = key
    · subst heq
      have hsame : rest.map (fun e => (e.1, if e.1 = k then value else e.2)) = rest := by
        conv_rhs => rw [← List.map_id rest]
        refine List.map_congr_left fun e he => ?_
        have hne : e.1 ≠ k := fun hek => hk (hek ▸ mem_keys he)
        simp [hne]
      simp [put, hsame]
    · have hmem : key ∈ Entries.keys rest := (List.mem_cons.mp h).resolve_left (Ne.symm heq)
      simp [put, heq, ih hrest hmem]

theorem put_put (entries : Entries α) (key : String) (value value' : α) :
    (entries.put key value).put key value' = entries.put key value' := by
  induction entries with
  | nil => simp only [put, if_true]
  | cons e rest ih =>
    obtain ⟨k, u⟩ := e
    by_cases hk : k = key
    · simp only [put, hk, if_true]
    · simp only [put, hk, if_false, ih]

theorem put_comm {entries : Entries α} {key other : String} (hne : key ≠ other) (value value' : α)
    (h : entries.has key = true) :
    (entries.put key value).put other value' = (entries.put other value').put key value := by
  induction entries with
  | nil => exact nomatch h
  | cons e rest ih =>
    obtain ⟨k, v⟩ := e
    by_cases hkey : k = key
    · have hk : k ≠ other := hkey ▸ hne
      simp [put, hkey, hne]
    · have hrest : has rest key = true := by
        unfold has at h ⊢
        rwa [get?_cons, if_neg hkey] at h
      by_cases hother : k = other
      · simp [put, hother, hne.symm]
      · simp [put, hkey, hother, ih hrest]

theorem put_of_get? {entries : Entries α} {key : String} {value : α}
    (h : entries.get? key = some value) : entries.put key value = entries := by
  induction entries with
  | nil => exact nomatch h
  | cons e rest ih =>
    obtain ⟨k, v⟩ := e
    rw [get?_cons] at h
    by_cases hkey : k = key
    · rw [if_pos hkey] at h
      rw [put, if_pos hkey, Option.some.inj h]
    · rw [if_neg hkey] at h
      rw [put, if_neg hkey, ih h]

theorem has_of_value_ne_null {entries : Entries Value} {key : String}
    (h : entries.value key ≠ .null) : entries.has key = true := by
  unfold value at h
  unfold has
  cases hget : entries.get? key with
  | none =>
    rw [hget] at h
    exact absurd rfl h
  | some v => rfl

theorem mem_keys_put_iff {entries : Entries α} {key other : String} {value : α} :
    other ∈ (entries.put key value).keys ↔ other = key ∨ other ∈ entries.keys := by
  by_cases h : key ∈ entries.keys
  · rw [keys_put_of_has value (has_of_mem h)]
    exact ⟨Or.inr, fun hor => hor.elim (fun heq => heq ▸ h) id⟩
  · rw [put_of_not_mem value h]
    simp [keys, or_comm]

theorem nodup_keys_put {entries : Entries α} (h : entries.keys.Nodup) (key : String) (value : α) :
    (entries.put key value).keys.Nodup := by
  by_cases hmem : key ∈ entries.keys
  · rw [keys_put_of_has value (has_of_mem hmem)]
    exact h
  · rw [put_of_not_mem value hmem, keys, List.map_append]
    refine List.nodup_append.mpr ⟨h, List.nodup_singleton key, fun a ha b hb hab => hmem ?_⟩
    obtain rfl : b = key := List.mem_singleton.mp hb
    rwa [hab] at ha

theorem mem_keys_merge_iff {entries pairs : Entries α} {key : String} :
    key ∈ (entries.merge pairs).keys ↔ key ∈ entries.keys ∨ key ∈ pairs.keys := by
  induction pairs generalizing entries with
  | nil => simp [merge, keys]
  | cons p rest ih =>
    obtain ⟨k, v⟩ := p
    show key ∈ (merge (entries.put k v) rest).keys ↔ _
    rw [ih, mem_keys_put_iff]
    simp only [keys, List.map_cons, List.mem_cons]
    tauto

theorem keys_merge (entries pairs : Entries α) :
    (entries.merge pairs).keys = entries.keys ++ (pairs.keys.removeAll entries.keys).eraseDups := by
  induction pairs generalizing entries with
  | nil => simp [merge, keys]
  | cons p rest ih =>
    obtain ⟨key, value⟩ := p
    show (merge (entries.put key value) rest).keys =
      entries.keys ++ ((key :: Entries.keys rest).removeAll entries.keys).eraseDups
    rw [ih]
    by_cases h : key ∈ entries.keys
    · rw [keys_put_of_has value (has_of_mem h)]
      simp [List.removeAll, h]
    · have hkeys : (entries.put key value).keys = entries.keys ++ [key] := by
        rw [put_of_not_mem value h]
        simp [keys]
      have hnew : (Entries.keys rest).removeAll (entries.keys ++ [key]) =
          ((Entries.keys rest).removeAll entries.keys).filter fun k => !k == key := by
        unfold List.removeAll
        rw [List.filter_filter]
        refine List.filter_congr fun k _ => ?_
        by_cases hk : k = key <;> simp [hk]
      have hfirst : (key :: Entries.keys rest).removeAll entries.keys =
          key :: (Entries.keys rest).removeAll entries.keys := by
        simp [List.removeAll, h]
      rw [hkeys, hnew, hfirst, List.eraseDups_cons, List.append_assoc]
      rfl

theorem keys_ofList (pairs : Entries α) : (Entries.ofList pairs).keys = pairs.keys.eraseDups := by
  show (merge [] pairs).keys = _
  rw [keys_merge]
  simp [keys, List.removeAll]

theorem mem_merge {entries pairs : Entries α} {e : String × α} (h : e ∈ entries.merge pairs) :
    e ∈ entries ∨ e ∈ pairs := by
  induction pairs generalizing entries with
  | nil => exact Or.inl h
  | cons p rest ih =>
    rcases ih h with hput | hrest
    · rcases mem_put hput with hmem | rfl
      · exact Or.inl hmem
      · exact Or.inr List.mem_cons_self
    · exact Or.inr (List.mem_cons_of_mem p hrest)

/-- Keys that are written again keep their places and take the new values; new keys follow in their
order. -/
theorem merge_eq {entries pairs : Entries α} (hentries : entries.keys.Nodup)
    (hpairs : pairs.keys.Nodup) :
    entries.merge pairs =
      (entries.map fun e => (e.1, (pairs.get? e.1).getD e.2)) ++
        pairs.filter fun p => p.1 ∉ entries.keys := by
  induction pairs generalizing entries with
  | nil => simp [merge, get?]
  | cons p rest ih =>
    obtain ⟨key, value⟩ := p
    obtain ⟨hkey, hrest⟩ := nodup_keys_cons.mp hpairs
    show (entries.put key value).merge rest = _
    by_cases hmem : key ∈ entries.keys
    · have hput := put_of_mem hentries value hmem
      have hkeys : (entries.put key value).keys = entries.keys := by
        rw [hput]
        simp [keys]
      rw [ih (hkeys ▸ hentries) hrest, hkeys, List.filter_cons_of_neg (by simpa using hmem), hput,
        List.map_map]
      congr 1
      refine List.map_congr_left fun e _ => ?_
      by_cases he : e.1 = key
      · simp [he, get?_cons, get?_of_not_mem hkey]
      · simp [he, get?_cons, Ne.symm he]
    · have hput := put_of_not_mem value hmem
      have hkeys : (entries.put key value).keys = entries.keys ++ [key] := by
        rw [hput]
        simp [keys]
      have hnodup : (entries.put key value).keys.Nodup := by
        rw [hkeys]
        exact List.nodup_append.mpr ⟨hentries, List.nodup_singleton key, by
          rintro a ha b hb rfl
          exact hmem (List.mem_singleton.mp hb ▸ ha)⟩
      have hold : entries.map (fun e => (e.1, (get? rest e.1).getD e.2)) =
          entries.map fun e => (e.1, (get? ((key, value) :: rest) e.1).getD e.2) := by
        refine List.map_congr_left fun e he => ?_
        have hne : key ≠ e.1 := fun hke => hmem (hke ▸ mem_keys he)
        simp [get?_cons, hne]
      have hnew : rest.filter (fun p => p.1 ∉ entries.keys ++ [key]) =
          rest.filter fun p => p.1 ∉ entries.keys := by
        refine List.filter_congr fun p hp => ?_
        have hne : p.1 ≠ key := fun hpk => hkey (hpk ▸ mem_keys hp)
        simp [hne]
      rw [ih hnodup hrest, hkeys, hnew, hput, List.map_append, hold,
        List.filter_cons_of_pos (by simpa using hmem)]
      simp [get?_of_not_mem hkey]

/-! ## The last entry of a kind -/

/-- The last entry whose key is of a kind. -/
def last? (p : String → Bool) (entries : Entries α) : Option (String × α) :=
  entries.reverse.find? fun e => p e.1

variable {p : String → Bool}

theorem last?_cons (e : String × α) (rest : Entries α) :
    last? p (e :: rest) = (last? p rest).or (if p e.1 then some e else none) := by
  unfold last?
  rw [List.reverse_cons, List.find?_append, List.find?_singleton]

theorem last?_append (entries more : Entries α) :
    last? p (entries ++ more) = (last? p more).or (last? p entries) := by
  unfold last?
  rw [List.reverse_append, List.find?_append]

theorem last?_map (f : String × α → α) (entries : Entries α) :
    last? p (entries.map fun e => (e.1, f e)) = (last? p entries).map fun e => (e.1, f e) := by
  unfold last?
  rw [← List.map_reverse, List.find?_map]
  rfl

theorem last?_eq_none_iff {entries : Entries α} :
    last? p entries = none ↔ ∀ e ∈ entries, p e.1 = false := by
  simp [last?]

theorem mem_of_last? {entries : Entries α} {e : String × α} (h : last? p entries = some e) :
    e ∈ entries ∧ p e.1 = true := by
  unfold last? at h
  have hp := List.find?_some h
  exact ⟨List.mem_reverse.mp (List.mem_of_find?_eq_some h), hp⟩

theorem last?_filter {keep : String × α → Bool} {entries : Entries α} {e : String × α}
    (h : last? p entries = some e) (hkeep : keep e = true) :
    last? p (entries.filter keep) = some e := by
  induction entries with
  | nil => exact nomatch h
  | cons e' rest ih =>
    rw [last?_cons] at h
    cases hrest : last? p rest with
    | some found =>
      obtain rfl : found = e := by simpa [hrest] using h
      rw [List.filter_cons]
      split_ifs
      · rw [last?_cons, ih hrest, Option.some_or]
      · exact ih hrest
    | none =>
      obtain ⟨hp, rfl⟩ : p e'.1 = true ∧ e' = e := by simpa [hrest] using h
      have hnone : last? p (rest.filter keep) = none :=
        last?_eq_none_iff.mpr fun x hx => last?_eq_none_iff.mp hrest x (List.mem_filter.mp hx).1
      rw [List.filter_cons_of_pos hkeep, last?_cons, hnone, if_pos hp, Option.none_or]

theorem last?_rel {β : Type} {q : String → Bool} {R : String × α → String × β → Prop}
    {entries : Entries α} {others : Entries β}
    (h : List.Forall₂ (fun e e' => q e'.1 = p e.1 ∧ R e e') entries others) :
    Option.Rel R (last? p entries) (last? q others) := by
  induction h with
  | nil => exact .none
  | @cons e e' rest rest' he _ ih =>
    rw [last?_cons, last?_cons, he.1]
    generalize last? p rest = found at ih ⊢
    generalize last? q rest' = found' at ih ⊢
    cases ih with
    | some hfound => exact .some hfound
    | none =>
      rw [Option.none_or, Option.none_or]
      split_ifs
      · exact .some he.2
      · exact .none

/-! ## The value that was written last -/

theorem get?_merge (entries pairs : Entries α) (key : String) :
    (entries.merge pairs).get? key =
      ((last? (fun k => k = key) pairs).map Prod.snd).or (entries.get? key) := by
  induction pairs generalizing entries with
  | nil => rfl
  | cons e rest ih =>
    obtain ⟨k, v⟩ := e
    show (merge (entries.put k v) rest).get? key = _
    rw [ih, last?_cons]
    by_cases hk : k = key
    · subst hk
      rw [get?_put_self]
      cases last? (fun k' => k' = k) rest <;> simp
    · rw [get?_put_of_ne _ _ (Ne.symm hk)]
      cases last? (fun k' => k' = key) rest <;> simp [hk]

/-- What is written over other entries is there, unless a key is written twice. -/
theorem mem_merge_of_mem {entries pairs : Entries α} (hpairs : pairs.keys.Nodup) {e : String × α}
    (h : e ∈ pairs) : e ∈ entries.merge pairs := by
  obtain ⟨key, value⟩ := e
  apply mem_of_get?
  rw [get?_merge]
  cases hlast : last? (fun k => k = key) pairs with
  | none => exact absurd (last?_eq_none_iff.mp hlast _ h) (by simp)
  | some found =>
    obtain ⟨hmem, hkey⟩ := mem_of_last? hlast
    obtain ⟨k, v⟩ := found
    obtain rfl : k = key := of_decide_eq_true hkey
    have hvalue := (get?_of_mem hpairs hmem).symm.trans (get?_of_mem hpairs h)
    rw [Option.map_some, Option.some_or, Option.some.inj hvalue]

theorem mem_merge_of_not_mem {entries pairs : Entries α} (hentries : entries.keys.Nodup)
    {e : String × α} (h : e ∈ entries) (hnew : e.1 ∉ pairs.keys) : e ∈ entries.merge pairs := by
  apply mem_of_get?
  have hnone : last? (fun k => k = e.1) pairs = none :=
    last?_eq_none_iff.mpr fun p hp => decide_eq_false fun heq => hnew (heq ▸ mem_keys hp)
  rw [get?_merge, hnone, get?_of_mem hentries h]
  rfl

theorem get?_ofList_of_mem {pairs : Entries α} {key : String} {value : α}
    (h : (key, value) ∈ pairs) (hsame : ∀ e ∈ pairs, e.1 = key → e.2 = value) :
    (Entries.ofList pairs).get? key = some value := by
  show (merge [] pairs).get? key = _
  rw [get?_merge]
  cases hlast : last? (fun k => k = key) pairs with
  | none => exact absurd (last?_eq_none_iff.mp hlast _ h) (by simp)
  | some e =>
    obtain ⟨hmem, hkey⟩ := mem_of_last? hlast
    rw [← hsame e hmem (of_decide_eq_true hkey)]
    rfl

/-! ## Folded names -/

section Folded

variable {β : Type} {fold : String → String} {f : α → β} {entries : Entries α} {name : String}

/-- Entries with folded names and new values. -/
def folded (fold : String → String) (f : α → β) (entries : Entries α) : Entries β :=
  entries.map fun e => (fold e.1, f e.2)

/-- The folded names in order. -/
def foldedKeys (fold : String → String) (entries : Entries α) : List String :=
  entries.map fun e => fold e.1

theorem keys_folded : (folded fold f entries).keys = entries.foldedKeys fold := by
  simp [folded, foldedKeys, keys]

theorem mem_foldedKeys_iff : name ∈ entries.foldedKeys fold ↔ ∃ e ∈ entries, fold e.1 = name :=
  List.mem_map

theorem last?_folded :
    last? p (folded fold f entries) =
      (last? (fun key => p (fold key)) entries).map fun e => (fold e.1, f e.2) := by
  unfold last? folded
  rw [← List.map_reverse, List.find?_map]
  rfl

end Folded

/-! ## Entries that differ under one key -/

/-- The same keys in the same order, with the same values under all of them but one. -/
def SameBut (key : String) (es es' : Entries α) : Prop :=
  List.Forall₂ (fun e e' => e.1 = e'.1 ∧ (e.1 ≠ key → e.2 = e'.2)) es es'

namespace SameBut

variable {key : String} {es es' : Entries α}

theorem has_eq (h : SameBut key es es') (k : String) : es.has k = es'.has k := by
  induction h with
  | nil => rfl
  | @cons e e' rest rest' he _ ih =>
    obtain ⟨k₁, v⟩ := e
    obtain ⟨k₂, v'⟩ := e'
    obtain rfl : k₁ = k₂ := he.1
    unfold has at ih ⊢
    by_cases hk : k₁ = k
    · simp [get?_cons, hk]
    · simpa [get?_cons, hk] using ih

theorem refl (key : String) (es : Entries α) : SameBut key es es :=
  List.forall₂_same.mpr fun _ _ => ⟨rfl, fun _ => rfl⟩

theorem put_key (h : SameBut key es es') (v v' : α) :
    SameBut key (es.put key v) (es'.put key v') := by
  induction h with
  | nil => exact List.Forall₂.cons ⟨rfl, fun hne => absurd rfl hne⟩ List.Forall₂.nil
  | @cons e e' rest rest' he hrest ih =>
    obtain ⟨k₁, w⟩ := e
    obtain ⟨k₂, w'⟩ := e'
    obtain rfl : k₁ = k₂ := he.1
    by_cases hk : k₁ = key
    · simp only [Entries.put, hk, if_true]
      exact List.Forall₂.cons ⟨rfl, fun hne => absurd rfl hne⟩ hrest
    · simp only [Entries.put, hk, if_false]
      exact List.Forall₂.cons he ih

theorem put (h : SameBut key es es') (k : String) (v : α) :
    SameBut key (es.put k v) (es'.put k v) := by
  induction h with
  | nil => exact List.Forall₂.cons ⟨rfl, fun _ => rfl⟩ List.Forall₂.nil
  | @cons e e' rest rest' he hrest ih =>
    obtain ⟨k₁, w⟩ := e
    obtain ⟨k₂, w'⟩ := e'
    obtain rfl : k₁ = k₂ := he.1
    by_cases hk : k₁ = k
    · simp only [Entries.put, hk, if_true]
      exact List.Forall₂.cons ⟨rfl, fun _ => rfl⟩ hrest
    · simp only [Entries.put, hk, if_false]
      exact List.Forall₂.cons he ih

theorem merge (h : SameBut key es es') (pairs : Entries α) :
    SameBut key (es.merge pairs) (es'.merge pairs) := by
  induction pairs generalizing es es' with
  | nil => exact h
  | cons p rest ih => exact ih (h.put p.1 p.2)

end SameBut

end RouteBook.Entries
