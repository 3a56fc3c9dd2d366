/-!
# Ordered entries

A map that keeps the order in which its keys first came. Setting a key that is present
changes its value in place; a new key goes to the end.
-/

namespace RouteBook

/-- The entries of an ordered map. -/
abbrev Entries (α : Type u) := List (String × α)

namespace Entries

variable {α : Type u}

/-- The value of a key. -/
def get? (entries : Entries α) (key : String) : Option α :=
  match entries with
  | [] => none
  | (k, v) :: rest => if k = key then some v else get? rest key

/-- Sets the value of a key, in place or at the end. -/
def put (entries : Entries α) (key : String) (value : α) : Entries α :=
  match entries with
  | [] => [(key, value)]
  | (k, v) :: rest => if k = key then (k, value) :: rest else (k, v) :: put rest key value

/-- The keys in order. -/
def keys (entries : Entries α) : List String :=
  entries.map Prod.fst

/-- Whether a key is present. -/
def has (entries : Entries α) (key : String) : Bool :=
  (entries.get? key).isSome

/-- The entries that a list of pairs leaves when it is written one by one. -/
def ofList (pairs : List (String × α)) : Entries α :=
  pairs.foldl (fun entries p => entries.put p.1 p.2) []

/-- Writes all pairs of the second over the first. -/
def merge (entries : Entries α) (pairs : List (String × α)) : Entries α :=
  pairs.foldl (fun acc p => acc.put p.1 p.2) entries

theorem get?_put_self (entries : Entries α) (key : String) (value : α) :
    (entries.put key value).get? key = some value := by
  induction entries with
  | nil => simp [put, get?]
  | cons p rest ih =>
    obtain ⟨k, v⟩ := p
    by_cases h : k = key <;> simp [put, get?, h, ih]

theorem get?_put_of_ne (entries : Entries α) {key other : String} (value : α)
    (h : other ≠ key) : (entries.put key value).get? other = entries.get? other := by
  induction entries with
  | nil => simp [put, get?, Ne.symm h]
  | cons p rest ih =>
    obtain ⟨k, v⟩ := p
    by_cases hk : k = key
    · subst hk
      simp [put, get?, Ne.symm h]
    · by_cases ho : k = other
      · subst ho
        simp [put, get?, hk]
      · simp [put, get?, hk, ho, ih]

theorem keys_put_of_has {entries : Entries α} {key : String} (value : α)
    (h : entries.has key = true) : (entries.put key value).keys = entries.keys := by
  induction entries with
  | nil => simp [has, get?] at h
  | cons p rest ih =>
    obtain ⟨k, v⟩ := p
    by_cases hk : k = key
    · simp [put, keys, hk]
    · have hrest : Entries.has rest key = true := by simpa [has, get?, hk] using h
      simpa [put, keys, hk] using ih hrest

theorem length_put (entries : Entries α) (key : String) (value : α) :
    (entries.put key value).length = entries.length + if entries.has key then 0 else 1 := by
  induction entries with
  | nil => rfl
  | cons p rest ih =>
    obtain ⟨k, v⟩ := p
    by_cases hk : k = key
    · simp [put, has, get?, hk]
    · unfold has at ih ⊢
      simp only [put, get?, hk, if_false, List.length_cons, ih]
      exact Nat.add_right_comm _ _ 1

theorem get?_cons (k : String) (v : α) (rest : Entries α) (key : String) :
    get? ((k, v) :: rest) key = if k = key then some v else rest.get? key :=
  rfl

theorem mem_of_get? {entries : Entries α} {key : String} {v : α}
    (h : entries.get? key = some v) : (key, v) ∈ entries := by
  induction entries with
  | nil => exact nomatch h
  | cons p rest ih =>
    obtain ⟨k, u⟩ := p
    rw [get?_cons] at h
    by_cases hk : k = key
    · rw [if_pos hk] at h
      rw [hk, Option.some.inj h]
      exact List.mem_cons_self
    · rw [if_neg hk] at h
      exact List.mem_cons_of_mem _ (ih h)

theorem mem_put {entries : Entries α} {key : String} {value : α}
    {q : String × α} (h : q ∈ entries.put key value) : q ∈ entries ∨ q = (key, value) := by
  induction entries with
  | nil => exact Or.inr (List.mem_singleton.mp h)
  | cons p rest ih =>
    obtain ⟨k, v⟩ := p
    unfold put at h
    split at h
    case isTrue hk =>
      rcases List.mem_cons.mp h with rfl | h
      · exact Or.inr (by rw [hk])
      · exact Or.inl (List.mem_cons_of_mem _ h)
    case isFalse =>
      rcases List.mem_cons.mp h with rfl | h
      · exact Or.inl List.mem_cons_self
      · exact (ih h).imp_left (List.mem_cons_of_mem _)

end Entries

end RouteBook
