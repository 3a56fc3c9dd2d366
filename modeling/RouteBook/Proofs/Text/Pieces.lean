import RouteBook.Request.Authority
import RouteBook.Text.Pieces
import Mathlib.Data.List.TakeWhile

/-!
# Splitting undoes joining

The pieces of texts joined by a character are these texts when none of them holds the character
(`pieces_joinWith`), and cutting at a character gives what stood before it and after it
(`cut_append_cons`). Texts that were joined in groups are joined like all of them at once
(`joinWith_flatten`).
-/

namespace RouteBook.Text

variable {mark : Char}

/-! ## Pieces -/

theorem pieces_of_not_mem {cs : List Char} (h : mark ∉ cs) : pieces mark cs = [cs] := by
  induction cs with
  | nil => rfl
  | cons c rest ih =>
    obtain ⟨hc, hrest⟩ := not_or.mp (mt List.mem_cons.mpr h)
    rw [pieces, if_neg (Ne.symm hc), ih hrest]

theorem pieces_append_cons {x : List Char} (h : mark ∉ x) (rest : List Char) :
    pieces mark (x ++ mark :: rest) = x :: pieces mark rest := by
  induction x with
  | nil => rw [List.nil_append, pieces, if_pos rfl]
  | cons c x ih =>
    obtain ⟨hc, hx⟩ := not_or.mp (mt List.mem_cons.mpr h)
    rw [List.cons_append, pieces, if_neg (Ne.symm hc), ih hx]

theorem not_mem_of_mem_pieces {cs piece : List Char} (h : piece ∈ pieces mark cs) :
    mark ∉ piece := by
  induction cs generalizing piece with
  | nil =>
    rw [List.mem_singleton.mp h]
    exact List.not_mem_nil
  | cons c rest ih =>
    rw [pieces] at h
    by_cases hc : c = mark
    · rw [if_pos hc] at h
      rcases List.mem_cons.mp h with rfl | h
      · exact List.not_mem_nil
      · exact ih h
    · rw [if_neg hc] at h
      cases hp : pieces mark rest with
      | nil => exact absurd hp (pieces_ne_nil mark rest)
      | cons first others =>
        rw [hp] at h ih
        rcases List.mem_cons.mp h with rfl | h
        · exact List.not_mem_cons_of_ne_of_not_mem (Ne.symm hc) (ih List.mem_cons_self)
        · exact ih (List.mem_cons_of_mem _ h)

/-! ## Joining -/

theorem joinWith_cons_cons (separator x y : List Char) (rest : List (List Char)) :
    joinWith separator (x :: y :: rest) = x ++ separator ++ joinWith separator (y :: rest) :=
  rfl

theorem exists_joinWith_cons (separator x : List Char) (xs : List (List Char)) :
    ∃ more, joinWith separator (x :: xs) = x ++ more := by
  cases xs with
  | nil => exact ⟨[], (List.append_nil x).symm⟩
  | cons y ys => exact ⟨_, by rw [joinWith_cons_cons, List.append_assoc]⟩

theorem joinWith_singleton (c : Char) (x y : List Char) (xs : List (List Char)) :
    joinWith [c] (x :: y :: xs) = x ++ c :: joinWith [c] (y :: xs) := by
  rw [joinWith_cons_cons, List.append_assoc, List.singleton_append]

theorem mem_joinWith {separator : List Char} {xs : List (List Char)} {c : Char}
    (h : c ∈ joinWith separator xs) : c ∈ separator ∨ ∃ x ∈ xs, c ∈ x := by
  induction xs with
  | nil => exact absurd h List.not_mem_nil
  | cons x rest ih =>
    cases rest with
    | nil => exact Or.inr ⟨x, List.mem_singleton_self x, h⟩
    | cons y rest =>
      rw [joinWith_cons_cons, List.append_assoc, List.mem_append, List.mem_append] at h
      rcases h with h | h | h
      · exact Or.inr ⟨x, List.mem_cons_self, h⟩
      · exact Or.inl h
      · rcases ih h with h | ⟨z, hz, hc⟩
        · exact Or.inl h
        · exact Or.inr ⟨z, List.mem_cons_of_mem x hz, hc⟩

theorem mem_joinWith_of_mem {separator x : List Char} {xs : List (List Char)} {c : Char} (hx : x ∈ xs)
    (hc : c ∈ x) : c ∈ joinWith separator xs := by
  induction xs with
  | nil => exact absurd hx List.not_mem_nil
  | cons y rest ih =>
    cases rest with
    | nil => rwa [List.mem_singleton.mp hx] at hc
    | cons z rest =>
      rw [joinWith_cons_cons, List.append_assoc, List.mem_append, List.mem_append]
      rcases List.mem_cons.mp hx with rfl | hx
      · exact Or.inl hc
      · exact Or.inr (Or.inr (ih hx))

theorem joinWith_append (separator : List Char) {xs ys : List (List Char)} (hxs : xs ≠ [])
    (hys : ys ≠ []) :
    joinWith separator (xs ++ ys) = joinWith separator xs ++ separator ++ joinWith separator ys := by
  obtain ⟨y, ys, rfl⟩ := List.exists_cons_of_ne_nil hys
  induction xs with
  | nil => exact absurd rfl hxs
  | cons x rest ih =>
    cases rest with
    | nil => exact joinWith_cons_cons separator x y ys
    | cons x' rest =>
      have hrest := ih (List.cons_ne_nil x' rest)
      rw [List.cons_append, List.cons_append, joinWith_cons_cons, ← List.cons_append, hrest,
        joinWith_cons_cons]
      simp only [List.append_assoc]

theorem joinWith_flatten (separator : List Char) {xss : List (List (List Char))}
    (h : ∀ xs ∈ xss, xs ≠ []) :
    joinWith separator (xss.map (joinWith separator)) = joinWith separator xss.flatten := by
  induction xss with
  | nil => rfl
  | cons xs rest ih =>
    obtain ⟨hxs, hrest⟩ := List.forall_mem_cons.mp h
    cases rest with
    | nil => simp [joinWith]
    | cons ys rest =>
      have hflat : (ys :: rest).flatten ≠ [] := by simp [(List.forall_mem_cons.mp hrest).1]
      rw [List.flatten_cons, joinWith_append separator hxs hflat, ← ih hrest]
      exact joinWith_cons_cons separator _ _ _

theorem joinWith_eq_intercalate (separator : List Char) (xs : List (List Char)) :
    joinWith separator xs = separator.intercalate xs := by
  induction xs with
  | nil => rfl
  | cons x rest ih =>
    cases rest with
    | nil => simp [joinWith, List.intercalate]
    | cons y rest =>
      rw [joinWith_cons_cons, ih]
      simp [List.intercalate, List.intersperse]

theorem toList_intercalate (separator : String) (xs : List String) :
    (separator.intercalate xs).toList = joinWith separator.toList (xs.map String.toList) := by
  rw [joinWith_eq_intercalate, String.toList_intercalate]

theorem intercalate_ofList (separator : String) (xs : List (List Char)) :
    separator.intercalate (xs.map String.ofList) = String.ofList (joinWith separator.toList xs) := by
  have hlists : (xs.map String.ofList).map String.toList = xs := by simp [Function.comp_def]
  rw [← String.toList_inj, toList_intercalate, hlists, String.toList_ofList]

/-- Splitting undoes joining with a character that none of the texts holds. -/
theorem pieces_joinWith {xs : List (List Char)} (hne : xs ≠ []) (h : ∀ x ∈ xs, mark ∉ x) :
    pieces mark (joinWith [mark] xs) = xs := by
  induction xs with
  | nil => exact absurd rfl hne
  | cons x rest ih =>
    cases rest with
    | nil => exact pieces_of_not_mem (h x List.mem_cons_self)
    | cons y rest =>
      rw [joinWith_singleton, pieces_append_cons (h x List.mem_cons_self),
        ih (List.cons_ne_nil y rest) fun z hz => h z (List.mem_cons_of_mem x hz)]

end RouteBook.Text

namespace RouteBook.Authority

theorem cut_append_cons {mark : Char} {x : List Char} (h : mark ∉ x) (rest : List Char) :
    cut mark (x ++ mark :: rest) = (x, rest) := by
  have hx : ∀ c ∈ x, (c != mark) = true := fun c hc => bne_iff_ne.mpr fun hcm => h (hcm ▸ hc)
  have hmark : ∀ c ∈ (mark :: rest).head?, (c != mark) = false := fun c hc =>
    Option.some.inj hc ▸ bne_self_eq_false mark
  unfold cut
  rw [Text.takeWhile_append_of_stop hx hmark, Text.dropWhile_append_of_stop hx hmark, List.drop_one,
    List.tail_cons]

theorem cut_of_not_mem {mark : Char} {x : List Char} (h : mark ∉ x) : cut mark x = (x, []) := by
  have hx : ∀ c ∈ x, (c != mark) = true := fun c hc => bne_iff_ne.mpr fun hcm => h (hcm ▸ hc)
  unfold cut
  rw [List.takeWhile_eq_self_iff.mpr hx, List.dropWhile_eq_nil_iff.mpr hx, List.drop_nil]

end RouteBook.Authority
