import RouteBook.Json.Reader
import RouteBook.Proofs.Fault.Bind
import Mathlib.Data.List.TakeWhile

/-!
# Texts that are read as null

Lists are read as lists and maps as maps, and no number is null, so null is read from its name alone
(`readValue_null`). A text without blanks around it is read as null only if it is that name
(`read_trim_eq_null_iff`).
-/

namespace RouteBook.Json

open RouteBook.Text

variable {src : Source} {fuel : Nat} {cs rest : List Char} {v : Value}

/-! ## What is read -/

theorem exists_of_readItems {items : List Value} (h : readItems src fuel items cs = .ok (v, rest)) :
    ∃ xs, v = .list xs := by
  induction fuel generalizing items cs with
  | zero => exact nomatch h
  | succ fuel ih =>
    rw [readItems] at h
    split at h
    · exact nomatch h
    · split at h
      · obtain ⟨rfl, -⟩ := Prod.mk.inj (Except.ok.inj h)
        exact ⟨_, rfl⟩
      · exact ih h
      · exact nomatch h

theorem exists_of_readMembers {hasRagged : Bool} {entries : Entries Value}
    (h : readMembers src fuel hasRagged entries cs = .ok (v, rest)) :
    ∃ isRagged es, v = .ofEntries isRagged es := by
  induction fuel generalizing hasRagged entries cs with
  | zero => exact nomatch h
  | succ fuel ih =>
    cases cs with
    | nil => exact nomatch h
    | cons c cs =>
      rw [readMembers] at h
      split at h
      · split at h
        · exact nomatch h
        · split at h
          · split at h
            · exact nomatch h
            · dsimp only at h
              split at h
              · obtain ⟨rfl, -⟩ := Prod.mk.inj (Except.ok.inj h)
                exact ⟨_, _, rfl⟩
              · exact ih h
              · exact nomatch h
          · exact nomatch h
      · exact nomatch h

theorem exists_of_readNumber (h : readNumber cs = .ok (v, rest)) :
    (∃ n, v = .int n) ∨ ∃ x, v = .float x := by
  unfold readNumber at h
  split at h
  dsimp only at h
  split at h
  · exact nomatch h
  · split at h
    · split at h
      · exact nomatch h
      · exact Or.inl ⟨_, (Prod.mk.inj (Except.ok.inj h)).1.symm⟩
    · exact Or.inr ⟨_, (Prod.mk.inj (Except.ok.inj h)).1.symm⟩

/-- Of all names only that of null is read as null. -/
theorem readScalar_null (h : readScalar cs = .ok (.null, rest)) : cs = "null".toList ++ rest := by
  unfold readScalar at h
  split at h
  · rename_i found hfound
    obtain rfl := Except.ok.inj h
    obtain ⟨p, hp, hafter⟩ := List.exists_of_findSome?_eq_some hfound
    obtain ⟨tail, htail, hpair⟩ := Option.map_eq_some_iff.mp hafter
    obtain ⟨hnull, rfl⟩ := Prod.mk.inj hpair
    have hname : p = ("null", .null) := by
      simp only [named, List.mem_cons, List.not_mem_nil, or_false] at hp
      rcases hp with rfl | rfl | rfl | rfl | rfl | rfl <;> first | rfl | exact nomatch hnull
    rw [hname] at htail
    exact after?_eq_some_iff.mp htail
  · obtain ⟨n, hn⟩ | ⟨x, hx⟩ := exists_of_readNumber h
    · exact nomatch hn
    · exact nomatch hx

/-- Null is read from its name alone. -/
theorem readValue_null (h : readValue src fuel cs = .ok (.null, rest)) : cs = "null".toList ++ rest := by
  cases fuel with
  | zero => exact nomatch h
  | succ fuel =>
    cases cs with
    | nil => exact nomatch h
    | cons c cs =>
      rw [readValue] at h
      split at h
      · obtain ⟨_, -, hpair⟩ := map_eq_ok_iff.mp h
        exact absurd (Prod.mk.inj hpair).1 (Value.ofLetters_ne_null _)
      · split at h
        · split at h
          · exact nomatch h
          · obtain ⟨isRagged, es, hes⟩ := exists_of_readMembers h
            cases isRagged <;> exact nomatch hes
        · split at h
          · split at h
            · exact nomatch h
            · obtain ⟨xs, hxs⟩ := exists_of_readItems h
              exact nomatch hxs
          · exact readScalar_null h

/-! ## Trimmed texts -/

theorem isBlank_of_isSpace {c : Char} (h : isSpace c = true) : isBlank c = true := by
  simp only [isSpace, Bool.or_eq_true, beq_iff_eq] at h
  rcases h with ((rfl | rfl) | rfl) | rfl <;> decide

theorem skipSpaces_trimChars (cs : List Char) : skipSpaces (trimChars cs) = trimChars cs := by
  cases htrim : trimChars cs with
  | nil => rfl
  | cons c tail =>
    have hspace : ¬ isSpace c = true := fun hs =>
      Bool.false_ne_true ((isBlank_head_trimChars htrim).symm.trans (isBlank_of_isSpace hs))
    exact List.dropWhile_cons_of_neg hspace

theorem eq_nil_of_trimChars {front : List Char} (htrim : trimChars cs = front ++ rest)
    (hspaces : skipSpaces rest = []) : rest = [] := by
  rcases List.eq_nil_or_concat' rest with hnil | ⟨init, c, rfl⟩
  · exact hnil
  · have hspace : isSpace c = true :=
      List.dropWhile_eq_nil_iff.mp hspaces c (by simp)
    rw [← List.append_assoc] at htrim
    exact absurd (isBlank_of_isSpace hspace) (by rw [isBlank_last_trimChars htrim]; exact nofun)

theorem readAll_trimChars_null (h : readAll src (trimChars cs) = .ok .null) :
    trimChars cs = "null".toList := by
  unfold readAll at h
  obtain ⟨⟨v, rest⟩, hread, h⟩ := bind_eq_ok_iff.mp h
  dsimp only at h
  split at h
  · rename_i hspaces
    obtain rfl := Except.ok.inj h
    have hname := readValue_null hread
    rw [skipSpaces_trimChars] at hname
    rw [eq_nil_of_trimChars hname hspaces, List.append_nil] at hname
    exact hname
  · exact nomatch h

theorem readAll_of_readFrom (h : readFrom src cs = .ok v) : readAll src cs = .ok v := by
  unfold readFrom at h
  cases hread : readAll src cs with
  | error stop =>
    rw [hread] at h
    exact nomatch h
  | ok w =>
    rw [hread] at h
    obtain rfl := Except.ok.inj h
    rfl

theorem readAll_of_readMarked (h : readMarked src cs = .ok v) : readAll src cs = .ok v := by
  unfold readMarked at h
  split at h
  · split at h
    · exact nomatch h
    · exact readAll_of_readFrom h
  · exact readAll_of_readFrom h

/-- A trimmed text is read as null only if it is the name of null. -/
theorem read_trim_eq_null_iff (s : String) : read (trim s) = .ok .null ↔ trim s = "null" := by
  constructor
  · intro h
    unfold read trim at h
    rw [String.toList_ofList] at h
    unfold trim
    rw [readAll_trimChars_null (readAll_of_readMarked h)]
    rfl
  · intro h
    rw [h]
    rfl

/-- A ragged text has another character, so it is never read as null. -/
theorem readRagged_trim_ne_null (r : Ragged) : readRagged r.trim ≠ .ok .null := by
  intro h
  unfold readRagged at h
  rw [r.face_trim, trim, String.toList_ofList] at h
  have hface : r.trim.face = "null" := by
    rw [r.face_trim, trim, readAll_trimChars_null (readAll_of_readMarked h)]
    rfl
  exact Ragged.face_ne (by decide) r.trim hface

end RouteBook.Json
