import RouteBook.Proofs.Json.Null

/-!
# A text in JSON is longer than the text that it writes

Every character of a string takes at least one character of its JSON, and the quotes stand around them
(`length_readString`). So no text is read as itself (`read_trim_ne_self`).
-/

namespace RouteBook

open RouteBook.Text

/-- The number of letters of a text. -/
def Value.letterCount : Value → Nat
  | text s => s.toList.length
  | ragged r => r.letters.length
  | _ => 0

theorem Value.letterCount_ofLetters (letters : List Letter) :
    (ofLetters letters).letterCount = letters.length := by
  unfold ofLetters
  split
  · rfl
  · rw [letterCount, String.toList_ofList, List.length_map]

namespace Json

variable {src : Source} {opening cs rest : List Char} {out : List Letter} {u : Units} {phase : Phase}
  {fuel : Nat} {v : Value}

/-! ## Strings -/

theorem length_settled_letter (u : Units) (l : Letter) :
    (u.letter l).settled.length = u.settled.length + 1 :=
  rfl

/-- One more unit is at most one more character: the second half of a pair takes the place of what
stood for the first. -/
theorem length_settled_unit (u : Units) (n : Nat) :
    (u.unit n).settled.length ≤ u.settled.length + 1 := by
  unfold Units.unit
  split
  · rename_i h hhigh hlow
    simp [Units.settled, hhigh]
  · split_ifs
    · simp [Units.settled]
    · exact (length_settled_letter u _).le
    · exact (length_settled_letter u _).le

/-- What is read is no longer than what it takes, and the closing quote is one more. -/
theorem length_readString (h : readString src opening phase u cs = .ok (out, rest)) :
    out.length + rest.length + 1 ≤ u.settled.length + cs.length := by
  fun_induction readString src opening phase u cs
  case case1 | case2 | case5 | case9 | case10 | case12 => exact nomatch h
  case case3 u c tail _ =>
    obtain ⟨rfl, rfl⟩ := Prod.mk.inj (Except.ok.inj h)
    rw [List.length_reverse, List.length_cons]
    omega
  -- A character of an escape that gives nothing yet.
  case case4 ih | case7 ih | case11 ih =>
    have hmore := ih h
    rw [List.length_cons]
    omega
  -- A character, by itself or by a short escape.
  case case6 ih | case8 ih =>
    have hmore := ih h
    rw [length_settled_letter] at hmore
    rw [List.length_cons]
    omega
  -- The last digit of an escape gives a unit.
  case case13 value _ u _ _ d _ _ ih =>
    have hmore := ih h
    have hunit := length_settled_unit u (16 * value + d)
    rw [List.length_cons]
    omega

/-! ## Texts -/

theorem isText_of_readNumber (h : readNumber cs = .ok (v, rest)) : v.isText = false := by
  obtain ⟨n, rfl⟩ | ⟨x, rfl⟩ := exists_of_readNumber h
  · rfl
  · rfl

theorem isText_of_readScalar (h : readScalar cs = .ok (v, rest)) : v.isText = false := by
  unfold readScalar at h
  split at h
  · rename_i found hfound
    obtain rfl := Except.ok.inj h
    obtain ⟨p, hp, hafter⟩ := List.exists_of_findSome?_eq_some hfound
    obtain ⟨tail, -, hpair⟩ := Option.map_eq_some_iff.mp hafter
    obtain ⟨rfl, -⟩ := Prod.mk.inj hpair
    simp only [named, List.mem_cons, List.not_mem_nil, or_false] at hp
    rcases hp with rfl | rfl | rfl | rfl | rfl | rfl <;> rfl
  · exact isText_of_readNumber h

theorem letterCount_lt_of_readValue (htext : v.isText = true)
    (h : readValue src fuel cs = .ok (v, rest)) : v.letterCount < cs.length := by
  cases fuel with
  | zero =>
    rw [readValue] at h
    cases h
  | succ fuel =>
    cases cs with
    | nil =>
      rw [readValue] at h
      · cases h
      · exact Nat.succ_ne_zero fuel
    | cons c cs =>
      rw [readValue] at h
      split at h
      · obtain ⟨⟨s, tail⟩, hread, hpair⟩ := map_eq_ok_iff.mp h
        obtain ⟨rfl, -⟩ := Prod.mk.inj hpair
        have hlength := length_readString hread
        rw [Value.letterCount_ofLetters, List.length_cons]
        have hnothing : Units.none.settled.length = 0 := rfl
        omega
      · split at h
        · split at h
          · cases h
            cases htext
          · obtain ⟨isRagged, es, rfl⟩ := exists_of_readMembers h
            cases isRagged <;> cases htext
        · split at h
          · split at h
            · cases h
              cases htext
            · obtain ⟨xs, rfl⟩ := exists_of_readItems h
              cases htext
          · rw [isText_of_readScalar h] at htext
            cases htext

/-- A text is never read as a text of its own length, so not as itself. -/
theorem letterCount_lt_of_readMarked (htext : v.isText = true) (h : readMarked src cs = .ok v) :
    v.letterCount < cs.length := by
  have hall := readAll_of_readMarked h
  unfold readAll at hall
  obtain ⟨⟨w, rest⟩, hread, hall⟩ := bind_eq_ok_iff.mp hall
  dsimp only at hall
  split at hall
  · obtain rfl := Except.ok.inj hall
    exact (letterCount_lt_of_readValue htext hread).trans_le (List.dropWhile_sublist isSpace).length_le
  · exact nomatch hall

theorem read_trim_ne_self (t : String) : read (trim t) ≠ .ok (.text t) := by
  intro h
  have hread : t.toList.length < (trim t).toList.length := letterCount_lt_of_readMarked rfl h
  have htrim : (trim t).toList.length ≤ t.toList.length := by
    unfold trim
    rw [String.toList_ofList]
    exact (trimChars_sublist t.toList).length_le
  omega

theorem readRagged_trim_ne_self (r : Ragged) : readRagged r.trim ≠ .ok (.ragged r) := by
  intro h
  have hread : r.letters.length < r.trim.face.toList.length := letterCount_lt_of_readMarked rfl h
  have htrim : r.trim.face.toList.length ≤ r.letters.length := by
    rw [r.face_trim, trim, String.toList_ofList]
    refine (trimChars_sublist r.face.toList).length_le.trans ?_
    rw [Ragged.face, String.toList_ofList, List.length_map]
  omega

end Json

end RouteBook
