import RouteBook.Text.Case
import Mathlib.Data.Char

/-!
# Lower case is final

A text in lower case is its own lower case (`lower_lower`). A lower case is made of characters that stay
as they are wherever they stand (`isLower_of_mem_lowerAfter`): the table of case maps leads from each of
its runs to characters that no run has (`lowerRuns_clear`).
-/

namespace RouteBook.Text

/-- A character that is in lower case wherever it stands. -/
def IsLower (c : Char) : Prop :=
  c ≠ 'Σ' ∧ lowerChar c = [c]

instance (c : Char) : Decidable (IsLower c) :=
  inferInstanceAs (Decidable (c ≠ 'Σ' ∧ lowerChar c = [c]))

/-! ## Runs of a case table -/

variable {r r' : Nat × Nat × Nat × Int} {n : Nat} {c d : Char}

/-- A run has a code point. -/
def InRun (r : Nat × Nat × Nat × Int) (n : Nat) : Prop :=
  r.1 ≤ n ∧ n ≤ r.2.1 ∧ (n - r.1) % r.2.2.1 = 0

instance (r : Nat × Nat × Nat × Int) (n : Nat) : Decidable (InRun r n) :=
  inferInstanceAs (Decidable (r.1 ≤ n ∧ n ≤ r.2.1 ∧ (n - r.1) % r.2.2.1 = 0))

/-- Where the shift of a run leads from a code point. -/
def shifted (r : Nat × Nat × Nat × Int) (n : Nat) : Nat :=
  ((n : Int) + r.2.2.2).toNat

/-- Whether a run leads past another one: its images end before the other run, start behind it, or, where
both go in steps of two, fall between its characters. -/
def passes (r r' : Nat × Nat × Nat × Int) : Bool :=
  let low := shifted r r.1
  let high := shifted r r.2.1
  Nat.blt high r'.1 || Nat.blt r'.2.1 low ||
    (Nat.beq r'.2.2.1 2 && (Nat.beq r.2.2.1 2 || Nat.beq r.1 r.2.1) &&
      Nat.beq ((low + r'.1) % 2) 1)

theorem not_inRun_of_passes (h : passes r r' = true) (hlow : 0 ≤ (r.1 : Int) + r.2.2.2)
    (hn : InRun r n) : ¬ InRun r' (shifted r n) := by
  obtain ⟨first, last, step, shift⟩ := r
  obtain ⟨first', last', step', shift'⟩ := r'
  obtain ⟨hfirst, hlast, hstep⟩ := hn
  simp only [passes, shifted, Bool.or_eq_true, Bool.and_eq_true, Nat.blt_eq, Nat.beq_eq] at h
  rintro ⟨hfirst', hlast', hstep'⟩
  simp only [shifted] at *
  rcases h with (h | h) | ⟨⟨rfl, rfl | rfl⟩, h⟩ <;> omega

/-- The code points that are no character in lower case: the capitals of ASCII, the one character with an
expansion, those that stand for no character, and the characters of the table. -/
def notLower : List (Nat × Nat × Nat × Int) :=
  (0x41, 0x5a, 1, 0) :: (0x130, 0x130, 1, 0) :: (0xd800, 0xdfff, 1, 0) :: Table.lowerRuns

theorem lowerRuns_clear : ∀ r ∈ Table.lowerRuns, 0 ≤ (r.1 : Int) + r.2.2.2 ∧
    shifted r r.2.1 < 0x110000 ∧ notLower.all (passes r) = true := by
  decide +kernel

theorem lowerExpansions_clear : ∀ e ∈ Table.lowerExpansions, ∀ n ∈ e.2,
    n < 0x110000 ∧ notLower.all (fun r => !decide (InRun r n)) = true := by
  decide +kernel

theorem shiftIn_eq_none (runs : List (Nat × Nat × Nat × Int)) (h : ∀ r ∈ runs, ¬ InRun r n) :
    shiftIn runs n = none := by
  unfold shiftIn
  rw [List.findSome?_eq_none_iff]
  rintro ⟨first, last, step, shift⟩ hr
  have hout := h _ hr
  simp only [InRun, not_and] at hout
  have hcondition : (first ≤ n && n ≤ last && (n - first) % step == 0) = false := by
    simpa using hout
  simp [hcondition]

theorem exists_run_of_shiftIn {runs : List (Nat × Nat × Nat × Int)} {shift : Int}
    (h : shiftIn runs n = some shift) : ∃ r ∈ runs, InRun r n ∧ r.2.2.2 = shift := by
  obtain ⟨⟨first, last, step, shift'⟩, hr, hshift⟩ := List.exists_of_findSome?_eq_some h
  simp only [Option.ite_none_right_eq_some, Bool.and_eq_true, decide_eq_true_eq, beq_iff_eq] at hshift
  obtain ⟨⟨⟨hfirst, hlast⟩, hstep⟩, heq⟩ := hshift
  exact ⟨_, hr, ⟨hfirst, hlast, hstep⟩, Option.some.inj heq⟩

/-! ## Characters in lower case -/

theorem toNat_ofNat_of_not_surrogate (hn : n < 0x110000) (h : ¬ InRun (0xd800, 0xdfff, 1, 0) n) :
    (Char.ofNat n).toNat = n := by
  have hvalid : n.isValidChar := by
    simp only [InRun, Nat.mod_one, and_true, not_and, not_le] at h
    unfold Nat.isValidChar
    omega
  rw [Char.ofNat, dif_pos hvalid]
  rfl

theorem isLower_ofNat (hn : n < 0x110000) (h : ∀ r ∈ notLower, ¬ InRun r n) :
    IsLower (Char.ofNat n) := by
  unfold notLower at h
  rw [List.forall_mem_cons, List.forall_mem_cons, List.forall_mem_cons] at h
  obtain ⟨hcapital, hexpanded, hsurrogate, hruns⟩ := h
  have htoNat := toNat_ofNat_of_not_surrogate hn hsurrogate
  constructor
  · intro hsigma
    have hn : n = 0x3a3 := by
      rw [← htoNat, hsigma]
      rfl
    exact hruns (0x3a3, 0x3ab, 1, 32) (by decide) (by simp [hn, InRun])
  · simp only [InRun, Nat.mod_one, and_true, not_and, not_le] at hcapital hexpanded
    unfold lowerChar mapCase
    rw [htoNat]
    split_ifs with hascii hletter
    · simp only [Bool.and_eq_true, decide_eq_true_eq, Char.le_def, UInt32.le_iff_toNat_le] at hletter
      change 65 ≤ (Char.ofNat n).toNat ∧ (Char.ofNat n).toNat ≤ 90 at hletter
      omega
    · rfl
    · have hlookup : Table.lowerExpansions.lookup n = none := by
        have hne : (n == 0x130) = false := by
          rw [beq_eq_false_iff_ne]
          omega
        rw [Table.lowerExpansions, List.lookup_cons, hne]
        rfl
      rw [shiftIn_eq_none Table.lowerRuns hruns, hlookup]

theorem isLower_of_mem_lowerChar (hc : c ≠ 'Σ') (hd : d ∈ lowerChar c) : IsLower d := by
  by_cases hself : lowerChar c = [c]
  · rw [hself, List.mem_singleton] at hd
    exact hd ▸ ⟨hc, hself⟩
  unfold lowerChar at hd hself
  split_ifs at hd hself with hascii hletter
  · -- A capital of ASCII.
    have hall : ∀ n < 0x80, 'A' ≤ Char.ofNat n ∧ Char.ofNat n ≤ 'Z' →
        IsLower (Char.ofNat ((Char.ofNat n).toNat + 32)) := by decide +kernel
    have hcapital := hall c.toNat hascii
    rw [Char.ofNat_toNat] at hcapital
    simp only [Bool.and_eq_true, decide_eq_true_eq] at hletter
    rw [List.mem_singleton.mp hd]
    exact hcapital hletter
  · exact absurd rfl hself
  · unfold mapCase at hd hself
    cases hshift : shiftIn Table.lowerRuns c.toNat with
    | some shift =>
      rw [hshift] at hd
      obtain ⟨r, hr, hrun, rfl⟩ := exists_run_of_shiftIn hshift
      obtain ⟨hlow, hhigh, hclear⟩ := lowerRuns_clear r hr
      rw [List.mem_singleton.mp hd]
      refine isLower_ofNat ?_ fun r' hr' => ?_
      · have hlast := hrun.2.1
        unfold shifted at hhigh
        omega
      · exact not_inRun_of_passes (List.all_eq_true.mp hclear r' hr') hlow hrun
    | none =>
      rw [hshift] at hd hself
      cases hlookup : Table.lowerExpansions.lookup c.toNat with
      | none =>
        rw [hlookup] at hself
        exact absurd rfl hself
      | some ns =>
        rw [hlookup] at hd
        obtain ⟨before, after, hsplit, -⟩ := List.lookup_eq_some_iff.mp hlookup
        have hmem : (c.toNat, ns) ∈ Table.lowerExpansions := by
          rw [hsplit]
          exact List.mem_append_right before List.mem_cons_self
        obtain ⟨n, hn, rfl⟩ := List.mem_map.mp hd
        obtain ⟨hhigh, hclear⟩ := lowerExpansions_clear _ hmem n hn
        exact isLower_ofNat hhigh fun r hr => by simpa using List.all_eq_true.mp hclear r hr

theorem isLower_lowerSigma (before after : List Char) : IsLower (lowerSigma before after) := by
  unfold lowerSigma
  split_ifs <;> decide +kernel

/-! ## Texts in lower case -/

theorem isLower_of_mem_lowerAfter {before cs : List Char} (h : d ∈ lowerAfter before cs) :
    IsLower d := by
  induction cs generalizing before with
  | nil => exact absurd h List.not_mem_nil
  | cons c rest ih =>
    rw [lowerAfter, List.mem_append] at h
    rcases h with h | h
    · by_cases hc : c = 'Σ'
      · rw [if_pos (beq_iff_eq.mpr hc), List.mem_singleton] at h
        rw [h]
        exact isLower_lowerSigma before rest
      · rw [if_neg (by simpa using hc)] at h
        exact isLower_of_mem_lowerChar hc h
    · exact ih h

theorem lowerAfter_eq_map {before cs : List Char} {f : Char → Char}
    (h : ∀ c ∈ cs, c ≠ 'Σ' ∧ lowerChar c = [f c]) : lowerAfter before cs = cs.map f := by
  induction cs generalizing before with
  | nil => rfl
  | cons c rest ih =>
    obtain ⟨⟨hsigma, hc⟩, hrest⟩ := List.forall_mem_cons.mp h
    rw [lowerAfter, if_neg (by simpa using hsigma), hc, ih hrest]
    rfl

theorem lowerAfter_eq_self {before cs : List Char} (h : ∀ c ∈ cs, IsLower c) :
    lowerAfter before cs = cs := by
  rw [lowerAfter_eq_map (f := id) h, List.map_id]

theorem lowerChars_lowerChars (cs : List Char) : lowerChars (lowerChars cs) = lowerChars cs :=
  lowerAfter_eq_self fun _ hc => isLower_of_mem_lowerAfter hc

/-- A text in lower case is its own lower case. -/
theorem lower_lower (s : String) : lower (lower s) = lower s := by
  unfold lower
  rw [String.toList_ofList, lowerChars_lowerChars]

end RouteBook.Text
