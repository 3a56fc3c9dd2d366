import RouteBook.Text.CamelCase
import RouteBook.Proofs.Text.LowerCase
import RouteBook.Text.Pieces
import Mathlib.Data.List.Basic

/-!
# Camel case goes by words

A name is spelled from words of ASCII characters with separators between them, each a hyphen or a run of
blanks (`spelled`). Scanning it stops at no character of a word (`boundary_of_plain`) and at each
separator raises the first character of the word behind it (`boundary_of_separator`). So the camel case
of a name is that of its words, whatever separates them (`camelCase_spelled`).
-/

namespace RouteBook.Text

variable {c d : Char} {s w : List Char}

/-! ## Words and separators -/

/-- A character of a word. -/
def IsPlain (c : Char) : Prop :=
  c.toNat < 0x80 ∧ c ≠ '-' ∧ c ≠ '/' ∧ isBlank c = false

instance (c : Char) : Decidable (IsPlain c) :=
  inferInstanceAs (Decidable (c.toNat < 0x80 ∧ c ≠ '-' ∧ c ≠ '/' ∧ isBlank c = false))

/-- A word of a name. -/
def IsNameWord (w : List Char) : Prop :=
  w ≠ [] ∧ ∀ c ∈ w, IsPlain c

-- The characters of the word are looked at, not all characters there are.
instance (w : List Char) : Decidable (IsNameWord w) :=
  haveI : Decidable (∀ c ∈ w, IsPlain c) := List.decidableBAll IsPlain w
  inferInstanceAs (Decidable (w ≠ [] ∧ ∀ c ∈ w, IsPlain c))

/-- What stands between two words: a hyphen, or a run of blanks. -/
def IsSeparator (s : List Char) : Prop :=
  s = ['-'] ∨ s ≠ [] ∧ ∀ c ∈ s, isBlank c = true

instance (s : List Char) : Decidable (IsSeparator s) :=
  haveI : Decidable (∀ c ∈ s, isBlank c = true) := List.decidableBAll (isBlank · = true) s
  inferInstanceAs (Decidable (s = ['-'] ∨ s ≠ [] ∧ ∀ c ∈ s, isBlank c = true))

/-- A name: its first word, and further words behind their separators. -/
def spelled (first : List Char) (rest : List (List Char × List Char)) : List Char :=
  first ++ rest.flatMap fun p => p.1 ++ p.2

/-- A text with its first character in upper case. -/
def capitalized : List Char → List Char
  | [] => []
  | c :: cs => c.toUpper :: cs

/-- The camel case of words: the first one in lower case, each other one in lower case behind a
capital. -/
def camelWords : List (List Char) → List Char
  | [] => []
  | w :: ws => w.map Char.toLower ++ ws.flatMap fun v => capitalized (v.map Char.toLower)

/-! ## Case of characters -/

theorem of_ascii {P : Char → Prop} (h : ∀ n < 0x80, P (Char.ofNat n)) (hc : c.toNat < 0x80) : P c := by
  have hP := h c.toNat hc
  rwa [Char.ofNat_toNat] at hP

theorem lowerChar_of_ascii (hc : c.toNat < 0x80) : c ≠ 'Σ' ∧ lowerChar c = [c.toLower] :=
  of_ascii (P := fun c => c ≠ 'Σ' ∧ lowerChar c = [c.toLower]) (by decide +kernel) hc

theorem upperChar_of_ascii (hc : c.toNat < 0x80) : upperChar c = [c.toUpper] :=
  of_ascii (P := fun c => upperChar c = [c.toUpper]) (by decide +kernel) hc

theorem lowerChars_toUpper_toLower (hc : c.toNat < 0x80) :
    lowerChars [c.toLower.toUpper] = [c.toLower] :=
  of_ascii (P := fun c => lowerChars [c.toLower.toUpper] = [c.toLower]) (by decide +kernel) hc

theorem IsPlain.toLower (hc : IsPlain c) : IsPlain c.toLower :=
  of_ascii (P := fun c => IsPlain c → IsPlain c.toLower) (by decide +kernel) hc.1 hc

theorem IsNameWord.map_toLower (hw : IsNameWord w) : IsNameWord (w.map Char.toLower) := by
  refine ⟨fun hnil => hw.1 (List.map_eq_nil_iff.mp hnil), fun c hc => ?_⟩
  obtain ⟨d, hd, rfl⟩ := List.mem_map.mp hc
  exact (hw.2 d hd).toLower

/-- The code points of the blanks. -/
def blanks : List Nat :=
  [9, 10, 11, 12, 13, 28, 29, 30, 31, 32, 0x85, 0xA0, 0x1680, 0x2000, 0x2001, 0x2002, 0x2003, 0x2004,
    0x2005, 0x2006, 0x2007, 0x2008, 0x2009, 0x200A, 0x2028, 0x2029, 0x202F, 0x205F, 0x3000]

theorem toNat_mem_blanks (h : isBlank c = true) : c.toNat ∈ blanks := by
  simp only [isBlank, Bool.or_eq_true, Bool.and_eq_true, decide_eq_true_eq, beq_iff_eq] at h
  simp only [blanks, List.mem_cons, List.not_mem_nil, or_false]
  omega

theorem lowerChar_of_isBlank (h : isBlank c = true) :
    c ≠ 'Σ' ∧ lowerChar c = [c.toLower] ∧ c.toLower = c := by
  have hall : ∀ n ∈ blanks, Char.ofNat n ≠ 'Σ' ∧
      lowerChar (Char.ofNat n) = [(Char.ofNat n).toLower] ∧
      (Char.ofNat n).toLower = Char.ofNat n := by decide +kernel
  have hc := hall c.toNat (toNat_mem_blanks h)
  rwa [Char.ofNat_toNat] at hc

theorem IsSeparator.lowerChar_eq (hs : IsSeparator s) :
    ∀ c ∈ s, c ≠ 'Σ' ∧ lowerChar c = [c.toLower] := by
  rcases hs with rfl | ⟨-, hblank⟩
  · intro c hc
    rw [List.mem_singleton.mp hc]
    exact lowerChar_of_ascii (by decide)
  · intro c hc
    obtain ⟨hsigma, hlower, -⟩ := lowerChar_of_isBlank (hblank c hc)
    exact ⟨hsigma, hlower⟩

theorem IsSeparator.map_toLower (hs : IsSeparator s) : s.map Char.toLower = s := by
  rcases hs with rfl | ⟨-, hblank⟩
  · rfl
  · have hsame : ∀ c ∈ s, c.toLower = id c := fun c hc => (lowerChar_of_isBlank (hblank c hc)).2.2
    rw [List.map_congr_left hsame, List.map_id]

theorem lowerChars_spelled {first : List Char} {rest : List (List Char × List Char)}
    (hfirst : IsNameWord first) (hrest : ∀ p ∈ rest, IsSeparator p.1 ∧ IsNameWord p.2) :
    lowerChars (spelled first rest) =
      spelled (first.map Char.toLower) (rest.map fun p => (p.1, p.2.map Char.toLower)) := by
  have hchars : ∀ c ∈ spelled first rest, c ≠ 'Σ' ∧ lowerChar c = [c.toLower] := by
    intro c hc
    rcases List.mem_append.mp hc with hc | hc
    · exact lowerChar_of_ascii (hfirst.2 c hc).1
    · obtain ⟨p, hp, hc⟩ := List.mem_flatMap.mp hc
      rcases List.mem_append.mp hc with hc | hc
      · exact (hrest p hp).1.lowerChar_eq c hc
      · exact lowerChar_of_ascii ((hrest p hp).2.2 c hc).1
  unfold lowerChars
  rw [lowerAfter_eq_map hchars]
  unfold spelled
  rw [List.map_append, List.map_flatMap, List.flatMap_map]
  refine congrArg _ (List.flatMap_congr fun p hp => ?_)
  rw [List.map_append, (hrest p hp).1.map_toLower]

/-! ## Scanning -/

theorem boundary_of_plain (hc : IsPlain c) (rest : List Char) : boundary c rest = none := by
  obtain ⟨-, hhyphen, -, hblank⟩ := hc
  unfold boundary blankBoundary
  rw [hblank]
  simp only [Bool.false_eq_true, if_false]
  split
  · exact absurd rfl hhyphen
  · rfl

theorem IsPlain.isRaisable (hc : IsPlain c) : isRaisable c = true := by
  unfold Text.isRaisable
  rw [bne_iff_ne]
  rintro rfl
  exact absurd hc (by decide)

theorem boundary_of_separator (hs : IsSeparator s) (hd : IsPlain d) (tail : List Char) :
    ∃ c more, s = c :: more ∧ boundary c (more ++ d :: tail) = some (d, tail) := by
  rcases hs with rfl | ⟨hne, hblank⟩
  · refine ⟨'-', [], rfl, ?_⟩
    show (if isRaisable d then some (d, tail) else none) = _
    rw [if_pos hd.isRaisable]
  · obtain ⟨c, more, rfl⟩ := List.exists_cons_of_ne_nil hne
    obtain ⟨hc, hmore⟩ := List.forall_mem_cons.mp hblank
    have hdrop : (more ++ d :: tail).dropWhile isBlank = d :: tail :=
      dropWhile_append_of_stop hmore fun e he => Option.some.inj he ▸ hd.2.2.2
    refine ⟨c, more, rfl, ?_⟩
    unfold boundary blankBoundary
    rw [hc, if_pos rfl, hdrop]

section

-- The equation of the scan holds whatever a boundary is. Lean would look into both to check it.
attribute [local irreducible] boundary upperChar

theorem raiseWords_cons (n : Nat) (c : Char) (rest : List Char) :
    raiseWords (n + 1) (c :: rest) =
      match boundary c rest with
      | some (raised, tail) => upperChar raised ++ raiseWords n tail
      | none => c :: raiseWords n rest :=
  rfl

end

theorem raiseWords_word (hw : ∀ c ∈ w, IsPlain c) (n : Nat) (rest : List Char) :
    raiseWords (w.length + n) (w ++ rest) = w ++ raiseWords n rest := by
  induction w with
  | nil => simp only [List.length_nil, Nat.zero_add, List.nil_append]
  | cons c w ih =>
    obtain ⟨hc, hw⟩ := List.forall_mem_cons.mp hw
    rw [List.length_cons, Nat.add_right_comm, List.cons_append, raiseWords_cons,
      boundary_of_plain hc]
    exact congrArg (c :: ·) (ih hw)

/-- A separator goes, and the word behind it is capitalized. Of the fuel, what the separator has is left
over. -/
theorem raiseWords_separator (hs : IsSeparator s) (hw : IsNameWord w) (n : Nat) (rest : List Char)
    (hn : w.length ≤ n) :
    raiseWords n (s ++ w ++ rest) = capitalized w ++ raiseWords (n - w.length) rest := by
  obtain ⟨d, w, rfl⟩ := List.exists_cons_of_ne_nil hw.1
  obtain ⟨hd, hplain⟩ := List.forall_mem_cons.mp hw.2
  obtain ⟨c, more, rfl, hboundary⟩ := boundary_of_separator hs hd (w ++ rest)
  obtain ⟨k, rfl⟩ : ∃ k, n = w.length + k + 1 := ⟨n - w.length - 1, by simp at hn; omega⟩
  have htext : c :: more ++ d :: w ++ rest = c :: (more ++ d :: (w ++ rest)) := by simp
  have hleft : w.length + k + 1 - (d :: w).length = k := by simp
  rw [htext, hleft, raiseWords_cons, hboundary]
  show upperChar d ++ raiseWords (w.length + k) (w ++ rest) = _
  rw [raiseWords_word hplain, upperChar_of_ascii hd.1]
  rfl

/-- Each word behind a separator is capitalized. -/
theorem raiseWords_spelled {rest : List (List Char × List Char)}
    (hrest : ∀ p ∈ rest, IsSeparator p.1 ∧ IsNameWord p.2) (n : Nat)
    (hn : (rest.flatMap fun p => p.1 ++ p.2).length ≤ n) :
    raiseWords n (rest.flatMap fun p => p.1 ++ p.2) = rest.flatMap fun p => capitalized p.2 := by
  induction rest generalizing n with
  | nil => cases n <;> rfl
  | cons p rest ih =>
    obtain ⟨⟨hs, hw⟩, hrest⟩ := List.forall_mem_cons.mp hrest
    rw [List.flatMap_cons, List.length_append, List.length_append] at hn
    rw [List.flatMap_cons, List.flatMap_cons, raiseWords_separator hs hw n _ (by omega),
      ih hrest _ (by omega)]

/-! ## Main result -/

theorem pascalChars_of_cons {cs rest : List Char} (hlower : lowerChars cs = c :: rest) (hc : IsPlain c) :
    pascalChars cs = c.toUpper :: raiseWords rest.length rest := by
  unfold pascalChars
  rw [hlower]
  show (if isRaisable c then upperChar c ++ raiseWords rest.length rest else _) = _
  rw [if_pos hc.isRaisable, upperChar_of_ascii hc.1]
  rfl

theorem pascalChars_spelled {first : List Char} {rest : List (List Char × List Char)}
    (hfirst : IsNameWord first) (hrest : ∀ p ∈ rest, IsSeparator p.1 ∧ IsNameWord p.2) :
    pascalChars (spelled first rest) =
      capitalized (first.map Char.toLower) ++
        rest.flatMap fun p => capitalized (p.2.map Char.toLower) := by
  have hrest' : ∀ p ∈ rest.map fun p => (p.1, p.2.map Char.toLower),
      IsSeparator p.1 ∧ IsNameWord p.2 := by
    intro p hp
    obtain ⟨q, hq, rfl⟩ := List.mem_map.mp hp
    exact ⟨(hrest q hq).1, (hrest q hq).2.map_toLower⟩
  have hfirst' := hfirst.map_toLower
  obtain ⟨c, v, hv⟩ := List.exists_cons_of_ne_nil hfirst'.1
  have hlower : lowerChars (spelled first rest) =
      c :: (v ++ (rest.map fun p => (p.1, p.2.map Char.toLower)).flatMap fun p => p.1 ++ p.2) := by
    rw [lowerChars_spelled hfirst hrest, hv]
    rfl
  rw [hv] at hfirst' ⊢
  obtain ⟨hc, hplain⟩ := List.forall_mem_cons.mp hfirst'.2
  rw [pascalChars_of_cons hlower hc, List.length_append, raiseWords_word hplain,
    raiseWords_spelled hrest' _ le_rfl, List.flatMap_map]
  rfl

/-- The camel case of a name is that of its words, whatever separates them. -/
theorem camelCase_spelled {first : List Char} {rest : List (List Char × List Char)}
    (hfirst : IsNameWord first) (hrest : ∀ p ∈ rest, IsSeparator p.1 ∧ IsNameWord p.2) :
    camelCase (String.ofList (spelled first rest)) false =
      String.ofList (camelWords (first :: rest.map Prod.snd)) := by
  unfold camelCase
  rw [String.toList_ofList, pascalChars_spelled hfirst hrest]
  obtain ⟨c, w, rfl⟩ := List.exists_cons_of_ne_nil hfirst.1
  have hc := lowerChars_toUpper_toLower (hfirst.2 c List.mem_cons_self).1
  show String.ofList (lowerChars [c.toLower.toUpper] ++ _) = _
  rw [hc, camelWords, List.flatMap_map]
  rfl

theorem camelCase_empty : camelCase "" false = String.ofList (camelWords []) :=
  rfl

theorem camelCase_lower (name : String) (upper : Bool) :
    camelCase (lower name) upper = camelCase name upper := by
  unfold camelCase pascalChars lower
  rw [String.toList_ofList, lowerChars_lowerChars]

end RouteBook.Text
