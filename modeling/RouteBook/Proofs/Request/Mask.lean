import RouteBook.Request.Mask
import Mathlib.Data.List.Infix
import Mathlib.Data.List.TakeWhile

/-!
# What a mask hides

A mask replaces what follows the first occurrence of a key, up to the next `&`. Text that is put behind a
front is hidden exactly when the mask of some key reaches to the end of the front (`hides`); otherwise it
shows as it is (`maskPath_append`). So two secrets behind one front are masked to the same text exactly
when they are equal or the front hides what follows (`maskPath_append_eq_iff`).

The secrets hold no `=` and each key ends with one, so no occurrence of a key reaches into a secret
(`splitOnce?_append`).
-/

namespace RouteBook.Mask

open RouteBook.Text

variable {key front tail : List Char}

/-! ## Occurrences of a key -/

theorem after?_eq_none_iff {cs : List Char} : after? key cs = none ↔ ¬ key <+: cs := by
  constructor
  · rintro h ⟨rest, rfl⟩
    rw [after?_eq_some_iff.mpr rfl] at h
    exact nomatch h
  · intro h
    cases ha : after? key cs with
    | none => rfl
    | some rest => exact absurd ⟨rest, (after?_eq_some_iff.mp ha).symm⟩ h

theorem splitOnce?_eq_none_iff {cs : List Char} : splitOnce? key cs = none ↔ ¬ key <:+: cs := by
  induction cs with
  | nil =>
    rw [splitOnce?, Option.map_eq_none_iff, after?_eq_none_iff, List.infix_nil, List.prefix_nil]
  | cons c cs ih =>
    rw [List.infix_cons_iff, not_or, ← after?_eq_none_iff, ← ih, splitOnce?]
    cases after? key (c :: cs) with
    | none => simp
    | some rest => simp

/-- A key that does not begin a text does not begin a longer one either, unless it ends beyond the first
one. -/
theorem after?_append_eq_none (h : after? key front = none)
    (hcut : ∀ more rest, more ≠ [] → tail = more ++ rest → key ≠ front ++ more) :
    after? key (front ++ tail) = none := by
  rw [after?_eq_none_iff] at h ⊢
  rintro ⟨rest, heq⟩
  rcases List.append_eq_append_iff.mp heq with ⟨more, hfront, -⟩ | ⟨more, hkey, htail⟩
  · exact h ⟨more, hfront.symm⟩
  · by_cases hmore : more = []
    · exact h ⟨[], by simp [hkey, hmore]⟩
    · exact hcut more rest hmore htail hkey

theorem splitOnce?_append {mark : Char} (hkey : [mark] <:+ key) (htail : mark ∉ tail)
    (front : List Char) :
    splitOnce? key (front ++ tail) =
      (splitOnce? key front).map fun p => (p.1, p.2 ++ tail) := by
  obtain ⟨stem, rfl⟩ := hkey
  -- The mark at the end of a key that begins in the front and ends in the tail would be in the tail.
  have hcut (front : List Char) : ∀ more rest, more ≠ [] → tail = more ++ rest →
      stem ++ [mark] ≠ front ++ more := by
    rintro more rest hne rfl heq
    have hlast := congrArg List.getLast? heq
    rw [List.getLast?_append_of_ne_nil front hne, List.getLast?_concat] at hlast
    exact htail (List.mem_append_left rest (List.mem_of_getLast? hlast.symm))
  induction front with
  | nil =>
    have hnone : splitOnce? (stem ++ [mark]) tail = none := by
      rw [splitOnce?_eq_none_iff]
      intro hfound
      exact htail (hfound.subset (by simp))
    have hnil : splitOnce? (stem ++ [mark]) [] = none := by
      rw [splitOnce?_eq_none_iff]
      simp
    rw [List.nil_append, hnone, hnil, Option.map_none]
  | cons c front ih =>
    show splitOnce? (stem ++ [mark]) (c :: (front ++ tail)) = _
    rw [splitOnce?, splitOnce?]
    cases ha : after? (stem ++ [mark]) (c :: front) with
    | some rest =>
      have hmore : after? (stem ++ [mark]) (c :: (front ++ tail)) = some (rest ++ tail) := by
        rw [after?_eq_some_iff, ← List.cons_append, after?_eq_some_iff.mp ha, List.append_assoc]
      rw [hmore, Option.map_some]
    | none =>
      have hnone : after? (stem ++ [mark]) (c :: (front ++ tail)) = none :=
        after?_append_eq_none ha (hcut (c :: front))
      rw [hnone]
      dsimp only
      rw [ih, Option.map_map, Option.map_map]
      rfl

theorem splitOnce?_append_cons {c : Char} (hc : c ∉ key) (hfront : splitOnce? key front = none)
    (tail : List Char) :
    splitOnce? key (front ++ c :: tail) =
      (splitOnce? key tail).map fun p => (front ++ c :: p.1, p.2) := by
  -- A key that begins in the front and ends behind it would hold the character between them.
  have hcut (front : List Char) : ∀ more rest, more ≠ [] → c :: tail = more ++ rest →
      key ≠ front ++ more := by
    rintro more rest hne heq rfl
    obtain ⟨d, more, rfl⟩ := List.exists_cons_of_ne_nil hne
    obtain rfl := (List.cons.inj heq).1
    exact hc (by simp)
  induction front with
  | nil =>
    have hnone : after? key (c :: tail) = none :=
      after?_append_eq_none (Option.map_eq_none_iff.mp hfront) (hcut [])
    rw [List.nil_append, splitOnce?, hnone]
    rfl
  | cons d front ih =>
    rw [splitOnce?] at hfront
    cases ha : after? key (d :: front) with
    | some rest =>
      rw [ha] at hfront
      exact nomatch hfront
    | none =>
      rw [ha] at hfront
      have hnone : after? key (d :: (front ++ c :: tail)) = none :=
        after?_append_eq_none ha (hcut (d :: front))
      show splitOnce? key (d :: (front ++ c :: tail)) = _
      rw [splitOnce?, hnone]
      dsimp only
      rw [ih (Option.map_eq_none_iff.mp hfront), Option.map_map]
      rfl

/-! ## Fronts that hide what follows -/

/-- Whether the mask of a key reaches to the end of a text: the key stands in it and no `&` follows. -/
def covers (key front : List Char) : Bool :=
  (splitOnce? key front).any fun p => !p.2.contains '&'

/-- Whether the masks of some keys, one after the other, hide what follows a text. -/
def hides : List (List Char) → List Char → Bool
  | [], _ => false
  | key :: keys, front => covers key front || hides keys (maskKey front key)

/-- Whether the mask of a path hides what follows a text. -/
def hidesNext (front : List Char) : Bool :=
  hides (secretKeys.map String.toList) front

variable {secret : List Char}

theorem dropWhile_of_not_mem {mark : Char} {cs : List Char} (h : mark ∉ cs) :
    cs.dropWhile (· != mark) = [] := by
  rw [List.dropWhile_eq_nil_iff]
  intro c hc
  exact bne_iff_ne.mpr fun hcm => h (hcm ▸ hc)

/-- A secret behind a front is hidden if the mask of the key reaches to it, and stays as it is if it does
not. -/
theorem maskKey_append (hkey : ['='] <:+ key) (hsecret : '=' ∉ secret ∧ '&' ∉ secret)
    (front : List Char) :
    maskKey (front ++ secret) key =
      maskKey front key ++ if covers key front then [] else secret := by
  unfold maskKey covers
  rw [splitOnce?_append hkey hsecret.1]
  rcases splitOnce? key front with _ | ⟨before, after⟩
  · rfl
  · show before ++ key ++ hidden ++ (after ++ secret).dropWhile (· != '&') = _
    rw [List.dropWhile_append, dropWhile_of_not_mem hsecret.2]
    by_cases hmark : '&' ∈ after
    · have hne : (after.dropWhile (· != '&')).isEmpty = false := by
        rw [List.isEmpty_eq_false_iff, ne_eq, List.dropWhile_eq_nil_iff]
        intro hnone
        exact absurd (hnone '&' hmark) (by decide)
      simp [hne, hmark]
    · simp [dropWhile_of_not_mem hmark, hmark]

theorem foldl_maskKey_append {keys : List (List Char)} (hkeys : ∀ key ∈ keys, ['='] <:+ key)
    (hsecret : '=' ∉ secret ∧ '&' ∉ secret) (front : List Char) :
    keys.foldl maskKey (front ++ secret) =
      keys.foldl maskKey front ++ if hides keys front then [] else secret := by
  induction keys generalizing front with
  | nil => rfl
  | cons key keys ih =>
    have hrest := ih fun k hk => hkeys k (List.mem_cons_of_mem key hk)
    rw [List.foldl_cons, List.foldl_cons, maskKey_append (hkeys key List.mem_cons_self) hsecret, hides]
    cases covers key front with
    | true => simp
    | false => simpa using hrest (maskKey front key)

theorem secretKeys_end : ∀ key ∈ secretKeys.map String.toList, ['='] <:+ key := by
  decide

/-- A secret behind a front is left out if the front hides it, and else shows as it is. -/
theorem maskPath_append {path : String} (hpath : path.toList = front ++ secret)
    (hsecret : '=' ∉ secret ∧ '&' ∉ secret) :
    (maskPath path).toList =
      (maskPath (String.ofList front)).toList ++ if hidesNext front then [] else secret := by
  unfold maskPath hidesNext
  rw [hpath, String.toList_ofList, String.toList_ofList, String.toList_ofList,
    foldl_maskKey_append secretKeys_end hsecret]

/-- Two secrets behind one front are masked alike exactly when they are equal or the front hides them. -/
theorem maskPath_append_eq_iff {path path' : String} {secret' : List Char}
    (hpath : path.toList = front ++ secret) (hpath' : path'.toList = front ++ secret')
    (hsecret : '=' ∉ secret ∧ '&' ∉ secret) (hsecret' : '=' ∉ secret' ∧ '&' ∉ secret') :
    maskPath path' = maskPath path ↔ secret' = secret ∨ hidesNext front = true := by
  rw [← String.toList_inj, maskPath_append hpath hsecret, maskPath_append hpath' hsecret',
    List.append_cancel_left_eq]
  cases hidesNext front with
  | true => simp
  | false => simp

/-! ## Keys behind a front -/

theorem splitOnce?_self (key : List Char) : splitOnce? key key = some ([], []) := by
  have hafter : after? key key = some [] := after?_eq_some_iff.mpr (List.append_nil key).symm
  cases key with
  | nil => rfl
  | cons k key => rw [splitOnce?, hafter]

theorem covers_behind {c : Char} (hc : c ∉ key) (hfront : splitOnce? key front = none) :
    covers key (front ++ c :: key) = true := by
  unfold covers
  rw [splitOnce?_append_cons hc hfront, splitOnce?_self]
  rfl

theorem maskKey_of_none (h : splitOnce? key front = none) : maskKey front key = front := by
  unfold maskKey
  rw [h]

end RouteBook.Mask
