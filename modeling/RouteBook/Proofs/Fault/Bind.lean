import RouteBook.Fault
import RouteBook.Schema.Problem
import RouteBook.Validation.Rejection
import Mathlib.Data.List.Forall2

/-!
# Chains of steps that may fail

A chain gives a value exactly when each of its steps does (`bind_eq_ok_iff`), a loop gives its results
step by step (`mapM_eq_ok_iff`) or fails where its first step does (`mapM_eq_error_iff`), and their errors
are those of the steps. `FailsWithin P x` says that every error of `x` is one of `P`; it goes through
chains, maps and loops step by step.
-/

namespace RouteBook

universe u v

variable {ε α β : Type} {P : ε → Prop}

/-! ## Values of a chain -/

theorem bind_eq_ok_iff {x : Except ε α} {f : α → Except ε β} {b : β} :
    (x >>= f) = .ok b ↔ ∃ a, x = .ok a ∧ f a = .ok b := by
  cases x with
  | error e => exact ⟨fun h => (nomatch h), fun ⟨_, h, _⟩ => (nomatch h)⟩
  | ok a => exact ⟨fun h => ⟨a, rfl, h⟩, fun ⟨_, ha, h⟩ => Except.ok.inj ha ▸ h⟩

theorem map_eq_ok_iff {x : Except ε α} {f : α → β} {b : β} :
    x.map f = .ok b ↔ ∃ a, x = .ok a ∧ f a = b := by
  cases x with
  | error e => exact ⟨fun h => (nomatch h), fun ⟨_, h, _⟩ => (nomatch h)⟩
  | ok a => exact ⟨fun h => ⟨a, rfl, Except.ok.inj h⟩, fun ⟨_, ha, h⟩ => by cases ha; rw [← h]; rfl⟩

theorem map_eq_error_iff {x : Except ε α} {f : α → β} {e : ε} :
    x.map f = .error e ↔ x = .error e := by
  cases x with
  | error e' => exact ⟨fun h => congrArg Except.error (Except.error.inj h), fun h => h ▸ rfl⟩
  | ok a => exact ⟨fun h => (nomatch h), fun h => (nomatch h)⟩

theorem exists_of_isOk {x : Except ε α} (h : x.isOk = true) : ∃ a, x = .ok a := by
  cases x with
  | error e => exact nomatch h
  | ok a => exact ⟨a, rfl⟩

theorem lift_eq_ok_iff {x : Except Fault α} {a : α} :
    (liftM x : Except SchemaError α) = .ok a ↔ x = .ok a := by
  cases x with
  | error f => exact ⟨fun h => (nomatch h), fun h => (nomatch h)⟩
  | ok b =>
    constructor
    · intro h
      exact congrArg Except.ok (Except.ok.inj h)
    · intro h
      exact congrArg Except.ok (Except.ok.inj h)

theorem mapM_eq_ok_iff {f : α → Except ε β} {xs : List α} {ys : List β} :
    xs.mapM f = .ok ys ↔ List.Forall₂ (fun x y => f x = .ok y) xs ys := by
  induction xs generalizing ys with
  | nil =>
    rw [List.forall₂_nil_left_iff]
    constructor
    · intro h
      exact (Except.ok.inj h).symm
    · rintro rfl
      rfl
  | cons x xs ih =>
    rw [List.mapM_cons, List.forall₂_cons_left_iff, bind_eq_ok_iff]
    constructor
    · rintro ⟨b, hb, h⟩
      obtain ⟨bs, hbs, h⟩ := bind_eq_ok_iff.mp h
      exact ⟨b, bs, hb, ih.mp hbs, (Except.ok.inj h).symm⟩
    · rintro ⟨b, bs, hb, hbs, rfl⟩
      exact ⟨b, hb, bind_eq_ok_iff.mpr ⟨bs, ih.mpr hbs, rfl⟩⟩

theorem mapM_eq_error_iff {f : α → Except ε β} {xs : List α} {e : ε} :
    xs.mapM f = .error e ↔ ∃ before x after, xs = before ++ x :: after ∧
      (∀ b ∈ before, ∃ y, f b = .ok y) ∧ f x = .error e := by
  induction xs with
  | nil =>
    constructor
    · exact nofun
    · rintro ⟨before, x, after, hsplit, -, -⟩
      exact absurd hsplit.symm (List.append_ne_nil_of_right_ne_nil before (List.cons_ne_nil x after))
  | cons first xs ih =>
    rw [List.mapM_cons]
    cases hfirst : f first with
    | error e' =>
      constructor
      · intro h
        exact ⟨[], first, xs, rfl, nofun, hfirst.trans (congrArg _ (Except.error.inj h))⟩
      · rintro ⟨before, x, after, hsplit, hbefore, hx⟩
        rcases List.cons_eq_append_iff.mp hsplit with ⟨rfl, heq⟩ | ⟨before', rfl, -⟩
        · obtain ⟨rfl, -⟩ := List.cons.inj heq
          exact congrArg Except.error (Except.error.inj (hfirst.symm.trans hx))
        · obtain ⟨y, hy⟩ := hbefore first List.mem_cons_self
          exact nomatch hfirst.symm.trans hy
    | ok y =>
      have hrest : (do let b ← (.ok y : Except ε β); let bs ← xs.mapM f; pure (b :: bs)) = .error e ↔
          xs.mapM f = .error e := map_eq_error_iff
      rw [hrest, ih]
      constructor
      · rintro ⟨before, x, after, rfl, hbefore, hx⟩
        exact ⟨first :: before, x, after, rfl, List.forall_mem_cons.mpr ⟨⟨y, hfirst⟩, hbefore⟩, hx⟩
      · rintro ⟨before, x, after, hsplit, hbefore, hx⟩
        rcases List.cons_eq_append_iff.mp hsplit with ⟨rfl, heq⟩ | ⟨before', rfl, rfl⟩
        · obtain ⟨rfl, -⟩ := List.cons.inj heq
          exact nomatch hfirst.symm.trans hx
        · exact ⟨before', x, after, rfl, (List.forall_mem_cons.mp hbefore).2, hx⟩

/-- A loop gives results if and only if each of its steps gives one. -/
theorem exists_mapM_iff {f : α → Except ε β} {xs : List α} :
    (∃ ys, xs.mapM f = .ok ys) ↔ ∀ x ∈ xs, ∃ y, f x = .ok y := by
  constructor
  · rintro ⟨ys, h⟩
    induction mapM_eq_ok_iff.mp h with
    | nil => exact fun x hx => absurd hx List.not_mem_nil
    | cons hxy htail ih => exact List.forall_mem_cons.mpr ⟨⟨_, hxy⟩, ih (mapM_eq_ok_iff.mpr htail)⟩
  · intro h
    cases hxs : xs.mapM f with
    | ok ys => exact ⟨ys, rfl⟩
    | error e =>
      obtain ⟨before, x, after, rfl, -, hx⟩ := mapM_eq_error_iff.mp hxs
      obtain ⟨y, hy⟩ := h x (List.mem_append_right before List.mem_cons_self)
      exact nomatch hx.symm.trans hy

theorem map_of_mapM_eq_ok {γ : Type} {f : α → Except ε β} {g : β → γ} {k : α → γ} {xs : List α}
    {ys : List β} (hstep : ∀ x y, f x = .ok y → g y = k x) (h : xs.mapM f = .ok ys) :
    ys.map g = xs.map k := by
  induction mapM_eq_ok_iff.mp h with
  | nil => rfl
  | cons hxy htail ih => rw [List.map_cons, List.map_cons, hstep _ _ hxy, ih (mapM_eq_ok_iff.mpr htail)]

theorem mem_of_mapM_eq_ok {f : α → Except ε β} {xs : List α} {ys : List β}
    (h : xs.mapM f = .ok ys) : ∀ y ∈ ys, ∃ x ∈ xs, f x = .ok y := by
  induction mapM_eq_ok_iff.mp h with
  | nil => exact fun y hy => absurd hy List.not_mem_nil
  | @cons x y xs ys hxy htail ih =>
    rw [List.forall_mem_cons]
    refine ⟨⟨x, List.mem_cons_self, hxy⟩, fun z hz => ?_⟩
    obtain ⟨x', hx', hf⟩ := ih (mapM_eq_ok_iff.mpr htail) z hz
    exact ⟨x', List.mem_cons_of_mem x hx', hf⟩

/-! ## Errors of a chain -/

/-- Every error of a result is one of the given. -/
def FailsWithin (P : ε → Prop) (x : Except ε α) : Prop :=
  ∀ e, x = .error e → P e

namespace FailsWithin

theorem ok (a : α) : FailsWithin P (.ok a : Except ε α) :=
  fun _ h => nomatch h

theorem pure (a : α) : FailsWithin P (Pure.pure a : Except ε α) :=
  ok a

theorem mono {Q : ε → Prop} {x : Except ε α} (hx : FailsWithin P x) (h : ∀ e, P e → Q e) :
    FailsWithin Q x :=
  fun e he => h e (hx e he)

theorem error {e : ε} (h : P e) : FailsWithin P (.error e : Except ε α) :=
  fun _ he => Except.error.inj he ▸ h

theorem bind {x : Except ε α} {f : α → Except ε β} (hx : FailsWithin P x)
    (hf : ∀ a, FailsWithin P (f a)) : FailsWithin P (x >>= f) := by
  cases x with
  | error e => exact error (hx e rfl)
  | ok a => exact hf a

theorem map {x : Except ε α} (f : α → β) (hx : FailsWithin P x) : FailsWithin P (x.map f) := by
  cases x with
  | error e => exact error (hx e rfl)
  | ok a => exact ok (f a)

theorem mapM {f : α → Except ε β} {xs : List α} (hf : ∀ a ∈ xs, FailsWithin P (f a)) :
    FailsWithin P (xs.mapM f) := by
  induction xs with
  | nil => exact pure _
  | cons x xs ih =>
    rw [List.mapM_cons]
    refine bind (hf x List.mem_cons_self) fun b => bind (ih fun a ha => ?_) fun bs => pure _
    exact hf a (List.mem_cons_of_mem x ha)

theorem foldlM {f : β → α → Except ε β} {xs : List α} (hf : ∀ b, ∀ a ∈ xs, FailsWithin P (f b a))
    (b : β) : FailsWithin P (xs.foldlM f b) := by
  induction xs generalizing b with
  | nil => exact pure _
  | cons x xs ih =>
    rw [List.foldlM_cons]
    refine bind (hf b x List.mem_cons_self) fun b' => ih (fun b a ha => ?_) b'
    exact hf b a (List.mem_cons_of_mem x ha)

end FailsWithin

end RouteBook
