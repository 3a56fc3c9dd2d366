import RouteBook.Proofs.Json.Null
import RouteBook.Proofs.Request.Placement
import RouteBook.Proofs.Validation.Checked

/-!
# Required parameters

Whether a parameter is there is decided before it is converted. Conversions never give null, but for
one: a document that is written `null` (`convert_eq_null_iff`). So after a check that passes a required
parameter is null in that case alone, and a request then leaves it out as if it were absent
(`check_required`).
-/

namespace RouteBook

variable {name : String} {rule : Rule} {rules : Entries Rule} {message after : Message}

namespace Validation

/-- Whether a value is a text that a rule reads as a document and that writes null. -/
def WritesNull (rule : Rule) (v : Value) : Prop :=
  rule.kind = some .json ∧ ∃ s, v = .text s ∧ Text.trim s = "null"

/-- Among values that are there only a document is converted to null. -/
theorem convert_eq_null_iff {v given : Value} (hv : v ≠ .null) :
    convert name rule v given = .ok .null ↔
      rule.kind = some .json ∧ ((∃ s, v = .text s ∧ Json.read s = .ok .null) ∨
        ∃ r, v = .ragged r ∧ Json.readRagged r = .ok .null) := by
  unfold convert
  cases hkind : rule.kind with
  | none => exact ⟨fun h => absurd (Except.ok.inj h) hv, fun h => nomatch h.1⟩
  | some kind =>
    cases kind with
    | number =>
      refine ⟨fun h => ?_, fun h => nomatch h.1⟩
      obtain ⟨n, hn⟩ := Coercion.exists_of_coerce_number h
      exact nomatch hn
    | float =>
      refine ⟨fun h => ?_, fun h => nomatch h.1⟩
      obtain ⟨x, hx⟩ := Coercion.exists_of_coerce_float h
      exact nomatch hx
    | date =>
      refine ⟨fun h => ?_, fun h => nomatch h.1⟩
      obtain ⟨t, ht⟩ := Coercion.exists_of_toDate h
      exact nomatch ht
    | other n => exact ⟨fun h => absurd (Except.ok.inj h) hv, fun h => nomatch h.1⟩
    | json =>
      constructor
      · intro h
        rcases Coercion.toDocument_eq_ok h with hread | hread | ⟨-, hsame⟩
        · exact ⟨rfl, .inl hread⟩
        · exact ⟨rfl, .inr hread⟩
        · exact absurd hsame.symm hv
      · rintro ⟨-, ⟨s, rfl, hread⟩ | ⟨r, rfl, hread⟩⟩
        · exact Coercion.toDocument_text.mpr hread
        · exact Coercion.toDocument_ragged.mpr hread

theorem convert_trimmed_eq_null_iff (name : String) {given : Value}
    (hpresent : given.trimmed.isBlank = false) :
    convert name rule given.trimmed given = .ok .null ↔ WritesNull rule given := by
  have hnull : given.trimmed ≠ .null := fun h => by
    rw [h] at hpresent
    exact nomatch hpresent
  rw [convert_eq_null_iff hnull]
  refine and_congr_right fun _ => ?_
  cases given with
  | text s =>
    show (_ ∨ ∃ r, Value.text (Text.trim s) = .ragged r ∧ _) ↔ _
    rw [or_iff_left fun ⟨_, hr, _⟩ => nomatch hr]
    show (∃ t, Value.text (Text.trim s) = .text t ∧ _) ↔ ∃ t, Value.text s = .text t ∧ _
    simp only [Value.text.injEq, exists_eq_left', Json.read_trim_eq_null_iff]
  | ragged r =>
    refine ⟨?_, fun ⟨_, ht, _⟩ => nomatch ht⟩
    rintro (⟨_, ht, -⟩ | ⟨_, ht, hread⟩)
    · exact nomatch ht
    · obtain rfl := Value.ragged.inj ht
      exact absurd hread (Json.readRagged_trim_ne_null r)
  | _ =>
    refine ⟨?_, fun ⟨_, ht, _⟩ => nomatch ht⟩
    rintro (⟨_, ht, -⟩ | ⟨_, ht, -⟩) <;> exact nomatch ht

theorem eq_text_of_isEmptyText {v : Value} (h : isEmptyText v.trimmed = true) :
    ∃ s, v = .text s ∧ Text.trim s = "" := by
  cases v with
  | text s => exact ⟨s, rfl, beq_iff_eq.mp h⟩
  | _ => exact absurd h Bool.false_ne_true

/-- A parameter that is required and passes is null afterwards only if it writes null. -/
theorem checkParam_of_required {given : Value} {o : Option Value}
    (hrequired : rule.required = true) (h : checkParam name rule given = .ok o) :
    o.getD given = .null ↔ WritesNull rule given := by
  rcases checkParam_eq_ok_iff.mp h with ⟨-, hallowed, rfl⟩ | ⟨hpresent, -, w, hw, rfl⟩
  · -- It is an empty text that is allowed.
    obtain ⟨-, hempty⟩ := hallowed hrequired
    obtain ⟨s, rfl, hs⟩ := eq_text_of_isEmptyText hempty
    refine ⟨fun hnull => absurd hnull Value.noConfusion, fun ⟨_, t, ht, hnull⟩ => ?_⟩
    obtain rfl := Value.text.inj ht
    rw [hs] at hnull
    exact absurd hnull (by decide)
  · rw [← convert_trimmed_eq_null_iff name hpresent, hw]
    exact ⟨fun hnull => congrArg Except.ok hnull, Except.ok.inj⟩

/-- **Required parameters.** After a check that passes, a required parameter is null exactly if it was
given as a document that is written `null`. Then a request passes over it, without a warning. In every
other case it has a value, and a request puts it into its place. -/
theorem check_required (hkeys : rules.keys.Nodup) (hrule : (name, rule) ∈ rules)
    (hrequired : rule.required = true) (hcheck : check rules message = (after, .ok ())) :
    (WritesNull rule (message.value name) →
        after.value name = .null ∧ ∀ path a, Assembly.step after path a (name, rule) = .ok a) ∧
      (¬ WritesNull rule (message.value name) →
        after.value name ≠ .null ∧ ∀ path a, Assembly.step after path a (name, rule) =
          a.orDropped path name (a.place name rule (after.value name))) := by
  obtain ⟨o, hparam, hget⟩ := check_entry hkeys hrule hcheck
  have hvalue : after.value name = o.getD (message.value name) := by
    unfold Entries.value
    rw [hget]
    cases o <;> rfl
  have hnull := checkParam_of_required hrequired hparam
  rw [← hvalue] at hnull
  refine ⟨fun hwrites => ⟨hnull.mpr hwrites, fun path a => ?_⟩, fun hother => ?_⟩
  · unfold Assembly.step
    rw [hnull.mpr hwrites]
  · have hgiven : after.value name ≠ .null := mt hnull.mp hother
    exact ⟨hgiven, fun path a => Assembly.step_of_given hgiven⟩

theorem check_singleton (message : Message) {o : Option Value}
    (h : checkParam name rule (message.value name) = .ok o) :
    check [(name, rule)] message = (written message name o, .ok ()) := by
  rw [check_cons, h]
  rfl

/-- A number is there after the check. -/
theorem check_required_number :
    let rule : Rule := { required := true, kind := some .number }
    let message : Message := [("id", .text " 7 ")]
    let after : Message := [("id", .int 7)]
    check [("id", rule)] message = (after, .ok ()) ∧ after.value "id" ≠ .null := by
  intro rule message after
  have htrim : Value.trimmed (.text " 7 ") = .text "7" := rfl
  have hparam : checkParam "id" rule (.text " 7 ") = .ok (some (.int 7)) := by
    unfold checkParam
    rw [htrim]
    rfl
  have hcheck : check [("id", rule)] message = (after, .ok ()) :=
    (check_singleton message hparam).trans rfl
  have hkind : ¬ WritesNull rule (message.value "id") := fun h => absurd h.1 (by decide)
  have hrequired := check_required (by decide) List.mem_cons_self rfl hcheck
  exact ⟨hcheck, (hrequired.2 hkind).1⟩

/-- A required document that is written `null` passes and is gone: its name stays in the address. -/
theorem required_null_passes :
    let rule : Rule := { required := true, kind := some .json }
    let message : Message := [("user", .text " null ")]
    let after : Message := [("user", .null)]
    let route : Route :=
      { path := "users/get", space := "users", name := "get", url := .text "/users/:user",
        method := "GET", params := [("user", rule)] }
    check [("user", rule)] message = (after, .ok ()) ∧ after.value "user" = .null ∧
      (Assembly.assemble after route .query none).map (fun a => (a.url, a.warnings)) =
        .ok ("/users/:user".toList, []) := by
  intro rule message after route
  have htrim : Value.trimmed (.text " null ") = .text "null" := rfl
  have hparam : checkParam "user" rule (.text " null ") = .ok (some .null) := by
    unfold checkParam
    rw [htrim]
    rfl
  exact ⟨(check_singleton message hparam).trans rfl, rfl, rfl⟩

end Validation

end RouteBook
