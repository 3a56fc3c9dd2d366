import RouteBook.Proofs.Decimal.Range
import RouteBook.Proofs.Json.Length
import RouteBook.Proofs.Validation.Progress

/-!
# Checking a message again

A check that has passed may be repeated on what it left. It passes again and changes nothing exactly if
every rule keeps the value that it finds (`check_eq_self_iff`). Values that were not converted are kept
as they are. A converted value is a number, a moment or a document, and to this value the rule is applied
like to any other: the blank check, the pattern and the conversion (`keeps_iff_acceptable`).
-/

namespace RouteBook

variable {name : String} {rule : Rule} {v w given : Value} {rules : Entries Rule}
  {message after : Message}

namespace Value

theorem trimmed_trimmed (v : Value) : v.trimmed.trimmed = v.trimmed := by
  cases v with
  | text s => exact congrArg Value.text (Text.trim_trim s)
  | ragged r => exact congrArg Value.ragged r.trim_trim
  | _ => rfl

theorem trimmed_of_isText (h : v.isText = false) : v.trimmed = v := by
  cases v with
  | text s | ragged r => exact Bool.noConfusion h
  | _ => rfl

theorem exists_of_trimmed_text {s : String} (h : v.trimmed = .text s) :
    ∃ u, v = .text u ∧ s = Text.trim u := by
  cases v with
  | text u => exact ⟨u, rfl, (text.inj h).symm⟩
  | _ => exact nomatch h

theorem exists_of_trimmed_ragged {r : Text.Ragged} (h : v.trimmed = .ragged r) :
    ∃ u, v = .ragged u ∧ r = u.trim := by
  cases v with
  | ragged u => exact ⟨u, rfl, (ragged.inj h).symm⟩
  | _ => exact nomatch h

theorem isText_trimmed (v : Value) : v.trimmed.isText = v.isText := by
  cases v <;> rfl

end Value

namespace Validation

/-! ## Values that a rule keeps -/

/-- The parameter passes and its value stays as it is. -/
def Keeps (name : String) (rule : Rule) (v : Value) : Prop :=
  ∃ o, checkParam name rule v = .ok o ∧ o.getD v = v

theorem keeps_iff :
    Keeps name rule v ↔
      v.trimmed.isBlank = true ∧ AllowsBlank rule v.trimmed ∨
        v.trimmed.isBlank = false ∧ Found rule v.trimmed ∧ convert name rule v.trimmed v = .ok v := by
  unfold Keeps
  simp only [checkParam_eq_ok_iff]
  constructor
  · rintro ⟨o, ⟨hblank, hallowed, -⟩ | ⟨hpresent, hfound, w, hw, rfl⟩, ho⟩
    · exact Or.inl ⟨hblank, hallowed⟩
    · obtain rfl : w = v := ho
      exact Or.inr ⟨hpresent, hfound, hw⟩
  · rintro (⟨hblank, hallowed⟩ | ⟨hpresent, hfound, hw⟩)
    · exact ⟨none, Or.inl ⟨hblank, hallowed, rfl⟩, rfl⟩
    · exact ⟨some v, Or.inr ⟨hpresent, hfound, v, hw, rfl⟩, rfl⟩

theorem written_of_keeps {o : Option Value}
    (h : checkParam name rule (message.value name) = .ok o)
    (ho : o.getD (message.value name) = message.value name) : written message name o = message := by
  cases o with
  | none => rfl
  | some w =>
    obtain ⟨u, hu⟩ := Option.isSome_iff_exists.mp (has_of_checkParam h)
    obtain rfl : w = u := by
      unfold Entries.value at ho
      rw [hu] at ho
      exact ho
    exact Entries.put_of_get? hu

/-- A check changes nothing and passes exactly if each rule keeps the value of its parameter. -/
theorem check_eq_self_iff (hkeys : rules.keys.Nodup) :
    check rules message = (message, .ok ()) ↔
      ∀ name rule, (name, rule) ∈ rules → Keeps name rule (message.value name) := by
  constructor
  · intro h name rule hrule
    obtain ⟨o, hparam, hget⟩ := check_entry hkeys hrule h
    refine ⟨o, hparam, ?_⟩
    cases o with
    | none => rfl
    | some w =>
      unfold Entries.value
      rw [hget]
      rfl
  · intro h
    induction rules with
    | nil => rfl
    | cons r rest ih =>
      obtain ⟨name, rule⟩ := r
      obtain ⟨o, hparam, ho⟩ := h name rule List.mem_cons_self
      obtain ⟨-, hrest⟩ := Entries.nodup_keys_cons.mp hkeys
      rw [check_cons, hparam]
      dsimp only
      rw [written_of_keeps hparam ho]
      exact ih hrest fun key keyRule hmem => h key keyRule (List.mem_cons_of_mem _ hmem)

/-! ## Converted values -/

/-- The kind of the rule gives the value another form. -/
def Rewrites (rule : Rule) (v : Value) : Prop :=
  rule.kind = some .number ∨ rule.kind = some .float ∨ rule.kind = some .date ∨
    rule.kind = some .json ∧ v.isText = true

/-- A value that is there and that the kind of its rule gives another form. -/
def Converted (rule : Rule) (given : Value) : Prop :=
  given.trimmed.isBlank = false ∧ Rewrites rule given

/-- A rule accepts a value that has the form of its kind already. -/
structure Acceptable (rule : Rule) (v : Value) : Prop where
  allowed : v.trimmed.isBlank = true → AllowsBlank rule v.trimmed
  found : v.trimmed.isBlank = false → Found rule v.trimmed
  /-- A text would be read as a document. -/
  notText : v.trimmed.isBlank = false → rule.kind = some .json → v.isText = false

theorem rewrites_trimmed_iff : Rewrites rule given.trimmed ↔ Rewrites rule given := by
  unfold Rewrites
  rw [Value.isText_trimmed]

theorem convert_of_not_rewrites (h : ¬ Rewrites rule v) : convert name rule v given = .ok v := by
  unfold Rewrites at h
  unfold convert
  cases hkind : rule.kind with
  | none => rfl
  | some kind =>
    rw [hkind] at h
    cases kind with
    | other n => rfl
    | json =>
      refine Coercion.toDocument_of_isText (Bool.eq_false_iff.mpr fun htext => ?_)
      exact h (Or.inr (Or.inr (Or.inr ⟨rfl, htext⟩)))
    | _ => exact absurd (by simp) h

/-- A converted value is converted to itself, unless it is a text that a document wrote. -/
theorem convert_again (hrewrites : Rewrites rule v) (hw : convert name rule v given = .ok w)
    (hrange : ∀ n, rule.kind = some .number → w = .int n → n.natAbs < Binary64.overflowBound) :
    convert name rule w.trimmed w = .ok w ↔ (rule.kind = some .json → w.isText = false) := by
  unfold convert at hw ⊢
  rcases hrewrites with hkind | hkind | hkind | ⟨hkind, -⟩
  · rw [hkind] at hw ⊢
    obtain ⟨n, rfl⟩ := Coercion.exists_of_coerce_number hw
    refine ⟨fun _ _ => rfl, fun _ => ?_⟩
    have hsome := (Binary64.isSome_ofInt?_iff n).mpr (hrange n hkind rfl)
    show Coercion.coerce name (.int n) .number (.int n) = .ok (.int n)
    unfold Coercion.coerce Coercion.toNumber?
    dsimp only
    rw [if_pos hsome]
    rfl
  · rw [hkind] at hw ⊢
    obtain ⟨x, rfl⟩ := Coercion.exists_of_coerce_float hw
    exact ⟨fun _ _ => rfl, fun _ => rfl⟩
  · rw [hkind] at hw ⊢
    obtain ⟨t, rfl⟩ := Coercion.exists_of_toDate hw
    exact ⟨fun _ _ => rfl, fun _ => rfl⟩
  · rw [hkind]
    refine ⟨fun h _ => ?_, fun h => ?_⟩
    · rcases Coercion.toDocument_eq_ok h with ⟨s, hs, hread⟩ | ⟨r, hr, hread⟩ | ⟨hother, -⟩
      · obtain ⟨u, rfl, rfl⟩ := Value.exists_of_trimmed_text hs
        exact absurd hread (Json.read_trim_ne_self u)
      · obtain ⟨u, rfl, rfl⟩ := Value.exists_of_trimmed_ragged hr
        exact absurd hread (Json.readRagged_trim_ne_self u)
      · rwa [Value.isText_trimmed] at hother
    · have htext := h rfl
      rw [Value.trimmed_of_isText htext]
      exact Coercion.toDocument_of_isText htext

theorem keeps_iff_acceptable (hrewrites : Rewrites rule v) (hw : convert name rule v given = .ok w)
    (hrange : ∀ n, rule.kind = some .number → w = .int n → n.natAbs < Binary64.overflowBound) :
    Keeps name rule w ↔ Acceptable rule w := by
  rw [keeps_iff, convert_again hrewrites hw hrange]
  constructor
  · rintro (⟨hblank, hallowed⟩ | ⟨hpresent, hfound, htext⟩)
    · rw [← Bool.not_eq_false] at hblank
      exact ⟨fun _ => hallowed, fun h => absurd h hblank, fun h => absurd h hblank⟩
    · rw [← Bool.not_eq_true] at hpresent
      exact ⟨fun h => absurd h hpresent, fun _ => hfound, fun _ => htext⟩
  · intro h
    cases hblank : w.trimmed.isBlank with
    | true => exact Or.inl ⟨rfl, h.allowed hblank⟩
    | false => exact Or.inr ⟨rfl, h.found hblank, h.notText hblank⟩

theorem keeps_of_not_converted {o : Option Value} (h : checkParam name rule given = .ok o)
    (hnot : ¬ Converted rule given) : Keeps name rule (o.getD given) := by
  rcases checkParam_eq_ok_iff.mp h with ⟨-, -, rfl⟩ | ⟨hpresent, hfound, w, hw, rfl⟩
  · exact ⟨none, h, rfl⟩
  · have hsame : ¬ Rewrites rule given.trimmed := fun hrewrites =>
      hnot ⟨hpresent, rewrites_trimmed_iff.mp hrewrites⟩
    rw [convert_of_not_rewrites hsame] at hw
    obtain rfl := Except.ok.inj hw
    show Keeps name rule given.trimmed
    rw [keeps_iff, Value.trimmed_trimmed]
    exact Or.inr ⟨hpresent, hfound, convert_of_not_rewrites hsame⟩

/-! ## The second check -/

/-- **A checked message is checked again** without a change exactly if each converted value is acceptable
to its rule. Integers that are out of range are left aside. -/
theorem check_again (hkeys : rules.keys.Nodup) (hcheck : check rules message = (after, .ok ()))
    (hrange : ∀ name rule n, (name, rule) ∈ rules → rule.kind = some .number →
      after.value name = .int n → n.natAbs < Binary64.overflowBound) :
    check rules after = (after, .ok ()) ↔
      ∀ name rule, (name, rule) ∈ rules → Converted rule (message.value name) →
        Acceptable rule (after.value name) := by
  rw [check_eq_self_iff hkeys]
  refine forall_congr' fun name => forall_congr' fun rule => forall_congr' fun hrule => ?_
  obtain ⟨o, hparam, hvalue⟩ := value_of_check hkeys hrule hcheck
  have hlimit := hrange name rule
  rw [hvalue] at hlimit ⊢
  by_cases hconverted : Converted rule (message.value name)
  · rcases checkParam_eq_ok_iff.mp hparam with ⟨hblank, -⟩ | ⟨-, -, w, hw, rfl⟩
    · exact absurd hconverted.1 (by rw [hblank]; exact Bool.noConfusion)
    · have hrewrites := rewrites_trimmed_iff.mpr hconverted.2
      have hkeeps := keeps_iff_acceptable hrewrites hw fun n => hlimit n hrule
      exact hkeeps.trans ⟨fun h _ => h, fun h => h hconverted⟩
  · have hkeeps := keeps_of_not_converted hparam hconverted
    exact ⟨fun _ h => absurd h hconverted, fun _ => hkeeps⟩

/-- A page number has its pattern as a text and as a number. -/
theorem check_again_page :
    let rule : Rule := { required := true, kind := some .number, validation := some (.text "^[0-9]+$") }
    let message : Message := [("page", .text " 42 ")]
    let after : Message := [("page", .int 42)]
    check [("page", rule)] message = (after, .ok ()) ∧ check [("page", rule)] after = (after, .ok ()) := by
  intro rule message after
  have htrim : Value.trimmed (.text " 42 ") = .text "42" := by cbv
  have hgiven : Found rule (.text "42") := by
    rintro pattern ⟨⟩
    exact ⟨"42", rfl, by decide +kernel⟩
  have hnumber : Found rule (.int 42) := by
    rintro pattern ⟨⟩
    exact ⟨"42", by decide +kernel, by decide +kernel⟩
  have hparam : checkParam "page" rule (message.value "page") = .ok (some (.int 42)) := by
    show checkParam "page" rule (.text " 42 ") = _
    rw [checkParam_eq_ok_iff, htrim]
    exact Or.inr ⟨by decide, hgiven, .int 42, rfl, rfl⟩
  have hcheck : check [("page", rule)] message = (after, .ok ()) := by
    rw [check_cons, hparam]
    rfl
  refine ⟨hcheck, (check_again (by decide) hcheck ?_).mpr ?_⟩
  · rintro name other n hrule - hn
    obtain ⟨rfl, -⟩ := Prod.mk.inj (List.mem_singleton.mp hrule)
    obtain rfl : 42 = n := Value.int.inj hn
    decide +kernel
  · rintro name other hrule -
    obtain ⟨rfl, rfl⟩ := Prod.mk.inj (List.mem_singleton.mp hrule)
    refine ⟨fun h => absurd h (by decide), fun _ => hnumber, fun _ h => ?_⟩
    exact ParamKind.noConfusion (Option.some.inj h)

/-- The pattern asks for a unit, which the number has no more: the second check refuses it. -/
theorem check_again_unit :
    let rule : Rule := { kind := some .number, validation := some (.text "px$") }
    let message : Message := [("width", .text "42px")]
    let after : Message := [("width", .int 42)]
    check [("width", rule)] message = (after, .ok ()) ∧
      check [("width", rule)] after = (after, .error (.rejected (.invalid "width" "42"))) := by
  intro rule message after
  have htrim : Value.trimmed (.text "42px") = .text "42px" := by cbv
  have hgiven : Found rule (.text "42px") := by
    rintro pattern ⟨⟩
    exact ⟨"42px", rfl, by decide +kernel⟩
  have hparam : checkParam "width" rule (message.value "width") = .ok (some (.int 42)) := by
    show checkParam "width" rule (.text "42px") = _
    rw [checkParam_eq_ok_iff, htrim]
    exact Or.inr ⟨by decide, hgiven, .int 42, rfl, rfl⟩
  have hrefused : checkParam "width" rule (after.value "width") =
      .error (.rejected (.invalid "width" "42")) := by
    have htext : (Value.int 42).wireText = .ok "42" := by decide +kernel
    have hshown : (Value.int 42).shown = .ok "42" := by decide +kernel
    have hnot : matchesPattern (.text "px$") "42" = .ok false := by decide +kernel
    have hpattern : checkPattern "width" rule (.int 42) =
        .error (.rejected (.invalid "width" "42")) :=
      (checkPattern_of_not_found rfl htext hnot).trans (Coercion.reject_of_shown hshown)
    show (checkPattern "width" rule (.int 42) >>= _ : Except CheckError (Option Value)) = _
    rw [hpattern]
    rfl
  constructor
  · rw [check_cons, hparam]
    rfl
  · rw [check_cons, hrefused]

end Validation

end RouteBook
