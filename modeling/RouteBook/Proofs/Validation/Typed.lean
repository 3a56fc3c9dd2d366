import RouteBook.Proofs.Validation.Progress

/-!
# What a check accepts, and the form that it leaves

A parameter passes for itself if it is blank and may be, or if it is there, has the pattern of its rule and
can be converted (`Passes`). A check accepts a message exactly if every parameter passes
(`check_accepts_iff`), so no parameter spoils the others. Afterwards a blank parameter is as it was, and any
other has the form that the kind of its rule names (`Form`, `check_typed`).
-/

namespace RouteBook

variable {name : String} {rule : Rule} {v w given : Value} {rules : Entries Rule}
  {message after : Message}

namespace Validation

open Coercion

/-! ## Forms -/

/-- The form that a kind gives to a value: a number, a moment, the document that a text writes. A document
that is no text, and a value without a kind or with an unknown one, is left as it is. -/
inductive Form : Option ParamKind → Value → Value → Prop
  | number (v : Value) (n : Int) : Form (some .number) v (.int n)
  | float (v : Value) (x : Binary64) : Form (some .float) v (.float x)
  | moment (v : Value) (t : Calendar.Moment) : Form (some .date) v (.moment t)
  | document {s : String} {w : Value} (h : Json.read s = .ok w) : Form (some .json) (.text s) w
  | raggedDocument {r : Text.Ragged} {w : Value} (h : Json.readRagged r = .ok w) :
    Form (some .json) (.ragged r) w
  | structured {v : Value} (h : v.isText = false) : Form (some .json) v v
  | unknown (n : String) (v : Value) : Form (some (.other n)) v v
  | untyped (v : Value) : Form none v v

/-- A conversion that succeeds gives the form of its kind. -/
theorem form_of_convert (h : convert name rule v given = .ok w) : Form rule.kind v w := by
  unfold convert at h
  cases hkind : rule.kind with
  | none =>
    rw [hkind] at h
    obtain rfl := Except.ok.inj h
    exact .untyped v
  | some kind =>
    rw [hkind] at h
    cases kind with
    | number =>
      obtain ⟨n, rfl⟩ := exists_of_coerce_number h
      exact .number v n
    | float =>
      obtain ⟨x, rfl⟩ := exists_of_coerce_float h
      exact .float v x
    | date =>
      obtain ⟨t, rfl⟩ := exists_of_toDate h
      exact .moment v t
    | json =>
      rcases toDocument_eq_ok h with ⟨s, rfl, hread⟩ | ⟨r, rfl, hread⟩ | ⟨hother, rfl⟩
      · exact .document hread
      · exact .raggedDocument hread
      · exact .structured hother
    | other n =>
      obtain rfl := Except.ok.inj h
      exact .unknown n v

/-! ## What is accepted -/

/-- A parameter passes for itself. -/
inductive Passes (name : String) (rule : Rule) (given : Value) : Prop
  | blank (hblank : given.trimmed.isBlank = true) (hallowed : AllowsBlank rule given.trimmed)
  | present (hpresent : given.trimmed.isBlank = false) (hfound : Found rule given.trimmed)
    (hconverts : ∀ kind, rule.kind = some kind → ∃ w, coerce name given.trimmed kind given = .ok w)

theorem exists_convert_iff :
    (∃ w, convert name rule v given = .ok w) ↔
      ∀ kind, rule.kind = some kind → ∃ w, coerce name v kind given = .ok w := by
  unfold convert
  cases rule.kind with
  | none => exact ⟨fun _ => nofun, fun _ => ⟨v, rfl⟩⟩
  | some kind => simp only [Option.some.injEq, forall_eq']

theorem passes_iff : Passes name rule given ↔ ∃ o, checkParam name rule given = .ok o := by
  simp only [checkParam_eq_ok_iff]
  constructor
  · rintro (⟨hblank, hallowed⟩ | ⟨hpresent, hfound, hconverts⟩)
    · exact ⟨none, Or.inl ⟨hblank, hallowed, rfl⟩⟩
    · obtain ⟨w, hw⟩ := exists_convert_iff.mpr hconverts
      exact ⟨some w, Or.inr ⟨hpresent, hfound, w, hw, rfl⟩⟩
  · rintro ⟨o, ⟨hblank, hallowed, -⟩ | ⟨hpresent, hfound, w, hw, -⟩⟩
    · exact .blank hblank hallowed
    · exact .present hpresent hfound (exists_convert_iff.mp ⟨w, hw⟩)

/-- A message is accepted exactly if each of its parameters passes. -/
theorem check_accepts_iff (hkeys : rules.keys.Nodup) :
    (∃ after, check rules message = (after, .ok ())) ↔
      ∀ name rule, (name, rule) ∈ rules → Passes name rule (message.value name) := by
  constructor
  · rintro ⟨after, hcheck⟩ name rule hrule
    obtain ⟨o, hparam, -⟩ := check_entry hkeys hrule hcheck
    exact passes_iff.mpr ⟨o, hparam⟩
  · intro hpasses
    cases hresult : (check rules message).2 with
    | ok u => exact ⟨_, Prod.ext rfl hresult⟩
    | error e =>
      obtain ⟨passed, name, rule, rest, rfl, -, hparam⟩ :=
        (check_eq_error_iff hkeys).mp (Prod.ext rfl hresult : check rules message = (_, .error e))
      have hmem : (name, rule) ∈ passed ++ (name, rule) :: rest :=
        List.mem_append_right passed List.mem_cons_self
      obtain ⟨o, ho⟩ := passes_iff.mp (hpasses name rule hmem)
      rw [hparam] at ho
      exact nomatch ho

/-! ## What is left -/

/-- How an accepted parameter is left: alone if it is blank, else with the value to which it is converted,
which has the form of its rule. -/
inductive Leaves (name : String) (rule : Rule) (message after : Message) : Prop
  | alone (hblank : (message.value name).trimmed.isBlank = true)
    (hallowed : AllowsBlank rule (message.value name).trimmed)
    (hsame : after.get? name = message.get? name)
  | formed {w : Value} (hpresent : (message.value name).trimmed.isBlank = false)
    (hfound : Found rule (message.value name).trimmed)
    (hconvert : convert name rule (message.value name).trimmed (message.value name) = .ok w)
    (hform : Form rule.kind (message.value name).trimmed w)
    (hwritten : after.get? name = some w)

theorem leaves_of_check (hkeys : rules.keys.Nodup) (hrule : (name, rule) ∈ rules)
    (hcheck : check rules message = (after, .ok ())) : Leaves name rule message after := by
  obtain ⟨o, hparam, hget⟩ := check_entry hkeys hrule hcheck
  rcases checkParam_eq_ok_iff.mp hparam with ⟨hblank, hallowed, rfl⟩ | ⟨hpresent, hfound, w, hw, rfl⟩
  · exact .alone hblank hallowed hget
  · exact .formed hpresent hfound hw (form_of_convert hw) hget

/-- **Checked values.** An accepted message has every parameter as its rule leaves it: blank and allowed to
be, or with its pattern found and in the form of its kind. And it is accepted exactly if each parameter is
blank and may be, or is there, has its pattern and can be converted. -/
theorem check_typed (hkeys : rules.keys.Nodup) :
    (∀ after, check rules message = (after, .ok ()) →
        ∀ name rule, (name, rule) ∈ rules → Leaves name rule message after) ∧
      ((∃ after, check rules message = (after, .ok ())) ↔
        ∀ name rule, (name, rule) ∈ rules → Passes name rule (message.value name)) :=
  ⟨fun _ hcheck _ _ hrule => leaves_of_check hkeys hrule hcheck, check_accepts_iff hkeys⟩

/-- A page number with its pattern, a document, a day and a blank parameter that is not asked for. -/
theorem check_typed_mixed :
    let page : Rule := { required := true, kind := some .number, validation := some (.text "^[0-9]+$") }
    let since : Rule := { kind := some .date }
    let rules : Entries Rule :=
      [("page", page), ("filter", { kind := some .json }), ("since", since), ("q", {})]
    let message : Message := [("q", .text " "), ("filter", .text "[1,null]"), ("page", .text " 42 "),
      ("since", .moment { date := ⟨2024, 1, 2⟩ })]
    rules.keys.Nodup ∧ ∃ after, check rules message = (after, .ok ()) ∧
      ∀ name rule, (name, rule) ∈ rules → Leaves name rule message after := by
  intro page since rules message
  have hkeys : rules.keys.Nodup := by decide
  have hpage : Value.trimmed (message.value "page") = .text "42" := by cbv
  have hfilter : Value.trimmed (message.value "filter") = .text "[1,null]" := by cbv
  have hq : Value.trimmed (message.value "q") = .text "" := by cbv
  have hfound : Found page (.text "42") := by
    rintro pattern ⟨⟩
    exact ⟨"42", rfl, by decide +kernel⟩
  have hpasses : ∀ name rule, (name, rule) ∈ rules → Passes name rule (message.value name) := by
    intro name rule hrule
    simp only [rules, List.mem_cons, List.not_mem_nil, or_false, Prod.mk.injEq] at hrule
    rcases hrule with ⟨rfl, rfl⟩ | ⟨rfl, rfl⟩ | ⟨rfl, rfl⟩ | ⟨rfl, rfl⟩
    · refine .present (by rw [hpage]; decide) (by rwa [hpage]) ?_
      rintro kind ⟨⟩
      exact ⟨.int 42, by rw [hpage]; rfl⟩
    · refine .present (by rw [hfilter]; decide) (by rintro pattern ⟨⟩) ?_
      rintro kind ⟨⟩
      have hread : (Json.read "[1,null]").isOk = true := by decide +kernel
      obtain ⟨document, hdocument⟩ := exists_of_isOk hread
      refine ⟨document, ?_⟩
      rw [hfilter]
      show toDocument "filter" (.text "[1,null]") = .ok document
      exact toDocument_text.mpr hdocument
    · refine .present rfl (by rintro pattern ⟨⟩) ?_
      rintro kind ⟨⟩
      exact ⟨_, rfl⟩
    · exact .blank (by rw [hq]; decide) (by rintro ⟨⟩)
  obtain ⟨hleft, haccepts⟩ := @check_typed rules message hkeys
  obtain ⟨after, hcheck⟩ := haccepts.mpr hpasses
  exact ⟨hkeys, after, hcheck, hleft after hcheck⟩

/-- Zero counts as not supplied: where a number is required it is refused, although it could be converted. -/
theorem required_zero_refused :
    let rule : Rule := { required := true, kind := some .number }
    let message : Message := [("id", .int 0)]
    Found rule (message.value "id").trimmed ∧
      coerce "id" (message.value "id").trimmed .number (message.value "id") = .ok (.int 0) ∧
      check [("id", rule)] message = (message, .error (.rejected (.empty "id" "0"))) := by
  intro rule message
  refine ⟨by rintro pattern ⟨⟩, rfl, ?_⟩
  have hshown : (Value.int 0).shown = .ok "0" := by decide +kernel
  have hparam : checkParam "id" rule (message.value "id") = .error (.rejected (.empty "id" "0")) :=
    reject_of_shown hshown
  rw [check_cons, hparam]

end Validation

end RouteBook
