import RouteBook.Proofs.Validation.Checked

/-!
# How far a check gets

A check never adds a key, because it writes only what it was given (`keys_written`), and it treats a list
of rules like its beginning and then the rest (`check_append`). So it passes, or it stops at one rule and
leaves exactly what the rules before that one have written (`check_eq_error_iff`, `check_frame`). Two rules
for different parameters may change places (`check_swap`), hence all rules may (`check_perm`).
-/

namespace RouteBook

variable {name : String} {rule : Rule} {given : Value} {rules others : Entries Rule}
  {message after : Message} {e : CheckError}

/-! ## Refusals name their parameter -/

/-- A refusal names the given parameter; a fault names none. -/
def CheckError.Names (name : String) (e : CheckError) : Prop :=
  ∀ r, e = .rejected r → r.param = name

open FailsWithin

theorem liftM_names {α : Type} (x : Except Fault α) :
    FailsWithin (CheckError.Names name) (liftM x : Except CheckError α) := by
  cases x with
  | ok a => exact ok a
  | error f => exact error nofun

namespace Coercion

theorem reject_names {α : Type} {make : String → String → Rejection}
    (hmake : ∀ shown, (make name shown).param = name) (v : Value) :
    FailsWithin (CheckError.Names name) (reject make name v : Except CheckError α) := by
  refine bind (liftM_names _) fun shown => error ?_
  rintro r ⟨⟩
  exact hmake shown

theorem document_names (text : String) (read : Except Fault Value) :
    FailsWithin (CheckError.Names name) (document name text read) := by
  unfold document
  split
  · exact ok _
  · split
    · exact error (by rintro r ⟨⟩; rfl)
    · exact error nofun

theorem toDocument_names (v : Value) : FailsWithin (CheckError.Names name) (toDocument name v) := by
  cases v with
  | text _ | ragged _ => exact document_names _ _
  | _ => exact ok _

theorem toDate_names (v : Value) : FailsWithin (CheckError.Names name) (toDate name v) := by
  unfold toDate
  split
  · exact ok _
  · split
    · exact liftM_names _
    · exact error nofun
  · exact liftM_names _
  · split
    · split
      · exact reject_names (fun _ => rfl) _
      · exact error nofun
    · split
      · exact ok _
      · exact reject_names (fun _ => rfl) _

theorem coerce_names (v : Value) (kind : ParamKind) (given : Value) :
    FailsWithin (CheckError.Names name) (coerce name v kind given) := by
  unfold coerce
  split
  · refine bind (liftM_names _) fun n => ?_
    cases n with
    | some n => exact pure _
    | none => exact reject_names (fun _ => rfl) _
  · refine bind (liftM_names _) fun x => ?_
    cases x with
    | some x => exact pure _
    | none => exact reject_names (fun _ => rfl) _
  · exact toDocument_names v
  · exact toDate_names v
  · exact ok _

end Coercion

namespace Validation

theorem checkPattern_names (rule : Rule) (v : Value) :
    FailsWithin (CheckError.Names name) (checkPattern name rule v) := by
  unfold checkPattern
  split
  · exact ok _
  · refine bind (liftM_names _) fun text => bind (liftM_names _) fun found => ?_
    cases found with
    | true => exact pure _
    | false => exact Coercion.reject_names (fun _ => rfl) _

theorem checkParam_names (rule : Rule) (given : Value) :
    FailsWithin (CheckError.Names name) (checkParam name rule given) := by
  unfold checkParam
  dsimp only
  split
  · split
    · exact ok _
    · exact Coercion.reject_names (fun _ => rfl) _
  · refine bind (checkPattern_names rule _) fun _ => bind ?_ fun _ => pure _
    unfold convert
    split
    · exact Coercion.coerce_names _ _ _
    · exact ok _

/-! ## Keys -/

theorem has_of_checkParam {w : Value}
    (h : checkParam name rule (message.value name) = .ok (some w)) : message.has name = true := by
  rcases checkParam_eq_ok_iff.mp h with ⟨-, -, hnone⟩ | ⟨hpresent, -⟩
  · exact nomatch hnone
  · refine Entries.has_of_value_ne_null fun hnull => ?_
    rw [hnull] at hpresent
    exact nomatch hpresent

theorem keys_written {o : Option Value} (h : checkParam name rule (message.value name) = .ok o) :
    (written message name o).keys = message.keys := by
  cases o with
  | none => rfl
  | some w => exact Entries.keys_put_of_has w (has_of_checkParam h)

theorem value_written_of_ne {other : String} (h : other ≠ name) (message : Message)
    (o : Option Value) : (written message name o).value other = message.value other := by
  unfold Entries.value
  rw [get?_written_of_ne h]

/-- Whether it passes or not, a check leaves the keys in their order. -/
theorem keys_check (rules : Entries Rule) (message : Message) :
    (check rules message).1.keys = message.keys := by
  induction rules generalizing message with
  | nil => rfl
  | cons r rest ih =>
    obtain ⟨name, rule⟩ := r
    rw [check_cons]
    cases hparam : checkParam name rule (message.value name) with
    | error e => rfl
    | ok o => exact (ih _).trans (keys_written hparam)

/-! ## The rule at which a check stops -/

theorem check_append (passed rest : Entries Rule) (message : Message) :
    check (passed ++ rest) message =
      match check passed message with
      | (left, .ok ()) => check rest left
      | (left, .error e) => (left, .error e) := by
  induction passed generalizing message with
  | nil => rfl
  | cons r passed ih =>
    obtain ⟨name, rule⟩ := r
    rw [List.cons_append, check_cons, check_cons]
    cases checkParam name rule (message.value name) with
    | error e => rfl
    | ok o => exact ih _

theorem value_check_of_not_mem (h : name ∉ rules.keys) (message : Message) :
    (check rules message).1.value name = message.value name := by
  unfold Entries.value
  rw [check_get?_of_not_mem h]

/-- A check fails exactly if one parameter does after all rules before its own have passed, and it leaves
what these have left. -/
theorem check_eq_error_iff (hkeys : rules.keys.Nodup) :
    check rules message = (after, .error e) ↔
      ∃ passed name rule rest, rules = passed ++ (name, rule) :: rest ∧
        check passed message = (after, .ok ()) ∧
        checkParam name rule (message.value name) = .error e := by
  constructor
  · intro h
    induction rules generalizing message with
    | nil => exact nomatch (Prod.mk.inj h).2
    | cons r rest ih =>
      obtain ⟨name, rule⟩ := r
      obtain ⟨hname, hrest⟩ := Entries.nodup_keys_cons.mp hkeys
      rw [check_cons] at h
      cases hparam : checkParam name rule (message.value name) with
      | error e' =>
        rw [hparam] at h
        obtain ⟨rfl, he⟩ := Prod.mk.inj h
        exact ⟨[], name, rule, rest, rfl, rfl, hparam.trans (congrArg _ (Except.error.inj he))⟩
      | ok o =>
        rw [hparam] at h
        obtain ⟨passed, key, keyRule, tail, rfl, hpassed, hkey⟩ := ih hrest h
        have hne : key ≠ name := by
          rintro rfl
          exact hname (Entries.mem_keys (List.mem_append_right passed List.mem_cons_self))
        refine ⟨(name, rule) :: passed, key, keyRule, tail, rfl, ?_, ?_⟩
        · rw [check_cons, hparam]
          exact hpassed
        · rwa [value_written_of_ne hne] at hkey
  · rintro ⟨passed, name, rule, rest, rfl, hpassed, hparam⟩
    have hname : name ∉ passed.keys := by
      intro hm
      rw [Entries.keys, List.map_append] at hkeys
      exact (List.nodup_append.mp hkeys).2.2 name hm name List.mem_cons_self rfl
    have hvalue := value_check_of_not_mem hname message
    rw [hpassed] at hvalue
    rw [check_append, hpassed]
    show check ((name, rule) :: rest) after = _
    rw [check_cons, hvalue, hparam]

/-- **What a check leaves**, whether it passes or not: the same keys in the same order, and the values that
no rule declares. If it stops at a rule, the message is as the rules before that one alone leave it, the
parameter of the rule and all later ones are as they were given, and a refusal names that parameter. -/
theorem check_frame (hkeys : rules.keys.Nodup) (message : Message) :
    (check rules message).1.keys = message.keys ∧
      (∀ key ∉ rules.keys, (check rules message).1.get? key = message.get? key) ∧
      ∀ e, (check rules message).2 = .error e →
        ∃ passed name rule rest, rules = passed ++ (name, rule) :: rest ∧
          check passed message = ((check rules message).1, .ok ()) ∧
          checkParam name rule (message.value name) = .error e ∧
          (∀ key ∈ Entries.keys ((name, rule) :: rest),
            (check rules message).1.get? key = message.get? key) ∧
          ∀ r, e = .rejected r → r.toError = .badRequest r.message name := by
  refine ⟨keys_check rules message, fun key hkey => check_get?_of_not_mem hkey message, fun e he => ?_⟩
  obtain ⟨passed, name, rule, rest, hrules, hpassed, hparam⟩ :=
    (check_eq_error_iff hkeys).mp (Prod.ext rfl he : check rules message = (_, .error e))
  refine ⟨passed, name, rule, rest, hrules, hpassed, hparam, fun key hkey => ?_, fun r hr => ?_⟩
  · have hnew : key ∉ passed.keys := by
      intro hm
      rw [hrules, Entries.keys, List.map_append] at hkeys
      exact (List.nodup_append.mp hkeys).2.2 key hm key hkey rfl
    have hget := check_get?_of_not_mem hnew message
    rwa [hpassed] at hget
  · unfold Rejection.toError
    rw [checkParam_names rule _ e hparam r hr]

theorem checkParam_number_seven (name : String) :
    checkParam name { kind := some .number } (.text "7") = .ok (some (.int 7)) := by
  have htrim : Value.trimmed (.text "7") = .text "7" := by cbv
  unfold checkParam
  rw [htrim]
  rfl

/-- A check that stops at its second rule: the page is converted, the note and the later parameter stay. -/
theorem check_frame_stopped :
    let rules : Entries Rule :=
      [("page", { kind := some .number }), ("user", { required := true }), ("q", {})]
    let message : Message := [("q", .text " a "), ("page", .text "7"), ("note", .bool true)]
    let after : Message := [("q", .text " a "), ("page", .int 7), ("note", .bool true)]
    rules.keys.Nodup ∧ check rules message = (after, .error (.rejected (.empty "user" "None"))) ∧
      after.keys = message.keys ∧ after.get? "note" = message.get? "note" ∧
      ∃ passed name rule rest, rules = passed ++ (name, rule) :: rest ∧
        check passed message = (after, .ok ()) ∧
        ∀ key ∈ Entries.keys ((name, rule) :: rest), after.get? key = message.get? key := by
  intro rules message after
  have hkeys : rules.keys.Nodup := by decide
  have hpage : checkParam "page" { kind := some .number } (message.value "page") = .ok (some (.int 7)) :=
    checkParam_number_seven "page"
  have hcheck : check rules message = (after, .error (.rejected (.empty "user" "None"))) := by
    rw [check_cons, hpage]
    rfl
  obtain ⟨hsame, hfree, hstop⟩ := check_frame hkeys message
  rw [hcheck] at hsame hfree hstop
  obtain ⟨passed, name, rule, rest, hrules, hpassed, -, hlater, -⟩ := hstop _ rfl
  exact ⟨hkeys, hcheck, hsame, hfree "note" (by decide), passed, name, rule, rest, hrules, hpassed, hlater⟩

/-! ## The order of the rules -/

theorem check_swap {key other : String} (hne : key ≠ other) (rule otherRule : Rule)
    (rest : Entries Rule) (message after : Message) :
    check ((key, rule) :: (other, otherRule) :: rest) message = (after, .ok ()) →
      check ((other, otherRule) :: (key, rule) :: rest) message = (after, .ok ()) := by
  intro h
  rw [check_cons] at h
  cases hkey : checkParam key rule (message.value key) with
  | error e =>
    rw [hkey] at h
    exact nomatch (Prod.mk.inj h).2
  | ok o =>
    rw [hkey] at h
    dsimp only at h
    rw [check_cons, value_written_of_ne hne.symm] at h
    cases hother : checkParam other otherRule (message.value other) with
    | error e =>
      rw [hother] at h
      exact nomatch (Prod.mk.inj h).2
    | ok o' =>
      rw [hother] at h
      dsimp only at h
      have hcomm : written (written message other o') key o = written (written message key o) other o' := by
        cases o with
        | none => rfl
        | some v =>
          cases o' with
          | none => rfl
          | some w => exact (Entries.put_comm hne v w (has_of_checkParam hkey)).symm
      rw [check_cons, hother]
      dsimp only
      rw [check_cons, value_written_of_ne hne, hkey]
      dsimp only
      rw [hcomm]
      exact h

/-- **Order.** Rules in another order accept the same messages and leave the same. -/
theorem check_perm (hperm : rules.Perm others) (hkeys : rules.keys.Nodup) (message after : Message) :
    check rules message = (after, .ok ()) ↔ check others message = (after, .ok ()) := by
  induction hperm generalizing message with
  | nil => rfl
  | @cons r rules others hperm ih =>
    obtain ⟨name, rule⟩ := r
    obtain ⟨-, hrest⟩ := Entries.nodup_keys_cons.mp hkeys
    rw [check_cons, check_cons]
    cases checkParam name rule (message.value name) with
    | error e => rfl
    | ok o => exact ih hrest _
  | swap r s rest =>
    have hne : s.1 ≠ r.1 := by
      rintro heq
      exact (Entries.nodup_keys_cons.mp hkeys).1 (heq ▸ List.mem_cons_self)
    exact ⟨check_swap hne s.2 r.2 rest message after, check_swap hne.symm r.2 s.2 rest message after⟩
  | trans hperm hperm' ih ih' =>
    have hmiddle := (hperm.map Prod.fst).nodup_iff.mp hkeys
    exact (ih hkeys message).trans (ih' hmiddle message)

/-- The number may be checked first or last. -/
theorem check_perm_reversed :
    let rules : Entries Rule := [("page", { kind := some .number }), ("flag", { required := true })]
    let others : Entries Rule := [("flag", { required := true }), ("page", { kind := some .number })]
    let message : Message := [("flag", .bool false), ("page", .text "7")]
    let after : Message := [("flag", .bool false), ("page", .int 7)]
    rules.Perm others ∧ rules.keys.Nodup ∧ check rules message = (after, .ok ()) ∧
      check others message = (after, .ok ()) := by
  intro rules others message after
  have hperm : rules.Perm others := List.Perm.swap _ _ _
  have hkeys : rules.keys.Nodup := by decide
  have hpage : checkParam "page" { kind := some .number } (message.value "page") = .ok (some (.int 7)) :=
    checkParam_number_seven "page"
  have hcheck : check rules message = (after, .ok ()) := by
    rw [check_cons, hpage]
    rfl
  exact ⟨hperm, hkeys, hcheck, (check_perm hperm hkeys message after).mp hcheck⟩

end Validation

end RouteBook
