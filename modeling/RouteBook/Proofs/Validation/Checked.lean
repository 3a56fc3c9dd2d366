import RouteBook.Proofs.Entries
import RouteBook.Proofs.Fault.Bind
import RouteBook.Validation.Check

/-!
# What a check leaves

A check goes through the rules one by one and writes into the message, at most once for each rule and
under its name alone. So it leaves what no rule declares (`check_get?_of_not_mem`), and after a check that
passes each declared parameter is as its own rule leaves it (`check_entry`): untouched if it was blank
(`checkParam_eq_ok_iff`), else converted to a value of the kind that the rule names
(`exists_of_coerce_number`, `exists_of_coerce_float`, `exists_of_toDate`, `toDocument_eq_ok`).
-/

namespace RouteBook

variable {name : String} {rule : Rule} {v w given : Value}

theorem liftM_eq_ok_iff {α : Type} {x : Except Fault α} {a : α} :
    (liftM x : Except CheckError α) = .ok a ↔ x = .ok a := by
  cases x with
  | error f => exact ⟨fun h => (nomatch h), fun h => (nomatch h)⟩
  | ok b => exact ⟨fun h => congrArg _ (Except.ok.inj h), fun h => congrArg _ (Except.ok.inj h)⟩

/-! ## Conversions -/

namespace Coercion

theorem reject_ne_ok {α : Type} {make : String → String → Rejection} {a : α} :
    reject make name v ≠ .ok a := by
  intro h
  obtain ⟨shown, -, h⟩ := bind_eq_ok_iff.mp h
  exact nomatch h

theorem reject_of_shown {α : Type} {make : String → String → Rejection} {shown : String}
    (h : v.shown = .ok shown) :
    (reject make name v : Except CheckError α) = .error (.rejected (make name shown)) := by
  unfold reject
  rw [h]
  rfl

theorem exists_of_coerce_number (h : coerce name v .number given = .ok w) : ∃ n, w = .int n := by
  obtain ⟨found, -, h⟩ := bind_eq_ok_iff.mp h
  cases found with
  | none => exact absurd h reject_ne_ok
  | some n => exact ⟨n, (Except.ok.inj h).symm⟩

theorem exists_of_coerce_float (h : coerce name v .float given = .ok w) : ∃ x, w = .float x := by
  obtain ⟨found, -, h⟩ := bind_eq_ok_iff.mp h
  cases found with
  | none => exact absurd h reject_ne_ok
  | some x => exact ⟨x, (Except.ok.inj h).symm⟩

theorem exists_of_ofMilliseconds {x : Binary64}
    (h : (liftM (ofMilliseconds x) : Except CheckError Value) = .ok w) : ∃ t, w = .moment t := by
  unfold ofMilliseconds at h
  cases hepoch : Calendar.ofEpoch x with
  | error e =>
    rw [hepoch] at h
    exact nomatch h
  | ok t =>
    rw [hepoch] at h
    exact ⟨t, (Except.ok.inj h).symm⟩

theorem exists_of_toDate (h : toDate name v = .ok w) : ∃ t, w = .moment t := by
  unfold toDate at h
  split at h
  · exact ⟨_, (Except.ok.inj h).symm⟩
  · split at h
    · exact exists_of_ofMilliseconds h
    · exact nomatch h
  · exact exists_of_ofMilliseconds h
  · split at h
    · split at h
      · exact absurd h reject_ne_ok
      · exact nomatch h
    · split at h
      · exact ⟨_, (Except.ok.inj h).symm⟩
      · exact absurd h reject_ne_ok

theorem document_eq_ok_iff {text : String} {read : Except Fault Value} :
    document name text read = .ok w ↔ read = .ok w := by
  cases read with
  | ok v => exact ⟨fun h => congrArg _ (Except.ok.inj h), fun h => congrArg _ (Except.ok.inj h)⟩
  | error f =>
    refine ⟨fun h => ?_, fun h => (nomatch h)⟩
    unfold document at h
    dsimp only at h
    split at h <;> exact nomatch h

theorem toDocument_of_isText (h : v.isText = false) : toDocument name v = .ok v := by
  cases v with
  | text s | ragged r => exact Bool.noConfusion h
  | _ => rfl

theorem toDocument_text {s : String} : toDocument name (.text s) = .ok w ↔ Json.read s = .ok w :=
  document_eq_ok_iff

theorem toDocument_ragged {r : Text.Ragged} :
    toDocument name (.ragged r) = .ok w ↔ Json.readRagged r = .ok w :=
  document_eq_ok_iff

theorem toDocument_eq_ok (h : toDocument name v = .ok w) :
    (∃ s, v = .text s ∧ Json.read s = .ok w) ∨ (∃ r, v = .ragged r ∧ Json.readRagged r = .ok w) ∨
      v.isText = false ∧ w = v := by
  cases v with
  | text s => exact .inl ⟨s, rfl, toDocument_text.mp h⟩
  | ragged r => exact .inr (.inl ⟨r, rfl, toDocument_ragged.mp h⟩)
  | _ => exact .inr (.inr ⟨rfl, (Except.ok.inj h).symm⟩)

end Coercion

namespace Validation

/-! ## One parameter -/

/-- The pattern of a rule, if it has one, is found in the text of a value. -/
def Found (rule : Rule) (v : Value) : Prop :=
  ∀ pattern, rule.validation = some pattern →
    ∃ text, v.wireText = .ok text ∧ matchesPattern pattern text = .ok true

theorem checkPattern_eq_ok_iff : checkPattern name rule v = .ok () ↔ Found rule v := by
  unfold checkPattern Found
  cases rule.validation with
  | none => exact ⟨fun _ => nofun, fun _ => rfl⟩
  | some pattern =>
    simp only [Option.some.injEq, forall_eq']
    constructor
    · intro h
      obtain ⟨text, htext, h⟩ := bind_eq_ok_iff.mp h
      obtain ⟨found, hfound, h⟩ := bind_eq_ok_iff.mp h
      cases found with
      | true => exact ⟨text, liftM_eq_ok_iff.mp htext, liftM_eq_ok_iff.mp hfound⟩
      | false => exact absurd h Coercion.reject_ne_ok
    · rintro ⟨text, htext, hfound⟩
      rw [htext]
      show (liftM (matchesPattern pattern text) >>= _ : Except CheckError Unit) = _
      rw [hfound]
      rfl

theorem checkPattern_of_not_found {pattern : Value} {text : String}
    (hrule : rule.validation = some pattern) (htext : v.wireText = .ok text)
    (hnot : matchesPattern pattern text = .ok false) :
    checkPattern name rule v = Coercion.reject .invalid name v := by
  unfold checkPattern
  rw [hrule]
  dsimp only
  rw [htext]
  show (liftM (matchesPattern pattern text) >>= _ : Except CheckError Unit) = _
  rw [hnot]
  rfl

/-- The rule lets a value pass that counts as not supplied. -/
def AllowsBlank (rule : Rule) (v : Value) : Prop :=
  rule.required = true → rule.allowEmpty = true ∧ isEmptyText v = true

/-- A parameter passes if it is blank and may be, and is left alone, or if it has the pattern of its rule
and is converted. -/
theorem checkParam_eq_ok_iff {o : Option Value} :
    checkParam name rule given = .ok o ↔
      given.trimmed.isBlank = true ∧ AllowsBlank rule given.trimmed ∧ o = none ∨
        given.trimmed.isBlank = false ∧ Found rule given.trimmed ∧
          ∃ w, convert name rule given.trimmed given = .ok w ∧ o = some w := by
  unfold checkParam
  dsimp only
  cases hblank : given.trimmed.isBlank with
  | true =>
    have hallowed : (!rule.required || rule.allowEmpty && isEmptyText given.trimmed) = true ↔
        AllowsBlank rule given.trimmed := by
      unfold AllowsBlank
      cases rule.required <;> simp
    rw [if_pos rfl, ← hallowed]
    split
    · rename_i hpass
      refine ⟨fun h => Or.inl ⟨rfl, hpass, (Except.ok.inj h).symm⟩, ?_⟩
      rintro (⟨-, -, rfl⟩ | ⟨hfalse, -⟩)
      · rfl
      · exact nomatch hfalse
    · rename_i hstop
      refine ⟨fun h => absurd h Coercion.reject_ne_ok, ?_⟩
      rintro (⟨-, hpass, -⟩ | ⟨hfalse, -⟩)
      · exact absurd hpass hstop
      · exact nomatch hfalse
  | false =>
    rw [if_neg Bool.false_ne_true, bind_eq_ok_iff]
    constructor
    · rintro ⟨u, hpattern, h⟩
      obtain ⟨w, hw, h⟩ := bind_eq_ok_iff.mp h
      exact Or.inr ⟨rfl, checkPattern_eq_ok_iff.mp hpattern, w, hw, (Except.ok.inj h).symm⟩
    · rintro (⟨htrue, -⟩ | ⟨-, hfound, w, hw, rfl⟩)
      · exact nomatch htrue
      · exact ⟨(), checkPattern_eq_ok_iff.mpr hfound, bind_eq_ok_iff.mpr ⟨w, hw, rfl⟩⟩

/-! ## All parameters -/

variable {rules : Entries Rule} {message after : Message}

/-- A message with the value of a parameter written into it, if there is one to write. -/
def written (message : Message) (name : String) : Option Value → Message
  | none => message
  | some v => message.put name v

theorem get?_written_self (message : Message) (name : String) (o : Option Value) :
    (written message name o).get? name = o.or (message.get? name) := by
  cases o with
  | none => rfl
  | some v => exact Entries.get?_put_self message name v

theorem get?_written_of_ne {other : String} (h : other ≠ name) (message : Message)
    (o : Option Value) : (written message name o).get? other = message.get? other := by
  cases o with
  | none => rfl
  | some v => exact Entries.get?_put_of_ne message v h

theorem check_cons (name : String) (rule : Rule) (rules : Entries Rule) (message : Message) :
    check ((name, rule) :: rules) message =
      match checkParam name rule (message.value name) with
      | .ok o => check rules (written message name o)
      | .error e => (message, .error e) := by
  rw [check]
  cases checkParam name rule (message.value name) with
  | error e => rfl
  | ok o => cases o <;> rfl

theorem check_get?_of_not_mem (h : name ∉ rules.keys) (message : Message) :
    (check rules message).1.get? name = message.get? name := by
  induction rules generalizing message with
  | nil => rfl
  | cons r rest ih =>
    obtain ⟨key, rule⟩ := r
    have hne : name ≠ key := fun hk => h (by simp [Entries.keys, hk])
    have hrest : name ∉ Entries.keys rest := fun hm => h (List.mem_cons_of_mem _ hm)
    rw [check_cons]
    cases checkParam key rule (message.value key) with
    | error e => rfl
    | ok o => exact (ih hrest _).trans (get?_written_of_ne hne message o)

/-- After a check that passes a parameter is as its rule leaves it. -/
theorem check_entry (hkeys : rules.keys.Nodup) (hrule : (name, rule) ∈ rules)
    (hcheck : check rules message = (after, .ok ())) :
    ∃ o, checkParam name rule (message.value name) = .ok o ∧
      after.get? name = o.or (message.get? name) := by
  induction rules generalizing message with
  | nil => exact absurd hrule List.not_mem_nil
  | cons r rest ih =>
    obtain ⟨key, keyRule⟩ := r
    obtain ⟨hkey, hrest⟩ := Entries.nodup_keys_cons.mp hkeys
    rw [check_cons] at hcheck
    cases hparam : checkParam key keyRule (message.value key) with
    | error e =>
      rw [hparam] at hcheck
      exact nomatch (Prod.mk.inj hcheck).2
    | ok o =>
      rw [hparam] at hcheck
      rcases List.mem_cons.mp hrule with heq | hmem
      · obtain ⟨rfl, rfl⟩ := Prod.mk.inj heq
        have hafter : after = (check rest (written message name o)).1 :=
          (congrArg Prod.fst hcheck).symm
        refine ⟨o, hparam, ?_⟩
        rw [hafter, check_get?_of_not_mem hkey, get?_written_self]
      · have hne : name ≠ key := fun hk => hkey (hk ▸ Entries.mem_keys hmem)
        obtain ⟨o', hparam', hget⟩ := ih hrest hmem hcheck
        have hsame := get?_written_of_ne hne message o
        refine ⟨o', ?_, hget.trans (by rw [hsame])⟩
        unfold Entries.value at hparam' ⊢
        rwa [hsame] at hparam'

theorem value_of_check (hkeys : rules.keys.Nodup) (hrule : (name, rule) ∈ rules)
    (hcheck : check rules message = (after, .ok ())) :
    ∃ o, checkParam name rule (message.value name) = .ok o ∧
      after.value name = o.getD (message.value name) := by
  obtain ⟨o, hparam, hget⟩ := check_entry hkeys hrule hcheck
  refine ⟨o, hparam, ?_⟩
  unfold Entries.value
  rw [hget]
  cases o <;> rfl

end Validation

end RouteBook
