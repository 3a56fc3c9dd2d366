import RouteBook.Proofs.Fault.Ordinary
import RouteBook.Proofs.Validation.Leading
import RouteBook.Proofs.Validation.Progress
import RouteBook.Proofs.Value.Long

/-!
# Values that escape a check

A check of plain values against well-formed patterns passes or refuses a parameter by its name, unless it
reaches a value that it cannot handle. These values are known (`Escapes`): integers beyond the range of the
numbers of floating point where a number is asked for, texts with too many leading digits, times beyond the
calendar, and integers that are too long to be written where the text of the value is needed.

1. A conversion of a value with a text ends with a fault exactly if the value is `Unconvertible` to the
   kind (`coerce_faults_iff`); a value without one ends every conversion that needs it
   (`coerce_faults_of_hasLong`).
2. So the check of one parameter ends with a fault exactly if its value escapes (`checkParam_faults_iff`),
   and a check of all exactly if it reaches such a parameter (`check_answers_iff`).
-/

namespace RouteBook

variable {α β : Type} {name : String} {rule : Rule} {v given : Value} {kind : ParamKind}
  {rules : Entries Rule} {message : Message}

/-! ## Ending with a fault -/

/-- A step of a check ends with a fault, which is no refusal. -/
def Faults (x : Except CheckError α) : Prop :=
  ∃ f, x = .error (.fault f)

namespace Faults

theorem not_ok (a : α) : ¬ Faults (.ok a : Except CheckError α) :=
  fun ⟨_, h⟩ => nomatch h

theorem not_pure (a : α) : ¬ Faults (pure a : Except CheckError α) :=
  not_ok a

theorem not_rejected (r : Rejection) : ¬ Faults (.error (.rejected r) : Except CheckError α) :=
  fun ⟨_, h⟩ => nomatch h

theorem of_fault (f : Fault) : Faults (.error (.fault f) : Except CheckError α) :=
  ⟨f, rfl⟩

theorem bind_iff {x : Except CheckError α} {g : α → Except CheckError β} :
    Faults (x >>= g) ↔ Faults x ∨ ∃ a, x = .ok a ∧ Faults (g a) := by
  cases x with
  | ok a =>
    constructor
    · exact fun h => Or.inr ⟨a, rfl, h⟩
    · rintro (h | ⟨b, hb, h⟩)
      · exact absurd h (not_ok a)
      · exact Except.ok.inj hb ▸ h
  | error e =>
    constructor
    · rintro ⟨f, hf⟩
      exact Or.inl ⟨f, congrArg Except.error (Except.error.inj hf)⟩
    · rintro (⟨f, hf⟩ | ⟨b, hb, -⟩)
      · exact ⟨f, congrArg Except.error (Except.error.inj hf)⟩
      · exact nomatch hb

theorem bind_iff_left {x : Except CheckError α} {g : α → Except CheckError β} (hg : ∀ a, ¬ Faults (g a)) :
    Faults (x >>= g) ↔ Faults x := by
  rw [bind_iff]
  exact or_iff_left fun ⟨a, _, h⟩ => hg a h

theorem liftM_iff {x : Except Fault α} :
    Faults (liftM x : Except CheckError α) ↔ ∃ f, x = .error f := by
  cases x with
  | ok a => exact ⟨fun h => absurd h (not_ok a), fun ⟨_, h⟩ => nomatch h⟩
  | error f => exact ⟨fun _ => ⟨f, rfl⟩, fun _ => of_fault f⟩

end Faults

/-! ## Conversions -/

namespace Coercion

/-- A value that has a text but cannot be converted to a kind. -/
inductive Unconvertible : ParamKind → Value → Prop
  | number {n : Int} (h : Binary64.overflowBound ≤ n.natAbs) : Unconvertible .number (.int n)
  | float {n : Int} (h : Binary64.overflowBound ≤ n.natAbs) : Unconvertible .float (.int n)
  | digits {s : String} (h : Decimal.digitLimit < (leadingDigits s.toList).length) :
    Unconvertible .number (.text s)
  | raggedDigits {r : Text.Ragged} (h : Decimal.digitLimit < (leadingDigits r.face.toList).length) :
    Unconvertible .number (.ragged r)
  | integerTime {n : Int} (h : ∀ x, Binary64.ofIntQuotient? n 1000 = some x → ∀ t, Calendar.ofEpoch x ≠ .ok t) :
    Unconvertible .date (.int n)
  | time {x : Binary64} (h : ∀ t, Calendar.ofEpoch (x.divNat 1000) ≠ .ok t) : Unconvertible .date (.float x)

/-- The kinds that ask for the text of a container. -/
def ReadsText (kind : ParamKind) : Prop :=
  kind = .number ∨ kind = .float ∨ kind = .date

theorem Unconvertible.readsText (h : Unconvertible kind v) : ReadsText kind := by
  cases h with
  | number _ | digits _ | raggedDigits _ => exact Or.inl rfl
  | float _ => exact Or.inr (Or.inl rfl)
  | integerTime _ | time _ => exact Or.inr (Or.inr rfl)

theorem faults_reject_iff {make : String → String → Rejection} :
    Faults (reject make name v : Except CheckError α) ↔ ∃ f, v.shown = .error f := by
  unfold reject
  rw [Faults.bind_iff_left, Faults.liftM_iff]
  exact fun shown => Faults.not_rejected (make name shown)

theorem not_faults_reject {make : String → String → Rejection} (h : v.Plain) (hshort : ¬ v.HasLong) :
    ¬ Faults (reject make name v : Except CheckError α) := by
  obtain ⟨shown, hshown⟩ := h.shown.gives hshort
  rw [faults_reject_iff, hshown]
  exact fun ⟨_, hf⟩ => nomatch hf

theorem ofInt?_eq_none_iff (n : Int) :
    Binary64.ofInt? n = none ↔ Binary64.overflowBound ≤ n.natAbs := by
  rw [← not_lt, ← Binary64.isSome_ofInt?_iff, Option.not_isSome_iff_eq_none]

theorem faults_ofMilliseconds_iff {x : Binary64} :
    Faults (liftM (ofMilliseconds x) : Except CheckError Value) ↔ ∀ t, Calendar.ofEpoch x ≠ .ok t := by
  rw [Faults.liftM_iff]
  unfold ofMilliseconds
  cases Calendar.ofEpoch x with
  | ok t => exact ⟨fun ⟨_, h⟩ => (nomatch h), fun h => absurd rfl (h t)⟩
  | error e => exact ⟨fun _ => nofun, fun _ => ⟨_, rfl⟩⟩

theorem leadingDigits_of_container {text : String} (h : v.Plain) (htext : v.wireText = .ok text)
    (hcontainer : v.isContainer = true) : leadingDigits text.toList = [] := by
  cases h with
  | list _ | map _ | raggedMap _ =>
    obtain ⟨cs, hcs, rfl⟩ := map_eq_ok_iff.mp htext
    rw [Json.write] at hcs
    obtain ⟨texts, -, hcs⟩ := bind_eq_ok_iff.mp hcs
    obtain rfl := Except.ok.inj hcs
    rw [String.toList_ofList]
    rfl
  | _ => exact absurd hcontainer Bool.false_ne_true

theorem readLeadingInt_faults_iff {cs : List Char} :
    (∃ f, readLeadingInt cs = .error f) ↔ Decimal.digitLimit < (leadingDigits cs).length := by
  simp only [readLeadingInt_eq_error_iff, exists_eq_left]

theorem not_faults_document {text : String} {read : Except Fault Value}
    (h : ∀ f, read = .error f → f.isValueFault = true) : ¬ Faults (document name text read) := by
  cases read with
  | ok w => exact Faults.not_ok w
  | error f =>
    rw [document, if_pos (h f rfl)]
    exact Faults.not_rejected _

theorem not_faults_toDocument (v : Value) : ¬ Faults (toDocument name v) := by
  unfold toDocument
  split
  · exact not_faults_document fun _ => Json.isValueFault_of_readMarked
  · exact not_faults_document fun _ => Json.isValueFault_of_readMarked
  · exact Faults.not_ok _

theorem toNumber?_of_container (hv : v.isContainer = true) :
    toNumber? v = v.wireText >>= fun text => readLeadingInt text.toList := by
  cases v with
  | list _ | tuple _ | map _ | raggedMap _ | loop => rfl
  | _ => exact nomatch hv

theorem toFloat?_of_container (hv : v.isContainer = true) :
    toFloat? v = v.wireText >>= fun text => readLeadingFloat text.toList := by
  cases v with
  | list _ | tuple _ | map _ | raggedMap _ | loop => rfl
  | _ => exact nomatch hv

theorem toDate_of_container {f : Fault} (hv : v.isContainer = true) (hf : f.isValueFault = true)
    (htext : v.wireText = .error f) : toDate name v = reject .notDate name v := by
  cases v with
  | list _ | tuple _ | map _ | raggedMap _ | loop =>
    unfold toDate
    dsimp only
    rw [htext]
    exact if_pos hf
  | _ => exact nomatch hv

theorem toNumber?_faults_iff (h : v.Plain) (hshort : ¬ v.HasLong) :
    (∃ f, toNumber? v = .error f) ↔ Unconvertible .number v := by
  obtain ⟨text, htext⟩ := h.wireText.gives hshort
  by_cases hcontainer : v.isContainer = true
  -- No digits stand at the beginning of the text of a container.
  · rw [toNumber?_of_container hcontainer, htext]
    show (∃ f, readLeadingInt text.toList = .error f) ↔ _
    rw [readLeadingInt_faults_iff, leadingDigits_of_container h htext hcontainer]
    exact ⟨fun h => absurd h (Nat.not_lt_zero _), fun h => by cases h <;> exact nomatch hcontainer⟩
  · cases h with
    | list _ | map _ | raggedMap _ => exact absurd rfl hcontainer
    | null | bool _ | float _ => exact ⟨fun ⟨_, h⟩ => (nomatch h), nofun⟩
    | text s =>
      show (∃ f, readLeadingInt s.toList = .error f) ↔ _
      rw [readLeadingInt_faults_iff]
      exact ⟨.digits, fun h => by cases h; assumption⟩
    | ragged r =>
      show (∃ f, readLeadingInt r.face.toList = .error f) ↔ _
      rw [readLeadingInt_faults_iff]
      exact ⟨.raggedDigits, fun h => by cases h; assumption⟩
    | int n =>
      have hrange : Unconvertible .number (.int n) ↔ Binary64.ofInt? n = none := by
        rw [ofInt?_eq_none_iff]
        exact ⟨fun h => by cases h; assumption, .number⟩
      rw [hrange]
      unfold toNumber?
      dsimp only
      cases Binary64.ofInt? n with
      | none => exact ⟨fun _ => rfl, fun _ => ⟨_, rfl⟩⟩
      | some x => exact ⟨fun ⟨_, h⟩ => (nomatch h), nofun⟩

theorem toFloat?_faults_iff (h : v.Plain) (hshort : ¬ v.HasLong) :
    (∃ f, toFloat? v = .error f) ↔ Unconvertible .float v := by
  obtain ⟨text, htext⟩ := h.wireText.gives hshort
  have hread (cs : List Char) : ¬ ∃ f, readLeadingFloat cs = .error f := by
    obtain ⟨o, ho⟩ := exists_readLeadingFloat cs
    rw [ho]
    exact fun ⟨_, h⟩ => nomatch h
  cases h with
  | null => exact ⟨fun h => absurd h (hread "None".toList), nofun⟩
  | bool _ | float _ => exact ⟨fun ⟨_, h⟩ => (nomatch h), nofun⟩
  | int n =>
    have hrange : Unconvertible .float (.int n) ↔ Binary64.ofInt? n = none := by
      rw [ofInt?_eq_none_iff]
      exact ⟨fun h => by cases h; assumption, .float⟩
    rw [hrange]
    unfold toFloat? Value.toFloat
    dsimp only
    cases Binary64.ofInt? n with
    | none => exact ⟨fun _ => rfl, fun _ => ⟨_, rfl⟩⟩
    | some x => exact ⟨fun ⟨_, h⟩ => (nomatch h), nofun⟩
  | text s => exact ⟨fun h => absurd h (hread s.toList), nofun⟩
  | ragged r => exact ⟨fun h => absurd h (hread r.face.toList), nofun⟩
  | list _ | map _ | raggedMap _ =>
    rw [toFloat?_of_container rfl, htext]
    exact ⟨fun h => absurd h (hread text.toList), nofun⟩

theorem not_faults_ofText (name : String) {text : String} (h : v.Plain) (hshort : ¬ v.HasLong)
    (htext : v.wireText = .ok text) (hint : ∀ n, v ≠ .int n) (hfloat : ∀ x, v ≠ .float x) :
    ¬ Faults (toDate name v) := by
  unfold toDate
  split
  · exact Faults.not_ok _
  · exact absurd rfl (hint _)
  · exact absurd rfl (hfloat _)
  · rw [htext]
    dsimp only
    split
    · exact Faults.not_ok _
    · exact not_faults_reject h hshort

theorem toDate_faults_iff (h : v.Plain) (hshort : ¬ v.HasLong) :
    Faults (toDate name v) ↔ Unconvertible .date v := by
  obtain ⟨text, htext⟩ := h.wireText.gives hshort
  have hother := not_faults_ofText name h hshort htext
  cases h with
  | null | bool _ | text _ | ragged _ | list _ | map _ | raggedMap _ =>
    exact ⟨fun h => absurd h (hother nofun nofun), nofun⟩
  | float x =>
    show Faults (liftM (ofMilliseconds (x.divNat 1000)) : Except CheckError Value) ↔ _
    rw [faults_ofMilliseconds_iff]
    exact ⟨.time, fun h => by cases h; assumption⟩
  | int n =>
    have htime : Unconvertible .date (.int n) ↔
        ∀ x, Binary64.ofIntQuotient? n 1000 = some x → ∀ t, Calendar.ofEpoch x ≠ .ok t :=
      ⟨fun h => by cases h; assumption, .integerTime⟩
    rw [htime]
    unfold toDate
    dsimp only
    cases Binary64.ofIntQuotient? n 1000 with
    | none => exact ⟨fun _ => nofun, fun _ => .of_fault _⟩
    | some x =>
      dsimp only
      rw [faults_ofMilliseconds_iff]
      exact ⟨fun h y hy => Option.some.inj hy ▸ h, fun h => h x rfl⟩

/-- A value that has a text ends its conversion with a fault exactly if the kind cannot convert it. -/
theorem coerce_faults_iff (h : v.Plain) (hshort : ¬ v.HasLong) (hgiven : given.Plain)
    (hgivenShort : ¬ given.HasLong) (kind : ParamKind) :
    Faults (coerce name v kind given) ↔ Unconvertible kind v := by
  have hreject {make : String → String → Rejection} :
      ¬ Faults (reject make name given : Except CheckError Value) := not_faults_reject hgiven hgivenShort
  cases kind with
  | number =>
    unfold coerce
    rw [Faults.bind_iff_left, Faults.liftM_iff, toNumber?_faults_iff h hshort]
    rintro (_ | n)
    · exact hreject
    · exact Faults.not_ok (Value.int n)
  | float =>
    unfold coerce
    rw [Faults.bind_iff_left, Faults.liftM_iff, toFloat?_faults_iff h hshort]
    rintro (_ | x)
    · exact hreject
    · exact Faults.not_ok (Value.float x)
  | date => exact toDate_faults_iff h hshort
  | other n => exact ⟨fun h => absurd h (Faults.not_ok v), nofun⟩
  | json => exact ⟨fun h => absurd h (not_faults_toDocument v), nofun⟩

theorem ofIntQuotient?_of_exceedsLimit {n : Int} (h : Decimal.exceedsLimit n = true) :
    Binary64.ofInt? n = none ∧ Binary64.ofIntQuotient? n 1000 = none := by
  have hlimit : Binary64.overflowBound * 1000 ≤ 10 ^ Decimal.digitLimit := by decide +kernel
  have hn : Binary64.overflowBound * 1000 ≤ n.natAbs := hlimit.trans (of_decide_eq_true h)
  constructor
  · rw [ofInt?_eq_none_iff]
    exact (Nat.le_mul_of_pos_right _ (by decide)).trans hn
  · rw [← Option.not_isSome_iff_eq_none, Binary64.isSome_ofIntQuotient?_iff n (by decide)]
    exact not_lt.mpr hn

/-- A value that has no text ends every conversion that reads one with a fault. -/
theorem coerce_faults_of_hasLong (h : v.Plain) (hlong : v.HasLong) (hkind : ReadsText kind) :
    Faults (coerce name v kind given) := by
  have htext := h.wireText.fails hlong
  -- The value is a long integer, which no kind takes, or a container, whose text is missing.
  obtain ⟨n, rfl, hn⟩ | hcontainer : (∃ n, v = .int n ∧ Decimal.exceedsLimit n = true) ∨
      v.isContainer = true := by
    cases hlong with
    | int hn => exact Or.inl ⟨_, rfl, hn⟩
    | list _ _ | map _ _ | raggedMap _ _ => exact Or.inr rfl
  · obtain ⟨hwhole, htime⟩ := ofIntQuotient?_of_exceedsLimit hn
    rcases hkind with rfl | rfl | rfl
    · unfold coerce toNumber?
      dsimp only
      rw [hwhole]
      exact .of_fault _
    · unfold coerce toFloat? Value.toFloat
      dsimp only
      rw [hwhole]
      exact .of_fault _
    · unfold coerce toDate
      dsimp only
      rw [htime]
      exact .of_fault _
  · rcases hkind with rfl | rfl | rfl
    · unfold coerce
      rw [toNumber?_of_container hcontainer, htext]
      exact .of_fault _
    · unfold coerce
      rw [toFloat?_of_container hcontainer, htext]
      exact .of_fault _
    · show Faults (toDate name v)
      rw [toDate_of_container hcontainer rfl htext, faults_reject_iff]
      exact ⟨_, h.shown.fails hlong⟩

end Coercion

/-- The pattern of the rule, if there is one, is a well-formed text. -/
def Rule.WellFormed (rule : Rule) : Prop :=
  ∀ pattern, rule.validation = some pattern →
    ∃ s node, pattern = .text s ∧ Pattern.parse s.toList = .ok node

namespace Validation

open Coercion

/-! ## One parameter -/

/-- The rule cannot do without the text of a value. -/
def NeedsText (rule : Rule) : Prop :=
  rule.validation ≠ none ∨ ∃ kind, rule.kind = some kind ∧ ReadsText kind

/-- A value that a rule neither accepts nor refuses: one without a text where the text is needed, or one that
has the pattern of the rule and cannot be converted. -/
inductive Escapes (rule : Rule) (v : Value) : Prop
  | unwritable (hlong : v.HasLong) (hneeds : NeedsText rule)
  | unconvertible {kind : ParamKind} (hkind : rule.kind = some kind) (hfound : Found rule v)
    (h : Unconvertible kind v)

theorem not_faults_checkPattern (hrule : rule.WellFormed) (h : v.Plain) (hshort : ¬ v.HasLong) :
    ¬ Faults (checkPattern name rule v) := by
  obtain ⟨text, htext⟩ := h.wireText.gives hshort
  unfold checkPattern
  cases hpattern : rule.validation with
  | none => exact Faults.not_ok _
  | some pattern =>
    obtain ⟨s, node, rfl, hparse⟩ := hrule pattern hpattern
    dsimp only
    rw [htext]
    show ¬ Faults (liftM ((Pattern.parse s.toList).map fun node => node.foundIn text.toList) >>= _)
    rw [hparse]
    show ¬ Faults (if node.foundIn text.toList = true then pure () else reject .invalid name v)
    split_ifs
    · exact Faults.not_ok _
    · exact not_faults_reject h hshort

theorem faults_checkPattern_of_hasLong (h : v.Plain) (hlong : v.HasLong)
    (hpattern : rule.validation ≠ none) : Faults (checkPattern name rule v) := by
  unfold checkPattern
  cases hvalidation : rule.validation with
  | none => exact absurd hvalidation hpattern
  | some pattern =>
    dsimp only
    rw [h.wireText.fails hlong]
    exact .of_fault _

theorem faults_convert_iff :
    Faults (convert name rule v given) ↔
      ∃ kind, rule.kind = some kind ∧ Faults (coerce name v kind given) := by
  unfold convert
  cases rule.kind with
  | none => exact ⟨fun h => absurd h (Faults.not_ok v), fun ⟨_, h, _⟩ => nomatch h⟩
  | some kind => exact ⟨fun h => ⟨kind, rfl, h⟩, fun ⟨_, hkind, h⟩ => Option.some.inj hkind ▸ h⟩

theorem faults_iff_of_hasLong (h : v.Plain) (hlong : v.HasLong) :
    Faults (checkPattern name rule v >>= fun _ => convert name rule v given) ↔ NeedsText rule := by
  rw [Faults.bind_iff]
  constructor
  · intro hfaults
    by_contra hneeds
    obtain ⟨hpattern, hkind⟩ := not_or.mp hneeds
    rw [not_not] at hpattern
    rcases hfaults with hfaults | ⟨-, -, hfaults⟩
    · unfold checkPattern at hfaults
      rw [hpattern] at hfaults
      exact Faults.not_ok () hfaults
    · obtain ⟨kind, hrule, hfaults⟩ := faults_convert_iff.mp hfaults
      cases kind with
      | json => exact not_faults_toDocument v hfaults
      | other n => exact Faults.not_ok v hfaults
      | number => exact hkind ⟨_, hrule, Or.inl rfl⟩
      | float => exact hkind ⟨_, hrule, Or.inr (Or.inl rfl)⟩
      | date => exact hkind ⟨_, hrule, Or.inr (Or.inr rfl)⟩
  · intro hneeds
    by_cases hpattern : rule.validation = none
    · obtain ⟨kind, hrule, hkind⟩ := hneeds.resolve_left (not_not.mpr hpattern)
      have hfound : checkPattern name rule v = .ok () := by
        rw [checkPattern, hpattern]
      exact Or.inr ⟨(), hfound, faults_convert_iff.mpr ⟨kind, hrule, coerce_faults_of_hasLong h hlong hkind⟩⟩
    · exact Or.inl (faults_checkPattern_of_hasLong h hlong hpattern)

/-- A value that is there ends its check with a fault exactly if it escapes. -/
theorem faults_iff_escapes (name : String) (hrule : rule.WellFormed) (h : v.Plain) (hgiven : given.Plain)
    (hsame : given.HasLong ↔ v.HasLong) :
    Faults (checkPattern name rule v >>= fun _ => convert name rule v given) ↔ Escapes rule v := by
  by_cases hlong : v.HasLong
  · rw [faults_iff_of_hasLong h hlong]
    constructor
    · exact .unwritable hlong
    · rintro (⟨-, hneeds⟩ | ⟨hkind, -, hunconvertible⟩)
      · exact hneeds
      · exact Or.inr ⟨_, hkind, hunconvertible.readsText⟩
  · rw [Faults.bind_iff, or_iff_right (not_faults_checkPattern hrule h hlong)]
    simp only [faults_convert_iff, coerce_faults_iff h hlong hgiven (mt hsame.mp hlong)]
    constructor
    · rintro ⟨⟨⟩, hpattern, kind, hkind, hunconvertible⟩
      exact .unconvertible hkind (checkPattern_eq_ok_iff.mp hpattern) hunconvertible
    · rintro (⟨hlong', -⟩ | ⟨hkind, hfound, hunconvertible⟩)
      · exact absurd hlong' hlong
      · exact ⟨(), checkPattern_eq_ok_iff.mpr hfound, _, hkind, hunconvertible⟩

theorem plain_trimmed (h : given.Plain) : given.trimmed.Plain := by
  cases h with
  | text s => exact .text _
  | ragged r => exact .ragged _
  | null => exact .null
  | bool b => exact .bool b
  | int n => exact .int n
  | float x => exact .float x
  | list h => exact .list h
  | map h => exact .map h
  | raggedMap h => exact .raggedMap h

theorem hasLong_trimmed_iff : given.HasLong ↔ given.trimmed.HasLong := by
  cases given with
  | text _ | ragged _ => exact ⟨nofun, nofun⟩
  | _ => rfl

theorem not_hasLong_of_isBlank (h : v.isBlank = true) : ¬ v.HasLong := by
  rintro (⟨hn⟩ | ⟨-, -⟩ | ⟨-, -⟩ | ⟨-, -⟩)
  · obtain rfl := beq_iff_eq.mp h
    exact absurd hn (by decide +kernel)
  · exact nomatch h
  · exact nomatch h
  · exact nomatch h

/-- The check of a parameter ends with a fault exactly if its value is there and escapes. -/
theorem checkParam_faults_iff (hrule : rule.WellFormed) (hgiven : given.Plain) :
    Faults (checkParam name rule given) ↔
      given.trimmed.isBlank = false ∧ Escapes rule given.trimmed := by
  have hplain := plain_trimmed hgiven
  unfold checkParam
  dsimp only
  cases hblank : given.trimmed.isBlank with
  | true =>
    rw [if_pos rfl]
    refine ⟨fun h => ?_, fun h => nomatch h.1⟩
    split at h
    · exact absurd h (Faults.not_ok _)
    · exact absurd h (not_faults_reject hplain (not_hasLong_of_isBlank hblank))
  | false =>
    rw [if_neg Bool.false_ne_true, ← faults_iff_escapes name hrule hplain hgiven hasLong_trimmed_iff]
    simp only [Faults.bind_iff, Faults.not_pure, and_false, exists_false, or_false, true_and]

/-! ## All parameters -/

/-- The check passes, or it is refused by the name of the parameter at which it stops. -/
def Answers (rules : Entries Rule) (message : Message) : Prop :=
  (check rules message).2 = .ok () ∨
    ∃ passed name rule rest r, rules = passed ++ (name, rule) :: rest ∧
      (check passed message).2 = .ok () ∧ (check rules message).2 = .error (.rejected r) ∧
      r.toError = .badRequest r.message name

/-- **Plain values against well-formed patterns**: the check passes or refuses a parameter by its name
exactly unless it reaches a value that is there and escapes. -/
theorem check_answers_iff (hkeys : rules.keys.Nodup)
    (hpatterns : ∀ name rule, (name, rule) ∈ rules → rule.WellFormed)
    (hvalues : ∀ name ∈ rules.keys, (message.value name).Plain) :
    Answers rules message ↔
      ∀ passed name rule rest, rules = passed ++ (name, rule) :: rest →
        (check passed message).2 = .ok () → (message.value name).trimmed.isBlank = false →
          ¬ Escapes rule (message.value name).trimmed := by
  have hfaults {passed rest : Entries Rule} {name : String} {rule : Rule}
      (hrules : rules = passed ++ (name, rule) :: rest) :
      Faults (checkParam name rule (message.value name)) ↔
        (message.value name).trimmed.isBlank = false ∧ Escapes rule (message.value name).trimmed := by
    have hmem : (name, rule) ∈ rules := hrules ▸ List.mem_append_right passed List.mem_cons_self
    exact checkParam_faults_iff (hpatterns name rule hmem) (hvalues name (Entries.mem_keys hmem))
  constructor
  · intro hanswers passed name rule rest hrules hpassed hpresent hescapes
    obtain ⟨f, hf⟩ := (hfaults hrules).mpr ⟨hpresent, hescapes⟩
    have hcheck : check rules message = ((check passed message).1, .error (.fault f)) :=
      (check_eq_error_iff hkeys).mpr ⟨passed, name, rule, rest, hrules, Prod.ext rfl hpassed, hf⟩
    rcases hanswers with hok | ⟨_, _, _, _, r, -, -, hrejected, -⟩
    · rw [hcheck] at hok
      exact nomatch hok
    · rw [hcheck] at hrejected
      exact nomatch hrejected
  · intro hnone
    cases hresult : (check rules message).2 with
    | ok u => exact Or.inl hresult
    | error e =>
      obtain ⟨passed, name, rule, rest, hrules, hpassed, hparam⟩ :=
        (check_eq_error_iff hkeys).mp (Prod.ext rfl hresult : check rules message = (_, .error e))
      have hbefore := congrArg Prod.snd hpassed
      cases e with
      | fault f =>
        obtain ⟨hpresent, hescapes⟩ := (hfaults hrules).mp ⟨f, hparam⟩
        exact absurd hescapes (hnone passed name rule rest hrules hbefore hpresent)
      | rejected r =>
        refine Or.inr ⟨passed, name, rule, rest, r, hrules, hbefore, hresult, ?_⟩
        rw [Rejection.toError, checkParam_names rule _ _ hparam r rfl]

/-- A page number is read, and a day that is none is refused by its name. -/
theorem check_answers_page :
    let page : Rule := { kind := some .number, validation := some (.text "^[0-9]+$") }
    let since : Rule := { kind := some .date }
    let message : Message := [("page", .text "7"), ("since", .text "yesterday")]
    Answers [("page", page), ("since", since)] message := by
  intro page since message
  have hpage : Value.trimmed (message.value "page") = .text "7" := by cbv
  have hsince : Value.trimmed (message.value "since") = .text "yesterday" := by cbv
  refine (check_answers_iff (by decide) ?_ ?_).mpr ?_
  · intro name rule hmem
    rcases List.mem_pair.mp hmem with heq | heq
    · obtain ⟨-, rfl⟩ := Prod.mk.inj heq
      rintro pattern ⟨⟩
      have hparse : (Pattern.parse "^[0-9]+$".toList).isOk = true := by decide +kernel
      obtain ⟨node, hnode⟩ := exists_of_isOk hparse
      exact ⟨_, node, rfl, hnode⟩
    · obtain ⟨-, rfl⟩ := Prod.mk.inj heq
      rintro pattern ⟨⟩
  · intro name hname
    rcases List.mem_pair.mp hname with rfl | rfl
    · exact .text "7"
    · exact .text "yesterday"
  · intro passed name rule rest hrules _ _ hescapes
    have hmem : (name, rule) ∈ [("page", page), ("since", since)] :=
      hrules ▸ List.mem_append_right passed List.mem_cons_self
    rcases List.mem_pair.mp hmem with heq | heq
    · obtain ⟨rfl, rfl⟩ := Prod.mk.inj heq
      rw [hpage] at hescapes
      rcases hescapes with ⟨hlong, -⟩ | ⟨hkind, -, hdigits⟩
      · cases hlong
      · cases hkind
        cases hdigits with
        | digits h => exact absurd h (by decide +kernel)
    · obtain ⟨rfl, rfl⟩ := Prod.mk.inj heq
      rw [hsince] at hescapes
      rcases hescapes with ⟨hlong, -⟩ | ⟨hkind, -, htime⟩
      · cases hlong
      · cases hkind
        cases htime

/-- A number of nanoseconds is no date in the calendar: the check ends with a fault and names no
parameter. -/
theorem check_nanoseconds_faults :
    let rules : Entries Rule := [("since", { kind := some .date })]
    let message : Message := [("since", .int 1700000000000000000)]
    check rules message = (message, .error (.fault .badValue)) := by
  intro rules message
  have hseconds : Binary64.ofIntQuotient? 1700000000000000000 1000 = some ⟨4834658800541171712⟩ := by
    decide +kernel
  have hepoch : Calendar.ofEpoch ⟨4834658800541171712⟩ = .error .beyondYears := by decide +kernel
  have hconvert : convert "since" { kind := some .date } (.int 1700000000000000000)
      (.int 1700000000000000000) = .error (.fault .badValue) := by
    unfold convert coerce toDate
    dsimp only
    rw [hseconds]
    dsimp only
    unfold ofMilliseconds
    rw [hepoch]
    rfl
  have hparam : checkParam "since" { kind := some .date } (.int 1700000000000000000) =
      .error (.fault .badValue) := by
    unfold checkParam Value.trimmed
    dsimp only
    rw [if_neg (by decide), hconvert]
    rfl
  have hvalue : message.value "since" = .int 1700000000000000000 := rfl
  rw [check_cons, hvalue, hparam]

end Validation

end RouteBook
