import RouteBook.Json.Reader
import RouteBook.Proofs.Fault.Unwritable
import RouteBook.Validation.Check

/-!
# Ordinary faults

The fault of an outcome that was never delivered is that of a completion alone: checking a message,
making its request and reading a document end in ordinary faults.
-/

namespace RouteBook

open FailsWithin

/-- A fault other than that of a missing outcome. -/
def Fault.Ordinary (f : Fault) : Prop :=
  f ≠ .noOutcome

theorem Fault.ordinary_of_isUnwritable {f : Fault} (h : f.isUnwritable = true) : f.Ordinary := by
  rintro rfl
  exact nomatch h

/-- A check that stops for another reason than the fault of a missing outcome. -/
def CheckError.Ordinary (e : CheckError) : Prop :=
  e ≠ .fault .noOutcome

variable {α : Type}

/-- A computation whose faults are ordinary. -/
abbrev OrdinaryFaults (x : Except Fault α) : Prop :=
  FailsWithin Fault.Ordinary x

/-! ## Values -/

namespace Value

theorem ordinary_map_ok_getD {β : Type} (o : Option β) (g : β → α) {f : Fault} (hf : f.Ordinary) :
    OrdinaryFaults ((o.map fun b => (.ok (g b) : Except Fault α)).getD (.error f)) := by
  cases o with
  | none => exact error hf
  | some b => exact ok _

theorem toInt_ordinary (v : Value) : OrdinaryFaults v.toInt := by
  unfold toInt
  split
  · exact ok _
  · exact ok _
  · split
    · exact ok _
    · split <;> exact error nofun
  · exact ordinary_map_ok_getD _ id nofun
  · exact error nofun
  · exact ordinary_map_ok_getD _ id nofun
  · exact error nofun

theorem toFloat_ordinary (v : Value) : OrdinaryFaults v.toFloat := by
  unfold toFloat
  split
  · exact ordinary_map_ok_getD _ id nofun
  · exact ok _
  · exact ok _
  · exact ordinary_map_ok_getD _ id nofun
  · exact error nofun
  · exact ordinary_map_ok_getD _ id nofun
  · exact error nofun

theorem asText_ordinary (v : Value) : OrdinaryFaults v.asText := by
  unfold asText
  split
  · exact ok _
  · exact error nofun
  · exact error nofun
  · exact error nofun

theorem entries_ordinary (v : Value) : OrdinaryFaults v.entries := by
  unfold entries
  split
  · exact ok _
  · exact error nofun

theorem quoted_ordinary (v : Value) : OrdinaryFaults v.quoted :=
  (quoted_writeFaults v).mono fun _ => Fault.ordinary_of_isUnwritable

theorem shown_ordinary (v : Value) : OrdinaryFaults v.shown :=
  (shown_writeFaults v).mono fun _ => Fault.ordinary_of_isUnwritable

theorem shownAfter_ordinary (front : String) (v : Value) : OrdinaryFaults (v.shownAfter front) := by
  unfold shownAfter
  split
  · exact ok _
  · exact FailsWithin.map _ (shown_ordinary v)

theorem wireText_ordinary (v : Value) : OrdinaryFaults v.wireText :=
  (wireText_writeFaults v).mono fun _ => Fault.ordinary_of_isUnwritable

theorem encodableText_ordinary (v : Value) : OrdinaryFaults v.encodableText :=
  (encodableText_writeFaults v).mono fun _ => Fault.ordinary_of_isUnwritable

end Value

theorem Value.encoded_ordinary (v : Value) : OrdinaryFaults v.encoded :=
  FailsWithin.map _ (Value.encodableText_ordinary v)

theorem Fault.ordinary_of_isValueFault {f : Fault} (h : f.isValueFault = true) : f.Ordinary :=
  fun hno => nomatch hno ▸ h

theorem Json.readMarked_ordinary (src : Json.Source) (text : List Char) :
    OrdinaryFaults (Json.readMarked src text) :=
  fun _ h => Fault.ordinary_of_isValueFault (isValueFault_of_readMarked h)

/-! ## Checking a message -/

theorem liftM_ordinary {x : Except Fault α} (h : OrdinaryFaults x) :
    FailsWithin CheckError.Ordinary (liftM x : Except CheckError α) := by
  cases x with
  | ok a => exact ok a
  | error f =>
    refine error fun he => ?_
    exact h f rfl (CheckError.fault.inj he)

namespace Coercion

theorem reject_ordinary (make : String → String → Rejection) (name : String) (v : Value) :
    FailsWithin CheckError.Ordinary (reject make name v : Except CheckError α) :=
  bind (liftM_ordinary (Value.shown_ordinary v)) fun _ => error nofun

theorem readLeadingInt_ordinary (cs : List Char) : OrdinaryFaults (readLeadingInt cs) := by
  unfold readLeadingInt
  split
  · exact ok _
  · split
    · exact ok _
    · exact error nofun

theorem readLeadingFloat_ordinary (cs : List Char) : OrdinaryFaults (readLeadingFloat cs) := by
  unfold readLeadingFloat
  split
  · exact ok _
  · split
    · exact ok _
    · exact error nofun

theorem toNumber?_ordinary (v : Value) : OrdinaryFaults (toNumber? v) := by
  unfold toNumber?
  split
  · exact ok _
  · split
    · exact ok _
    · exact error nofun
  · exact ok _
  · exact bind (Value.wireText_ordinary _) fun _ => readLeadingInt_ordinary _

theorem toFloat?_ordinary (v : Value) : OrdinaryFaults (toFloat? v) := by
  unfold toFloat?
  split
  · exact ok _
  · exact map _ (Value.toFloat_ordinary _)
  · exact ok _
  · exact bind (Value.wireText_ordinary _) fun _ => readLeadingFloat_ordinary _

theorem ofMilliseconds_ordinary (x : Binary64) : OrdinaryFaults (ofMilliseconds x) := by
  unfold ofMilliseconds
  split
  · exact ok _
  · refine error ?_
    unfold epochFault
    split <;> exact nofun

theorem toDate_ordinary (name : String) (v : Value) :
    FailsWithin CheckError.Ordinary (toDate name v) := by
  unfold toDate
  split
  · exact ok _
  · split
    · exact liftM_ordinary (ofMilliseconds_ordinary _)
    · exact error nofun
  · exact liftM_ordinary (ofMilliseconds_ordinary _)
  · split
    case _ f hf =>
      split
      · exact reject_ordinary _ _ _
      · refine error fun he => ?_
        exact Value.wireText_ordinary _ f hf (CheckError.fault.inj he)
    · split
      · exact ok _
      · exact reject_ordinary _ _ _

theorem document_ordinary {read : Except Fault Value} (h : OrdinaryFaults read) (name text : String) :
    FailsWithin CheckError.Ordinary (document name text read) := by
  cases read with
  | ok v => exact ok v
  | error f =>
    unfold document
    dsimp only
    split
    · exact error nofun
    · refine error fun he => ?_
      exact h f rfl (CheckError.fault.inj he)

theorem toDocument_ordinary (name : String) (v : Value) :
    FailsWithin CheckError.Ordinary (toDocument name v) := by
  cases v with
  | text s => exact document_ordinary (Json.readMarked_ordinary _ _) name s
  | ragged r => exact document_ordinary (Json.readMarked_ordinary _ _) name r.face
  | _ => exact ok _

theorem coerce_ordinary (name : String) (v : Value) (kind : ParamKind) (given : Value) :
    FailsWithin CheckError.Ordinary (coerce name v kind given) := by
  unfold coerce
  split
  · refine bind (liftM_ordinary (toNumber?_ordinary v)) fun n => ?_
    cases n with
    | some n => exact pure _
    | none => exact reject_ordinary _ _ _
  · refine bind (liftM_ordinary (toFloat?_ordinary v)) fun x => ?_
    cases x with
    | some x => exact pure _
    | none => exact reject_ordinary _ _ _
  · exact toDocument_ordinary name v
  · exact toDate_ordinary name v
  · exact ok _

end Coercion

namespace Validation

theorem parse_ordinary (source : List Char) : OrdinaryFaults (Pattern.parse source) := by
  unfold Pattern.parse
  cases (Pattern.Parser.whole (4 * source.length + 8)).run' { rest := source } with
  | ok node => exact ok node
  | error r => cases r <;> exact error nofun

theorem matchesPattern_ordinary (pattern : Value) (text : String) :
    OrdinaryFaults (matchesPattern pattern text) := by
  unfold matchesPattern
  split
  · exact map _ (parse_ordinary _)
  · exact error nofun

theorem checkPattern_ordinary (name : String) (rule : Rule) (v : Value) :
    FailsWithin CheckError.Ordinary (checkPattern name rule v) := by
  unfold checkPattern
  split
  · exact ok _
  · refine bind (liftM_ordinary (Value.wireText_ordinary v)) fun text => ?_
    refine bind (liftM_ordinary (matchesPattern_ordinary _ text)) fun found => ?_
    cases found with
    | true => exact pure _
    | false => exact Coercion.reject_ordinary _ _ _

theorem convert_ordinary (name : String) (rule : Rule) (v given : Value) :
    FailsWithin CheckError.Ordinary (convert name rule v given) := by
  unfold convert
  split
  · exact Coercion.coerce_ordinary _ _ _ _
  · exact ok _

theorem checkParam_ordinary (name : String) (rule : Rule) (given : Value) :
    FailsWithin CheckError.Ordinary (checkParam name rule given) := by
  unfold checkParam
  dsimp only
  split
  · split
    · exact ok _
    · exact Coercion.reject_ordinary _ _ _
  · refine bind (checkPattern_ordinary _ _ _) fun _ => ?_
    exact bind (convert_ordinary _ _ _ _) fun _ => pure _

theorem check_ordinary (rules : Entries Rule) (message : Message) :
    FailsWithin CheckError.Ordinary (check rules message).2 := by
  induction rules generalizing message with
  | nil => exact ok _
  | cons r rest ih =>
    obtain ⟨name, rule⟩ := r
    unfold check
    split
    · exact ih _
    · exact ih _
    case _ e he => exact error (checkParam_ordinary _ _ _ e he)

/-- A message is refused, or one of its values cannot be handled; no outcome is missing. -/
theorem checkValue_ordinary (rules : Entries Rule) (message : Value) :
    FailsWithin CheckError.Ordinary (checkValue rules message).2 := by
  unfold checkValue
  split
  · exact ok _
  · split
    · exact check_ordinary _ _
    · exact check_ordinary _ _
    · exact check_ordinary _ _
    · exact error (by rintro ⟨⟩)

end Validation

end RouteBook
