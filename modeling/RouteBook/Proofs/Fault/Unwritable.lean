import RouteBook.Proofs.Fault.Bind
import RouteBook.Value.Text

/-!
# Values without a written form

Writing a value, for a message, for the wire or as JSON, fails only because the value cannot be
written. So a caller that passes over values that cannot be written meets no other fault.
-/

namespace RouteBook

open FailsWithin

/-- A computation whose faults all say that a value cannot be written. -/
abbrev WriteFaults {α : Type} (x : Except Fault α) : Prop :=
  FailsWithin (fun f : Fault => f.isUnwritable = true) x

namespace Value

theorem intDigits_writeFaults (n : Int) : WriteFaults (intDigits n) := by
  unfold intDigits
  split
  · exact error rfl
  · exact ok _

mutual

theorem quoted_writeFaults (v : Value) : WriteFaults v.quoted := by
  unfold quoted
  cases v with
  | int n => exact intDigits_writeFaults n
  | list items | tuple items | set items => exact bind (quotedItems_writeFaults items) fun _ => pure _
  | map entries | raggedMap entries => exact bind (quotedEntries_writeFaults entries) fun _ => pure _
  | _ => exact ok _

theorem quotedItems_writeFaults (items : List Value) :
    WriteFaults (quotedItems items) := by
  cases items with
  | nil => exact ok _
  | cons v rest =>
    unfold quotedItems
    exact bind (quoted_writeFaults v) fun _ => bind (quotedItems_writeFaults rest) fun _ => pure _

theorem quotedEntries_writeFaults (entries : List (String × Value)) :
    WriteFaults (quotedEntries entries) := by
  cases entries with
  | nil => exact ok _
  | cons e rest =>
    obtain ⟨k, v⟩ := e
    unfold quotedEntries
    exact bind (quoted_writeFaults v) fun _ => bind (quotedEntries_writeFaults rest) fun _ => pure _

end

theorem shown_writeFaults (v : Value) : WriteFaults v.shown := by
  cases v with
  | text _ | ragged _ | moment _ => exact ok _
  | _ => exact quoted_writeFaults _

end Value

namespace Json

variable {style : Style}

mutual

theorem write_writeFaults (hs : ∀ v, WriteFaults (style.fallback v)) (v : Value) :
    WriteFaults (write style v) := by
  unfold write
  cases v with
  | int n =>
    show WriteFaults (intLiteral n)
    unfold intLiteral
    split
    · exact error rfl
    · exact ok _
  | list items | tuple items => exact bind (writeItems_writeFaults hs items) fun _ => pure _
  | map entries | raggedMap entries => exact bind (writeEntries_writeFaults hs entries) fun _ => pure _
  | loop => exact error rfl
  | bytes _ | moment _ | set _ => exact bind (hs _) fun _ => pure _
  | _ => exact ok _

theorem writeItems_writeFaults (hs : ∀ v, WriteFaults (style.fallback v))
    (items : List Value) : WriteFaults (writeItems style items) := by
  cases items with
  | nil => exact ok _
  | cons v rest =>
    unfold writeItems
    exact bind (write_writeFaults hs v) fun _ =>
      bind (writeItems_writeFaults hs rest) fun _ => pure _

theorem writeEntries_writeFaults (hs : ∀ v, WriteFaults (style.fallback v))
    (entries : List (String × Value)) :
    WriteFaults (writeEntries style entries) := by
  cases entries with
  | nil => exact ok _
  | cons e rest =>
    obtain ⟨k, v⟩ := e
    unfold writeEntries
    exact bind (write_writeFaults hs v) fun _ =>
      bind (writeEntries_writeFaults hs rest) fun _ => pure _

end

theorem writeCompact_writeFaults (v : Value) : WriteFaults (writeCompact v) := by
  refine map _ (write_writeFaults (fun u => ?_) v)
  cases u with
  | moment t => exact ok t.isoText
  | _ => exact error rfl

end Json

theorem Value.wireText_writeFaults (v : Value) : WriteFaults v.wireText := by
  unfold Value.wireText
  cases v with
  | bool _ | moment _ => exact ok _
  | float x =>
    dsimp only
    split
    · exact Value.intDigits_writeFaults _
    · exact ok _
  | list _ | tuple _ | map _ | raggedMap _ | loop => exact Json.writeCompact_writeFaults _
  | _ => exact Value.shown_writeFaults _

theorem Value.encodableText_writeFaults (v : Value) : WriteFaults v.encodableText := by
  refine bind (Value.wireText_writeFaults v) fun text => ?_
  split
  · exact pure text
  · exact error rfl

end RouteBook
