import RouteBook.Proofs.Fault.Bind
import RouteBook.Proofs.Text.Percent
import RouteBook.Proofs.Text.Pieces
import RouteBook.Request.Assembly

/-!
# Encoded values are read back

A value stands in an address or in a pair by its plain text (`plainText`), encoded as one component,
or, if it is a list of terms, term by term with plus signs between (`encodeValue_eq`). Either way the
plain text is read back from it (`decode_writtenAs`, `terms_of_writtenAs`), and no character that
separates the parts of an address is in it (`not_mem_encodeValue`).
-/

namespace RouteBook

theorem Value.encodableText_isOk {v : Value} (h : v.wireText.isOk = true) :
    v.encodableText.isOk = v.isEncodable := by
  obtain ⟨text, htext⟩ := exists_of_isOk h
  rw [encodableText, htext]
  cases v.isEncodable <;> rfl

theorem Value.encodableText_eq_ok_iff {v : Value} {text : String} :
    v.encodableText = .ok text ↔ v.wireText = .ok text ∧ v.isEncodable = true := by
  unfold encodableText
  cases v.wireText with
  | error f => exact ⟨fun h => (nomatch h), fun h => (nomatch h.1)⟩
  | ok s =>
    cases v.isEncodable with
    | false => exact ⟨fun h => (nomatch h), fun h => Bool.noConfusion h.2⟩
    | true => exact (and_iff_left rfl).symm

namespace Assembly

open RouteBook.Text

/-- The text that stands for a value outside a document: that of containers is JSON. It must have a form
in UTF-8. -/
def plainText (v : Value) : Except Fault String := do
  let text ← if v.isContainer then Json.writeCompact v else v.wireText
  if v.isEncodable then pure text else throw .unencodable

theorem plainText_eq_encodableText (v : Value) : plainText v = v.encodableText := by
  unfold plainText Value.encodableText
  by_cases hc : v.isContainer = true
  · rw [if_pos hc, Value.wireText_of_isContainer hc]
  · rw [if_neg hc]

/-- Whether a value is written term by term: containers never are. -/
def inTerms (combined : Bool) (v : Value) : Bool :=
  combined && !v.isContainer

/-- A text as it is written, term by term or as a whole. -/
def writtenAs (byTerms : Bool) (cs : List Char) : List Char :=
  if byTerms then plusSeparated ((terms cs).map Percent.encodeComponent)
  else Percent.encodeComponent cs

theorem encodeValue_eq (combined : Bool) (v : Value) :
    encodeValue combined v =
      (plainText v).map fun text => writtenAs (inTerms combined v) text.toList := by
  rw [plainText_eq_encodableText]
  unfold encodeValue inTerms writtenAs
  cases v.encodableText with
  | error f => rfl
  | ok text => exact (apply_ite Except.ok _ _ _).symm

theorem encodeValue_eq_ok_iff {combined : Bool} {v : Value} {encoded : List Char} :
    encodeValue combined v = .ok encoded ↔
      ∃ text, plainText v = .ok text ∧ writtenAs (inTerms combined v) text.toList = encoded := by
  rw [encodeValue_eq, map_eq_ok_iff]

/-! ## Terms -/

theorem terms_ne_nil (cs : List Char) : terms cs ≠ [] := by
  unfold terms
  cases hp : pieces '+' cs with
  | nil => exact absurd hp (pieces_ne_nil '+' cs)
  | cons first others =>
    cases others with
    | nil => exact List.cons_ne_nil first []
    | cons second rest => exact List.cons_ne_nil _ _

theorem plus_not_mem_encoded {x : List Char} {ts : List (List Char)}
    (h : x ∈ ts.map Percent.encodeComponent) : '+' ∉ x := by
  obtain ⟨t, -, rfl⟩ := List.mem_map.mp h
  exact Percent.not_mem_encodeComponent (by decide) t

theorem pieces_writtenAs_terms (cs : List Char) :
    pieces '+' (writtenAs true cs) = (terms cs).map Percent.encodeComponent := by
  have hne : (terms cs).map Percent.encodeComponent ≠ [] :=
    mt List.map_eq_nil_iff.mp (terms_ne_nil cs)
  exact pieces_joinWith hne fun _ => plus_not_mem_encoded

theorem mapM_decodeComponent? (ts : List (List Char)) :
    (ts.map Percent.encodeComponent).mapM Percent.decodeComponent? = some ts := by
  induction ts with
  | nil => rfl
  | cons t ts ih =>
    rw [List.map_cons, List.mapM_cons, ih, Percent.decodeComponent?_encodeComponent]
    rfl

/-- The terms of a text are read back one by one. -/
theorem terms_of_writtenAs (cs : List Char) :
    (pieces '+' (writtenAs true cs)).mapM Percent.decodeComponent? = some (terms cs) := by
  rw [pieces_writtenAs_terms, mapM_decodeComponent?]

theorem decodeOctets_plusSeparated (ts : List (List Char)) :
    Percent.decodeOctets (plusSeparated (ts.map Percent.encodeComponent)) =
      Utf8.encode (plusSeparated ts) := by
  unfold plusSeparated
  induction ts with
  | nil => rw [List.map_nil, joinWith, Percent.decodeOctets]; rfl
  | cons t ts ih =>
    cases ts with
    | nil => exact Percent.decodeOctets_encodeComponent t
    | cons u ts =>
      rw [List.map_cons, List.map_cons, joinWith_cons_cons, joinWith_cons_cons, List.append_assoc,
        Percent.decodeOctets_encodeComponent_append, List.singleton_append,
        Percent.decodeOctets_cons (by decide), ← List.map_cons, ih]
      unfold Utf8.encode
      rw [List.flatMap_append, List.flatMap_append, List.append_assoc]
      rfl

/-- The text is read back as it is, or with its terms set close to the plus signs. -/
theorem decode_writtenAs (byTerms : Bool) (cs : List Char) :
    Percent.decodeComponent? (writtenAs byTerms cs) =
      some (if byTerms then plusSeparated (terms cs) else cs) := by
  cases byTerms with
  | false => exact Percent.decodeComponent?_encodeComponent cs
  | true =>
    show Percent.decodeComponent? (plusSeparated ((terms cs).map Percent.encodeComponent)) = _
    unfold Percent.decodeComponent?
    rw [decodeOctets_plusSeparated, Utf8.decode_encode]
    rfl

/-! ## Separators -/

theorem not_mem_writtenAs {c : Char} (h : Percent.isComponentChar c = false) (hplus : c ≠ '+')
    (byTerms : Bool) (cs : List Char) : c ∉ writtenAs byTerms cs := by
  cases byTerms with
  | false => exact Percent.not_mem_encodeComponent h cs
  | true =>
    intro hc
    rcases mem_joinWith hc with hc | ⟨x, hx, hc⟩
    · exact hplus (List.mem_singleton.mp hc)
    · obtain ⟨t, -, rfl⟩ := List.mem_map.mp hx
      exact Percent.not_mem_encodeComponent h t hc

/-- An encoded value holds no character but those of components and the plus sign. -/
theorem not_mem_encodeValue {c : Char} (h : Percent.isComponentChar c = false) (hplus : c ≠ '+')
    {combined : Bool} {v : Value} {encoded : List Char}
    (he : encodeValue combined v = .ok encoded) : c ∉ encoded := by
  obtain ⟨text, -, rfl⟩ := encodeValue_eq_ok_iff.mp he
  exact not_mem_writtenAs h hplus _ _

end Assembly

end RouteBook
