import RouteBook.Auth.Context
import RouteBook.Proofs.Request.EncodedValue
import RouteBook.Request.Authority
import Mathlib.Data.List.Forall2

/-!
# Reading a query

A query is read by splitting it at ampersands and each piece at its first equals sign (`pairs`). A
field is a name with a value; `Field.ReadsAs` says that a pair holds it, that is, that decoding the
right side gives the plain text of the value. The pairs of fields that are written one after the
other read as these fields (`readAs_pairs_joined`).
-/

namespace RouteBook

namespace Query

open RouteBook.Text

/-! ## Reading -/

/-- The pairs of a query. An empty query has none. -/
def pairs (cs : List Char) : List (List Char × List Char) :=
  if cs.isEmpty then [] else (pieces '&' cs).map (Authority.cut '=')

/-- The query of a path: what follows its first question mark. -/
def ofPath (path : List Char) : List Char :=
  (Authority.cut '?' path).2

/-- A name with the value that it should carry. -/
structure Field where
  name : String
  value : Value
  combined : Bool := false

namespace Field

/-- Whether the value is written term by term. -/
def inTerms (f : Field) : Bool :=
  Assembly.inTerms f.combined f.value

/-- A pair holds a field: its left side is the name, and its right side decodes to the plain text of
the value. Of a value that is written term by term, the right side holds the terms between plus
signs. -/
def ReadsAs (f : Field) (pair : List Char × List Char) : Prop :=
  pair.1 = f.name.toList ∧ ∃ text, Assembly.plainText f.value = .ok text ∧
    if f.inTerms then
      (pieces '+' pair.2).mapM Percent.decodeComponent? = some (Assembly.terms text.toList) ∧
        Percent.decodeComponent? pair.2 =
          some (Assembly.plusSeparated (Assembly.terms text.toList))
    else Percent.decodeComponent? pair.2 = some text.toList

/-- A field as one pair of a query. -/
def written (f : Field) : Except Fault String :=
  (Assembly.encodeValue f.combined f.value).map (Assembly.pairText f.name)

/-! ## One field -/

theorem toList_pairText (name : String) (encoded : List Char) :
    (Assembly.pairText name encoded).toList = name.toList ++ '=' :: encoded := by
  simp [Assembly.pairText, String.toList_append, String.toList_ofList]

theorem written_eq_ok {f : Field} {t : String} (h : f.written = .ok t) :
    ∃ text, Assembly.plainText f.value = .ok text ∧
      t.toList = f.name.toList ++ '=' :: Assembly.writtenAs f.inTerms text.toList := by
  obtain ⟨encoded, he, rfl⟩ := map_eq_ok_iff.mp h
  obtain ⟨text, ht, rfl⟩ := Assembly.encodeValue_eq_ok_iff.mp he
  exact ⟨text, ht, toList_pairText _ _⟩

/-- A written field has an ampersand only if its name has one. -/
theorem ampersand_not_mem_written {f : Field} {t : String} (h : f.written = .ok t)
    (hname : '&' ∉ f.name.toList) : '&' ∉ t.toList := by
  obtain ⟨text, -, ht⟩ := written_eq_ok h
  rw [ht, List.mem_append, List.mem_cons]
  rintro (hm | hm | hm)
  · exact hname hm
  · exact absurd hm (by decide)
  · exact Assembly.not_mem_writtenAs (by decide) (by decide) _ _ hm

/-- A written field reads as itself. -/
theorem readsAs_written {f : Field} {t : String} (h : f.written = .ok t)
    (hname : '=' ∉ f.name.toList) : f.ReadsAs (Authority.cut '=' t.toList) := by
  obtain ⟨text, hp, ht⟩ := written_eq_ok h
  rw [ht, Authority.cut_append_cons hname]
  refine ⟨rfl, text, hp, ?_⟩
  by_cases hterms : f.inTerms = true
  · rw [if_pos hterms, hterms]
    exact ⟨Assembly.terms_of_writtenAs _, Assembly.decode_writtenAs true _⟩
  · rw [if_neg hterms, Bool.eq_false_iff.mpr hterms]
    exact Assembly.decode_writtenAs false _

end Field

/-! ## Many fields -/

/-- The texts are the written fields in their order. -/
def Written (fields : List Field) (texts : List String) : Prop :=
  List.Forall₂ (fun f t => f.written = .ok t) fields texts

/-- The pairs hold the fields in their order, one each. -/
def ReadAs (fields : List Field) (pairs : List (List Char × List Char)) : Prop :=
  List.Forall₂ Field.ReadsAs fields pairs

theorem names_of_readAs {fields : List Field} {pairs : List (List Char × List Char)}
    (h : ReadAs fields pairs) : pairs.map Prod.fst = fields.map fun f => f.name.toList := by
  induction h with
  | nil => rfl
  | @cons f pair fields pairs hread _ ih => rw [List.map_cons, List.map_cons, ih, hread.1]

/-- Texts with ampersands between them. -/
def joined (texts : List String) : List Char :=
  joinWith ['&'] (texts.map String.toList)

theorem joined_ne_nil {fields : List Field} {texts : List String} (h : Written fields texts)
    (hne : texts ≠ []) : joined texts ≠ [] := by
  cases h with
  | nil => exact absurd rfl hne
  | @cons f t fields texts hf hrest =>
    obtain ⟨text, -, ht⟩ := Field.written_eq_ok hf
    unfold joined
    rw [List.map_cons, ht]
    cases texts with
    | nil => simp [joinWith]
    | cons u texts => simp [joinWith_cons_cons]

theorem ampersand_not_mem_texts {fields : List Field} {texts : List String}
    (h : Written fields texts) (hnames : ∀ f ∈ fields, '&' ∉ f.name.toList) :
    ∀ x ∈ texts.map String.toList, '&' ∉ x := by
  induction h with
  | nil => exact fun x hx => absurd hx List.not_mem_nil
  | @cons f t fields texts hf hrest ih =>
    intro x hx
    rw [List.map_cons, List.mem_cons] at hx
    rcases hx with rfl | hx
    · exact Field.ampersand_not_mem_written hf (hnames f List.mem_cons_self)
    · exact ih (fun g hg => hnames g (List.mem_cons_of_mem f hg)) x hx

/-- The pairs of joined fields read as the fields. -/
theorem readAs_pairs_joined {fields : List Field} {texts : List String} (h : Written fields texts)
    (hnames : ∀ f ∈ fields, '&' ∉ f.name.toList ∧ '=' ∉ f.name.toList) :
    ReadAs fields (pairs (joined texts)) := by
  by_cases hne : texts = []
  · subst hne
    cases h
    exact List.Forall₂.nil
  have hno := ampersand_not_mem_texts h fun f hf => (hnames f hf).1
  unfold pairs
  rw [if_neg (by simpa using joined_ne_nil h hne), joined,
    pieces_joinWith (mt List.map_eq_nil_iff.mp hne) hno, List.map_map]
  have hboth := (List.forall₂_and_left fields texts).mpr ⟨hnames, h⟩
  exact List.forall₂_map_right_iff.mpr (hboth.imp fun f t hf => Field.readsAs_written hf.2 hf.1.2)

end Query

end RouteBook
