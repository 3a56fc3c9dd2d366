import RouteBook.Request.Assembly

/-!
# Addresses as templates

An address read once from left to right: plain characters and tokens, where a token is a colon with
all the name characters behind it. To fill a template is to give each name's first token a text, all
at once.
-/

namespace RouteBook.Template

open Assembly (isNameChar)

/-- A part of a template. -/
inductive Part where
  | char (c : Char)
  /-- A colon and the name behind it, which may be empty. -/
  | token (name : String)
  deriving DecidableEq, Repr

/-- A part as it stands in the template. -/
def Part.text : Part → List Char
  | char c => [c]
  | token name => ':' :: name.toList

/-- The parts of a template. The name of a token is as long as it can be. -/
def parts : List Char → List Part
  | [] => []
  | c :: rest =>
    if c = ':' then
      .token (String.ofList (rest.takeWhile isNameChar)) :: parts (rest.dropWhile isNameChar)
    else .char c :: parts rest
termination_by cs => cs.length
decreasing_by
  · exact Nat.lt_succ_of_le (List.dropWhile_sublist _).length_le
  · exact Nat.lt_succ_self _

/-- Parts with texts in place of tokens: that of a name stands for its first token, unless the name
was met before, and a token whose name has no text stays. -/
def fillParts (text? : String → Option (List Char)) (met : List String) : List Part → List Char
  | [] => []
  | .char c :: rest => c :: fillParts text? met rest
  | .token name :: rest =>
    let kept := (Part.token name).text
    (if name ∈ met then kept else (text? name).getD kept) ++ fillParts text? (name :: met) rest

/-- A template with the first token of each name replaced by the text of that name. -/
def fill (text? : String → Option (List Char)) (template : List Char) : List Char :=
  fillParts text? [] (parts template)

/-- No token of the template is followed at once by another one. -/
def Spaced (template : List Char) : Prop :=
  ∀ before name after, (∀ c ∈ name, isNameChar c = true) →
    template ≠ before ++ ':' :: (name ++ ':' :: after)

/-- `Spaced`, computed. -/
def isSpaced : List Char → Bool
  | [] => true
  | c :: rest =>
    (c != ':' || (rest.dropWhile isNameChar).head? != some ':') && isSpaced rest

theorem dropWhile_name {name rest : List Char} (h : ∀ c ∈ name, isNameChar c = true) :
    (name ++ ':' :: rest).dropWhile isNameChar = ':' :: rest := by
  rw [List.dropWhile_append_of_pos h]
  rfl

theorem spaced_cons_iff {c : Char} {rest : List Char} :
    Spaced (c :: rest) ↔
      ¬ (c = ':' ∧ (rest.dropWhile isNameChar).head? = some ':') ∧ Spaced rest := by
  constructor
  · intro h
    refine ⟨?_, fun before name after hname hrest => ?_⟩
    · rintro ⟨rfl, hhead⟩
      obtain ⟨after, hafter⟩ := List.head?_eq_some_iff.mp hhead
      refine h [] (rest.takeWhile isNameChar) after (List.all_eq_true.mp List.all_takeWhile) ?_
      rw [← hafter, List.takeWhile_append_dropWhile]
      rfl
    · exact h (c :: before) name after hname (congrArg (c :: ·) hrest)
  · rintro ⟨hfirst, hrest⟩ before name after hname heq
    cases before with
    | nil =>
      obtain ⟨rfl, rfl⟩ := List.cons.inj heq
      exact hfirst ⟨rfl, by rw [dropWhile_name hname]; rfl⟩
    | cons b before => exact hrest before name after hname (List.cons.inj heq).2

theorem isSpaced_iff {template : List Char} : isSpaced template = true ↔ Spaced template := by
  induction template with
  | nil => exact ⟨fun _ before _ _ _ h => (nomatch List.append_eq_nil_iff.mp h.symm), fun _ => rfl⟩
  | cons c rest ih =>
    rw [spaced_cons_iff, ← ih, isSpaced, Bool.and_eq_true, Bool.or_eq_true, bne_iff_ne, bne_iff_ne,
      Classical.not_and_iff_not_or_not]

instance (template : List Char) : Decidable (Spaced template) :=
  decidable_of_iff _ isSpaced_iff

end RouteBook.Template
