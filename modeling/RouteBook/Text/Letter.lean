import RouteBook.Text.Blank
import RouteBook.Text.Quoted

/-!
# Letters

Some characters are written as two units, a high one and a low one. A text may hold a unit whose partner
is missing. Such a text is a sequence of letters like any other and is shown with a face in the place of
the unit, but it has no form in UTF-8.
-/

namespace RouteBook.Text

/-- A character, or a unit without its partner, numbered from the first unit that there is. -/
inductive Letter where
  | char (c : Char)
  | lone (unit : Fin 0x800)
  deriving DecidableEq, Repr

/-- Whether a unit announces a second one. -/
def isHighUnit (n : Nat) : Bool :=
  0xD800 ≤ n && n < 0xDC00

/-- Whether a unit has to follow another one. -/
def isLowUnit (n : Nat) : Bool :=
  0xDC00 ≤ n && n < 0xE000

/-- Stands for a unit that has no partner. -/
def replacement : Char := Char.ofNat 0xFFFD

namespace Letter

/-- The letter of a unit. -/
def ofUnit (n : Nat) : Letter :=
  lone (Fin.ofNat 0x800 (n - 0xD800))

def isLone : Letter → Bool
  | char _ => false
  | lone _ => true

/-- The character that a letter shows. -/
def face : Letter → Char
  | char c => c
  | lone _ => replacement

def isBlank : Letter → Bool
  | char c => Text.isBlank c
  | lone _ => false

/-- The letters without the blanks around them. -/
def trim (letters : List Letter) : List Letter :=
  ((letters.dropWhile isBlank).reverse.dropWhile isBlank).reverse

/-- How a letter is written between quotes. -/
def escape (quote : Char) : Letter → List Char
  | char c => escapeChar quote c
  | lone unit => '\\' :: 'u' :: hexPadded 4 (0xD800 + unit)

theorem map_face_char (cs : List Char) : (cs.map char).map face = cs := by
  rw [List.map_map]
  exact List.map_id cs

theorem any_isLone_char (cs : List Char) : (cs.map char).any isLone = false := by
  simp [isLone]

theorem isBlank_face (l : Letter) : Text.isBlank l.face = l.isBlank := by
  cases l with
  | char c => rfl
  | lone unit =>
    show Text.isBlank replacement = false
    decide

theorem map_face_dropWhile (letters : List Letter) :
    (letters.dropWhile isBlank).map face = (letters.map face).dropWhile Text.isBlank := by
  have hblank : Text.isBlank ∘ face = isBlank := funext isBlank_face
  rw [List.dropWhile_map, hblank]

theorem map_face_trim (letters : List Letter) : (trim letters).map face = trimChars (letters.map face) := by
  simp only [trim, trimChars, trimRight, List.map_reverse, map_face_dropWhile]

theorem trim_sublist (letters : List Letter) : (trim letters).Sublist letters := by
  have hright : (trim letters).Sublist (letters.dropWhile isBlank) := by
    unfold trim
    rw [← List.reverse_sublist, List.reverse_reverse]
    exact List.dropWhile_sublist isBlank
  exact hright.trans (List.dropWhile_sublist isBlank)

/-- Trimming twice is trimming once, since the faces are trimmed once. -/
theorem trim_trim (letters : List Letter) : trim (trim letters) = trim letters := by
  refine (trim_sublist _).eq_of_length ?_
  rw [← List.length_map (f := face), map_face_trim, map_face_trim, trimChars_trimChars, ← map_face_trim,
    List.length_map]

theorem mem_dropWhile {letters : List Letter} {l : Letter} (hmem : l ∈ letters)
    (hl : l.isBlank = false) : l ∈ letters.dropWhile isBlank := by
  have hsplit := letters.takeWhile_append_dropWhile (p := isBlank)
  rw [← hsplit, List.mem_append] at hmem
  refine hmem.resolve_left fun htake => ?_
  rw [List.all_eq_true.mp List.all_takeWhile l htake] at hl
  exact Bool.noConfusion hl

theorem any_isLone_trim {letters : List Letter} (h : letters.any isLone = true) :
    (trim letters).any isLone = true := by
  obtain ⟨l, hmem, hlone⟩ := List.any_eq_true.mp h
  have hl : l.isBlank = false := by
    cases l with
    | char c => exact Bool.noConfusion hlone
    | lone unit => rfl
  have hdrop := List.mem_reverse.mpr (mem_dropWhile hmem hl)
  exact List.any_eq_true.mpr ⟨l, List.mem_reverse.mpr (mem_dropWhile hdrop hl), hlone⟩

end Letter

/-- A text that holds a unit without its partner. -/
structure Ragged where
  letters : List Letter
  isRagged : letters.any Letter.isLone = true
  deriving DecidableEq, Repr

namespace Ragged

/-- The text that is shown. -/
def face (r : Ragged) : String :=
  String.ofList (r.letters.map Letter.face)

/-- The text without the blanks around it. -/
def trim (r : Ragged) : Ragged :=
  ⟨Letter.trim r.letters, Letter.any_isLone_trim r.isRagged⟩

/-- The text behind another one. -/
def after (front : String) (r : Ragged) : Ragged where
  letters := front.toList.map .char ++ r.letters
  isRagged := by rw [List.any_append, r.isRagged, Bool.or_true]

/-- The text between quotes. -/
def quote (r : Ragged) : String :=
  let q := quoteFor (r.letters.map Letter.face)
  String.ofList (q :: r.letters.flatMap (Letter.escape q) ++ [q])

theorem trim_trim (r : Ragged) : r.trim.trim = r.trim := by
  simp only [trim, Letter.trim_trim]

theorem face_trim (r : Ragged) : r.trim.face = Text.trim r.face := by
  simp only [face, trim, Letter.map_face_trim, Text.trim, String.toList_ofList]

theorem replacement_mem_face (r : Ragged) : replacement ∈ r.face.toList := by
  obtain ⟨l, hmem, hlone⟩ := List.any_eq_true.mp r.isRagged
  rw [face, String.toList_ofList]
  refine List.mem_map.mpr ⟨l, hmem, ?_⟩
  cases l with
  | char c => exact Bool.noConfusion hlone
  | lone unit => rfl

theorem face_ne {s : String} (h : replacement ∉ s.toList) (r : Ragged) : r.face ≠ s :=
  fun heq => h (heq ▸ r.replacement_mem_face)

end Ragged

end RouteBook.Text
