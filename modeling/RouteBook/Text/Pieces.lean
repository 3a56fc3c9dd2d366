/-!
# Pieces of a text

Splitting at a character, joining with a separator, and what follows a given beginning.
-/

namespace RouteBook.Text

/-- The pieces of a text between the occurrences of a character. -/
def pieces (mark : Char) : List Char → List (List Char)
  | [] => [[]]
  | c :: rest =>
    if c = mark then [] :: pieces mark rest
    else
      match pieces mark rest with
      | [] => [[c]]
      | piece :: others => (c :: piece) :: others

/-- The texts with a separator between them. -/
def joinWith (separator : List Char) : List (List Char) → List Char
  | [] => []
  | [x] => x
  | x :: rest => x ++ separator ++ joinWith separator rest

/-- The characters after a given beginning. -/
def after? : List Char → List Char → Option (List Char)
  | [], cs => some cs
  | _ :: _, [] => none
  | a :: start, c :: cs => if a = c then after? start cs else none

theorem pieces_ne_nil (mark : Char) (cs : List Char) : pieces mark cs ≠ [] := by
  induction cs with
  | nil => simp [pieces]
  | cons c rest ih =>
    by_cases h : c = mark
    · simp [pieces, h]
    · cases hp : pieces mark rest with
      | nil => exact absurd hp ih
      | cons piece others => simp [pieces, h, hp]

theorem joinWith_pieces (mark : Char) (cs : List Char) :
    joinWith [mark] (pieces mark cs) = cs := by
  induction cs with
  | nil => simp [pieces, joinWith]
  | cons c rest ih =>
    cases hp : pieces mark rest with
    | nil => exact absurd hp (pieces_ne_nil mark rest)
    | cons piece others =>
      rw [hp] at ih
      by_cases h : c = mark
      · simp [pieces, h, hp, joinWith, ih]
      · cases others with
        | nil => simpa [pieces, h, hp, joinWith] using ih
        | cons p q => simpa [pieces, h, hp, joinWith] using ih

theorem after?_eq_some_iff {start cs rest : List Char} :
    after? start cs = some rest ↔ cs = start ++ rest := by
  induction start generalizing cs with
  | nil => simp [after?, eq_comm]
  | cons a start ih =>
    cases cs with
    | nil => simp [after?]
    | cons c cs =>
      by_cases h : a = c
      · simp [after?, h, ih]
      · simp [after?, h, Ne.symm h]

/-! ## Longest fronts -/

section

variable {p : Char → Bool} {front rest : List Char}

theorem takeWhile_append_of_stop (hfront : ∀ c ∈ front, p c = true)
    (hstop : ∀ c ∈ rest.head?, p c = false) : (front ++ rest).takeWhile p = front := by
  rw [List.takeWhile_append_of_pos hfront]
  cases rest with
  | nil => exact List.append_nil front
  | cons c rest =>
    rw [List.takeWhile_cons_of_neg (Bool.eq_false_iff.mp (hstop c rfl)), List.append_nil]

theorem dropWhile_append_of_stop (hfront : ∀ c ∈ front, p c = true)
    (hstop : ∀ c ∈ rest.head?, p c = false) : (front ++ rest).dropWhile p = rest := by
  rw [List.dropWhile_append_of_pos hfront]
  cases rest with
  | nil => rfl
  | cons c rest => rw [List.dropWhile_cons_of_neg (Bool.eq_false_iff.mp (hstop c rfl))]

end

end RouteBook.Text
