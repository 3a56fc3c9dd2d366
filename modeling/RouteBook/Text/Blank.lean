/-!
# Blank characters

The white space that trimming removes and that separates words: the separators of every
script together with the ASCII and Latin-1 controls that act as such. The zero-width
characters U+200B and U+FEFF are not blank.
-/

namespace RouteBook.Text

/-- White space in the sense of trimming and of the pattern class for blanks. -/
def isBlank (c : Char) : Bool :=
  let n := c.toNat
  (9 ≤ n && n ≤ 13) || (28 ≤ n && n ≤ 32) || n == 0x85 || n == 0xA0 || n == 0x1680 ||
    (0x2000 ≤ n && n ≤ 0x200A) || n == 0x2028 || n == 0x2029 || n == 0x202F ||
    n == 0x205F || n == 0x3000

/-- The text without the blanks it ends in. -/
def trimRight (cs : List Char) : List Char :=
  (cs.reverse.dropWhile isBlank).reverse

/-- The text without the blanks around it. -/
def trimChars (cs : List Char) : List Char :=
  trimRight (cs.dropWhile isBlank)

/-- The text without the blanks around it. -/
def trim (s : String) : String :=
  String.ofList (trimChars s.toList)

theorem isBlank_head_of_dropWhile {cs rest : List Char} {c : Char}
    (h : cs.dropWhile isBlank = c :: rest) : isBlank c = false := by
  have hhead := List.head?_dropWhile_not isBlank cs
  rw [h] at hhead
  exact hhead

theorem isBlank_head_trimChars {cs rest : List Char} {c : Char}
    (h : trimChars cs = c :: rest) : isBlank c = false := by
  have hprefix : trimChars cs <+: cs.dropWhile isBlank := by
    unfold trimChars trimRight
    rw [← List.reverse_suffix, List.reverse_reverse]
    exact List.dropWhile_suffix isBlank
  obtain ⟨more, hmore⟩ := hprefix
  rw [h] at hmore
  exact isBlank_head_of_dropWhile hmore.symm

theorem isBlank_last_trimChars {cs init : List Char} {c : Char}
    (h : trimChars cs = init ++ [c]) : isBlank c = false := by
  unfold trimChars trimRight at h
  have hreverse := congrArg List.reverse h
  rw [List.reverse_reverse, List.reverse_append] at hreverse
  exact isBlank_head_of_dropWhile hreverse

theorem trimChars_sublist (cs : List Char) : (trimChars cs).Sublist cs := by
  have hright : (trimChars cs).Sublist (cs.dropWhile isBlank) := by
    unfold trimChars trimRight
    rw [← List.reverse_sublist, List.reverse_reverse]
    exact List.dropWhile_sublist isBlank
  exact hright.trans (List.dropWhile_sublist isBlank)

theorem trimChars_of_ends {cs : List Char} (hhead : ∀ c ∈ cs.head?, isBlank c = false)
    (hlast : ∀ c ∈ cs.getLast?, isBlank c = false) : trimChars cs = cs := by
  have hstop (ds : List Char) (h : ∀ c ∈ ds.head?, isBlank c = false) :
      ds.dropWhile isBlank = ds := by
    cases ds with
    | nil => rfl
    | cons c tail => exact List.dropWhile_cons_of_neg (Bool.eq_false_iff.mp (h c rfl))
  unfold trimChars trimRight
  rw [hstop cs hhead, hstop cs.reverse (by rwa [List.head?_reverse]), List.reverse_reverse]

theorem trimChars_trimChars (cs : List Char) : trimChars (trimChars cs) = trimChars cs := by
  refine trimChars_of_ends (fun c hc => ?_) fun c hc => ?_
  · obtain ⟨tail, htail⟩ := List.head?_eq_some_iff.mp hc
    exact isBlank_head_trimChars htail
  · obtain ⟨init, hinit⟩ := List.getLast?_eq_some_iff.mp hc
    exact isBlank_last_trimChars hinit

theorem trim_trim (s : String) : trim (trim s) = trim s := by
  unfold trim
  rw [String.toList_ofList, trimChars_trimChars]

end RouteBook.Text
