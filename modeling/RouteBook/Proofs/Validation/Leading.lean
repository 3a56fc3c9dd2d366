import RouteBook.Proofs.Decimal.Digits
import RouteBook.Text.Pieces
import RouteBook.Validation.Coercion
import Mathlib.Data.List.Induction

/-!
# Leading numbers are read

The beginning of a text that writes a number is made of digits of any script, signs, a point and the
letters of an exponent or of infinity. None of them is a blank or a low line, so the reader of numbers finds
the same characters with ASCII digits (`plainNumber?_of_numeric`). It reads every leading number of
floating point (`exists_readLeadingFloat`), and every leading integer whose digits are within the limit
(`readLeadingInt_eq_error_iff`).
-/

namespace RouteBook

open RouteBook.Text

namespace Decimal

variable {c : Char} {cs ds sign tail : List Char}

/-! ## Characters of numbers -/

/-- The characters of the numbers that a text may begin with. -/
def isNumeric (c : Char) : Bool :=
  isDigit c || "+-.eEinf".toList.contains c

theorem toNat_le_of_isAsciiDigit (h : isAsciiDigit c = true) : c.toNat ≤ 57 := by
  simp only [isAsciiDigit, Bool.and_eq_true, decide_eq_true_eq, Char.le_def] at h
  exact h.2

theorem le_toNat_of_isAsciiDigit (h : isAsciiDigit c = true) : 48 ≤ c.toNat := by
  simp only [isAsciiDigit, Bool.and_eq_true, decide_eq_true_eq, Char.le_def] at h
  exact h.1

theorem digitValue?_of_isAsciiDigit (h : isAsciiDigit c = true) :
    digitValue? c = some (c.toNat - 48) := by
  have hlow : c.toNat < 0x80 := (toNat_le_of_isAsciiDigit h).trans_lt (by decide)
  rw [digitValue?, if_pos hlow, if_pos h]

theorem digitValue?_lt {d : Nat} (h : digitValue? c = some d) : d < 10 := by
  unfold digitValue? at h
  split_ifs at h with hascii hdigit
  · have hnine := toNat_le_of_isAsciiDigit hdigit
    have hd := Option.some.inj h
    omega
  · obtain ⟨r, -, rfl⟩ := Option.map_eq_some_iff.mp h
    exact Nat.mod_lt _ (by decide)

theorem isAsciiDigit_asciiDigit (h : isDigit c = true) : isAsciiDigit (asciiDigit c) = true := by
  obtain ⟨d, hd⟩ := Option.isSome_iff_exists.mp h
  have hlt := digitValue?_lt hd
  unfold asciiDigit
  rw [hd]
  show isAsciiDigit (Char.ofNat (48 + d)) = true
  interval_cases d <;> decide

theorem isNumeric_of_isDigit (h : ∀ c ∈ ds, isDigit c = true) : ∀ c ∈ ds, isNumeric c = true := by
  intro c hc
  rw [isNumeric, h c hc, Bool.true_or]

theorem asciiDigit_of_not_isDigit (h : isDigit c = false) : asciiDigit c = c := by
  unfold asciiDigit
  rw [Option.not_isSome_iff_eq_none.mp (Bool.eq_false_iff.mp h)]

/-- The code points of the blanks. -/
def blankCodes : List Nat :=
  List.range' 9 5 ++ List.range' 28 5 ++ List.range' 0x2000 11 ++
    [0x85, 0xA0, 0x1680, 0x2028, 0x2029, 0x202F, 0x205F, 0x3000]

theorem mem_blankCodes (h : isBlank c = true) : c.toNat ∈ blankCodes := by
  simp only [isBlank, Bool.or_eq_true, Bool.and_eq_true, decide_eq_true_eq, beq_iff_eq] at h
  simp only [blankCodes, List.mem_append, List.mem_range'_1, List.mem_cons, List.not_mem_nil]
  omega

theorem isMargin_of_isNumeric (h : isNumeric c = true) : isMargin c = false := by
  have hblank : isBlank c = false := by
    by_contra hblank
    -- The blanks are few: none of them is a digit of any script.
    have hall : ∀ n ∈ blankCodes, isNumeric (Char.ofNat n) = false := by decide +kernel
    have hnot := hall _ (mem_blankCodes (Bool.eq_true_of_not_eq_false hblank))
    rw [Char.ofNat_toNat, h] at hnot
    exact nomatch hnot
  rw [isMargin, hblank, Bool.false_and]

theorem asciiDigit_ne_lowLine (h : isNumeric c = true) : asciiDigit c ≠ '_' := by
  intro hlow
  cases hdigit : isDigit c with
  | true =>
    have hascii := isAsciiDigit_asciiDigit hdigit
    rw [hlow] at hascii
    exact absurd hascii (by decide)
  | false =>
    rw [asciiDigit_of_not_isDigit hdigit] at hlow
    rw [hlow] at h
    exact absurd h (by decide)

theorem dropSeparators_of_ne (h : ∀ c ∈ cs, c ≠ '_') (afterDigit : Bool) :
    dropSeparators afterDigit cs = some cs := by
  induction cs generalizing afterDigit with
  | nil => rw [dropSeparators]
  | cons c rest ih =>
    obtain ⟨hc, hrest⟩ := List.forall_mem_cons.mp h
    rw [dropSeparators, ih hrest]
    · rfl
    · exact fun heq => hc heq

/-- A number without blanks and low lines is read by its characters, with the digits in ASCII. -/
theorem plainNumber?_of_numeric (h : ∀ c ∈ cs, isNumeric c = true) :
    plainNumber? cs = some (cs.map asciiDigit) := by
  have hstop (ds : List Char) (hds : ∀ c ∈ ds, isNumeric c = true) : ds.dropWhile isMargin = ds := by
    have hhead : ∀ c ∈ ds.head?, isMargin c = false := fun c hc =>
      isMargin_of_isNumeric (hds c (List.mem_of_mem_head? hc))
    exact dropWhile_append_of_stop (List.forall_mem_nil _) hhead
  unfold plainNumber?
  rw [hstop cs h, hstop cs.reverse fun c hc => h c (List.mem_reverse.mp hc), List.reverse_reverse]
  refine dropSeparators_of_ne (fun c hc => ?_) false
  obtain ⟨d, hd, rfl⟩ := List.mem_map.mp hc
  exact asciiDigit_ne_lowLine (h d hd)

/-! ## Signs and digits -/

/-- No sign, or one. -/
def IsSign (sign : List Char) : Prop :=
  sign = [] ∨ sign = ['+'] ∨ sign = ['-']

/-- One or more ASCII digits. -/
structure AreDigits (ds : List Char) : Prop where
  nonempty : ds ≠ []
  ascii : ∀ c ∈ ds, isAsciiDigit c = true

theorem ascii_of_mem_map (h : ∀ c ∈ ds, isDigit c = true) :
    ∀ c ∈ ds.map asciiDigit, isAsciiDigit c = true := by
  intro c hc
  obtain ⟨d, hd, rfl⟩ := List.mem_map.mp hc
  exact isAsciiDigit_asciiDigit (h d hd)

theorem areDigits_map (hne : ds ≠ []) (h : ∀ c ∈ ds, isDigit c = true) :
    AreDigits (ds.map asciiDigit) where
  nonempty := by rwa [ne_eq, List.map_eq_nil_iff]
  ascii := ascii_of_mem_map h

theorem IsSign.isNumeric (h : IsSign sign) : ∀ c ∈ sign, isNumeric c = true := by
  rcases h with rfl | rfl | rfl
  · exact List.forall_mem_nil _
  · exact List.forall_mem_singleton.mpr (by decide)
  · exact List.forall_mem_singleton.mpr (by decide)

theorem IsSign.map_asciiDigit (h : IsSign sign) : sign.map asciiDigit = sign := by
  rcases h with rfl | rfl | rfl <;> decide

theorem splitSign_of_head (h : ∀ c ∈ cs.head?, c ≠ '+' ∧ c ≠ '-') : splitSign cs = (false, cs) := by
  unfold splitSign
  split
  · exact absurd rfl (h _ rfl).2
  · exact absurd rfl (h _ rfl).1
  · rfl

theorem splitSign_append (hsign : IsSign sign) (h : ∀ c ∈ cs.head?, c ≠ '+' ∧ c ≠ '-') :
    ∃ negative, splitSign (sign ++ cs) = (negative, cs) := by
  rcases hsign with rfl | rfl | rfl
  · exact ⟨false, splitSign_of_head h⟩
  · exact ⟨false, rfl⟩
  · exact ⟨true, rfl⟩

theorem AreDigits.head (h : AreDigits ds) : ∀ c ∈ ds.head?, c ≠ '+' ∧ c ≠ '-' := by
  intro c hc
  have hascii := h.ascii c (List.mem_of_mem_head? hc)
  constructor <;> rintro rfl <;> exact absurd hascii (by decide)

theorem exists_digitsNumber? (h : ∀ c ∈ ds, isAsciiDigit c = true) :
    ∃ n, digitsNumber? ds = some n := by
  induction ds using List.reverseRecOn with
  | nil => exact ⟨0, rfl⟩
  | append_singleton ds c ih =>
    obtain ⟨n, hn⟩ := ih fun d hd => h d (List.mem_append_left _ hd)
    have hc := digitValue?_of_isAsciiDigit (h c (List.mem_append_right _ List.mem_cons_self))
    exact ⟨_, by rw [digitsNumber?_append, hn, Option.bind_some, hc, Option.map_some]⟩

theorem AreDigits.plainNat?_eq (h : AreDigits ds) : plainNat? ds = digitsNumber? ds := by
  have hall : ds.all isAsciiDigit = true := List.all_eq_true.mpr h.ascii
  have hempty : ds.isEmpty = false := by
    rw [List.isEmpty_eq_false_iff]
    exact h.nonempty
  rw [plainNat?, hempty, hall]
  rfl

theorem AreDigits.exists_plainNat? (h : AreDigits ds) : ∃ n, plainNat? ds = some n := by
  obtain ⟨n, hn⟩ := exists_digitsNumber? h.ascii
  exact ⟨n, h.plainNat?_eq.trans hn⟩

/-- A sign and digits are read as an integer, unless there are too many. -/
theorem readInt?_eq_none_iff (hsign : IsSign sign) (hne : ds ≠ []) (h : ∀ c ∈ ds, isDigit c = true) :
    readInt? (sign ++ ds) = none ↔ digitLimit < ds.length := by
  have hnumeric := List.forall_mem_append.mpr ⟨hsign.isNumeric, isNumeric_of_isDigit h⟩
  have hdigits := areDigits_map hne h
  obtain ⟨negative, hsplit⟩ := splitSign_append hsign hdigits.head
  obtain ⟨n, hn⟩ := hdigits.exists_plainNat?
  unfold readInt?
  rw [plainNumber?_of_numeric hnumeric, List.map_append, hsign.map_asciiDigit]
  dsimp only [Option.bind_eq_bind, Option.bind_some]
  rw [hsplit]
  dsimp only
  rw [List.length_map, hn]
  split_ifs with hlimit
  · exact ⟨fun _ => hlimit, fun _ => rfl⟩
  · exact ⟨nofun, fun h => absurd h hlimit⟩

/-! ## Numbers of floating point -/

/-- Nothing, or an exponent with a digit. -/
def IsExponent (tail : List Char) : Prop :=
  tail = [] ∨ ∃ c sign ds, tail = c :: (sign ++ ds) ∧ (c = 'e' ∨ c = 'E') ∧ IsSign sign ∧ AreDigits ds

theorem IsExponent.exists_readExponent? (h : IsExponent tail) : ∃ e, readExponent? tail = some e := by
  rcases h with rfl | ⟨c, sign, ds, rfl, hc, hsign, hds⟩
  · exact ⟨0, rfl⟩
  · obtain ⟨negative, hsplit⟩ := splitSign_append hsign hds.head
    obtain ⟨n, hn⟩ := hds.exists_plainNat?
    refine ⟨Binary64.signed negative n, ?_⟩
    have hletter : (c == 'e' || c == 'E') = true := by
      rcases hc with rfl | rfl <;> decide
    rw [readExponent?, if_pos hletter, hsplit]
    dsimp only
    rw [hn, Option.map_some]

theorem IsExponent.head (h : IsExponent tail) :
    ∀ c ∈ tail.head?, isAsciiDigit c = false ∧ c ≠ '.' := by
  rcases h with rfl | ⟨c, sign, ds, rfl, rfl | rfl, -, -⟩
  · exact nofun
  · rintro c ⟨⟩
    decide
  · rintro c ⟨⟩
    decide

/-- The digits of a decimal: with a point, one side of it may be empty. -/
inductive IsDecimal : List Char → Prop
  | whole {ds : List Char} (h : AreDigits ds) : IsDecimal ds
  | point {whole part : List Char} (hwhole : ∀ c ∈ whole, isAsciiDigit c = true)
    (hpart : ∀ c ∈ part, isAsciiDigit c = true) (hne : whole ≠ [] ∨ part ≠ []) :
    IsDecimal (whole ++ '.' :: part)

theorem IsDecimal.exists_readScientific? (h : IsDecimal ds) (htail : IsExponent tail) :
    ∃ s, readScientific? (ds ++ tail) = some s := by
  obtain ⟨e, he⟩ := htail.exists_readExponent?
  cases h with
  | whole h =>
    have hstop : ∀ c ∈ tail.head?, isAsciiDigit c = false := fun c hc => (htail.head c hc).1
    have hempty : ds.isEmpty = false := by
      rw [List.isEmpty_eq_false_iff]
      exact h.nonempty
    refine ⟨⟨ds, [], e⟩, ?_⟩
    unfold readScientific?
    rw [takeWhile_append_of_stop h.ascii hstop, dropWhile_append_of_stop h.ascii hstop]
    dsimp only
    split
    · exact absurd rfl (htail.head _ rfl).2
    · dsimp only
      rw [hempty, Bool.false_and, if_neg Bool.false_ne_true, he]
      rfl
  | @point whole part hwhole hpart hne =>
    have hstop : ∀ c ∈ ('.' :: (part ++ tail)).head?, isAsciiDigit c = false := by
      rintro c ⟨⟩
      decide
    have htailStop : ∀ c ∈ tail.head?, isAsciiDigit c = false := fun c hc => (htail.head c hc).1
    have hempty : (whole.isEmpty && part.isEmpty) = false := by
      rw [Bool.and_eq_false_iff, List.isEmpty_eq_false_iff, List.isEmpty_eq_false_iff]
      exact hne
    refine ⟨⟨whole, part, e⟩, ?_⟩
    unfold readScientific?
    rw [List.append_assoc, List.cons_append, takeWhile_append_of_stop hwhole hstop,
      dropWhile_append_of_stop hwhole hstop]
    show (if (whole.isEmpty && ((part ++ tail).takeWhile isAsciiDigit).isEmpty) = true then none
      else (readExponent? ((part ++ tail).dropWhile isAsciiDigit)).bind fun e =>
        some (Scientific.mk whole ((part ++ tail).takeWhile isAsciiDigit) e)) = _
    rw [takeWhile_append_of_stop hpart htailStop, dropWhile_append_of_stop hpart htailStop, hempty,
      if_neg Bool.false_ne_true, he, Option.bind_some]

theorem IsDecimal.head (h : IsDecimal ds) : ∀ c ∈ (ds ++ tail).head?, c ≠ '+' ∧ c ≠ '-' := by
  have hdigit {c : Char} (hc : isAsciiDigit c = true) : c ≠ '+' ∧ c ≠ '-' := by
    constructor <;> rintro rfl <;> exact absurd hc (by decide)
  cases h with
  | whole h =>
    cases ds with
    | nil => exact absurd rfl h.nonempty
    | cons d ds => exact h.head
  | @point whole part hwhole hpart hne =>
    intro c hc
    cases whole with
    | nil =>
      obtain rfl : '.' = c := Option.some.inj hc
      decide
    | cons d whole =>
      obtain rfl : d = c := Option.some.inj hc
      exact hdigit (hwhole d List.mem_cons_self)

theorem exists_readFloat? {plain body : List Char} {negative : Bool} (hplain : plainNumber? cs = some plain)
    (hsplit : splitSign plain = (negative, body))
    (hbody : body = "inf".toList ∨ ∃ s, readScientific? body = some s) :
    ∃ x, readFloat? cs = some x := by
  unfold readFloat?
  rw [hplain]
  dsimp only [Option.bind_eq_bind, Option.bind_some]
  rw [hsplit]
  dsimp only
  rcases hbody with rfl | ⟨s, hs⟩
  · exact ⟨_, rfl⟩
  · rw [hs]
    split_ifs <;> exact ⟨_, rfl⟩

end Decimal

namespace Coercion

open Decimal

variable {cs beginning ds tail : List Char}

/-! ## Beginnings of texts -/

/-- The digits of the integer that a text may begin with. -/
def leadingDigits (cs : List Char) : List Char :=
  (leadingSign cs).2.takeWhile isDigit

theorem isSign_leadingSign (cs : List Char) : IsSign (leadingSign cs).1 := by
  unfold leadingSign
  split
  · exact Or.inr (Or.inl rfl)
  · exact Or.inr (Or.inr rfl)
  · exact Or.inl rfl

theorem isDigit_of_mem_takeWhile (cs : List Char) : ∀ c ∈ cs.takeWhile isDigit, isDigit c = true :=
  fun _ hc => List.mem_takeWhile_imp hc

theorem leadingInt?_eq (cs : List Char) :
    leadingInt? cs = if leadingDigits cs = [] then none
      else some ((leadingSign cs).1 ++ leadingDigits cs) := by
  unfold leadingInt? leadingDigits
  dsimp only
  simp only [List.isEmpty_iff]

/-- An integer at the beginning of a text is read, or refused for its number of digits. -/
theorem readLeadingInt_eq_error_iff {f : Fault} :
    readLeadingInt cs = .error f ↔ f = .badValue ∧ digitLimit < (leadingDigits cs).length := by
  unfold readLeadingInt
  rw [leadingInt?_eq]
  by_cases hempty : leadingDigits cs = []
  · rw [if_pos hempty, hempty]
    exact ⟨nofun, fun h => absurd h.2 (Nat.not_lt_zero _)⟩
  · have hread := readInt?_eq_none_iff (isSign_leadingSign cs) hempty (isDigit_of_mem_takeWhile _)
    rw [if_neg hempty, ← hread]
    dsimp only
    cases readInt? ((leadingSign cs).1 ++ leadingDigits cs) with
    | some n => exact ⟨nofun, fun h => nomatch h.2⟩
    | none => exact ⟨fun h => ⟨(Except.error.inj h).symm, rfl⟩, fun h => congrArg _ h.1.symm⟩

theorem leadingDecimal?_spec (h : leadingDecimal? cs = some (ds, tail)) :
    (∀ c ∈ ds, isNumeric c = true) ∧ IsDecimal (ds.map asciiDigit) := by
  have hwhole := isDigit_of_mem_takeWhile cs
  unfold leadingDecimal? at h
  dsimp only at h
  split at h
  · rename_i rest _
    have hpart := isDigit_of_mem_takeWhile rest
    split_ifs at h with hempty
    obtain ⟨rfl, -⟩ := Prod.mk.inj (Option.some.inj h)
    constructor
    · intro c hc
      rcases List.mem_append.mp hc with hc | hc
      · exact isNumeric_of_isDigit hwhole c hc
      · rcases List.mem_cons.mp hc with rfl | hc
        · decide
        · exact isNumeric_of_isDigit hpart c hc
    · rw [List.map_append, List.map_cons]
      rw [Bool.and_eq_true, List.isEmpty_iff, List.isEmpty_iff, not_and_or] at hempty
      refine .point (ascii_of_mem_map hwhole) (ascii_of_mem_map hpart) ?_
      simpa only [ne_eq, List.map_eq_nil_iff] using hempty
  · split_ifs at h with hempty
    obtain ⟨rfl, -⟩ := Prod.mk.inj (Option.some.inj h)
    have hne : cs.takeWhile isDigit ≠ [] := mt List.isEmpty_iff.mpr hempty
    exact ⟨isNumeric_of_isDigit hwhole, .whole (areDigits_map hne hwhole)⟩

theorem leadingExponent_spec (cs : List Char) :
    (∀ c ∈ leadingExponent cs, isNumeric c = true) ∧ IsExponent ((leadingExponent cs).map asciiDigit) := by
  unfold leadingExponent
  split
  · rename_i c rest
    rw [leadingInt?_eq]
    by_cases hletter : (c == 'e' || c == 'E') = true
    · rw [if_pos hletter]
      by_cases hempty : leadingDigits rest = []
      · rw [if_pos hempty]
        exact ⟨nofun, Or.inl rfl⟩
      · have hc : c = 'e' ∨ c = 'E' := by simpa using hletter
        have hsign := isSign_leadingSign rest
        have hdigits : ∀ c ∈ leadingDigits rest, isDigit c = true :=
          isDigit_of_mem_takeWhile _
        rw [if_neg hempty]
        dsimp only
        constructor
        · rw [List.forall_mem_cons, List.forall_mem_append]
          refine ⟨?_, hsign.isNumeric, isNumeric_of_isDigit hdigits⟩
          rcases hc with rfl | rfl <;> decide
        · rw [List.map_cons, List.map_append, hsign.map_asciiDigit]
          refine Or.inr ⟨_, _, _, rfl, ?_, hsign, areDigits_map hempty hdigits⟩
          rcases hc with rfl | rfl <;> decide
    · rw [if_neg hletter]
      exact ⟨nofun, Or.inl rfl⟩
  · exact ⟨nofun, Or.inl rfl⟩

/-- The beginning of a text that writes a number: a sign, and a name of infinity or a decimal. -/
theorem leadingFloat?_spec (h : leadingFloat? cs = some beginning) :
    ∃ sign body, beginning = sign ++ body ∧ IsSign sign ∧ (∀ c ∈ body, isNumeric c = true) ∧
      (body = "inf".toList ∨ ∃ ds tail, body.map asciiDigit = ds ++ tail ∧ IsDecimal ds ∧ IsExponent tail) := by
  have hsign := isSign_leadingSign cs
  unfold leadingFloat? at h
  dsimp only at h
  split_ifs at h with hinfinity
  · obtain rfl := Option.some.inj h
    have hname : "inf".toList.all isNumeric = true := by decide
    exact ⟨_, _, rfl, hsign, List.all_eq_true.mp hname, Or.inl rfl⟩
  · obtain ⟨⟨ds, tail⟩, hdecimal, rfl⟩ := Option.map_eq_some_iff.mp h
    obtain ⟨hds, hshape⟩ := leadingDecimal?_spec hdecimal
    obtain ⟨htail, hexponent⟩ := leadingExponent_spec tail
    refine ⟨_, _, List.append_assoc _ _ _, hsign, ?_, Or.inr ⟨_, _, List.map_append, hshape, hexponent⟩⟩
    exact List.forall_mem_append.mpr ⟨hds, htail⟩

/-- A number at the beginning of a text is always read. -/
theorem exists_readLeadingFloat (cs : List Char) : ∃ o, readLeadingFloat cs = .ok o := by
  unfold readLeadingFloat
  cases hleading : leadingFloat? cs with
  | none => exact ⟨none, rfl⟩
  | some beginning =>
    obtain ⟨sign, body, rfl, hsign, hbody, hshape⟩ := leadingFloat?_spec hleading
    have hplain := plainNumber?_of_numeric
      (List.forall_mem_append.mpr ⟨hsign.isNumeric, hbody⟩)
    rw [List.map_append, hsign.map_asciiDigit] at hplain
    obtain ⟨x, hx⟩ : ∃ x, readFloat? (sign ++ body) = some x := by
      rcases hshape with rfl | ⟨ds, tail, hmap, hds, htail⟩
      · have hhead : ∀ c ∈ "inf".toList.head?, c ≠ '+' ∧ c ≠ '-' := by
          intro c hc
          obtain rfl : 'i' = c := Option.some.inj hc
          decide
        obtain ⟨negative, hsplit⟩ := splitSign_append hsign hhead
        exact exists_readFloat? hplain hsplit (Or.inl rfl)
      · rw [hmap] at hplain
        obtain ⟨negative, hsplit⟩ := splitSign_append hsign hds.head
        exact exists_readFloat? hplain hsplit (Or.inr (hds.exists_readScientific? htail))
    dsimp only
    rw [hx]
    exact ⟨some x, rfl⟩

end Coercion

end RouteBook
