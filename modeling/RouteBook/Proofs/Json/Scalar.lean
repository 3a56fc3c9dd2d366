import RouteBook.Json.Reader
import RouteBook.Proofs.Decimal.Digits

/-!
# Strings and integers of JSON are read back

A string is read back character by character: a character that stands for itself, a short escape and
the escape of a control character each give one character, whatever follows (`readString_stringChar`).
An integer is read back when nothing follows that would continue a number (`readNumber_intText`).
-/

namespace RouteBook.Json

open RouteBook.Text

/-! ## Strings -/

variable {src : Source} {opening rest : List Char} {u : Units} {c d : Char}

theorem readString_plain (hquote : c ≠ quoteMark) (hslash : c ≠ '\\') (hcontrol : ¬ c.toNat < 32)
    (rest : List Char) :
    readString .plain opening .plain u (c :: rest) =
      readString .plain opening .plain (u.letter (.char c)) rest := by
  rw [readString, if_neg (by simpa using hquote), if_neg (by simpa using hslash), if_neg hcontrol,
    Source.letter_plain]

theorem readString_short (hu : c ≠ 'u') (hd : escaped? c = some d) (rest : List Char) :
    readString src opening .plain u ('\\' :: c :: rest) =
      readString src opening .plain (u.letter (.char d)) rest := by
  rw [readString, if_neg (by decide), if_pos (by decide), readString, if_neg (by simpa using hu), hd]

theorem hexValue?_hexDigit {n : Nat} (h : n < 16) : hexValue? (hexDigit n) = some n := by
  interval_cases n <;> decide

theorem readString_hex {n : Nat} (h : n < 16) (missing value : Nat) (mark rest : List Char) :
    readString src opening (.hex (missing + 1) value mark) u (hexDigit n :: rest) =
      readString src opening (.hex missing (16 * value + n) mark) u rest := by
  simp only [readString, hexValue?_hexDigit h]

theorem readString_unicodeEscape {n : Nat} (h : n < 0x10000) (hrest : rest ≠ []) :
    readString src opening .plain u (unicodeEscape n ++ rest) =
      readString src opening .plain (u.unit n) rest := by
  have hdigits : unicodeEscape n ++ rest = '\\' :: 'u' :: hexDigit (n / 16 / 16 / 16 % 16) ::
      hexDigit (n / 16 / 16 % 16) :: hexDigit (n / 16 % 16) :: hexDigit (n % 16) :: rest := rfl
  have hvalue : 16 * (16 * (16 * (16 * 0 + n / 16 / 16 / 16 % 16) + n / 16 / 16 % 16) + n / 16 % 16) +
      n % 16 = n := by omega
  have hne : rest.isEmpty = false := by simpa using hrest
  rw [hdigits, readString, if_neg (by decide), if_pos (by decide), readString, if_pos (by decide),
    readString_hex (by omega), readString_hex (by omega), readString_hex (by omega)]
  have hlast := hexValue?_hexDigit (Nat.mod_lt n (by omega : 0 < 16))
  simp only [readString, hlast, hne, hvalue]
  rfl

theorem unit_of_lt {n : Nat} (h : n < 0xD800) (seen : List Letter) :
    Units.unit ⟨seen, none⟩ n = ⟨.char (Char.ofNat n) :: seen, none⟩ := by
  have hhigh : isHighUnit n = false := by simp [isHighUnit]; omega
  have hlow : isLowUnit n = false := by simp [isLowUnit]; omega
  simp only [Units.unit, hhigh, hlow]
  rfl

/-- One character of a string is read back, whatever follows it. -/
theorem readString_stringChar (seen : List Letter) (c : Char) (hrest : rest ≠ []) :
    readString .plain opening .plain ⟨seen, none⟩ (stringChar false c ++ rest) =
      readString .plain opening .plain ⟨.char c :: seen, none⟩ rest := by
  have hshort (d : Char) (hu : d ≠ 'u') (hd : escaped? d = some c) :
      readString .plain opening .plain ⟨seen, none⟩ (['\\', d] ++ rest) =
        readString .plain opening .plain ⟨.char c :: seen, none⟩ rest := readString_short hu hd rest
  have hchar {n : Nat} (hn : c.toNat = n) : c = Char.ofNat n := by rw [← hn, Char.ofNat_toNat]
  simp only [stringChar, Bool.false_and, Bool.false_eq_true, if_false]
  split_ifs with hmark hnewline hreturn htab hback hfeed hcontrol
  · refine hshort c ?_ ?_
    · rintro rfl
      exact absurd hmark (by decide)
    · have hself : (c == quoteMark || c == '\\' || c == '/') = true := by
        rcases Bool.or_eq_true_iff.mp hmark with hq | hs
        · rw [hchar (beq_iff_eq.mp hq)]
          decide
        · rw [beq_iff_eq.mp hs]
          decide
      rw [escaped?, if_pos hself]
  · exact hshort 'n' (by decide) (by rw [beq_iff_eq.mp hnewline]; decide)
  · exact hshort 'r' (by decide) (by rw [beq_iff_eq.mp hreturn]; decide)
  · exact hshort 't' (by decide) (by rw [beq_iff_eq.mp htab]; decide)
  · exact hshort 'b' (by decide) (by rw [hchar (beq_iff_eq.mp hback)]; decide)
  · exact hshort 'f' (by decide) (by rw [hchar (beq_iff_eq.mp hfeed)]; decide)
  · rw [readString_unicodeEscape (by omega) hrest, unit_of_lt (by omega), Char.ofNat_toNat]
  · obtain ⟨hquote, hslash⟩ := not_or.mp (mt Bool.or_eq_true_iff.mpr hmark)
    refine readString_plain ?_ (by simpa using hslash) hcontrol rest
    rintro rfl
    exact hquote (by decide)

/-- A string is read back to its closing quote. -/
theorem readString_stringText (s rest : List Char) :
    readString .plain opening .plain .none (s.flatMap (stringChar false) ++ quoteMark :: rest) =
      .ok (s.map .char, rest) := by
  have hrun (seen : List Letter) : readString .plain opening .plain ⟨seen, none⟩
      (s.flatMap (stringChar false) ++ quoteMark :: rest) = .ok (seen.reverse ++ s.map .char, rest) := by
    induction s generalizing seen with
    | nil =>
      rw [List.flatMap_nil, List.nil_append, readString, if_pos (by decide), List.map_nil, List.append_nil]
      rfl
    | cons c s ih =>
      rw [List.flatMap_cons, List.append_assoc, readString_stringChar seen c (by simp), ih]
      simp
  exact hrun []

/-! ## Integers -/

/-- The text does not continue a number that stands before it. -/
def EndsNumber (rest : List Char) : Prop :=
  ∀ c ∈ rest.head?, isAsciiDigit c = false ∧ c ≠ '.' ∧ c ≠ 'e' ∧ c ≠ 'E'

theorem endsNumber_nil : EndsNumber [] :=
  fun _ h => nomatch h

theorem endsNumber_cons (h : isAsciiDigit c = false ∧ c ≠ '.' ∧ c ≠ 'e' ∧ c ≠ 'E')
    (rest : List Char) : EndsNumber (c :: rest) := by
  intro d hd
  obtain rfl : c = d := Option.some.inj hd
  exact h

theorem takeWhile_natDigits (n : Nat) (h : EndsNumber rest) :
    (Decimal.natDigits n ++ rest).takeWhile isAsciiDigit = Decimal.natDigits n ∧
      (Decimal.natDigits n ++ rest).dropWhile isAsciiDigit = rest := by
  have hdigits : ∀ c ∈ Decimal.natDigits n, isAsciiDigit c = true :=
    fun c hc => Decimal.isAsciiDigit_of_mem_natDigits hc
  have hstop : ∀ c ∈ rest.head?, isAsciiDigit c = false := fun c hc => (h c hc).1
  exact ⟨takeWhile_append_of_stop hdigits hstop, dropWhile_append_of_stop hdigits hstop⟩

/-- The digits of a number are a whole number of JSON: the only one that starts with a zero is zero. -/
theorem readWhole_natDigits (n : Nat) (h : EndsNumber rest) :
    readWhole (Decimal.natDigits n ++ rest) = (Decimal.natDigits n, rest) := by
  by_cases hn : n = 0
  · subst hn
    rfl
  · obtain ⟨c, tail, hdigits, hc⟩ := Decimal.natDigits_eq_cons (Nat.pos_of_ne_zero hn)
    have hspan := takeWhile_natDigits n h
    rw [hdigits] at hspan ⊢
    rw [List.cons_append] at hspan ⊢
    rw [readWhole, hspan.1, hspan.2]
    rintro r hr
    exact hc (List.cons.inj hr).1

theorem readFraction_of_ends (h : EndsNumber rest) : readFraction rest = ([], rest) := by
  unfold readFraction
  split
  · exact absurd rfl (h '.' rfl).2.1
  · rfl

theorem readExponent_of_ends (h : EndsNumber rest) : readExponent rest = (none, rest) := by
  cases rest with
  | nil => rfl
  | cons c rest =>
    obtain ⟨-, -, he, hE⟩ := h c rfl
    rw [readExponent, if_neg (by simp [he, hE])]

/-- An integer within the limit is read back. -/
theorem readNumber_intText {n : Int} (hn : Decimal.exceedsLimit n = false) (h : EndsNumber rest) :
    readNumber ((Decimal.intText n).toList ++ rest) = .ok (.int n, rest) := by
  have hlimit : ¬ Decimal.digitLimit < (Decimal.natDigits n.natAbs).length :=
    Nat.not_lt.mpr ((Decimal.length_natDigits_le_iff n).mpr hn)
  have hne : (Decimal.natDigits n.natAbs).isEmpty = false := by
    simpa using Decimal.natDigits_ne_nil n.natAbs
  unfold readNumber
  split
  rename_i negative body hsplit
  -- The sign is taken off, and what is left are the digits.
  have hsign : negative = decide (n < 0) ∧ body = Decimal.natDigits n.natAbs ++ rest := by
    rw [Decimal.intText, String.toList_ofList] at hsplit
    by_cases hneg : n < 0
    · rw [if_pos hneg] at hsplit
      obtain ⟨rfl, rfl⟩ := Prod.mk.inj hsplit
      exact ⟨by simp [hneg], rfl⟩
    · rw [if_neg hneg] at hsplit
      split at hsplit
      · rename_i tail hminus
        have hmem : '-' ∈ Decimal.natDigits n.natAbs := by
          cases hdigits : Decimal.natDigits n.natAbs with
          | nil => exact absurd hdigits (Decimal.natDigits_ne_nil _)
          | cons c cs =>
            rw [hdigits] at hminus
            obtain rfl := (List.cons.inj hminus).1
            exact List.mem_cons_self
        exact absurd (Decimal.isAsciiDigit_of_mem_natDigits hmem) (by decide)
      · obtain ⟨rfl, rfl⟩ := Prod.mk.inj hsplit
        exact ⟨by simp [hneg], rfl⟩
  obtain ⟨rfl, rfl⟩ := hsign
  simp only [readWhole_natDigits _ h, readFraction_of_ends h, readExponent_of_ends h, hne,
    Decimal.digitsNumber?_natDigits]
  simp [hlimit, Decimal.signed_natAbs]

end RouteBook.Json
