import RouteBook.Proofs.Validation.Alike
import RouteBook.Proofs.Validation.Escape
import RouteBook.Proofs.Validation.Required

/-!
# Integers and their texts

An integer may be given as a number or by its decimal text, with blanks around it.

1. The decimal text of an integer is read back as the integer, whatever follows that is no digit
   (`readLeadingInt_intText`). A text that does not start with an integer is refused
   (`coerce_number_of_not_starts`).
2. Both forms have the same text, so the pattern of a rule is found in both or in neither. A number has to be
   in the range of the numbers of floating point (`checkParam_int_iff`), a text has to be short enough
   (`checkParam_paddedText_iff`). The range is the narrower of the two.
3. So in the range the two forms are accepted alike, and beyond it the number never is
   (`number_text_agrees`).
-/

namespace RouteBook

open RouteBook.Text

variable {name : String} {rule : Rule} {given w : Value} {n : Int} {sign tail left right : List Char}

/-! ## Reading digits back -/

namespace Decimal

variable {c : Char} {m : Nat}

theorem isDigit_of_isAsciiDigit (h : isAsciiDigit c = true) : isDigit c = true := by
  rw [isDigit, digitValue?_of_isAsciiDigit h]
  rfl

theorem asciiDigit_of_isAsciiDigit (h : isAsciiDigit c = true) : asciiDigit c = c := by
  unfold asciiDigit
  rw [digitValue?_of_isAsciiDigit h]
  dsimp only
  rw [Nat.add_sub_cancel' (le_toNat_of_isAsciiDigit h), Char.ofNat_toNat]

theorem isBlank_of_isAsciiDigit (h : isAsciiDigit c = true) : isBlank c = false := by
  have hlow := le_toNat_of_isAsciiDigit h
  have hhigh := toNat_le_of_isAsciiDigit h
  have hapart : ∀ code ∈ blankCodes, code < 48 ∨ 57 < code := by decide
  by_contra hblank
  have hcode := hapart _ (mem_blankCodes (Bool.eq_true_of_not_eq_false hblank))
  omega

theorem isDigit_of_mem_natDigits : ∀ c ∈ natDigits m, isDigit c = true :=
  fun _ hc => isDigit_of_isAsciiDigit (isAsciiDigit_of_mem_natDigits hc)

theorem AreDigits.map_asciiDigit {ds : List Char} (h : AreDigits ds) : ds.map asciiDigit = ds :=
  (List.map_congr_left fun c hc => asciiDigit_of_isAsciiDigit (h.ascii c hc)).trans (List.map_id' ds)

theorem areDigits_natDigits (m : Nat) : AreDigits (natDigits m) where
  nonempty := natDigits_ne_nil m
  ascii := fun _ hc => isAsciiDigit_of_mem_natDigits hc

theorem readInt?_natDigits {negative : Bool} (hsign : IsSign sign)
    (hsplit : splitSign (sign ++ natDigits m) = (negative, natDigits m))
    (hlimit : (natDigits m).length ≤ digitLimit) :
    readInt? (sign ++ natDigits m) = some (Binary64.signed negative m) := by
  have hnumeric := List.forall_mem_append.mpr
    ⟨hsign.isNumeric, isNumeric_of_isDigit (isDigit_of_mem_natDigits (m := m))⟩
  have hdigits := areDigits_natDigits m
  unfold readInt?
  rw [plainNumber?_of_numeric hnumeric, List.map_append, hsign.map_asciiDigit, hdigits.map_asciiDigit]
  dsimp only [Option.bind_eq_bind, Option.bind_some]
  rw [hsplit]
  dsimp only
  rw [if_neg (Nat.not_lt.mpr hlimit), hdigits.plainNat?_eq, digitsNumber?_natDigits]
  rfl

/-- The sign that the text of an integer begins with. -/
def signText (n : Int) : List Char :=
  if n < 0 then ['-'] else []

theorem toList_intText (n : Int) : (intText n).toList = signText n ++ natDigits n.natAbs := by
  unfold intText signText
  rw [String.toList_ofList]
  split_ifs <;> rfl

theorem isSign_signText (n : Int) : IsSign (signText n) := by
  unfold signText
  split_ifs
  · exact Or.inr (Or.inr rfl)
  · exact Or.inl rfl

/-- A plus sign may stand before an integer that is not negative. -/
def MayPrecede (sign : List Char) (n : Int) : Prop :=
  sign = [] ∨ sign = ['+'] ∧ 0 ≤ n

theorem MayPrecede.isSign (h : MayPrecede sign n) : IsSign (sign ++ signText n) := by
  rcases h with rfl | ⟨rfl, hn⟩
  · exact isSign_signText n
  · rw [signText, if_neg (not_lt.mpr hn)]
    exact Or.inr (Or.inl rfl)

/-- Integers within the limit are read back from their text. -/
theorem readInt?_intText (hsign : MayPrecede sign n) (hn : exceedsLimit n = false) :
    readInt? (sign ++ signText n ++ natDigits n.natAbs) = some n := by
  have hlimit := (length_natDigits_le_iff n).mpr hn
  have hsplit : splitSign (sign ++ signText n ++ natDigits n.natAbs) =
      (decide (n < 0), natDigits n.natAbs) := by
    by_cases hneg : n < 0
    · rw [signText, if_pos hneg, decide_eq_true hneg]
      rcases hsign with rfl | ⟨-, hn⟩
      · rfl
      · exact absurd hneg (not_lt.mpr hn)
    · rw [signText, if_neg hneg, decide_eq_false hneg, List.append_nil]
      rcases hsign with rfl | ⟨rfl, -⟩
      · exact splitSign_of_head (areDigits_natDigits n.natAbs).head
      · rfl
  rw [readInt?_natDigits hsign.isSign hsplit hlimit, signed_natAbs]

end Decimal

namespace Coercion

open Decimal

/-! ## Numbers at the beginning of a text -/

/-- The text starts with a digit of any script, or with a sign and a digit. -/
def StartsInteger (cs : List Char) : Prop :=
  ∃ sign c rest, cs = sign ++ c :: rest ∧ IsSign sign ∧ isDigit c = true

theorem not_isDigit_of_sign {c : Char} (h : isDigit c = true) : c ≠ '+' ∧ c ≠ '-' := by
  constructor <;> rintro rfl <;> exact absurd h (by decide)

theorem leadingSign_append {c : Char} (hsign : IsSign sign) (hc : isDigit c = true) (rest : List Char) :
    leadingSign (sign ++ c :: rest) = (sign, c :: rest) := by
  obtain ⟨hplus, hminus⟩ := not_isDigit_of_sign hc
  rcases hsign with rfl | rfl | rfl
  · rw [List.nil_append]
    unfold leadingSign
    split
    · rename_i heq
      exact absurd (List.cons.inj heq).1 hplus
    · rename_i heq
      exact absurd (List.cons.inj heq).1 hminus
    · rfl
  · rfl
  · rfl

theorem leadingDigits_eq_nil_iff {cs : List Char} : leadingDigits cs = [] ↔ ¬ StartsInteger cs := by
  constructor
  · rintro hnone ⟨sign, c, rest, rfl, hsign, hc⟩
    rw [leadingDigits, leadingSign_append hsign hc, List.takeWhile_cons_of_pos hc] at hnone
    exact nomatch hnone
  · intro hnot
    have hsplit : cs = (leadingSign cs).1 ++ (leadingSign cs).2 := by
      unfold leadingSign
      split <;> rfl
    unfold leadingDigits
    cases hrest : (leadingSign cs).2 with
    | nil => rfl
    | cons c rest =>
      refine List.takeWhile_cons_of_neg fun hc => hnot ⟨_, c, rest, ?_, isSign_leadingSign cs, hc⟩
      rw [← hrest]
      exact hsplit

theorem leading_natDigits {m : Nat} (hsign : IsSign sign) (htail : ∀ c ∈ tail.head?, isDigit c = false) :
    leadingSign (sign ++ natDigits m ++ tail) = (sign, natDigits m ++ tail) ∧
      leadingDigits (sign ++ natDigits m ++ tail) = natDigits m := by
  have hsplit : leadingSign (sign ++ natDigits m ++ tail) = (sign, natDigits m ++ tail) := by
    obtain ⟨c, ds, hdigits⟩ := List.exists_cons_of_ne_nil (natDigits_ne_nil m)
    have hc : isDigit c = true := isDigit_of_mem_natDigits c (hdigits ▸ List.mem_cons_self)
    rw [List.append_assoc, hdigits]
    exact leadingSign_append hsign hc (ds ++ tail)
  refine ⟨hsplit, ?_⟩
  rw [leadingDigits, hsplit]
  exact takeWhile_append_of_stop isDigit_of_mem_natDigits htail

/-- The text of an integer is read back, whatever follows that is no digit. -/
theorem readLeadingInt_intText (hsign : MayPrecede sign n) (hn : exceedsLimit n = false)
    (htail : ∀ c ∈ tail.head?, isDigit c = false) :
    readLeadingInt (sign ++ (intText n).toList ++ tail) = .ok (some n) := by
  obtain ⟨hsplit, hdigits⟩ := leading_natDigits (m := n.natAbs) hsign.isSign htail
  unfold readLeadingInt
  rw [toList_intText, ← List.append_assoc, leadingInt?_eq, hsplit, hdigits,
    if_neg (natDigits_ne_nil n.natAbs)]
  dsimp only
  rw [readInt?_intText hsign hn]

theorem coerce_number_text {s : String} (h : readLeadingInt s.toList = .ok (some n)) :
    coerce name (.text s) .number given = .ok (.int n) := by
  unfold coerce toNumber?
  show ((liftM (readLeadingInt s.toList) : Except CheckError (Option Int)) >>= _) = _
  rw [h]
  rfl

theorem coerce_number_of_not_starts {s shown : String} (hs : ¬ StartsInteger s.toList)
    (hshown : given.shown = .ok shown) :
    coerce name (.text s) .number given = .error (.rejected (.notNumeric name shown)) := by
  have hnone : readLeadingInt s.toList = .ok none := by
    unfold readLeadingInt
    rw [leadingInt?_eq, if_pos (leadingDigits_eq_nil_iff.mpr hs)]
  unfold coerce toNumber?
  show ((liftM (readLeadingInt s.toList) : Except CheckError (Option Int)) >>= _) = _
  rw [hnone]
  exact reject_of_shown hshown

theorem leadingDigits_intText (n : Int) : leadingDigits (intText n).toList = natDigits n.natAbs := by
  have hdigits := (@leading_natDigits (signText n) [] n.natAbs (isSign_signText n) nofun).2
  rwa [List.append_nil, ← toList_intText] at hdigits

theorem coerce_number_intText_iff :
    coerce name (.text (intText n)) .number given = .ok w ↔ exceedsLimit n = false ∧ w = .int n := by
  cases hlong : exceedsLimit n with
  | false =>
    have hread : readLeadingInt (intText n).toList = .ok (some n) := by
      have hplain := @readLeadingInt_intText n [] [] (Or.inl rfl) hlong nofun
      rwa [List.nil_append, List.append_nil] at hplain
    rw [coerce_number_text hread]
    exact ⟨fun h => ⟨rfl, (Except.ok.inj h).symm⟩, fun h => congrArg Except.ok h.2.symm⟩
  | true =>
    have hmany : digitLimit < (leadingDigits (intText n).toList).length := by
      rw [leadingDigits_intText, ← not_le, length_natDigits_le_iff, hlong]
      exact Bool.noConfusion
    have hstop := readLeadingInt_eq_error_iff.mpr ⟨rfl, hmany⟩
    refine ⟨fun h => ?_, fun h => nomatch h.1⟩
    unfold coerce toNumber? at h
    change ((liftM (readLeadingInt (intText n).toList) : Except CheckError (Option Int)) >>= _) = _ at h
    rw [hstop] at h
    exact nomatch h

theorem coerce_number_int_iff :
    coerce name (.int n) .number given = .ok w ↔ n.natAbs < Binary64.overflowBound ∧ w = .int n := by
  rw [← Binary64.isSome_ofInt?_iff]
  unfold coerce toNumber?
  dsimp only
  split_ifs with hrange
  · exact ⟨fun h => ⟨hrange, (Except.ok.inj h).symm⟩, fun h => congrArg Except.ok h.2.symm⟩
  · exact ⟨fun h => (nomatch h), fun h => absurd h.1 hrange⟩

theorem exceedsLimit_of_lt (h : n.natAbs < Binary64.overflowBound) : exceedsLimit n = false := by
  by_contra hlong
  have hnone := (ofIntQuotient?_of_exceedsLimit (Bool.eq_true_of_not_eq_false hlong)).1
  rw [ofInt?_eq_none_iff] at hnone
  omega

end Coercion

/-! ## Blanks around a text -/

namespace Text

theorem trimChars_padded {inner : List Char} (hleft : ∀ c ∈ left, isBlank c = true)
    (hright : ∀ c ∈ right, isBlank c = true) (hinner : ∀ c ∈ inner, isBlank c = false)
    (hne : inner ≠ []) : trimChars (left ++ inner ++ right) = inner := by
  obtain ⟨c, rest, rfl⟩ := List.exists_cons_of_ne_nil hne
  have hstart : ∀ d ∈ (c :: rest ++ right).head?, isBlank d = false := by
    rintro d ⟨⟩
    exact hinner c List.mem_cons_self
  have hend : ∀ d ∈ (c :: rest).reverse.head?, isBlank d = false := fun d hd =>
    hinner d (List.mem_reverse.mp (List.mem_of_mem_head? hd))
  have hblanks : ∀ d ∈ right.reverse, isBlank d = true := fun d hd => hright d (List.mem_reverse.mp hd)
  rw [trimChars, List.append_assoc, dropWhile_append_of_stop hleft hstart, trimRight,
    List.reverse_append, dropWhile_append_of_stop hblanks hend, List.reverse_reverse]

end Text

namespace Decimal

theorem isBlank_of_mem_intText : ∀ c ∈ (intText n).toList, isBlank c = false := by
  rw [toList_intText]
  refine List.forall_mem_append.mpr ⟨fun c hc => ?_, fun c hc => ?_⟩
  · unfold signText at hc
    split_ifs at hc
    · rw [List.mem_singleton.mp hc]
      decide
    · exact absurd hc List.not_mem_nil
  · exact isBlank_of_isAsciiDigit (isAsciiDigit_of_mem_natDigits hc)

theorem toList_intText_ne_nil (n : Int) : (intText n).toList ≠ [] := by
  rw [toList_intText]
  exact List.append_ne_nil_of_right_ne_nil _ (natDigits_ne_nil _)

/-- The text of an integer with something around it. -/
def paddedText (left right : List Char) (n : Int) : String :=
  String.ofList (left ++ (intText n).toList ++ right)

theorem trimmed_paddedText (hleft : ∀ c ∈ left, isBlank c = true)
    (hright : ∀ c ∈ right, isBlank c = true) (n : Int) :
    (Value.text (paddedText left right n)).trimmed = .text (intText n) := by
  rw [Value.trimmed, trim, paddedText, String.toList_ofList,
    trimChars_padded hleft hright isBlank_of_mem_intText (toList_intText_ne_nil n), String.ofList_toList]

end Decimal

/-! ## Both forms under a rule -/

namespace Validation

open Coercion Decimal

variable {rules : Entries Rule} {message after : Message}

theorem convert_of_kind {v : Value} {kind : ParamKind} (hkind : rule.kind = some kind) :
    convert name rule v given = coerce name v kind given := by
  unfold convert
  rw [hkind]

theorem isBlank_int (hn : n ≠ 0) : (Value.int n).isBlank = false :=
  beq_eq_false_iff_ne.mpr hn

theorem isBlank_intText (n : Int) : (Value.text (intText n)).isBlank = false := by
  refine beq_eq_false_iff_ne.mpr fun hempty => toList_intText_ne_nil n ?_
  rw [hempty]
  rfl

/-- As a number an integer passes with its pattern and in range. -/
theorem checkParam_int_iff (hkind : rule.kind = some .number) (hn : n ≠ 0) :
    checkParam name rule (.int n) = .ok (some w) ↔
      Found rule (.int n) ∧ n.natAbs < Binary64.overflowBound ∧ w = .int n := by
  have htrimmed : (Value.int n).trimmed = .int n := rfl
  rw [checkParam_eq_some_iff (by rw [htrimmed]; exact isBlank_int hn), htrimmed, convert_of_kind hkind]
  exact and_congr_right fun _ => coerce_number_int_iff

/-- Out of range it is not refused by name: the comparison with the range fails. -/
theorem checkParam_int_overflow (hkind : rule.kind = some .number) (hfound : Found rule (.int n))
    (hn : Binary64.overflowBound ≤ n.natAbs) :
    checkParam name rule (.int n) = .error (.fault .overflow) := by
  have hzero : n ≠ 0 := by
    rintro rfl
    exact absurd hn (not_le.mpr Binary64.overflowBound_pos)
  have htrimmed : (Value.int n).trimmed = .int n := rfl
  have hcoerce : coerce name (.int n) .number (.int n) = .error (.fault .overflow) := by
    unfold coerce toNumber?
    dsimp only
    rw [(ofInt?_eq_none_iff n).mpr hn]
    rfl
  unfold checkParam
  rw [htrimmed]
  dsimp only
  rw [isBlank_int hzero, if_neg Bool.false_ne_true, checkPattern_eq_ok_iff.mpr hfound, convert_of_kind hkind,
    hcoerce]
  rfl

/-- As a text it passes with its pattern and if it is not too long. -/
theorem checkParam_paddedText_iff (hkind : rule.kind = some .number)
    (hleft : ∀ c ∈ left, isBlank c = true) (hright : ∀ c ∈ right, isBlank c = true) :
    checkParam name rule (.text (paddedText left right n)) = .ok (some w) ↔
      Found rule (.text (intText n)) ∧ exceedsLimit n = false ∧ w = .int n := by
  have htrimmed := trimmed_paddedText hleft hright n
  rw [checkParam_eq_some_iff (by rw [htrimmed]; exact isBlank_intText n), htrimmed, convert_of_kind hkind]
  exact and_congr_right fun _ => coerce_number_intText_iff

theorem found_int_iff (hn : exceedsLimit n = false) :
    Found rule (.int n) ↔ Found rule (.text (intText n)) := by
  refine found_congr ?_
  show Value.intDigits n = .ok (intText n)
  rw [Value.intDigits, hn]
  rfl

/-- What is accepted as a number is what is in range and accepted as a text. -/
theorem check_int_iff_text (hkeys : rules.keys.Nodup) (hrule : (name, rule) ∈ rules)
    (hkind : rule.kind = some .number) (hn : n ≠ 0) (hleft : ∀ c ∈ left, isBlank c = true)
    (hright : ∀ c ∈ right, isBlank c = true) (message after : Message) :
    check rules (message.put name (.int n)) = (after, .ok ()) ↔
      n.natAbs < Binary64.overflowBound ∧
        check rules (message.put name (.text (paddedText left right n))) = (after, .ok ()) := by
  have hpresent : (Value.int n).trimmed.isBlank = false := isBlank_int hn
  have hpresent' : (Value.text (paddedText left right n)).trimmed.isBlank = false := by
    rw [trimmed_paddedText hleft hright]
    exact isBlank_intText n
  by_cases hrange : n.natAbs < Binary64.overflowBound
  · have hshort := exceedsLimit_of_lt hrange
    have hsame (w : Value) : checkParam name rule (.int n) = .ok (some w) ↔
        checkParam name rule (.text (paddedText left right n)) = .ok (some w) := by
      rw [checkParam_int_iff hkind hn, checkParam_paddedText_iff hkind hleft hright, found_int_iff hshort]
      exact and_congr_right fun _ => and_congr_left fun _ => iff_of_true hrange hshort
    rw [check_put_congr hkeys hrule hpresent hpresent' hsame]
    exact (and_iff_right hrange).symm
  · refine iff_of_false (fun hcheck => hrange ?_) fun h => hrange h.1
    exact ((checkParam_int_iff hkind hn).mp (value_of_check_put hkeys hrule hpresent hcheck)).2.1

/-- **Numbers and their texts.** The text of an integer that is not too long is read as the integer, with a
plus sign before it and with anything behind it that is no digit. A text that does not start with an integer
is refused by the name of its parameter. Under a rule for numbers an integer other than 0 is accepted exactly
if it is in the range of the numbers of floating point and its text, with blanks around it, is accepted.
Both leave the integer. -/
theorem number_text_agrees (name : String) :
    (∀ n sign tail given, exceedsLimit n = false → MayPrecede sign n →
        (∀ c ∈ tail.head?, isDigit c = false) →
          coerce name (.text (String.ofList (sign ++ (intText n).toList ++ tail))) .number given =
            .ok (.int n)) ∧
      (∀ s given shown, ¬ StartsInteger s.toList → given.shown = .ok shown →
        ∃ r, coerce name (.text s) .number given = .error (.rejected r) ∧
          r.toError = .badRequest r.message name) ∧
      ∀ (rules : Entries Rule) (rule : Rule) (message : Message) (n : Int) (left right : List Char),
        rules.keys.Nodup → (name, rule) ∈ rules → rule.kind = some .number → n ≠ 0 →
        (∀ c ∈ left, isBlank c = true) → (∀ c ∈ right, isBlank c = true) → ∀ after,
          (check rules (message.put name (.int n)) = (after, .ok ()) ↔
            n.natAbs < Binary64.overflowBound ∧
              check rules (message.put name (.text (paddedText left right n))) = (after, .ok ())) ∧
          (check rules (message.put name (.text (paddedText left right n))) = (after, .ok ()) →
            after.value name = .int n) := by
  refine ⟨fun n sign tail given hn hsign htail => ?_, fun s given shown hs hshown => ?_, ?_⟩
  · refine coerce_number_text ?_
    rw [String.toList_ofList]
    exact readLeadingInt_intText hsign hn htail
  · exact ⟨.notNumeric name shown, coerce_number_of_not_starts hs hshown, rfl⟩
  · intro rules rule message n left right hkeys hrule hkind hn hleft hright after
    refine ⟨check_int_iff_text hkeys hrule hkind hn hleft hright message after, fun hcheck => ?_⟩
    have hpresent : (Value.text (paddedText left right n)).trimmed.isBlank = false := by
      rw [trimmed_paddedText hleft hright]
      exact isBlank_intText n
    have hparam := value_of_check_put hkeys hrule hpresent hcheck
    exact ((checkParam_paddedText_iff hkind hleft hright).mp hparam).2.2

/-- A width with its unit, a unit alone, and a number below zero given both ways. -/
theorem number_text_agrees_width :
    let rule : Rule := { required := true, kind := some .number, validation := some (.text "^-?[0-9]+$") }
    coerce "width" (.text "+42px") .number .null = .ok (.int 42) ∧
      (∃ r, coerce "width" (.text "px42") .number .null = .error (.rejected r) ∧
        r.toError = .badRequest r.message "width") ∧
      ∃ after, check [("width", rule)] [("width", .int (-42))] = (after, .ok ()) ∧
        check [("width", rule)] [("width", .text " -42\n")] = (after, .ok ()) ∧
        after.value "width" = .int (-42) := by
  intro rule
  obtain ⟨hread, hrefused, hforms⟩ := number_text_agrees "width"
  refine ⟨?_, ?_, ?_⟩
  · refine hread 42 ['+'] ['p', 'x'] .null (by decide +kernel) (Or.inr ⟨rfl, by decide⟩) ?_
    rintro c ⟨⟩
    decide
  · refine hrefused "px42" .null "None" ?_ rfl
    rw [← leadingDigits_eq_nil_iff]
    decide +kernel
  · have hparam : checkParam "width" rule (.int (-42)) = .ok (some (.int (-42))) := by
      refine (checkParam_int_iff rfl (by decide)).mpr ⟨?_, by decide +kernel, rfl⟩
      rintro pattern ⟨⟩
      exact ⟨"-42", by decide +kernel, by decide +kernel⟩
    have hcheck := check_singleton [("width", .int (-42))] hparam
    obtain ⟨hsame, hleft⟩ := hforms [("width", rule)] rule [("width", .int (-42))] (-42) [' '] ['\n']
      (by decide) List.mem_cons_self rfl (by decide) (List.forall_mem_singleton.mpr (by decide))
      (List.forall_mem_singleton.mpr (by decide)) _
    have htext := (hsame.mp hcheck).2
    exact ⟨_, hcheck, htext, hleft htext⟩

/-- Beyond the range of the numbers of floating point a number ends with a fault, and its text is
accepted. -/
theorem number_text_disagrees :
    let rule : Rule := { kind := some .number }
    let n : Int := 10 ^ (309 : Nat)
    check [("n", rule)] [("n", .int n)] = ([("n", .int n)], .error (.fault .overflow)) ∧
      check [("n", rule)] [("n", .text (paddedText [] [] n))] = ([("n", .int n)], .ok ()) := by
  intro rule n
  have hfound {v : Value} : Found rule v := by
    rintro pattern ⟨⟩
  constructor
  · have hparam : checkParam "n" rule (.int n) = .error (.fault .overflow) :=
      checkParam_int_overflow rfl hfound (by decide +kernel)
    have hvalue : Entries.value [("n", Value.int n)] "n" = .int n := rfl
    rw [check_cons, hvalue, hparam]
  · have hparam : checkParam "n" rule (.text (paddedText [] [] n)) = .ok (some (.int n)) :=
      (checkParam_paddedText_iff rfl (List.forall_mem_nil _) (List.forall_mem_nil _)).mpr
        ⟨hfound, by decide +kernel, rfl⟩
    exact check_singleton [("n", .text (paddedText [] [] n))] hparam

end Validation

end RouteBook
