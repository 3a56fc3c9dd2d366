import Mathlib.Tactic.IntervalCases
import RouteBook.Validation.Coercion

/-!
# Moments and their ISO texts

A moment with an offset of whole seconds is read back from its ISO text (`readMoment?_textWith`), so a date
may be given as a moment or as its text.

1. Numbers of a fixed width are read back, whatever follows (`readDigits_padded`).
2. The date is ten characters long and ends before the separator (`readDate?_dateText`).
3. Times are printed to the minute, the second or the microsecond (`ClockForm`), both for the time of day
   and for the offset. Each form is read back (`ClockForm.readParts?_eq`).
4. A time ends where the offset starts, because no character of a printed time starts an offset
   (`readTime?_of_clockForm`).
-/

namespace RouteBook

namespace Calendar

open RouteBook.Text
open Moment (padded fractionText offsetText dateText)

variable {n width : Nat} {cs rest : List Char} {stop : Char}

/-! ## Numbers of a fixed width -/

theorem digit_char {d : Nat} (h : d < 10) :
    isAsciiDigit (Char.ofNat (48 + d)) = true ∧ (Char.ofNat (48 + d)).toNat = 48 + d := by
  interval_cases d <;> decide

theorem length_padded (width n : Nat) : (padded width n).length = width := by
  induction width generalizing n with
  | zero => rfl
  | succ width ih => rw [padded, List.length_append, ih, List.length_singleton]

theorem isAsciiDigit_of_mem_padded : ∀ c ∈ padded width n, isAsciiDigit c = true := by
  induction width generalizing n with
  | zero => exact List.forall_mem_nil _
  | succ width ih =>
    refine List.forall_mem_append.mpr ⟨ih, List.forall_mem_singleton.mpr ?_⟩
    exact (digit_char (Nat.mod_lt n (by decide))).1

theorem exists_padded_cons (width n : Nat) :
    ∃ c tail, padded (width + 1) n = c :: tail ∧ isAsciiDigit c = true := by
  obtain ⟨c, tail, h⟩ := List.exists_cons_of_length_eq_add_one (length_padded (width + 1) n)
  exact ⟨c, tail, h, isAsciiDigit_of_mem_padded c (h ▸ List.mem_cons_self)⟩

/-- The digits are read on top of what was read before them, and reading goes on behind them. -/
theorem readDigits_padded_append (width more k n : Nat) (rest : List Char) :
    readDigits (width + more) k (padded width n ++ rest) =
      readDigits more (10 ^ width * k + n % 10 ^ width) rest := by
  induction width generalizing more n rest with
  | zero => rw [padded, List.nil_append, Nat.zero_add, pow_zero, Nat.one_mul, Nat.mod_one, Nat.add_zero]
  | succ width ih =>
    obtain ⟨hdigit, hcode⟩ := digit_char (Nat.mod_lt n (by decide : 0 < 10))
    have hvalue : 10 * (10 ^ width * k + n / 10 % 10 ^ width) + n % 10 =
        10 ^ (width + 1) * k + n % 10 ^ (width + 1) := by
      rw [pow_succ', Nat.mod_mul, Nat.mul_add, Nat.mul_assoc, Nat.add_assoc, Nat.add_comm (10 * _) (n % 10)]
    calc readDigits (width + 1 + more) k (padded (width + 1) n ++ rest)
        = readDigits (width + (more + 1)) k
            (padded width (n / 10) ++ Char.ofNat (48 + n % 10) :: rest) := by
          rw [padded, List.append_assoc, List.singleton_append, Nat.add_right_comm, Nat.add_assoc]
      _ = readDigits (more + 1) (10 ^ width * k + n / 10 % 10 ^ width) (Char.ofNat (48 + n % 10) :: rest) :=
          ih (more + 1) (n / 10) _
      _ = readDigits more (10 ^ (width + 1) * k + n % 10 ^ (width + 1)) rest := by
          rw [readDigits, if_pos hdigit, hcode, Nat.add_sub_cancel_left, hvalue]

/-- Numbers that fit are read back. -/
theorem readDigits_padded (width : Nat) (h : n < 10 ^ width) (rest : List Char) :
    readDigits width 0 (padded width n ++ rest) = some (n, rest) := by
  have hread := readDigits_padded_append width 0 0 n rest
  rwa [Nat.add_zero, Nat.mul_zero, Nat.zero_add, Nat.mod_eq_of_lt h] at hread

/-! ## Dates -/

theorem daysInMonth_le (year month : Nat) : daysInMonth year month ≤ 31 := by
  unfold daysInMonth
  split <;> try split
  all_goals decide

theorem toList_dateText (d : Date) (rest : List Char) :
    dateText d ++ rest =
      padded 4 d.year ++ '-' :: (padded 2 d.month ++ '-' :: (padded 2 d.day ++ rest)) := by
  simp only [dateText, List.append_assoc, List.cons_append]

theorem length_dateText (d : Date) : (dateText d).length = 10 := by
  simp only [dateText, List.length_append, List.length_cons, length_padded]

/-- The date ends before the tenth character. -/
theorem separatorIndex?_dateText (d : Date) (separator : Char) (rest : List Char) :
    separatorIndex? (dateText d ++ separator :: rest) = some 10 := by
  obtain ⟨c, tail, hmonth, hc⟩ := exists_padded_cons 1 d.month
  have hweek : c ≠ 'W' := by
    rintro rfl
    exact absurd hc (by decide)
  have hlength : (dateText d ++ separator :: rest).length ≠ 7 := by
    rw [List.length_append, length_dateText, List.length_cons]
    omega
  have hdrop : (dateText d ++ separator :: rest).drop 4 =
      '-' :: c :: (tail ++ '-' :: (padded 2 d.day ++ separator :: rest)) := by
    rw [toList_dateText, hmonth, List.drop_left' (length_padded 4 d.year)]
    rfl
  have hdash : (dateText d ++ separator :: rest).getD 4 endMark = '-' := by
    rw [List.getD_eq_getElem?_getD, ← Nat.add_zero 4, ← List.getElem?_drop, hdrop]
    rfl
  have hdigit : (dateText d ++ separator :: rest).getD 5 endMark = c := by
    rw [List.getD_eq_getElem?_getD, ← List.getElem?_drop (i := 4) (j := 1), hdrop]
    rfl
  unfold separatorIndex?
  dsimp only
  rw [if_neg hlength, if_pos (beq_iff_eq.mpr hdash), if_neg]
  exact fun h => hweek (hdigit.symm.trans (beq_iff_eq.mp h))

/-- Dates are read back, whatever follows. -/
theorem readDate?_dateText {d : Date} (h : d.isValid = true) (rest : List Char) :
    readDate? (dateText d ++ rest) 10 = some d := by
  simp only [Date.isValid, Bool.and_eq_true, decide_eq_true_eq] at h
  obtain ⟨⟨⟨⟨⟨-, hyear⟩, -⟩, hmonth⟩, -⟩, hday⟩ := h
  have hyear' : d.year < 10 ^ 4 := by omega
  have hmonth' : d.month < 10 ^ 2 := by omega
  have hday' : d.day < 10 ^ 2 := (hday.trans (daysInMonth_le d.year d.month)).trans_lt (by decide)
  have hdashed : (('-' :: (padded 2 d.month ++ '-' :: (padded 2 d.day ++ rest))).head? == some '-') = true :=
    rfl
  rw [toList_dateText]
  unfold readDate?
  simp only [readDigits_padded 4 hyear', Option.bind_eq_bind, Option.bind_some, hdashed, if_true,
    List.drop_succ_cons, List.drop_zero]
  split
  · -- A week date has a letter where the month begins.
    rename_i heq
    obtain ⟨c, tail, hcons, hc⟩ := exists_padded_cons 1 d.month
    rw [hcons] at heq
    obtain ⟨rfl, -⟩ := List.cons.inj heq
    exact absurd hc (by decide)
  · rw [readDigits_padded 2 hmonth', Option.bind_some]
    simp only [readDash, if_true, Option.bind_some, readDigits_padded 2 hday']
    rfl

/-! ## Times -/

/-- The forms in which a time is printed: to the minute, to the second, to the microsecond. -/
inductive ClockForm : Clock → List Char → Prop
  | minutes {h m : Nat} (hh : h < 100) (hm : m < 100) :
    ClockForm { hour := h, minute := m } (padded 2 h ++ ':' :: padded 2 m)
  | seconds {h m s : Nat} (hh : h < 100) (hm : m < 100) (hs : s < 100) :
    ClockForm { hour := h, minute := m, second := s }
      (padded 2 h ++ ':' :: (padded 2 m ++ ':' :: padded 2 s))
  | micros {h m s us : Nat} (hh : h < 100) (hm : m < 100) (hs : s < 100) (hus : us < 1000000) :
    ClockForm { hour := h, minute := m, second := s, micro := us }
      (padded 2 h ++ ':' :: (padded 2 m ++ ':' :: (padded 2 s ++ '.' :: padded 6 us)))

theorem readParts?_colon (t : Clock) (stop : Char) (left : Nat) (h : n < 100) (next more : Nat)
    (rest : List Char) :
    readParts? t true stop (left + 1) (padded 2 n ++ ':' :: (padded (next + 1) more ++ rest)) =
      readParts? (t.withPart (2 - left) n) true stop left (padded (next + 1) more ++ rest) := by
  obtain ⟨c, tail, hcons, -⟩ := exists_padded_cons next more
  rw [readParts?, readDigits_padded 2 h, hcons]
  simp only [List.cons_append, Option.bind_eq_bind, Option.bind_some, List.headD_cons, beq_self_eq_true,
    ite_self, Bool.and_true, if_true]

theorem readParts?_end (t : Clock) (stop : Char) (left : Nat) (h : n < 100) :
    readParts? t true stop (left + 1) (padded 2 n) =
      some { t.withPart (2 - left) n with followed := stop != endMark } := by
  have hread := readDigits_padded 2 h []
  rw [List.append_nil] at hread
  rw [readParts?, hread]
  rfl

theorem readFraction?_padded (t : Clock) (stop : Char) {us : Nat} (hus : us < 1000000) :
    readFraction? t (padded 6 us) stop = some { t with micro := us, followed := stop != endMark } := by
  have hread := readDigits_padded 6 hus []
  rw [List.append_nil] at hread
  have hcount : min (padded 6 us).length 6 = 6 := by
    rw [length_padded, min_self]
  unfold readFraction?
  rw [hcount]
  dsimp only
  rw [hread]
  -- With six digits there is nothing to scale by.
  show some { t with micro := us * 1, followed := stop != endMark } = _
  rw [Nat.mul_one]

theorem readParts?_fraction (t : Clock) (stop : Char) (left : Nat) (h : n < 100) {us : Nat}
    (hus : us < 1000000) :
    readParts? t true stop (left + 1) (padded 2 n ++ '.' :: padded 6 us) =
      some { t.withPart (2 - left) n with micro := us, followed := stop != endMark } := by
  obtain ⟨c, tail, hcons, -⟩ := exists_padded_cons 5 us
  rw [readParts?, readDigits_padded 2 h, ← readFraction?_padded _ _ hus, hcons]
  have hpoint : ('.' == ':') = false := by
    decide
  simp only [Option.bind_eq_bind, Option.bind_some, hpoint, Bool.and_false, Bool.false_eq_true, if_false,
    beq_self_eq_true, Bool.true_or, if_true]

/-- Printed times are read back. The reader notes whether a character `stop` follows them. -/
theorem ClockForm.readParts?_eq {t : Clock} (h : ClockForm t cs) (stop : Char) :
    readParts? {} true stop 3 cs = some { t with followed := stop != endMark } := by
  cases h with
  | @minutes h m hh hm =>
    rw [← List.append_nil (padded 2 m), readParts?_colon _ _ _ hh, List.append_nil, readParts?_end _ _ _ hm]
    rfl
  | @seconds h m s hh hm hs =>
    rw [readParts?_colon _ _ _ hh, ← List.append_nil (padded 2 s), readParts?_colon _ _ _ hm, List.append_nil,
      readParts?_end _ _ _ hs]
    rfl
  | @micros h m s us hh hm hs hus =>
    rw [readParts?_colon _ _ _ hh, readParts?_colon _ _ _ hm, readParts?_fraction _ _ _ hs hus]
    rfl

/-! ## Where a time ends -/

theorem not_startsOffset_of_isAsciiDigit {c : Char} (h : isAsciiDigit c = true) : startsOffset c = false := by
  by_contra hstart
  have hcases := Bool.eq_true_of_not_eq_false hstart
  simp only [startsOffset, Bool.or_eq_true, beq_iff_eq] at hcases
  rcases hcases with (rfl | rfl) | rfl <;> exact absurd h (by decide)

theorem not_startsOffset_of_mem_padded : ∀ c ∈ padded width n, startsOffset c = false :=
  fun c hc => not_startsOffset_of_isAsciiDigit (isAsciiDigit_of_mem_padded c hc)

theorem ClockForm.not_startsOffset {t : Clock} (h : ClockForm t cs) : ∀ c ∈ cs, startsOffset c = false := by
  have hcolon : startsOffset ':' = false := by decide
  have hpoint : startsOffset '.' = false := by decide
  cases h with
  | minutes _ _ =>
    simp only [List.forall_mem_append, List.forall_mem_cons]
    exact ⟨not_startsOffset_of_mem_padded, hcolon, not_startsOffset_of_mem_padded⟩
  | seconds _ _ _ =>
    simp only [List.forall_mem_append, List.forall_mem_cons]
    exact ⟨not_startsOffset_of_mem_padded, hcolon, not_startsOffset_of_mem_padded, hcolon,
      not_startsOffset_of_mem_padded⟩
  | micros _ _ _ _ =>
    simp only [List.forall_mem_append, List.forall_mem_cons]
    exact ⟨not_startsOffset_of_mem_padded, hcolon, not_startsOffset_of_mem_padded, hcolon,
      not_startsOffset_of_mem_padded, hpoint, not_startsOffset_of_mem_padded⟩

theorem ClockForm.cut {t : Clock} (h : ClockForm t cs) (hrest : ∀ c ∈ rest.head?, startsOffset c = true) :
    (cs ++ rest).takeWhile (fun c => !startsOffset c) = cs ∧
      (cs ++ rest).dropWhile (fun c => !startsOffset c) = rest := by
  have hfront : ∀ c ∈ cs, (!startsOffset c) = true := fun c hc => by rw [h.not_startsOffset c hc]; rfl
  have hstop : ∀ c ∈ rest.head?, (!startsOffset c) = false := fun c hc => by rw [hrest c hc]; rfl
  exact ⟨takeWhile_append_of_stop hfront hstop, dropWhile_append_of_stop hfront hstop⟩

/-- Times without an offset are read back. -/
theorem readTime?_of_clockForm {t : Clock} (h : ClockForm t cs) : readTime? cs = some (t, none) := by
  obtain ⟨htake, hdrop⟩ := @ClockForm.cut cs [] t h nofun
  rw [List.append_nil] at htake hdrop
  unfold readTime?
  rw [htake, hdrop]
  dsimp only
  rw [h.readParts?_eq]
  cases h <;> rfl

/-- The microseconds of a time of day. -/
def Clock.micros (t : Clock) : Nat :=
  (t.hour * 3600 + t.minute * 60 + t.second) * 1000000 + t.micro

/-- Times with an offset are read back. -/
theorem readTime?_of_clockForms {t o : Clock} {sign : Char} {offset : List Char}
    (hsign : sign = '+' ∨ sign = '-') (h : ClockForm t cs) (ho : ClockForm o offset) :
    readTime? (cs ++ sign :: offset) = some ({ t with followed := true },
      some (if sign == '-' then -(o.micros : Int) else o.micros)) := by
  have hstart : ∀ c ∈ (sign :: offset).head?, startsOffset c = true := by
    rintro c ⟨⟩
    rcases hsign with rfl | rfl <;> decide
  obtain ⟨htake, hdrop⟩ := h.cut hstart
  have hzone : (sign == 'Z') = false := by
    rcases hsign with rfl | rfl <;> decide
  have hmark : (sign != endMark) = true := by
    rcases hsign with rfl | rfl <;> decide
  unfold readTime?
  rw [htake, hdrop]
  dsimp only
  rw [h.readParts?_eq, ho.readParts?_eq, hzone, hmark]
  rfl

/-! ## What is printed -/

theorem clockForm_time {h m s us : Nat} (hh : h < 24) (hm : m < 60) (hs : s < 60) (hus : us < 1000000) :
    ClockForm { hour := h, minute := m, second := s, micro := us }
      (padded 2 h ++ ':' :: (padded 2 m ++ ':' :: (padded 2 s ++ fractionText us))) := by
  unfold fractionText
  split_ifs with hzero
  · rw [hzero, List.append_nil]
    exact .seconds (by omega) (by omega) (by omega)
  · exact .micros (by omega) (by omega) (by omega) hus

/-- The sign of an offset. -/
def offsetSign (offset : Int) : Char :=
  if offset < 0 then '-' else '+'

theorem offsetSign_cases (offset : Int) : offsetSign offset = '+' ∨ offsetSign offset = '-' := by
  unfold offsetSign
  split_ifs
  · exact Or.inr rfl
  · exact Or.inl rfl

theorem signed_natAbs (offset : Int) :
    (if offsetSign offset == '-' then -(offset.natAbs : Int) else offset.natAbs) = offset := by
  unfold offsetSign
  split_ifs with hneg hminus hminus
  · omega
  · exact absurd rfl hminus
  · exact absurd hminus (by decide)
  · omega

theorem offsetText_of_whole {offset : Int} {seconds : Nat} (h : offset.natAbs = seconds * 1000000) :
    offsetText offset = offsetSign offset :: (padded 2 (seconds / 3600) ++ ':' ::
      (padded 2 (seconds / 60 % 60) ++
        if seconds % 60 = 0 then [] else ':' :: padded 2 (seconds % 60))) := by
  have hmicro : offset.natAbs % 1000000 = 0 := by rw [h, Nat.mul_mod_left]
  have hseconds : offset.natAbs / 1000000 = seconds := by rw [h, Nat.mul_div_cancel _ (by decide)]
  have hfraction : fractionText 0 = [] := rfl
  simp only [offsetText, offsetSign, hmicro, hseconds, hfraction, decide_true, Bool.and_true,
    decide_eq_true_eq, List.append_nil, List.cons_append, List.append_assoc]

/-- Offsets of whole seconds are printed as a sign and a time. -/
theorem exists_offsetText {offset : Int} (hday : offset.natAbs < microsPerDay)
    (hwhole : offset % 1000000 = 0) :
    ∃ o body, offsetText offset = offsetSign offset :: body ∧ ClockForm o body ∧
      o.micros = offset.natAbs := by
  obtain ⟨seconds, hseconds⟩ : ∃ seconds, offset.natAbs = seconds * 1000000 :=
    ⟨offset.natAbs / 1000000, by omega⟩
  have hday' : seconds < 86400 := by
    have hmicros : microsPerDay = 86400 * 1000000 := rfl
    omega
  rw [offsetText_of_whole hseconds, hseconds]
  by_cases hminute : seconds % 60 = 0
  · rw [if_pos hminute, List.append_nil]
    refine ⟨_, _, rfl, .minutes (by omega) (by omega), ?_⟩
    unfold Clock.micros
    dsimp only
    omega
  · rw [if_neg hminute]
    refine ⟨_, _, rfl, .seconds (by omega) (by omega) (by omega), ?_⟩
    unfold Clock.micros
    dsimp only
    omega

/-! ## Whole moments -/

theorem length_le_octetLength (cs : List Char) : cs.length ≤ octetLength cs := by
  induction cs with
  | nil => exact le_rfl
  | cons c rest ih =>
    have hpos := c.utf8Size_pos
    have hcons : octetLength (c :: rest) = c.utf8Size + octetLength rest := rfl
    rw [List.length_cons, hcons]
    omega

theorem readMoment?_dateText {d : Date} {c : Clock} {offset : Option Int} {separator : Char}
    (hdate : d.isValid = true) (htime : readTime? cs = some (c, offset))
    (hvalid : (Moment.mk d c.hour c.minute c.second c.micro offset).isValid = true) :
    readMoment? (dateText d ++ separator :: cs) =
      some ⟨d, c.hour, c.minute, c.second, c.micro, offset⟩ := by
  have hlong : 7 ≤ octetLength (dateText d ++ separator :: cs) := by
    refine le_trans ?_ (length_le_octetLength _)
    rw [List.length_append, length_dateText]
    omega
  have hdrop : (dateText d ++ separator :: cs).drop 10 = separator :: cs :=
    List.drop_left' (length_dateText d)
  have hdrop' : (dateText d ++ separator :: cs).drop (10 + 1) = cs := by
    rw [← List.drop_drop, hdrop]
    rfl
  unfold readMoment?
  rw [if_neg (not_lt.mpr hlong), separatorIndex?_dateText]
  simp only [Option.bind_eq_bind, Option.bind_some, readDate?_dateText hdate, hdrop, hdrop', htime,
    List.isEmpty_cons, Bool.false_eq_true, if_false]
  exact if_pos hvalid

theorem readTime?_textWith {t : Moment} (hvalid : t.isValid = true)
    (hwhole : ∀ offset, t.offset = some offset → offset % 1000000 = 0) (separator : Char) :
    ∃ cs followed, t.textWith separator = dateText t.date ++ separator :: cs ∧
      readTime? cs = some (⟨t.hour, t.minute, t.second, t.micro, followed⟩, t.offset) := by
  simp only [Moment.isValid, Bool.and_eq_true, decide_eq_true_eq] at hvalid
  obtain ⟨⟨⟨⟨⟨-, hhour⟩, hminute⟩, hsecond⟩, hmicro⟩, hoffset⟩ := hvalid
  have htime := clockForm_time hhour hminute hsecond hmicro
  cases hzone : t.offset with
  | none =>
    refine ⟨_, false, ?_, readTime?_of_clockForm htime⟩
    simp only [Moment.textWith, hzone, List.append_assoc, List.cons_append, List.append_nil]
  | some offset =>
    rw [hzone] at hoffset
    obtain ⟨o, body, htext, hform, hmicros⟩ :=
      exists_offsetText (of_decide_eq_true hoffset) (hwhole offset hzone)
    have hread := readTime?_of_clockForms (offsetSign_cases offset) htime hform
    rw [hmicros, signed_natAbs] at hread
    refine ⟨_, true, ?_, hread⟩
    simp only [Moment.textWith, hzone, htext, List.append_assoc, List.cons_append]

/-- A moment that exists is read back from its text, if its offset is of whole seconds. -/
theorem readMoment?_textWith {t : Moment} (hvalid : t.isValid = true)
    (hwhole : ∀ offset, t.offset = some offset → offset % 1000000 = 0) (separator : Char) :
    readMoment? (t.textWith separator) = some t := by
  obtain ⟨cs, followed, htext, htime⟩ := readTime?_textWith hvalid hwhole separator
  have hdate : t.date.isValid = true := by
    simp only [Moment.isValid, Bool.and_eq_true] at hvalid
    exact hvalid.1.1.1.1.1
  rw [htext]
  exact readMoment?_dateText hdate htime hvalid

end Calendar

namespace Coercion

open Calendar

theorem toDate_text {name s : String} {t : Moment} (h : readMoment? s.toList = some t) :
    toDate name (.text s) = .ok (.moment t) := by
  have hwire : (Value.text s).wireText = .ok s := rfl
  unfold toDate
  dsimp only
  rw [hwire]
  dsimp only
  rw [h]

/-- **Dates survive their text.** A moment that exists, with an offset of whole seconds or none, has a text
that is converted to the moment, and the moment itself is left as it is. -/
theorem coerce_date_wireText {t : Moment} (hvalid : t.isValid = true)
    (hwhole : ∀ offset, t.offset = some offset → offset % 1000000 = 0) (name : String) (given : Value) :
    (∃ text, (Value.moment t).wireText = .ok text ∧
        coerce name (.text text) .date given = .ok (.moment t)) ∧
      coerce name (.moment t) .date given = .ok (.moment t) := by
  have hread : readMoment? t.isoText.toList = some t := by
    rw [Moment.isoText, String.toList_ofList]
    exact readMoment?_textWith hvalid hwhole 'T'
  have htext : coerce name (.text t.isoText) .date given = .ok (.moment t) := by
    unfold coerce
    exact toDate_text hread
  exact ⟨⟨t.isoText, rfl, htext⟩, rfl⟩

/-- The last day of February in a leap year, to the microsecond, west of UTC by hours, minutes and
seconds. -/
theorem coerce_date_wireText_leapDay :
    let t : Moment :=
      { date := ⟨2024, 2, 29⟩, hour := 23, minute := 59, second := 7, micro := 40,
        offset := some (-12345000000) }
    t.isValid = true ∧ (Value.moment t).wireText = .ok "2024-02-29T23:59:07.000040-03:25:45" ∧
      coerce "since" (.text "2024-02-29T23:59:07.000040-03:25:45") .date .null = .ok (.moment t) ∧
      coerce "since" (.moment t) .date .null = .ok (.moment t) := by
  intro t
  have hvalid : t.isValid = true := by decide +kernel
  have hwhole : ∀ offset, t.offset = some offset → offset % 1000000 = 0 := by
    rintro offset ⟨⟩
    decide
  have hwire : (Value.moment t).wireText = .ok "2024-02-29T23:59:07.000040-03:25:45" := by decide +kernel
  obtain ⟨⟨text, htext, hread⟩, hsame⟩ := coerce_date_wireText hvalid hwhole "since" .null
  obtain rfl := Except.ok.inj (hwire.symm.trans htext)
  exact ⟨hvalid, hwire, hread, hsame⟩

end Coercion

end RouteBook
