import RouteBook.Decimal.Reader
import Mathlib.Data.List.TakeWhile
import Mathlib.Tactic.IntervalCases

/-!
# Decimal digits are read back

The decimal digits of a number are ASCII digits, the first of which is no zero unless it is the only
one, and they are read back as the number (`digitsNumber?_natDigits`). An integer is within the limit
exactly when its digits are (`length_natDigits_le_iff`).
-/

namespace RouteBook.Decimal

open RouteBook.Text

theorem natDigits_of_lt {n : Nat} (h : n < 10) : natDigits n = [n.digitChar] :=
  Nat.toDigits_of_lt_base h

theorem natDigits_of_le {n : Nat} (h : 10 ≤ n) :
    natDigits n = natDigits (n / 10) ++ [(n % 10).digitChar] :=
  Nat.toDigits_of_base_le (by omega) h

theorem natDigits_ne_nil (n : Nat) : natDigits n ≠ [] :=
  Nat.toDigits_ne_nil

theorem isAsciiDigit_of_isDigit {c : Char} (h : c.isDigit = true) : isAsciiDigit c = true := by
  simpa [isAsciiDigit, Char.isDigit, Char.le_def] using h

theorem isAsciiDigit_of_mem_natDigits {n : Nat} {c : Char} (h : c ∈ natDigits n) :
    isAsciiDigit c = true :=
  isAsciiDigit_of_isDigit (Nat.isDigit_of_mem_toDigits (by omega) (by omega) h)

theorem natDigits_eq_cons {n : Nat} (h : 0 < n) : ∃ c tail, natDigits n = c :: tail ∧ c ≠ '0' := by
  induction n using Nat.strong_induction_on with
  | _ n ih =>
    by_cases hlt : n < 10
    · refine ⟨n.digitChar, [], natDigits_of_lt hlt, ?_⟩
      interval_cases n <;> decide
    · obtain ⟨c, tail, hdigits, hc⟩ := ih (n / 10) (by omega) (by omega)
      exact ⟨c, tail ++ [(n % 10).digitChar], by rw [natDigits_of_le (by omega), hdigits]; rfl, hc⟩

/-! ## Reading -/

theorem digitValue?_digitChar {n : Nat} (h : n < 10) : digitValue? n.digitChar = some n := by
  interval_cases n <;> decide

theorem digitsNumber?_append (cs : List Char) (c : Char) :
    digitsNumber? (cs ++ [c]) =
      (digitsNumber? cs).bind fun n => (digitValue? c).map (10 * n + ·) := by
  unfold digitsNumber?
  rw [List.foldlM_append]
  cases cs.foldlM (fun n c => (digitValue? c).map (10 * n + ·)) 0 with
  | none => rfl
  | some n => simp

/-- Digits are read back as their number. -/
theorem digitsNumber?_natDigits (n : Nat) : digitsNumber? (natDigits n) = some n := by
  induction n using Nat.strong_induction_on with
  | _ n ih =>
    by_cases hlt : n < 10
    · have h := digitsNumber?_append [] n.digitChar
      rw [digitValue?_digitChar hlt] at h
      rw [natDigits_of_lt hlt]
      simpa [digitsNumber?] using h
    · rw [natDigits_of_le (by omega), digitsNumber?_append, ih (n / 10) (by omega),
        digitValue?_digitChar (by omega)]
      simp only [Option.bind_some, Option.map_some, Nat.div_add_mod]

theorem signed_natAbs (n : Int) : Binary64.signed (decide (n < 0)) n.natAbs = n := by
  unfold Binary64.signed
  split_ifs with hneg
  · have := of_decide_eq_true hneg
    omega
  · have := of_decide_eq_false (Bool.eq_false_iff.mpr hneg)
    omega

/-! ## The limit -/

theorem length_natDigits_le_iff (n : Int) :
    (natDigits n.natAbs).length ≤ digitLimit ↔ exceedsLimit n = false := by
  unfold natDigits exceedsLimit
  rw [Nat.length_toDigits_le_iff (by omega) (by decide)]
  simp

end RouteBook.Decimal
