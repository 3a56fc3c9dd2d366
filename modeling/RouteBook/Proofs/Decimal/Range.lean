import RouteBook.Decimal.Binary64
import Mathlib.Algebra.Order.Field.Power
import Mathlib.Data.Rat.Cast.Order
import Mathlib.Tactic.Ring

/-!
# The range of double-precision numbers

A quotient has a finite nearest number exactly below the middle between the greatest finite number
`2 ^ 1024 - 2 ^ 971` and `2 ^ 1024`; the middle itself is rounded up (`isFinite_ofQuotient_iff`).

1. The exponent of a quotient is the one at which its mantissa has fifty-three bits, or that of the smallest
   numbers (`exponentFor_spec`).
2. The magnitude bits count the multiples of `2 ^ 52` up to the exponent and then the rounded mantissa, so
   that they reach infinity when the mantissa is rounded up at the greatest exponent
   (`magnitude_lt_iff`).
-/

namespace RouteBook.Binary64

-- Powers are those of the core library, as in the definitions.
attribute [local instance (high)] instPowNat

variable {num den : Nat}

/-- The first magnitude that is out of range. -/
def overflowBound : Nat := 2 ^ (1024 : Nat) - 2 ^ (970 : Nat)

theorem two_pow_le_two_pow {j k : Nat} (h : j ≤ k) : 2 ^ j ≤ 2 ^ k :=
  Nat.pow_le_pow_right Nat.two_pos h

theorem sub_two_pow_pos {j k : Nat} (h : j < k) : 0 < 2 ^ k - 2 ^ j :=
  Nat.sub_pos_of_lt (Nat.pow_lt_pow_right Nat.one_lt_two h)

theorem overflowBound_pos : 0 < overflowBound := by
  unfold overflowBound
  exact sub_two_pow_pos (j := 970) (k := 1024) (by decide)

/-! ## Rounding -/

theorem le_roundHalfEven (num den : Nat) : num / den ≤ roundHalfEven num den := by
  unfold roundHalfEven
  dsimp only
  split_ifs <;> omega

theorem roundHalfEven_le (num den : Nat) : roundHalfEven num den ≤ num / den + 1 := by
  unfold roundHalfEven
  dsimp only
  split_ifs <;> omega

theorem roundHalfEven_le_iff (num : Nat) {k : Nat} (hk : k % 2 = 1) (hden : 0 < den) :
    roundHalfEven num den ≤ k ↔ 2 * num < (2 * k + 1) * den := by
  have hnum := Nat.div_add_mod num den
  have hmod := Nat.mod_lt num hden
  have hexpand : (2 * k + 1) * den = 2 * (den * k) + den := by ring
  rcases Nat.lt_trichotomy (num / den) k with hlt | heq | hgt
  · have hround := roundHalfEven_le num den
    have hle : den * (num / den + 1) ≤ den * k := Nat.mul_le_mul_left den hlt
    rw [Nat.mul_succ] at hle
    exact ⟨fun _ => by omega, fun _ => by omega⟩
  · rw [heq] at hnum
    unfold roundHalfEven
    dsimp only
    rw [heq]
    split_ifs <;> omega
  · have hround := le_roundHalfEven num den
    have hle : den * (k + 1) ≤ den * (num / den) := Nat.mul_le_mul_left den hgt
    rw [Nat.mul_succ] at hle
    exact ⟨fun _ => by omega, fun _ => by omega⟩

/-! ## The exponent of a quotient -/

theorem scale_pos (num : Nat) (hden : 0 < den) (e : Int) : 0 < (scale num den e).2 := by
  unfold scale
  split_ifs
  · exact Nat.mul_pos hden (Nat.two_pow_pos _)
  · exact hden

theorem scale_div (num den : Nat) (e : Int) :
    ((scale num den e).1 : ℚ) / (scale num den e).2 = num / den / 2 ^ e := by
  unfold scale
  split_ifs with he
  · obtain ⟨k, rfl⟩ := Int.eq_ofNat_of_zero_le he
    rw [Int.toNat_natCast, zpow_natCast, div_div]
    push_cast
    rfl
  · obtain ⟨k, rfl⟩ : ∃ k : Nat, e = -(k : Int) := ⟨(-e).toNat, by omega⟩
    rw [neg_neg, Int.toNat_natCast, zpow_neg, zpow_natCast, div_inv_eq_mul, div_mul_eq_mul_div]
    push_cast
    rfl

/-- Inequalities of a scaled quotient are those of the quotient with the power of two on the other
side. -/
theorem scale_lt_iff (num : Nat) (hden : 0 < den) (e : Int) (j k : Nat) :
    j * (scale num den e).1 < k * (scale num den e).2 ↔ j * ((num : ℚ) / den) < k * 2 ^ e := by
  have hpos : (0 : ℚ) < (scale num den e).2 := by exact_mod_cast scale_pos num hden e
  rw [← div_lt_iff₀ (zpow_pos two_pos e), mul_div_assoc, ← scale_div, ← mul_div_assoc,
    div_lt_iff₀ hpos]
  exact_mod_cast Iff.rfl

theorem cast_two_pow (k : Nat) : ((2 ^ k : Nat) : ℚ) = 2 ^ (k : Int) := by
  rw [Nat.cast_pow, Nat.cast_ofNat, zpow_natCast]

theorem cast_sub_two_pow {j k : Nat} (h : j ≤ k) :
    ((2 ^ k - 2 ^ j : Nat) : ℚ) = 2 ^ (k : Int) - 2 ^ (j : Int) := by
  rw [Nat.cast_sub (Nat.pow_le_pow_right Nat.two_pos h), cast_two_pow, cast_two_pow]

theorem two_zpow_log2_le (h : num ≠ 0) : (2 : ℚ) ^ (num.log2 : Int) ≤ num := by
  rw [← cast_two_pow]
  exact_mod_cast Nat.log2_self_le h

theorem lt_two_zpow_log2 (num : Nat) : (num : ℚ) < 2 ^ ((num.log2 : Int) + 1) := by
  have h := @Nat.lt_log2_self num
  rw [← Nat.cast_one, ← Nat.cast_add, ← cast_two_pow]
  exact_mod_cast h

theorem quotient_bounds (hnum : num ≠ 0) (hden : den ≠ 0) :
    (2 : ℚ) ^ ((num.log2 : Int) - den.log2 - 1) ≤ num / den ∧
      (num : ℚ) / den < 2 ^ ((num.log2 : Int) - den.log2 + 1) := by
  have hpos : (0 : ℚ) < den := by exact_mod_cast Nat.pos_of_ne_zero hden
  constructor
  · rw [le_div_iff₀ hpos]
    calc (2 : ℚ) ^ ((num.log2 : Int) - den.log2 - 1) * den
        ≤ 2 ^ ((num.log2 : Int) - den.log2 - 1) * 2 ^ ((den.log2 : Int) + 1) := by
          gcongr
          exact (lt_two_zpow_log2 den).le
      _ = 2 ^ (num.log2 : Int) := by
          rw [← zpow_add₀ two_ne_zero]
          congr 1
          ring
      _ ≤ num := two_zpow_log2_le hnum
  · rw [div_lt_iff₀ hpos]
    calc (num : ℚ) < 2 ^ ((num.log2 : Int) + 1) := lt_two_zpow_log2 num
      _ = 2 ^ ((num.log2 : Int) - den.log2 + 1) * 2 ^ (den.log2 : Int) := by
          rw [← zpow_add₀ two_ne_zero]
          congr 1
          ring
      _ ≤ 2 ^ ((num.log2 : Int) - den.log2 + 1) * den := by
          gcongr
          exact two_zpow_log2_le hden

/-- The mantissa at the exponent of a quotient has no more than fifty-three bits, and no fewer unless the
exponent is that of the smallest numbers. -/
theorem exponentFor_spec (hnum : num ≠ 0) (hden : den ≠ 0) :
    -1074 ≤ exponentFor num den ∧ (num : ℚ) / den < 2 ^ (exponentFor num den + 53) ∧
      (exponentFor num den = -1074 ∨ (2 : ℚ) ^ (exponentFor num den + 52) ≤ num / den) := by
  obtain ⟨hlow, hhigh⟩ := quotient_bounds hnum hden
  -- The guess is right or one too great, before it is cut off.
  obtain ⟨e, he, hbelow, habove⟩ : ∃ e : Int,
      exponentFor num den = (if e < -1074 then -1074 else e) ∧
        (num : ℚ) / den < 2 ^ (e + 53) ∧ (2 : ℚ) ^ (e + 52) ≤ num / den := by
    set guess : Int := (num.log2 : Int) - den.log2 - 52 with hguess
    have hfits := scale_lt_iff num (Nat.pos_of_ne_zero hden) guess 1 (2 ^ (52 : Nat))
    rw [Nat.one_mul, Nat.mul_comm, Nat.cast_one, one_mul, cast_two_pow, ← zpow_add₀ two_ne_zero] at hfits
    refine ⟨if (scale num den guess).1 < (scale num den guess).2 * 2 ^ (52 : Nat) then guess - 1 else guess,
      rfl, ?_, ?_⟩
    · split_ifs with hsmall
      · refine (hfits.mp hsmall).trans_eq ?_
        congr 1
        push_cast
        ring
      · refine hhigh.trans_eq ?_
        congr 1
        rw [hguess]
        ring
    · split_ifs with hsmall
      · refine (le_of_eq ?_).trans hlow
        congr 1
        rw [hguess]
        ring
      · refine (le_of_eq ?_).trans (not_lt.mp (mt hfits.mpr hsmall))
        congr 1
        push_cast
        ring
  rw [he]
  split_ifs with hcut
  · refine ⟨le_refl _, hbelow.trans_le ?_, Or.inl rfl⟩
    exact zpow_le_zpow_right₀ one_le_two (by omega)
  · exact ⟨by omega, hbelow, Or.inr habove⟩

/-! ## The magnitude of a quotient -/

/-- The magnitude bits of a quotient: the multiples of `2 ^ 52` up to its exponent, and its mantissa. -/
theorem exists_ofQuotient (hnum : num ≠ 0) (negative : Bool) (den : Nat) :
    ∃ n d, scale num den (exponentFor num den) = (n, d) ∧
      ofQuotient negative num den = ofMagnitude negative
        (min ((exponentFor num den + 1074).toNat * 2 ^ (52 : Nat) + roundHalfEven n d) infinityBits) := by
  unfold ofQuotient
  rw [if_neg hnum]
  generalize exponentFor num den = e
  extract_lets exponent
  split
  rename_i n d hscale
  exact ⟨n, d, hscale, rfl⟩

theorem two_pow_mul_zpow (k : Nat) (e : Int) : ((2 ^ k : Nat) : ℚ) * 2 ^ e = 2 ^ (e + k) := by
  rw [cast_two_pow, ← zpow_add₀ two_ne_zero, add_comm]

section

variable {e : Int} {n d : Nat}

theorem roundHalfEven_le_of_lt (hden : 0 < den) (hscale : scale num den e = (n, d))
    (h : (num : ℚ) / den < 2 ^ (e + 53)) : roundHalfEven n d ≤ 2 ^ (53 : Nat) := by
  have hpos := scale_pos num hden e
  have hlt := scale_lt_iff num hden e 1 (2 ^ (53 : Nat))
  rw [hscale] at hpos hlt
  rw [two_pow_mul_zpow, Nat.cast_one, one_mul, one_mul] at hlt
  have hquotient : n / d < 2 ^ (53 : Nat) := (Nat.div_lt_iff_lt_mul hpos).mpr (hlt.mpr h)
  exact (roundHalfEven_le n d).trans hquotient

theorem le_roundHalfEven_of_le (hden : 0 < den) (hscale : scale num den e = (n, d))
    (h : (2 : ℚ) ^ (e + 52) ≤ num / den) : 2 ^ (52 : Nat) ≤ roundHalfEven n d := by
  have hpos := scale_pos num hden e
  have hlt := scale_lt_iff num hden e 1 (2 ^ (52 : Nat))
  rw [hscale] at hpos hlt
  rw [two_pow_mul_zpow, Nat.cast_one, one_mul, one_mul] at hlt
  have hn : 2 ^ (52 : Nat) * d ≤ n := not_lt.mp (mt hlt.mp (not_lt.mpr h))
  exact ((Nat.le_div_iff_mul_le hpos).mpr hn).trans (le_roundHalfEven n d)

theorem two_zpow_top : (2 : ℚ) ^ (1024 : Int) = 2 ^ (54 : Int) * 2 ^ (970 : Int) := by
  rw [← zpow_add₀ two_ne_zero]
  rfl

theorem roundHalfEven_le_top_iff (hden : 0 < den) (hscale : scale num den 971 = (n, d)) :
    roundHalfEven n d ≤ 2 ^ (53 : Nat) - 1 ↔ (num : ℚ) / den < 2 ^ (1024 : Int) - 2 ^ (970 : Int) := by
  have hpos := scale_pos num hden 971
  have hlt := scale_lt_iff num hden 971 2 (2 * (2 ^ (53 : Nat) - 1) + 1)
  rw [hscale] at hpos hlt
  have hmiddle : ((2 * (2 ^ (53 : Nat) - 1) + 1 : Nat) : ℚ) = 2 ^ (54 : Int) - 1 := by norm_num
  have hdouble : (2 : ℚ) ^ (971 : Int) = 2 * 2 ^ (970 : Int) := by
    rw [← zpow_one_add₀ two_ne_zero]
    rfl
  rw [roundHalfEven_le_iff n (by decide) hpos, hlt, hmiddle, hdouble, mul_left_comm, Nat.cast_ofNat,
    mul_lt_mul_iff_right₀ two_pos, sub_mul, one_mul, two_zpow_top]

theorem two_zpow_le_bound (h : e < 971) : (2 : ℚ) ^ (e + 53) ≤ 2 ^ (1024 : Int) - 2 ^ (970 : Int) := by
  have hpositive : (0 : ℚ) < 2 ^ (970 : Int) := zpow_pos two_pos _
  have hfactor : (2 : ℚ) ^ (54 : Int) = 2 * 2 ^ (53 : Int) := by norm_num only
  have hone : (1 : ℚ) ≤ 2 ^ (53 : Int) := one_le_zpow₀ one_le_two (by decide)
  have hscaled := le_mul_of_one_le_left hpositive.le hone
  calc (2 : ℚ) ^ (e + 53) ≤ 2 ^ ((53 : Int) + 970) := zpow_le_zpow_right₀ one_le_two (by omega)
    _ = 2 ^ (53 : Int) * 2 ^ (970 : Int) := zpow_add₀ two_ne_zero _ _
    _ ≤ 2 ^ (1024 : Int) - 2 ^ (970 : Int) := by
      rw [two_zpow_top, hfactor, two_mul, add_mul]
      exact le_sub_left_of_add_le (add_le_add_left hscaled _)

/-- The magnitude of a quotient reaches infinity where its mantissa is rounded up at the greatest
exponent. -/
theorem magnitude_lt_iff (hnum : num ≠ 0) (hden : den ≠ 0) (he : exponentFor num den = e)
    (hscale : scale num den e = (n, d)) :
    (e + 1074).toNat * 2 ^ (52 : Nat) + roundHalfEven n d < infinityBits ↔
      (num : ℚ) / den < 2 ^ (1024 : Int) - 2 ^ (970 : Int) := by
  obtain ⟨hleast, hbelow, habove⟩ := exponentFor_spec hnum hden
  rw [he] at hleast hbelow habove
  have hden := Nat.pos_of_ne_zero hden
  have hround := roundHalfEven_le_of_lt hden hscale hbelow
  unfold infinityBits
  rcases lt_trichotomy e 971 with hless | rfl | hgreater
  · exact ⟨fun _ => hbelow.trans_le (two_zpow_le_bound hless), fun _ => by omega⟩
  · have hbits : (971 + 1074 : Int).toNat = 2045 := rfl
    rw [hbits, ← roundHalfEven_le_top_iff hden hscale]
    omega
  · have hmost := habove.resolve_left (by omega)
    have hhigh : (2 : ℚ) ^ (1024 : Int) ≤ num / den :=
      (zpow_le_zpow_right₀ one_le_two (by omega)).trans hmost
    have hpositive : (0 : ℚ) < 2 ^ (970 : Int) := zpow_pos two_pos _
    have hrounded := le_roundHalfEven_of_le hden hscale hmost
    have hover := (sub_le_self _ hpositive.le).trans hhigh
    exact ⟨fun _ => by omega, fun hq => absurd hq (not_lt.mpr hover)⟩

end

theorem isFinite_ofMagnitude_iff {magnitude : Nat} (h : magnitude ≤ infinityBits) (negative : Bool) :
    (ofMagnitude negative magnitude).isFinite = true ↔ magnitude < infinityBits := by
  unfold infinityBits at h ⊢
  have hbits : (ofMagnitude negative magnitude).exponentBits = magnitude / 2 ^ (52 : Nat) := by
    unfold exponentBits ofMagnitude
    cases negative with
    | true =>
      rw [if_pos rfl, UInt64.toNat_ofNat_of_lt' (by simp [UInt64.size]; omega)]
      omega
    | false =>
      rw [if_neg Bool.false_ne_true, UInt64.toNat_ofNat_of_lt' (by simp [UInt64.size]; omega)]
      omega
  unfold isFinite toQuotient? view
  rw [hbits]
  by_cases hinf : magnitude / 2 ^ (52 : Nat) = 2047
  · rw [if_pos hinf]
    constructor
    · intro hsome
      split_ifs at hsome <;> exact nomatch hsome
    · intro hlt
      omega
  · rw [if_neg hinf]
    refine ⟨fun _ => by omega, fun _ => ?_⟩
    split_ifs <;> (dsimp only; split_ifs <;> rfl)

/-- A quotient has a finite nearest number exactly below the bound. -/
theorem isFinite_ofQuotient_iff (negative : Bool) (num : Nat) (hden : 0 < den) :
    (ofQuotient negative num den).isFinite = true ↔ num < overflowBound * den := by
  have hbound : (overflowBound : ℚ) = 2 ^ (1024 : Int) - 2 ^ (970 : Int) := by
    unfold overflowBound
    exact cast_sub_two_pow (j := 970) (k := 1024) (by decide)
  have hrational : num < overflowBound * den ↔ (num : ℚ) / den < overflowBound := by
    rw [div_lt_iff₀ (by exact_mod_cast hden)]
    exact_mod_cast Iff.rfl
  rcases Nat.eq_zero_or_pos num with rfl | hnum
  · have hpos : 0 < overflowBound * den := Nat.mul_pos overflowBound_pos hden
    have hzero : ofQuotient negative 0 den = ofMagnitude negative 0 := if_pos rfl
    rw [hzero, isFinite_ofMagnitude_iff (Nat.zero_le _)]
    exact ⟨fun _ => hpos, fun _ => by decide⟩
  · obtain ⟨n, d, hscale, hquotient⟩ := exists_ofQuotient hnum.ne' negative den
    rw [hquotient, isFinite_ofMagnitude_iff (Nat.min_le_right _ _), min_lt_iff,
      or_iff_left (Nat.lt_irrefl _), magnitude_lt_iff hnum.ne' hden.ne' rfl hscale, ← hbound, hrational]

theorem isSome_ofIntQuotient?_iff (n : Int) (hden : 0 < den) :
    (ofIntQuotient? n den).isSome = true ↔ n.natAbs < overflowBound * den := by
  rw [← isFinite_ofQuotient_iff (n < 0) n.natAbs hden]
  unfold ofIntQuotient?
  dsimp only
  split_ifs with h
  · exact ⟨fun _ => h, fun _ => rfl⟩
  · exact ⟨nofun, fun h' => absurd h' h⟩

theorem isSome_ofInt?_iff (n : Int) : (ofInt? n).isSome = true ↔ n.natAbs < overflowBound := by
  have hwhole := isSome_ofIntQuotient?_iff n Nat.one_pos
  rwa [Nat.mul_one] at hwhole

/-! ## The greatest number -/

theorem view_bounds {x : Binary64} {negative : Bool} {mantissa : Nat} {e : Int}
    (h : x.view = .finite negative mantissa e) : mantissa < 2 ^ (53 : Nat) ∧ e ≤ 971 := by
  have hfraction : x.fractionBits < 2 ^ (52 : Nat) := Nat.mod_lt _ (by decide)
  have hexponent : x.exponentBits < 2 ^ (11 : Nat) := Nat.mod_lt _ (by decide)
  unfold view at h
  split_ifs at h with hspecial hinfinite hzero
  · obtain ⟨-, rfl, rfl⟩ := View.finite.inj h
    omega
  · obtain ⟨-, rfl, rfl⟩ := View.finite.inj h
    omega

theorem lt_of_toQuotient? {x : Binary64} {negative : Bool} {num den : Nat}
    (h : x.toQuotient? = some (negative, num, den)) : num < 2 ^ (1024 : Nat) := by
  unfold toQuotient? at h
  split at h
  · rename_i _ mantissa e hview
    obtain ⟨hmantissa, he⟩ := view_bounds hview
    split_ifs at h with hsign
    · obtain ⟨-, rfl, -⟩ : _ = negative ∧ mantissa * 2 ^ e.toNat = num ∧ 1 = den := by
        simpa using h
      calc mantissa * 2 ^ e.toNat < 2 ^ (53 : Nat) * 2 ^ e.toNat :=
            Nat.mul_lt_mul_of_pos_right hmantissa (Nat.two_pow_pos _)
        _ = 2 ^ (53 + e.toNat) := (Nat.pow_add 2 53 e.toNat).symm
        _ ≤ 2 ^ (1024 : Nat) := two_pow_le_two_pow (k := 1024) (by omega)
    · obtain ⟨-, rfl, -⟩ : _ = negative ∧ mantissa = num ∧ 2 ^ (-e).toNat = den := by
        simpa using h
      exact hmantissa.trans_le (two_pow_le_two_pow (j := 53) (k := 1024) (by decide))
  · exact nomatch h

theorem natAbs_lt_of_toInt? {x : Binary64} {n : Int} (h : x.toInt? = some n) :
    n.natAbs < 2 ^ (1024 : Nat) := by
  unfold toInt? at h
  split at h
  · rename_i negative num den hquotient
    split_ifs at h
    obtain rfl := Option.some.inj h
    have habs : (signed negative (num / den)).natAbs = num / den := by
      unfold signed
      split_ifs
      · exact Int.natAbs_neg _
      · rfl
    rw [habs]
    exact (Nat.div_le_self _ _).trans_lt (lt_of_toQuotient? hquotient)
  · exact nomatch h

end RouteBook.Binary64
