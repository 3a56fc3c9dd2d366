import RouteBook.Text.Base64
import Mathlib.Tactic.IntervalCases

/-!
# Base64 is read back

Decoding undoes encoding (`decode?_encode`). The alphabet is read back character by character
(`value?_symbol`) and has no equals sign, so no group of four characters is taken for a group that is
filled up; and the parts of an octet that two neighbours of a group carry make up the octet again.
-/

namespace RouteBook.Text.Base64

/-! ## The alphabet -/

theorem value?_symbol {n : Nat} (h : n < 64) : value? (symbol n) = some n := by
  interval_cases n <;> decide

theorem symbol_ne_equals (n : Nat) : symbol n ≠ '=' := by
  by_cases h : n < 64
  · intro heq
    have hvalue := value?_symbol h
    rw [heq] at hvalue
    exact absurd hvalue (by simp [value?])
  · unfold symbol
    rw [if_neg (by omega), if_neg (by omega), if_neg (by omega), if_neg (by simp; omega)]
    decide

/-! ## Groups -/

theorem ofNat_toNat_eq {n : Nat} {a : UInt8} (h : n = a.toNat) : UInt8.ofNat n = a := by
  rw [h, UInt8.ofNat_toNat]

theorem decode?_group {a b c d : Char} (hc : c ≠ '=') (hd : d ≠ '=') (rest : List Char) :
    decode? (a :: b :: c :: d :: rest) = (do
      let x ← value? a
      let y ← value? b
      let z ← value? c
      let w ← value? d
      let tail ← decode? rest
      pure (UInt8.ofNat (x * 4 + y / 16) :: UInt8.ofNat (y % 16 * 16 + z / 4) ::
        UInt8.ofNat (z % 4 * 64 + w) :: tail)) := by
  rw [decode?]
  · rintro rfl - rfl
    exact absurd rfl hc
  · rintro rfl rfl
    exact absurd rfl hd

theorem decode?_encode (octets : List UInt8) : decode? (encode octets) = some octets := by
  induction octets using encode.induct with
  | case1 => rfl
  | case2 a =>
    have ha : a.toNat < 256 := a.toNat_lt
    rw [encode, decode?, value?_symbol (by omega), value?_symbol (by omega)]
    show some [UInt8.ofNat (a.toNat / 4 * 4 + a.toNat % 4 * 16 / 16)] = _
    rw [ofNat_toNat_eq (a := a) (by omega)]
  | case3 a b =>
    have ha : a.toNat < 256 := a.toNat_lt
    have hb : b.toNat < 256 := b.toNat_lt
    rw [encode, decode?, value?_symbol (by omega), value?_symbol (by omega), value?_symbol (by omega)]
    · show some [UInt8.ofNat (a.toNat / 4 * 4 + (a.toNat % 4 * 16 + b.toNat / 16) / 16),
        UInt8.ofNat ((a.toNat % 4 * 16 + b.toNat / 16) % 16 * 16 + b.toNat % 16 * 4 / 4)] = _
      rw [ofNat_toNat_eq (a := a) (by omega), ofNat_toNat_eq (a := b) (by omega)]
    · exact symbol_ne_equals _
  | case4 a b c rest ih =>
    have ha : a.toNat < 256 := a.toNat_lt
    have hb : b.toNat < 256 := b.toNat_lt
    have hc : c.toNat < 256 := c.toNat_lt
    rw [encode, decode?_group (symbol_ne_equals _) (symbol_ne_equals _), value?_symbol (by omega),
      value?_symbol (by omega), value?_symbol (by omega), value?_symbol (by omega), ih]
    show some (UInt8.ofNat (a.toNat / 4 * 4 + (a.toNat % 4 * 16 + b.toNat / 16) / 16) ::
      UInt8.ofNat ((a.toNat % 4 * 16 + b.toNat / 16) % 16 * 16 +
        (b.toNat % 16 * 4 + c.toNat / 64) / 4) ::
      UInt8.ofNat ((b.toNat % 16 * 4 + c.toNat / 64) % 4 * 64 + c.toNat % 64) :: rest) = _
    rw [ofNat_toNat_eq (a := a) (by omega), ofNat_toNat_eq (a := b) (by omega),
      ofNat_toNat_eq (a := c) (by omega)]

end RouteBook.Text.Base64
