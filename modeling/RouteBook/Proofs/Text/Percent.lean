import RouteBook.Proofs.Text.Utf8
import RouteBook.Text.Percent
import Mathlib.Tactic.IntervalCases

/-!
# Percent-encoding is read back

Decoding a component gives its text (`decodeComponent?_encodeComponent`), also when texts are joined
by characters that stand for themselves (`decodeOctets_encodeComponent_append`). An encoded component
is made of letters, digits, a few marks and the percent sign (`isComponentChar_of_mem`), so none of
the characters that separate the parts of an address can come from a value.
-/

namespace RouteBook.Text

theorem toNat_ofNat_ascii {n : Nat} (h : n < 0x80) : (Char.ofNat n).toNat = n := by
  have hv : n.isValidChar := Or.inl (by omega)
  rw [Char.ofNat, dif_pos hv]
  rfl

theorem hexValue?_hexDigitUpper {n : Nat} (h : n < 16) : hexValue? (hexDigitUpper n) = some n := by
  interval_cases n <;> decide

namespace Percent

/-! ## Decoding -/

theorem decodeOctets_cons {c : Char} (h : c ≠ '%') (rest : List Char) :
    decodeOctets (c :: rest) = Utf8.encodeChar c ++ decodeOctets rest := by
  rw [decodeOctets]
  intro _ _ _ hc
  exact absurd hc h

theorem decodeOctets_escape (b : UInt8) (rest : List Char) :
    decodeOctets (escape b ++ rest) = b :: decodeOctets rest := by
  have hb : b.toNat < 256 := b.toNat_lt
  have hhigh : b.toNat / 16 < 16 := by omega
  have hlow : b.toNat % 16 < 16 := by omega
  show decodeOctets ('%' :: hexDigitUpper (b.toNat / 16) :: hexDigitUpper (b.toNat % 16) :: rest) = _
  rw [decodeOctets, hexValue?_hexDigitUpper hhigh, hexValue?_hexDigitUpper hlow]
  show UInt8.ofNat (16 * (b.toNat / 16) + b.toNat % 16) :: _ = _
  rw [Nat.div_add_mod, UInt8.ofNat_toNat]

/-! ## Safe octets -/

theorem isComponentSafe_lt {b : UInt8} (h : isComponentSafe b = true) : b.toNat < 0x80 := by
  unfold isComponentSafe at h
  simp only [Bool.and_eq_true, decide_eq_true_eq] at h
  exact h.1

theorem isComponentSafe_ne {b : UInt8} (h : isComponentSafe b = true) :
    Char.ofNat b.toNat ≠ '%' := by
  intro hc
  have hn := toNat_ofNat_ascii (isComponentSafe_lt h)
  rw [hc] at hn
  obtain rfl : b = 37 := UInt8.toNat_inj.mp hn.symm
  exact absurd h (by decide)

theorem encodeChar_safe {b : UInt8} (h : isComponentSafe b = true) :
    Utf8.encodeChar (Char.ofNat b.toNat) = [b] := by
  have hlt := isComponentSafe_lt h
  unfold Utf8.encodeChar
  rw [toNat_ofNat_ascii hlt, if_pos hlt, UInt8.ofNat_toNat]

theorem decodeOctets_encodeOctet (b : UInt8) (rest : List Char) :
    decodeOctets (encodeOctet isComponentSafe b ++ rest) = b :: decodeOctets rest := by
  unfold encodeOctet
  by_cases h : isComponentSafe b = true
  · rw [if_pos h, List.singleton_append, decodeOctets_cons (isComponentSafe_ne h),
      encodeChar_safe h, List.singleton_append]
  · rw [if_neg h, decodeOctets_escape]

theorem decodeOctets_encodeOctets (bytes : List UInt8) (rest : List Char) :
    decodeOctets (encodeOctets isComponentSafe bytes ++ rest) = bytes ++ decodeOctets rest := by
  induction bytes with
  | nil => rfl
  | cons b bytes ih =>
    rw [encodeOctets, List.flatMap_cons, List.append_assoc, decodeOctets_encodeOctet]
    exact congrArg (b :: ·) ih

/-! ## Components -/

theorem decodeOctets_encodeComponent_append (cs rest : List Char) :
    decodeOctets (encodeComponent cs ++ rest) = Utf8.encode cs ++ decodeOctets rest :=
  decodeOctets_encodeOctets (Utf8.encode cs) rest

theorem decodeOctets_encodeComponent (cs : List Char) :
    decodeOctets (encodeComponent cs) = Utf8.encode cs := by
  have h := decodeOctets_encodeComponent_append cs []
  rwa [List.append_nil, decodeOctets, List.append_nil] at h

/-- The text of a component is read back from it. -/
@[simp] theorem decodeComponent?_encodeComponent (cs : List Char) :
    decodeComponent? (encodeComponent cs) = some cs := by
  unfold decodeComponent?
  rw [decodeOctets_encodeComponent, Utf8.decode_encode]
  rfl

/-! ## The characters of a component -/

/-- The characters of an encoded component: letters, digits, the safe marks and the percent
sign. -/
def isComponentChar (c : Char) : Bool :=
  isAsciiLetter c || isAsciiDigit c || c == '-' || c == '_' || c == '.' || c == '~' ||
    c == '!' || c == '*' || c.toNat == 39 || c == '(' || c == ')' || c == '%'

theorem isComponentChar_of_safe {b : UInt8} (h : isComponentSafe b = true) :
    isComponentChar (Char.ofNat b.toNat) = true := by
  have hlt := isComponentSafe_lt h
  unfold isComponentSafe at h
  unfold isComponentChar
  rw [toNat_ofNat_ascii hlt]
  simp only [Bool.and_eq_true] at h
  rw [h.2, Bool.true_or]

theorem isComponentChar_hexDigitUpper {n : Nat} (h : n < 16) :
    isComponentChar (hexDigitUpper n) = true := by
  interval_cases n <;> decide

theorem isComponentChar_of_mem_encodeOctet {b : UInt8} {c : Char}
    (h : c ∈ encodeOctet isComponentSafe b) : isComponentChar c = true := by
  have hb : b.toNat < 256 := b.toNat_lt
  unfold encodeOctet at h
  by_cases hs : isComponentSafe b = true
  · rw [if_pos hs, List.mem_singleton] at h
    rw [h]
    exact isComponentChar_of_safe hs
  · rw [if_neg hs, escape] at h
    simp only [List.mem_cons, List.not_mem_nil, or_false] at h
    rcases h with rfl | rfl | rfl
    · decide
    · exact isComponentChar_hexDigitUpper (by omega)
    · exact isComponentChar_hexDigitUpper (by omega)

theorem isComponentChar_of_mem {cs : List Char} {c : Char} (h : c ∈ encodeComponent cs) :
    isComponentChar c = true := by
  obtain ⟨b, -, hc⟩ := List.mem_flatMap.mp h
  exact isComponentChar_of_mem_encodeOctet hc

/-- A character that no component may hold is not in an encoded one. -/
theorem not_mem_encodeComponent {c : Char} (h : isComponentChar c = false) (cs : List Char) :
    c ∉ encodeComponent cs := by
  intro hc
  rw [isComponentChar_of_mem hc] at h
  exact Bool.noConfusion h

end Percent

end RouteBook.Text
