import RouteBook.Text.Utf8

/-!
# UTF-8 is read back

Decoding undoes encoding (`decode_encode`). The octets of one character are read back as that
character whatever follows them (`head_encodeChar`): its lead octet announces exactly the octets
after it, and the narrower ranges after four of the lead octets leave out what no character has, the
short forms, the surrogates and the numbers beyond the last code point.
-/

namespace RouteBook.Text.Utf8

/-! ## Lead and continuation octets -/

theorem toNat_ofNat_of_lt {n : Nat} (h : n < 256) : (UInt8.ofNat n).toNat = n := by
  rw [UInt8.toNat_ofNat', Nat.mod_eq_of_lt h]

/-- The code points of characters: no surrogates, and nothing beyond 0x10FFFF. -/
theorem toNat_range (c : Char) : c.toNat < 0xD800 ∨ 0xDFFF < c.toNat ∧ c.toNat < 0x110000 :=
  c.valid

theorem follow_zero (seen bits low high : Nat) (rest : List UInt8) :
    follow 0 seen bits low high rest = .ok bits := by
  unfold follow; rfl

theorem follow_succ {following seen bits low high n : Nat} (rest : List UInt8)
    (hn : n < 64) (hlow : low ≤ 0x80 + n) (hhigh : 0x80 + n ≤ high) :
    follow (following + 1) seen bits low high (UInt8.ofNat (0x80 + n) :: rest) =
      follow following (seen + 1) (64 * bits + n) 0x80 0xBF rest := by
  have hb : (UInt8.ofNat (0x80 + n)).toNat = 0x80 + n := toNat_ofNat_of_lt (by omega)
  rw [follow, hb]
  rw [if_pos (by simp; omega), Nat.add_sub_cancel_left]

theorem lead?_two {k : Nat} (h2 : 2 ≤ k) (h : k < 32) :
    lead? (0xC0 + k) = some ⟨k, 0x80, 0xBF, 1⟩ := by
  unfold lead?
  rw [if_neg (by omega), if_pos (by omega), Nat.add_sub_cancel_left]

/-- The lead octet of three announces two more. Its first and its thirteenth leave out the short
forms and the surrogates. -/
theorem lead?_three {k n : Nat} (h : k < 16) (hn : n < 64) (hshort : k = 0 → 32 ≤ n)
    (hsurrogate : k = 13 → n < 32) :
    ∃ low high, lead? (0xE0 + k) = some ⟨k, low, high, 2⟩ ∧ low ≤ 0x80 + n ∧ 0x80 + n ≤ high := by
  unfold lead?
  rw [if_neg (by omega), if_neg (by omega)]
  by_cases h0 : k = 0
  · subst h0
    exact ⟨0xA0, 0xBF, rfl, by have := hshort rfl; omega, by omega⟩
  by_cases h13 : k = 13
  · subst h13
    exact ⟨0x80, 0x9F, rfl, by omega, by have := hsurrogate rfl; omega⟩
  refine ⟨0x80, 0xBF, ?_, by omega, by omega⟩
  rw [if_neg (by simp; omega), if_neg (by simp; omega), if_pos (by omega), Nat.add_sub_cancel_left]

theorem lead?_four {k n : Nat} (h : k ≤ 4) (hn : n < 64) (hshort : k = 0 → 16 ≤ n)
    (hbeyond : k = 4 → n < 16) :
    ∃ low high, lead? (0xF0 + k) = some ⟨k, low, high, 3⟩ ∧ low ≤ 0x80 + n ∧ 0x80 + n ≤ high := by
  unfold lead?
  rw [if_neg (by omega), if_neg (by omega), if_neg (by simp; omega), if_neg (by simp; omega),
    if_neg (by omega)]
  by_cases h0 : k = 0
  · subst h0
    exact ⟨0x90, 0xBF, rfl, by have := hshort rfl; omega, by omega⟩
  by_cases h4 : k = 4
  · subst h4
    exact ⟨0x80, 0x8F, rfl, by omega, by have := hbeyond rfl; omega⟩
  refine ⟨0x80, 0xBF, ?_, by omega, by omega⟩
  rw [if_neg (by simp; omega), if_pos (by omega), Nat.add_sub_cancel_left]

/-! ## One character -/

theorem head_ascii {n : Nat} (h : n < 0x80) (rest : List UInt8) :
    head (UInt8.ofNat n) rest = (.ok (Char.ofNat n), 1) := by
  unfold head
  rw [toNat_ofNat_of_lt (by omega), if_pos h]

theorem head_lead {b n : Nat} {l : Lead} {rest : List UInt8} (hb : 0x80 ≤ b) (hb' : b < 256)
    (hl : lead? b = some l) (hf : follow l.following 1 l.bits l.low l.high rest = .ok n) :
    head (UInt8.ofNat b) rest = (.ok (Char.ofNat n), l.following + 1) := by
  unfold head
  rw [toNat_ofNat_of_lt hb', if_neg (by omega), hl]
  simp only [hf]

/-- The octets of a character are read back as it, whatever follows. -/
theorem head_encodeChar (c : Char) (rest : List UInt8) :
    ∃ b tail, encodeChar c = b :: tail ∧ head b (tail ++ rest) = (.ok c, tail.length + 1) := by
  have hc := toNat_range c
  unfold encodeChar
  by_cases h1 : c.toNat < 0x80
  · rw [if_pos h1]
    refine ⟨_, [], rfl, ?_⟩
    rw [List.nil_append, head_ascii h1, Char.ofNat_toNat]
    rfl
  rw [if_neg h1]
  by_cases h2 : c.toNat < 0x800
  · rw [if_pos h2]
    refine ⟨_, _, rfl, ?_⟩
    have hf : follow 1 1 (c.toNat / 64) 0x80 0xBF
        ([UInt8.ofNat (0x80 + c.toNat % 64)] ++ rest) = .ok c.toNat := by
      rw [List.singleton_append, follow_succ _ (by omega) (by omega) (by omega), follow_zero]
      congr 1; omega
    rw [head_lead (by omega) (by omega) (lead?_two (by omega) (by omega)) hf, Char.ofNat_toNat]
    rfl
  rw [if_neg h2]
  by_cases h3 : c.toNat < 0x10000
  · rw [if_pos h3]
    refine ⟨_, _, rfl, ?_⟩
    obtain ⟨low, high, hl, hlow, hhigh⟩ := lead?_three (k := c.toNat / 4096)
      (n := c.toNat / 64 % 64) (by omega) (by omega) (by omega) (by omega)
    have hf : follow 2 1 (c.toNat / 4096) low high
        ([UInt8.ofNat (0x80 + c.toNat / 64 % 64), UInt8.ofNat (0x80 + c.toNat % 64)] ++ rest) =
          .ok c.toNat := by
      rw [List.cons_append, List.singleton_append, follow_succ _ (by omega) hlow hhigh,
        follow_succ _ (by omega) (by omega) (by omega), follow_zero]
      congr 1; omega
    rw [head_lead (by omega) (by omega) hl hf, Char.ofNat_toNat]
    rfl
  · rw [if_neg h3]
    refine ⟨_, _, rfl, ?_⟩
    obtain ⟨low, high, hl, hlow, hhigh⟩ := lead?_four (k := c.toNat / 262144)
      (n := c.toNat / 4096 % 64) (by omega) (by omega) (by omega) (by omega)
    have hf : follow 3 1 (c.toNat / 262144) low high
        ([UInt8.ofNat (0x80 + c.toNat / 4096 % 64), UInt8.ofNat (0x80 + c.toNat / 64 % 64),
          UInt8.ofNat (0x80 + c.toNat % 64)] ++ rest) = .ok c.toNat := by
      rw [List.cons_append, List.cons_append, List.singleton_append,
        follow_succ _ (by omega) hlow hhigh, follow_succ _ (by omega) (by omega) (by omega),
        follow_succ _ (by omega) (by omega) (by omega), follow_zero]
      congr 1; omega
    rw [head_lead (by omega) (by omega) hl hf, Char.ofNat_toNat]
    rfl

/-! ## Texts -/

/-- Skipped octets only move the position. -/
theorem decodeFrom_skip (tail rest : List UInt8) (position : Nat) :
    decodeFrom position tail.length (tail ++ rest) = decodeFrom (position + tail.length) 0 rest := by
  induction tail generalizing position with
  | nil => rfl
  | cons b tail ih =>
    rw [List.length_cons, List.cons_append, decodeFrom, ih]
    congr 1; omega

theorem decodeFrom_encodeChar (c : Char) (rest : List UInt8) (position : Nat) :
    decodeFrom position 0 (encodeChar c ++ rest) =
      (decodeFrom (position + (encodeChar c).length) 0 rest).map (c :: ·) := by
  obtain ⟨b, tail, hc, hh⟩ := head_encodeChar c rest
  rw [hc, List.cons_append, decodeFrom, hh]
  simp only [Nat.add_sub_cancel]
  rw [decodeFrom_skip, List.length_cons]
  congr 2; omega

/-- Decoding undoes encoding, from any position. -/
theorem decodeFrom_encode (cs : List Char) (position : Nat) :
    decodeFrom position 0 (encode cs) = .ok cs := by
  induction cs generalizing position with
  | nil => rfl
  | cons c cs ih =>
    rw [encode, List.flatMap_cons, decodeFrom_encodeChar]
    rw [show cs.flatMap encodeChar = encode cs from rfl, ih]
    rfl

@[simp] theorem decode_encode (cs : List Char) : decode (encode cs) = .ok cs :=
  decodeFrom_encode cs 0

@[simp] theorem decode_ofString (s : String) : decode (ofString s) = .ok s.toList :=
  decode_encode s.toList

end RouteBook.Text.Utf8
