import RouteBook.Text.Encoding

/-!
# UTF-8

Encoding, and decoding octet by octet. A lead octet fixes how many octets follow and which
range the first of them has; the first octet outside its range ends the bad stretch, so an
error names exactly the octets that could not be read.
-/

namespace RouteBook.Text.Utf8

/-- The octets of one character. -/
def encodeChar (c : Char) : List UInt8 :=
  let n := c.toNat
  if n < 0x80 then [UInt8.ofNat n]
  else if n < 0x800 then [UInt8.ofNat (0xC0 + n / 64), UInt8.ofNat (0x80 + n % 64)]
  else if n < 0x10000 then
    [UInt8.ofNat (0xE0 + n / 4096), UInt8.ofNat (0x80 + n / 64 % 64), UInt8.ofNat (0x80 + n % 64)]
  else
    [UInt8.ofNat (0xF0 + n / 262144), UInt8.ofNat (0x80 + n / 4096 % 64),
      UInt8.ofNat (0x80 + n / 64 % 64), UInt8.ofNat (0x80 + n % 64)]

/-- The octets of a text. -/
def encode (cs : List Char) : List UInt8 :=
  cs.flatMap encodeChar

/-- The octets of a text. -/
def ofString (s : String) : List UInt8 :=
  encode s.toList

/-- What a lead octet announces: its own bits, the range of the next octet, and how many
octets follow. -/
structure Lead where
  bits : Nat
  low : Nat
  high : Nat
  following : Nat

/-- What an octet from 0x80 on announces at the start of a character, if it may stand
there. -/
def lead? (b : Nat) : Option Lead :=
  if b < 0xC2 then none
  else if b < 0xE0 then some ⟨b - 0xC0, 0x80, 0xBF, 1⟩
  else if b == 0xE0 then some ⟨0, 0xA0, 0xBF, 2⟩
  else if b == 0xED then some ⟨0xD, 0x80, 0x9F, 2⟩
  else if b < 0xF0 then some ⟨b - 0xE0, 0x80, 0xBF, 2⟩
  else if b == 0xF0 then some ⟨0, 0x90, 0xBF, 3⟩
  else if b < 0xF4 then some ⟨b - 0xF0, 0x80, 0xBF, 3⟩
  else if b == 0xF4 then some ⟨4, 0x80, 0x8F, 3⟩
  else none

/-- Reads `following` more octets, the first of them between `low` and `high`; `seen` octets
of the character have been read. On failure the reason comes with the number of octets in
the bad stretch. -/
def follow : (following seen bits low high : Nat) → List UInt8 →
    Except (Decoding.Reason × Nat) Nat
  | 0, _, bits, _, _, _ => .ok bits
  | _ + 1, seen, _, _, _, [] => .error (.unfinished, seen)
  | following + 1, seen, bits, low, high, b :: rest =>
    if low ≤ b.toNat && b.toNat ≤ high then
      follow following (seen + 1) (64 * bits + (b.toNat - 0x80)) 0x80 0xBF rest
    else .error (.continuation, seen)

/-- What stands at the head of a list of octets: a character and how many octets it takes,
or a bad stretch and its length. -/
def head (b : UInt8) (rest : List UInt8) : Except (Decoding.Reason × Nat) Char × Nat :=
  if b.toNat < 0x80 then (.ok (Char.ofNat b.toNat), 1)
  else
    match lead? b.toNat with
    | none => (.error (.start, 1), 1)
    | some l =>
      match follow l.following 1 l.bits l.low l.high rest with
      | .ok n => (.ok (Char.ofNat n), l.following + 1)
      | .error (r, k) => (.error (r, k), k)

/-- Decodes octets from the given position on. `skip` octets still belong to the character
or stretch that was just read. -/
def decodeFrom (position skip : Nat) : List UInt8 → Except Decoding.Fault (List Char)
  | [] => .ok []
  | b :: rest =>
    match skip with
    | k + 1 => decodeFrom (position + 1) k rest
    | 0 =>
      match head b rest with
      | (.ok c, taken) => (decodeFrom (position + 1) (taken - 1) rest).map (c :: ·)
      | (.error (reason, count), _) => .error ⟨.utf8, position, count, b, reason⟩

/-- The text that octets encode, or the first stretch that is not UTF-8. -/
def decode (bytes : List UInt8) : Except Decoding.Fault (List Char) :=
  decodeFrom 0 0 bytes

/-- The octets with each encoded surrogate replaced. The replacement character takes as many
octets, so positions stay. -/
def withoutSurrogates : List UInt8 → List UInt8
  | 0xED :: a :: b :: rest =>
    if 0xA0 ≤ a && a ≤ 0xBF && 0x80 ≤ b && b ≤ 0xBF then
      0xEF :: 0xBF :: 0xBD :: withoutSurrogates rest
    else 0xED :: withoutSurrogates (a :: b :: rest)
  | a :: rest => a :: withoutSurrogates rest
  | [] => []

/-- The text that octets encode, where each bad stretch becomes one replacement
character. -/
def decodeLossyFrom (skip : Nat) : List UInt8 → List Char
  | [] => []
  | b :: rest =>
    match skip with
    | k + 1 => decodeLossyFrom k rest
    | 0 =>
      match head b rest with
      | (.ok c, taken) => c :: decodeLossyFrom (taken - 1) rest
      | (.error _, taken) => Char.ofNat 0xFFFD :: decodeLossyFrom (taken - 1) rest

/-- The text that octets encode, where each bad stretch becomes one replacement
character. -/
def decodeLossy (bytes : List UInt8) : List Char :=
  decodeLossyFrom 0 bytes

end RouteBook.Text.Utf8
