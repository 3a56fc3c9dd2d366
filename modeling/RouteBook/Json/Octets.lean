import RouteBook.Json.Reader
import RouteBook.Text.Utf8

/-!
# Documents of octets

A document shows its encoding by a mark in front or, since it starts with a character of ASCII, by the
zeros among its first octets. Units without a partner are read as their faces.
-/

namespace RouteBook.Json

open RouteBook.Text

/-- The encoding of a document without a mark. -/
def detectPlain : List UInt8 → Encoding
  | a :: b :: c :: d :: _ =>
    if a = 0 then if b = 0 then .utf32 .big else .utf16 .big
    else if b = 0 then if c = 0 ∧ d = 0 then .utf32 .little else .utf16 .little
    else .utf8
  | [a, b] => if a = 0 then .utf16 .big else if b = 0 then .utf16 .little else .utf8
  | _ => .utf8

/-- The encoding of a document and the number of octets of its mark. -/
def detect : List UInt8 → Encoding × Nat
  | 0x00 :: 0x00 :: 0xFE :: 0xFF :: _ => (.utf32 .big, 4)
  | 0xFF :: 0xFE :: 0x00 :: 0x00 :: _ => (.utf32 .little, 4)
  | 0xFE :: 0xFF :: _ => (.utf16 .big, 2)
  | 0xFF :: 0xFE :: _ => (.utf16 .little, 2)
  | 0xEF :: 0xBB :: 0xBF :: _ => (.utf8, 3)
  | bytes => (detectPlain bytes, 0)

/-- The number that the octets of a unit write. -/
def unitOf (order : Order) (octets : List UInt8) : Nat :=
  let inOrder := match order with
    | .big => octets
    | .little => octets.reverse
  inOrder.foldl (fun n b => 256 * n + b.toNat) 0

/-- The text of octets in units of two. -/
def decodeDouble (order : Order) (position : Nat) (u : Units) :
    List UInt8 → Except Decoding.Fault (List Char)
  | a :: b :: rest => decodeDouble order (position + 2) (u.unit (unitOf order [a, b])) rest
  | [a] => .error ⟨.utf16 order, position, 1, a, .truncated⟩
  | [] => .ok (u.settled.reverse.map Letter.face)

/-- The text of octets in units of four. Units of pairs have no partner here. -/
def decodeFourfold (order : Order) (position : Nat) :
    List UInt8 → Except Decoding.Fault (List Char)
  | a :: b :: c :: d :: rest =>
    let n := unitOf order [a, b, c, d]
    if 0x110000 ≤ n then .error ⟨.utf32 order, position, 4, a, .outOfRange⟩
    else
      let char := if isHighUnit n || isLowUnit n then replacement else Char.ofNat n
      (decodeFourfold order (position + 4) rest).map (char :: ·)
  | a :: rest => .error ⟨.utf32 order, position, rest.length + 1, a, .truncated⟩
  | [] => .ok []

/-- The text of a document. Positions count the octets of a mark, except in UTF-8. -/
def decodeDocument (bytes : List UInt8) : Except Decoding.Fault (List Char) :=
  let (encoding, mark) := detect bytes
  match encoding with
  | .utf8 => Utf8.decode (Utf8.withoutSurrogates (bytes.drop mark))
  | .utf16 order => decodeDouble order mark .none (bytes.drop mark)
  | .utf32 order => decodeFourfold order mark (bytes.drop mark)

/-- The value that octets write. Stands for a library that reads them by the marks and zeros in front; no
result of this project leans on it. -/
def readOctets (bytes : List UInt8) : Except RouteBook.Fault Value :=
  match decodeDocument bytes with
  | .ok text => readPlain text
  | .error f => .error (.undecodable f)

theorem isValueFault_of_readOctets {bytes : List UInt8} {f : RouteBook.Fault}
    (h : readOctets bytes = .error f) : f.isValueFault = true := by
  unfold readOctets at h
  split at h
  · exact isValueFault_of_readFrom h
  · exact Except.error.inj h ▸ rfl

end RouteBook.Json
