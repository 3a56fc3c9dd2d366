import RouteBook.Text.Hex

/-!
# Encodings

How texts are written as octets, and what is wrong with octets that are no text.
-/

namespace RouteBook.Text

/-- Which octet of a unit comes first. -/
inductive Order where
  | big
  | little
  deriving DecidableEq, Repr

/-- A way to write texts as octets, in units of one, two or four. -/
inductive Encoding where
  | utf8
  | utf16 (order : Order)
  | utf32 (order : Order)
  deriving DecidableEq, Repr

/-- What an encoding is called. -/
def Encoding.name : Encoding → String
  | utf8 => "utf-8"
  | utf16 .big => "utf-16-be"
  | utf16 .little => "utf-16-le"
  | utf32 .big => "utf-32-be"
  | utf32 .little => "utf-32-le"

namespace Decoding

/-- Why octets are no text. -/
inductive Reason where
  | start
  | continuation
  | unfinished
  /-- Too few octets for a unit are left. -/
  | truncated
  | outOfRange
  deriving DecidableEq, Repr

/-- What the reason is called. -/
def Reason.text : Reason → String
  | .start => "invalid start byte"
  | .continuation => "invalid continuation byte"
  | .unfinished => "unexpected end of data"
  | .truncated => "truncated data"
  | .outOfRange => "code point not in range(0x110000)"

/-- A stretch of `count` octets from position `position` on that is no text. -/
structure Fault where
  encoding : Encoding
  position : Nat
  count : Nat
  octet : UInt8
  reason : Reason
  deriving DecidableEq, Repr

/-- The message for octets that are no text. -/
def Fault.message (f : Fault) : String :=
  if f.count == 1 then
    s!"'{f.encoding.name}' codec can't decode byte 0x{String.ofList (hexPadded 2 f.octet.toNat)} in position {f.position}: {f.reason.text}"
  else
    s!"'{f.encoding.name}' codec can't decode bytes in position {f.position}-{f.position + f.count - 1}: {f.reason.text}"

end Decoding

end RouteBook.Text
