import RouteBook.Text.Class
import RouteBook.Text.Utf8

/-!
# Percent-encoding

An octet outside a safe set is written as a percent sign and two hexadecimal digits in
upper case. Decoding is the other direction and leaves a percent sign that starts no
escape as it is.
-/

namespace RouteBook.Text.Percent

/-- The octets that a URI component may hold as themselves: ASCII letters and digits and
the marks `-_.~!*'()`. -/
def isComponentSafe (b : UInt8) : Bool :=
  let c := Char.ofNat b.toNat
  b.toNat < 0x80 &&
    (isAsciiLetter c || isAsciiDigit c || c == '-' || c == '_' || c == '.' || c == '~' ||
      c == '!' || c == '*' || b.toNat == 39 || c == '(' || c == ')')

/-- The escape of an octet. -/
def escape (b : UInt8) : List Char :=
  ['%', hexDigitUpper (b.toNat / 16), hexDigitUpper (b.toNat % 16)]

/-- An octet as itself when it is safe, and else its escape. -/
def encodeOctet (safe : UInt8 → Bool) (b : UInt8) : List Char :=
  if safe b then [Char.ofNat b.toNat] else escape b

/-- The octets with all but the safe ones escaped. -/
def encodeOctets (safe : UInt8 → Bool) (bytes : List UInt8) : List Char :=
  bytes.flatMap (encodeOctet safe)

/-- A text as a URI component. -/
def encodeComponent (cs : List Char) : List Char :=
  encodeOctets isComponentSafe (Utf8.encode cs)

/-- The octets that a percent-encoded text stands for. -/
def decodeOctets : List Char → List UInt8
  | [] => []
  | '%' :: a :: b :: rest =>
    match hexValue? a, hexValue? b with
    | some high, some low => UInt8.ofNat (16 * high + low) :: decodeOctets rest
    | _, _ => UInt8.ofNat 37 :: decodeOctets (a :: b :: rest)
  | c :: rest => Utf8.encodeChar c ++ decodeOctets rest

/-- The text that a percent-encoded text stands for, if its octets are UTF-8. -/
def decodeComponent? (cs : List Char) : Option (List Char) :=
  (Utf8.decode (decodeOctets cs)).toOption

end RouteBook.Text.Percent
