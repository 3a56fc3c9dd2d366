import RouteBook.Text.Class
import RouteBook.Text.Hex

/-!
# Quoted text

The form in which a text or an octet string stands inside a printed list or map: between
single quotes, or between double quotes when it holds a single quote and no double one;
unprintable characters are escaped.
-/

namespace RouteBook.Text

/-- The single quote. -/
def singleQuote : Char := Char.ofNat 39

/-- The double quote. -/
def doubleQuote : Char := Char.ofNat 34

/-- The quote that surrounds a text with these characters. -/
def quoteFor (cs : List Char) : Char :=
  if cs.contains singleQuote && !cs.contains doubleQuote then doubleQuote else singleQuote

/-- How a character is written between quotes. -/
def escapeChar (quote c : Char) : List Char :=
  if c == quote || c == '\\' then ['\\', c]
  else if c == '\n' then ['\\', 'n']
  else if c == '\r' then ['\\', 'r']
  else if c == '\t' then ['\\', 't']
  else if isPrintable c then [c]
  else if c.toNat < 0x100 then '\\' :: 'x' :: hexPadded 2 c.toNat
  else if c.toNat < 0x10000 then '\\' :: 'u' :: hexPadded 4 c.toNat
  else '\\' :: 'U' :: hexPadded 8 c.toNat

/-- A text between quotes. -/
def quote (cs : List Char) : List Char :=
  let q := quoteFor cs
  q :: cs.flatMap (escapeChar q) ++ [q]

/-- How an octet is written between quotes. -/
def escapeOctet (quote : Char) (b : UInt8) : List Char :=
  if b.toNat < 0x7F then escapeChar quote (Char.ofNat b.toNat)
  else '\\' :: 'x' :: hexPadded 2 b.toNat

/-- An octet string between quotes, after the letter `b`. -/
def quoteOctets (bytes : List UInt8) : List Char :=
  let q := quoteFor (bytes.map fun b => Char.ofNat b.toNat)
  'b' :: q :: bytes.flatMap (escapeOctet q) ++ [q]

end RouteBook.Text
