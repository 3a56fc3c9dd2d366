import RouteBook.Decimal.Shortest
import RouteBook.Text.Hex
import RouteBook.Text.Pieces
import RouteBook.Value.Basic

/-!
# Writing JSON

A style says what stands between items and after keys, whether characters beyond ASCII are
escaped, and how a value that JSON has no form for is written. The numbers that are not
finite are written by name, and ragged texts by their faces.
-/

namespace RouteBook.Json

open RouteBook.Text

/-- The choices that a JSON text leaves open. -/
structure Style where
  itemSeparator : List Char
  keySeparator : List Char
  asciiOnly : Bool
  /-- The text that stands for a value that JSON has no form for. -/
  fallback : Value → Except Fault String

/-- The escape of a code point below 65536. -/
def unicodeEscape (n : Nat) : List Char :=
  '\\' :: 'u' :: hexPadded 4 n

/-- How a character is written inside a JSON string. -/
def stringChar (asciiOnly : Bool) (c : Char) : List Char :=
  if c.toNat == 34 || c == '\\' then ['\\', c]
  else if c == '\n' then ['\\', 'n']
  else if c == '\r' then ['\\', 'r']
  else if c == '\t' then ['\\', 't']
  else if c.toNat == 8 then ['\\', 'b']
  else if c.toNat == 12 then ['\\', 'f']
  else if c.toNat < 32 then unicodeEscape c.toNat
  else if asciiOnly && 126 < c.toNat then
    if c.toNat < 0x10000 then unicodeEscape c.toNat
    else
      let n := c.toNat - 0x10000
      unicodeEscape (0xD800 + n / 1024) ++ unicodeEscape (0xDC00 + n % 1024)
  else [c]

/-- The double quote. -/
def quoteMark : Char := Char.ofNat 34

/-- A JSON string. -/
def stringText (asciiOnly : Bool) (s : List Char) : List Char :=
  quoteMark :: s.flatMap (stringChar asciiOnly) ++ [quoteMark]

/-- A number as JSON writes it. -/
def floatLiteral (x : Binary64) : List Char :=
  match x.view with
  | .nan => "NaN".toList
  | .infinite negative => (if negative then "-Infinity" else "Infinity").toList
  | .finite .. => (Decimal.floatText x).toList

/-- An integer as JSON writes it. -/
def intLiteral (n : Int) : Except Fault (List Char) :=
  if Decimal.exceedsLimit n then .error .badValue else .ok (Decimal.intText n).toList

mutual

/-- A value as JSON text. -/
def write (style : Style) : Value → Except Fault (List Char)
  | .null => .ok "null".toList
  | .bool b => .ok (if b then "true" else "false").toList
  | .int n => intLiteral n
  | .float x => .ok (floatLiteral x)
  | .text s => .ok (stringText style.asciiOnly s.toList)
  | .ragged r => .ok (stringText style.asciiOnly r.face.toList)
  | .list items => do
    let texts ← writeItems style items
    pure ('[' :: joinWith style.itemSeparator texts ++ [']'])
  | .tuple items => do
    let texts ← writeItems style items
    pure ('[' :: joinWith style.itemSeparator texts ++ [']'])
  | .map entries => do
    let texts ← writeEntries style entries
    pure ('\x7b' :: joinWith style.itemSeparator texts ++ ['\x7d'])
  | .raggedMap entries => do
    let texts ← writeEntries style entries
    pure ('\x7b' :: joinWith style.itemSeparator texts ++ ['\x7d'])
  | .loop => .error .badValue
  | .bytes b => do
    let s ← style.fallback (.bytes b)
    pure (stringText style.asciiOnly s.toList)
  | .moment t => do
    let s ← style.fallback (.moment t)
    pure (stringText style.asciiOnly s.toList)
  | .set items => do
    let s ← style.fallback (.set items)
    pure (stringText style.asciiOnly s.toList)

/-- The items of a list as JSON texts. -/
def writeItems (style : Style) : List Value → Except Fault (List (List Char))
  | [] => .ok []
  | v :: rest => do
    let head ← write style v
    let tail ← writeItems style rest
    pure (head :: tail)

/-- The entries of a map as JSON texts. -/
def writeEntries (style : Style) : List (String × Value) → Except Fault (List (List Char))
  | [] => .ok []
  | (k, v) :: rest => do
    let head ← write style v
    let tail ← writeEntries style rest
    pure ((stringText style.asciiOnly k.toList ++ style.keySeparator ++ head) :: tail)

end

/-- The style of values on the wire: no spaces, characters as themselves, moments by their
ISO text. -/
def compact : Style where
  itemSeparator := [',']
  keySeparator := [':']
  asciiOnly := false
  fallback
    | .moment t => .ok t.isoText
    | _ => .error .wrongType

/-- A value as compact JSON text. -/
def writeCompact (v : Value) : Except Fault String :=
  (write compact v).map String.ofList

end RouteBook.Json
