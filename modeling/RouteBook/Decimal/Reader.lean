import RouteBook.Decimal.Shortest
import RouteBook.Text.Blank
import RouteBook.Text.Case

/-!
# Reading numbers

Integers and floating-point numbers in text: blanks around them, a sign, digits of any
script, and single low lines between digits.
-/

namespace RouteBook.Decimal

open RouteBook (Binary64)
open RouteBook.Text

/-- The number that decimal digits write. -/
def digitsNumber? (cs : List Char) : Option Nat :=
  cs.foldlM (fun n c => (digitValue? c).map (10 * n + ·)) 0

/-- A digit of any script as its ASCII digit, any other character as itself. -/
def asciiDigit (c : Char) : Char :=
  match digitValue? c with
  | some d => Char.ofNat (48 + d)
  | none => c

/-- The characters without the low lines between digits; none when a low line stands
elsewhere. The first argument tells whether a digit was just read. -/
def dropSeparators : Bool → List Char → Option (List Char)
  | _, [] => some []
  | afterDigit, '_' :: rest =>
    match rest with
    | c :: _ => if afterDigit && isAsciiDigit c then dropSeparators false rest else none
    | [] => none
  | _, c :: rest => (dropSeparators (isAsciiDigit c) rest).map (c :: ·)

/-- A sign and what follows it. -/
def splitSign : List Char → Bool × List Char
  | '-' :: rest => (true, rest)
  | '+' :: rest => (false, rest)
  | cs => (false, cs)

/-- The blanks that may stand around a number: all but the four ASCII separators. -/
def isMargin (c : Char) : Bool :=
  isBlank c && !(28 ≤ c.toNat && c.toNat ≤ 31)

/-- The text of a number in ASCII, without the blanks around it and the separators inside. -/
def plainNumber? (cs : List Char) : Option (List Char) :=
  let inner := ((cs.dropWhile isMargin).reverse.dropWhile isMargin).reverse
  dropSeparators false (inner.map asciiDigit)

/-- A nonempty list of ASCII digits as a number. -/
def plainNat? (cs : List Char) : Option Nat :=
  if cs.isEmpty || !cs.all isAsciiDigit then none else digitsNumber? cs

/-- The integer that a text writes, if it writes one with no more digits than the limit. -/
def readInt? (cs : List Char) : Option Int := do
  let plain ← plainNumber? cs
  let (negative, ds) := splitSign plain
  if digitLimit < ds.length then none
  else
    let n ← plainNat? ds
    pure (Binary64.signed negative n)

/-- The exponent that stands at the end of a decimal, with what stands before it. -/
structure Scientific where
  whole : List Char
  part : List Char
  exponent : Int

/-- Reads an optional exponent: `e` or `E`, a sign and at least one digit. -/
def readExponent? : List Char → Option Int
  | [] => some 0
  | c :: rest =>
    if c == 'e' || c == 'E' then
      let (negative, ds) := splitSign rest
      (plainNat? ds).map (Binary64.signed negative)
    else none

/-- Reads digits with an optional point and an optional exponent. -/
def readScientific? (cs : List Char) : Option Scientific := do
  let whole := cs.takeWhile isAsciiDigit
  let rest := cs.dropWhile isAsciiDigit
  let (part, tail) := match rest with
    | '.' :: r => (r.takeWhile isAsciiDigit, r.dropWhile isAsciiDigit)
    | r => ([], r)
  if whole.isEmpty && part.isEmpty then none
  else
    let exponent ← readExponent? tail
    pure ⟨whole, part, exponent⟩

/-- The number nearest to a decimal. Exponents far out of range are cut short: they give
zero or infinity whatever the digits. -/
def Scientific.toBinary64 (s : Scientific) (negative : Bool) : Binary64 :=
  let ds := (s.whole ++ s.part).dropWhile (· == '0')
  let n := (digitsNumber? ds).getD 0
  let power := s.exponent - s.part.length
  if n = 0 then Binary64.ofQuotient negative 0 1
  else if 400 < power + ds.length then Binary64.infinity negative
  else if power + ds.length < -400 then Binary64.ofQuotient negative 0 1
  else
    let (num, den) := scaleTen n 1 power
    Binary64.ofQuotient negative num den

/-- The number that a text writes: a decimal, or a name of infinity or of not a number in
any case. -/
def readFloat? (cs : List Char) : Option Binary64 := do
  let plain ← plainNumber? cs
  let (negative, body) := splitSign plain
  let name := String.ofList (body.flatMap lowerChar)
  if name == "inf" || name == "infinity" then some (Binary64.infinity negative)
  else if name == "nan" then some Binary64.nan
  else (← readScientific? body).toBinary64 negative

end RouteBook.Decimal
