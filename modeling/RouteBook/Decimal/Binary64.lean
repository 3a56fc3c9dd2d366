/-!
# Double-precision numbers

A number is its sixty-four bits. Everything about it is said through its view: not a
number, infinite, or a sign, a mantissa and a power of two. Rounding goes the other way:
an exact quotient of natural numbers becomes the nearest number, ties to the even
mantissa.
-/

namespace RouteBook

/-- A double-precision number. -/
structure Binary64 where
  bits : UInt64
  deriving DecidableEq, Repr, Inhabited

namespace Binary64

/-- What the bits of a number say. A finite number is `± mantissa · 2 ^ exponent`. -/
inductive View where
  | nan
  | infinite (negative : Bool)
  | finite (negative : Bool) (mantissa : Nat) (exponent : Int)
  deriving DecidableEq, Repr

-- Powers are those of the core library, whatever else is imported beside this module.
attribute [local instance (high)] instPowNat

/-- Whether the sign bit is set. -/
def negative (x : Binary64) : Bool :=
  2 ^ (63 : Nat) ≤ x.bits.toNat

/-- The bits that code the exponent. -/
def exponentBits (x : Binary64) : Nat :=
  x.bits.toNat / 2 ^ (52 : Nat) % 2 ^ (11 : Nat)

/-- The bits that code the mantissa. -/
def fractionBits (x : Binary64) : Nat :=
  x.bits.toNat % 2 ^ (52 : Nat)

/-- Reads the bits. -/
def view (x : Binary64) : View :=
  if x.exponentBits = 2047 then
    if x.fractionBits = 0 then .infinite x.negative else .nan
  else if x.exponentBits = 0 then .finite x.negative x.fractionBits (-1074)
  else .finite x.negative (2 ^ (52 : Nat) + x.fractionBits) ((x.exponentBits : Int) - 1075)

/-- The number with the given sign and the given magnitude bits. -/
def ofMagnitude (negative : Bool) (magnitude : Nat) : Binary64 :=
  ⟨UInt64.ofNat (if negative then 2 ^ (63 : Nat) + magnitude else magnitude)⟩

/-- The magnitude bits of infinity. -/
def infinityBits : Nat := 2047 * 2 ^ (52 : Nat)

/-- An infinity. -/
def infinity (negative : Bool) : Binary64 :=
  ofMagnitude negative infinityBits

/-- Not a number. -/
def nan : Binary64 :=
  ofMagnitude false (2047 * 2 ^ (52 : Nat) + 2 ^ (51 : Nat))

/-- Zero. -/
def zero : Binary64 :=
  ofMagnitude false 0

/-- `num / den` rounded to the nearest natural number, a tie to the even one. -/
def roundHalfEven (num den : Nat) : Nat :=
  let q := num / den
  let r := num % den
  if 2 * r < den then q
  else if den < 2 * r then q + 1
  else if q % 2 = 0 then q else q + 1

/-- The quotient and divisor scaled by `2 ^ -exponent`. -/
def scale (num den : Nat) (exponent : Int) : Nat × Nat :=
  if 0 ≤ exponent then (num, den * 2 ^ exponent.toNat) else (num * 2 ^ (-exponent).toNat, den)

/-- The exponent at which the mantissa of `num / den` has fifty-three bits, but not below
that of the smallest numbers. -/
def exponentFor (num den : Nat) : Int :=
  let guess : Int := (num.log2 : Int) - (den.log2 : Int) - 52
  let (n, d) := scale num den guess
  let exponent := if n < d * 2 ^ (52 : Nat) then guess - 1 else guess
  if exponent < -1074 then -1074 else exponent

/-- The number nearest to `± num / den`, infinite when that is out of range. -/
def ofQuotient (negative : Bool) (num den : Nat) : Binary64 :=
  if num = 0 then ofMagnitude negative 0
  else
    let exponent := exponentFor num den
    let (n, d) := scale num den exponent
    let magnitude := (exponent + 1074).toNat * 2 ^ (52 : Nat) + roundHalfEven n d
    ofMagnitude negative (min magnitude infinityBits)

/-- The exact value of a finite number as a sign and a quotient. -/
def toQuotient? (x : Binary64) : Option (Bool × Nat × Nat) :=
  match x.view with
  | .finite negative mantissa exponent =>
    if 0 ≤ exponent then some (negative, mantissa * 2 ^ exponent.toNat, 1)
    else some (negative, mantissa, 2 ^ (-exponent).toNat)
  | _ => none

/-- Whether the number is not a number. -/
def isNaN (x : Binary64) : Bool :=
  x.view == .nan

/-- Whether the number is neither infinite nor not a number. -/
def isFinite (x : Binary64) : Bool :=
  x.toQuotient?.isSome

/-- Whether the number is a zero of either sign. -/
def isZero (x : Binary64) : Bool :=
  x.bits.toNat % 2 ^ (63 : Nat) == 0

/-- The integer with the given sign and magnitude. -/
def signed (negative : Bool) (n : Nat) : Int :=
  if negative then -(n : Int) else n

/-- The number cut towards zero to an integer, when it is finite. -/
def truncate? (x : Binary64) : Option Int :=
  x.toQuotient?.map fun (negative, num, den) => signed negative (num / den)

/-- The integer that the number is, if it is one. -/
def toInt? (x : Binary64) : Option Int :=
  match x.toQuotient? with
  | some (negative, num, den) => if num % den = 0 then some (signed negative (num / den)) else none
  | none => none

/-- The number nearest to an integer over a divisor, unless that is out of range. -/
def ofIntQuotient? (n : Int) (den : Nat) : Option Binary64 :=
  let x := ofQuotient (n < 0) n.natAbs den
  if x.isFinite then some x else none

/-- The number nearest to an integer, unless that is out of range. -/
def ofInt? (n : Int) : Option Binary64 :=
  ofIntQuotient? n 1

/-- The number over a divisor, rounded. -/
def divNat (x : Binary64) (den : Nat) : Binary64 :=
  match x.toQuotient? with
  | some (negative, num, d) => ofQuotient negative num (d * den)
  | none => x

end Binary64

end RouteBook
