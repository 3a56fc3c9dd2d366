import RouteBook.Decimal.Binary64

/-!
# The shortest decimal that reads back

The decimals that round to a number fill an interval around it, which holds its ends
exactly when the mantissa is even. Among the decimals with fewest digits in that interval
the one nearest to the number is written. Positional notation is used for decimal
exponents from -4 to 15.
-/

namespace RouteBook.Decimal

open RouteBook (Binary64)

/-- A decimal: its digits, without zeros at the end, stand for a number `0.d₁d₂… · 10 ^ point`. -/
structure Digits where
  digits : List Char
  point : Int
  deriving DecidableEq, Repr

-- Powers are those of the core library, whatever else is imported beside this module.
attribute [local instance (high)] instPowNat

/-- A quotient times a power of ten, as a quotient. -/
def scaleTen (num den : Nat) (power : Int) : Nat × Nat :=
  if 0 ≤ power then (num * 10 ^ power.toNat, den) else (num, den * 10 ^ (-power).toNat)

/-- The interval of a positive number, in halves and quarters of its last place:
`num / den` is the number, `below` and `above` over `den` are the distances to the ends. -/
structure Interval where
  num : Nat
  den : Nat
  below : Nat
  above : Nat
  closed : Bool

/-- The interval of the values that round to `mantissa · 2 ^ exponent`. -/
def interval (mantissa : Nat) (exponent : Int) : Interval :=
  let closed := mantissa % 2 == 0
  let narrow := mantissa == 2 ^ (52 : Nat) && decide (-1074 < exponent)
  let (num, den) :=
    if 0 ≤ exponent then (4 * mantissa * 2 ^ exponent.toNat, 4)
    else (4 * mantissa, 4 * 2 ^ (-exponent).toNat)
  let unit := if 0 ≤ exponent then 2 ^ exponent.toNat else 1
  ⟨num, den, if narrow then unit else 2 * unit, 2 * unit, closed⟩

/-- Whether `n · 10 ^ place` lies in the interval. -/
def Interval.holds (i : Interval) (n : Nat) (place : Int) : Bool :=
  let (a, b) := if 0 ≤ place then (n * 10 ^ place.toNat * i.den, 1) else (n * i.den, 10 ^ (-place).toNat)
  let low := (i.num - i.below) * b
  let high := (i.num + i.above) * b
  if i.closed then low ≤ a && a ≤ high else low < a && a < high

/-- The least `k` from `k` on with `num / den < 10 ^ k`. -/
def pointFrom (num den : Nat) : Nat → Int → Int
  | 0, k => k
  | fuel + 1, k =>
    let (n, d) := scaleTen num den (-k)
    if n < d then k else pointFrom num den fuel (k + 1)

/-- The `k` with `10 ^ (k - 1) ≤ num / den < 10 ^ k`. -/
def pointOf (num den : Nat) : Int :=
  let bits : Int := (num.log2 : Int) - (den.log2 : Int) - 1
  pointFrom num den 4 (bits * 30103 / 100000)

/-- The candidate with `count` digits in the interval that is nearest to the number. -/
def Interval.candidate (i : Interval) (point : Int) (count : Nat) : Option Nat :=
  let place := point - count
  let (n, d) := scaleTen i.num i.den (-place)
  let low := n / d
  let r := n % d
  let nearLow := if 2 * r < d then true else if d < 2 * r then false else low % 2 == 0
  let inLow := i.holds low place && low != 0
  let inHigh := i.holds (low + 1) place
  if inLow && (nearLow || !inHigh) then some low
  else if inHigh then some (low + 1)
  else none

/-- The first candidate with `count` digits or more. -/
def Interval.search (i : Interval) (point : Int) : (fuel count : Nat) → Nat × Int
  | 0, count => (i.num / i.den, point - count)
  | fuel + 1, count =>
    match i.candidate point count with
    | some n => (n, point - count)
    | none => i.search point fuel (count + 1)

/-- The decimal digits of a number. -/
def natDigits (n : Nat) : List Char :=
  Nat.toDigits 10 n

/-- The digits without zeros at the end. -/
def dropZeros (ds : List Char) : List Char :=
  (ds.reverse.dropWhile (· == '0')).reverse

/-- The shortest digits of `mantissa · 2 ^ exponent`. -/
def shortest (mantissa : Nat) (exponent : Int) : Digits :=
  if mantissa = 0 then ⟨[], 1⟩
  else
    let i := interval mantissa exponent
    let (n, place) := i.search (pointOf i.num i.den) 17 1
    let ds := natDigits n
    ⟨dropZeros ds, place + ds.length⟩

/-- An exponent with its sign and at least two digits. -/
def exponentText (e : Int) : List Char :=
  let ds := natDigits e.natAbs
  (if e < 0 then '-' else '+') :: (if ds.length < 2 then '0' :: ds else ds)

/-- The notation of a decimal: positional when its exponent is from -4 to 15. -/
def Digits.written (d : Digits) : List Char :=
  let e := d.point - 1
  if -4 ≤ e && e < 16 then
    if d.point ≤ 0 then
      '0' :: '.' :: List.replicate (-d.point).toNat '0' ++ (if d.digits.isEmpty then ['0'] else d.digits)
    else
      let whole := d.digits.take d.point.toNat
      let part := d.digits.drop d.point.toNat
      whole ++ List.replicate (d.point.toNat - whole.length) '0' ++ '.' ::
        (if part.isEmpty then ['0'] else part)
  else
    match d.digits with
    | [] => ['0']
    | [c] => c :: 'e' :: exponentText e
    | c :: rest => c :: '.' :: rest ++ 'e' :: exponentText e

/-- How a number is written: shortest digits, `inf`, `-inf` or `nan`. -/
def floatText (x : Binary64) : String :=
  match x.view with
  | .nan => "nan"
  | .infinite negative => if negative then "-inf" else "inf"
  | .finite negative mantissa exponent =>
    let body := (shortest mantissa exponent).written
    String.ofList (if negative then '-' :: body else body)

/-- How an integer is written. -/
def intText (n : Int) : String :=
  String.ofList (if n < 0 then '-' :: natDigits n.natAbs else natDigits n.natAbs)

/-- The most digits that an integer may have to be written in decimal or read from it. -/
def digitLimit : Nat := 4300

/-- Whether an integer has more digits than may be written. -/
def exceedsLimit (n : Int) : Bool :=
  10 ^ digitLimit ≤ n.natAbs

end RouteBook.Decimal
