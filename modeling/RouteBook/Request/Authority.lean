import RouteBook.Decimal.Reader
import RouteBook.Fault
import RouteBook.Text.Case
import RouteBook.Text.Hex
import RouteBook.Text.Pieces

/-!
# Hosts and ports

The part of an address that names a machine: user information before an at sign, a host,
which stands in brackets if it is a numeric address with colons, and a port.
-/

namespace RouteBook.Authority

open RouteBook.Text

/-! ## Numeric addresses -/

/-- Whether a text is one of the four numbers of an address with points. -/
def isByteNumber (cs : List Char) : Bool :=
  cs.length ≤ 3 && !(cs.length != 1 && cs.head? == some '0') &&
    (Decimal.plainNat? cs).any (· ≤ 255)

/-- Whether a text is an address of four numbers. -/
def isPointAddress (cs : List Char) : Bool :=
  let parts := pieces '.' cs
  parts.length == 4 && parts.all isByteNumber

/-- Whether a text is one group of an address with colons. -/
def isGroup (cs : List Char) : Bool :=
  !cs.isEmpty && cs.length ≤ 4 && cs.all fun c => (hexValue? c).isSome

/-- The groups of an address with colons. An address with points at the end counts as two. -/
def colonGroups? (cs : List Char) : Option (List (List Char)) :=
  let parts := pieces ':' cs
  let last := parts.getLastD []
  if last.contains '.' then
    if isPointAddress last then some (parts.dropLast ++ [['0'], ['0']]) else none
  else some parts

/-- The groups on both sides of the place where groups are left out. None if there is not
exactly one such place. Only at either end may it show as two empty groups. -/
def splitGap? (parts : List (List Char)) : Option (List (List Char) × List (List Char)) :=
  let inner := parts.tail.dropLast
  let before := parts.take (1 + (inner.takeWhile (!·.isEmpty)).length)
  let after := parts.drop (before.length + 1)
  let trimmedBefore := if before == [[]] then [] else before
  let trimmedAfter := if after == [[]] then [] else after
  if (inner.filter (·.isEmpty)).length == 1 then some (trimmedBefore, trimmedAfter) else none

/-- Whether a text is an address of eight groups with colons, a run of which may be left
out. -/
def isColonAddress (cs : List Char) : Bool :=
  match colonGroups? cs with
  | none => false
  | some parts =>
    if parts.length < 3 || 9 < parts.length then false
    else if parts.tail.dropLast.any (·.isEmpty) then
      match splitGap? parts with
      | none => false
      | some (before, after) =>
        before.all isGroup && after.all isGroup && before.length + after.length < 8
    else parts.length == 8 && parts.all isGroup

/-- Whether a text is an address with colons, with an optional zone after a percent sign. -/
def isZonedAddress (cs : List Char) : Bool :=
  let address := cs.takeWhile (· != '%')
  let zone := cs.drop address.length
  !cs.contains '/' && isColonAddress address &&
    match zone with
    | [] => true
    | _ :: name => !name.isEmpty && !name.contains '%'

/-- Whether a text is an address of a version to come: `v`, hexadecimal digits, a point and
anything. -/
def isFutureAddress (cs : List Char) : Bool :=
  match cs with
  | 'v' :: rest =>
    let version := rest.takeWhile fun c => (hexValue? c).isSome
    match rest.drop version.length with
    | '.' :: c :: tail => !version.isEmpty && !(c :: tail).contains '\n'
    | _ => false
  | _ => false

/-- Whether a text may stand in brackets. -/
def isBracketed (cs : List Char) : Bool :=
  if cs.head? == some 'v' then isFutureAddress cs else isZonedAddress cs

/-! ## Splitting -/

/-- What stands before and after the first occurrence of a character; the second part is
empty if there is none. -/
def cut (mark : Char) (cs : List Char) : List Char × List Char :=
  (cs.takeWhile (· != mark), (cs.dropWhile (· != mark)).drop 1)

/-- What stands after the last at sign. -/
def withoutUser (cs : List Char) : List Char :=
  (cs.reverse.takeWhile (· != '@')).reverse

/-- The host and the port of an authority, each possibly empty. -/
def hostAndPort (authority : List Char) : List Char × List Char :=
  let place := withoutUser authority
  if place.contains '[' then
    let (host, after) := cut ']' (cut '[' place).2
    (host, (cut ':' after).2)
  else cut ':' place

/-- The host in lower case, but not its zone. -/
def lowerHost (host : List Char) : List Char :=
  let name := host.takeWhile (· != '%')
  lowerChars name ++ host.drop name.length

/-- Characters beyond ASCII that are written like a mark of the address. -/
def lookalikes : List Nat :=
  [0x2047, 0x2048, 0x2049, 0x2100, 0x2101, 0x2105, 0x2106, 0x2a74, 0xfe13, 0xfe16, 0xfe55,
    0xfe56, 0xfe5f, 0xfe6b, 0xff03, 0xff0f, 0xff1a, 0xff1f, 0xff20]

/-- A machine to talk to. -/
structure Place where
  scheme : String
  /-- The host; none if it is empty. -/
  host : Option String
  /-- The port; none if it is not given or zero. -/
  port : Option Nat
  deriving Repr, DecidableEq

/-- The port that digits write. -/
def portOf? (cs : List Char) : Except Fault (Option Nat) :=
  if cs.isEmpty then .ok none
  else if !cs.all isAsciiDigit || Decimal.digitLimit < cs.length then .error .badValue
  else
    let n := (Decimal.digitsNumber? cs).getD 0
    if 65535 < n then .error .badValue else .ok (if n = 0 then none else some n)

/-- Whether the brackets of an authority are in order. -/
def bracketsFit (authority : List Char) : Bool :=
  let opened := authority.contains '['
  let closed := authority.contains ']'
  opened == closed && (!opened || isBracketed (cut ']' (cut '[' authority).2).1)

/-- The machine that an address with the given scheme names. What follows the scheme and
two slashes is `rest`. -/
def ofRest (scheme : String) (rest : List Char) : Except Fault Place :=
  let clean := rest.filter fun c => !(c == '\t' || c == '\r' || c == '\n')
  let authority := clean.takeWhile fun c => !(c == '/' || c == '?' || c == '#')
  if !bracketsFit authority || authority.any (fun c => lookalikes.contains c.toNat) then
    .error .badValue
  else do
    let (host, port) := hostAndPort authority
    let port ← portOf? port
    pure {
      scheme
      host := if host.isEmpty then none else some (String.ofList (lowerHost host))
      port }

/-- The machine that a text names: an address of one of two schemes, or the rest of a secure
one. -/
def ofText (s : String) : Except Fault Place :=
  match Text.after? "http://".toList s.toList, Text.after? "https://".toList s.toList with
  | some rest, _ => ofRest "http" rest
  | none, some rest => ofRest "https" rest
  | none, none => ofRest "https" s.toList

end RouteBook.Authority
