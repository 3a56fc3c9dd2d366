import RouteBook.Text.Letter
import RouteBook.Text.Utf8
import RouteBook.Value.Basic

/-!
# Texts of the system

The system has octets for the names of files and for variables. Where these are not UTF-8, they stand in
a text as units without partners, so a text that comes from the system or goes there may be ragged.
-/

namespace RouteBook

namespace Text

/-- The octets of a letter in a name. Of the units without partners only some stand for an octet. -/
def Letter.octets? : Letter → Option (List UInt8)
  | char c => some (Utf8.encodeChar c)
  | lone unit =>
    if 0x480 ≤ unit.val && unit.val < 0x500 then some [UInt8.ofNat (unit.val - 0x400)] else none

/-- The octets of a name. -/
def Ragged.octets? (r : Ragged) : Option (List UInt8) :=
  (r.letters.mapM Letter.octets?).map List.flatten

/-- Octets as a text, with a character for each. -/
def octetText (octets : List UInt8) : String :=
  String.ofList (octets.map fun b => Char.ofNat b.toNat)

end Text

/-- A text, ragged or not. -/
inductive AnyText where
  | plain (s : String)
  | ragged (r : Text.Ragged)
  deriving DecidableEq, Repr

namespace AnyText

instance : Coe String AnyText := ⟨plain⟩

/-- The text that is shown. -/
def face : AnyText → String
  | plain s => s
  | ragged r => r.face

def toValue : AnyText → Value
  | plain s => .text s
  | ragged r => .ragged r

/-- The text that a value is. -/
def ofValue? : Value → Option AnyText
  | .text s => some s
  | .ragged r => some (ragged r)
  | _ => none

/-- The name as the system has it, octet by octet. -/
def systemName? : AnyText → Option String
  | plain s => some (Text.octetText (Text.Utf8.ofString s))
  | ragged r => r.octets?.map Text.octetText

/-- Whether the system can be asked for what has this name. -/
def isAskable (t : AnyText) : Bool :=
  t.systemName?.isSome

theorem ofValue?_eq_some_iff {v : Value} {t : AnyText} : ofValue? v = some t ↔ v = t.toValue := by
  constructor
  · intro h
    cases v with
    | text s | ragged r =>
      obtain rfl := Option.some.inj h
      rfl
    | _ => exact nomatch h
  · rintro rfl
    cases t <;> rfl

theorem isNull_toValue (t : AnyText) : t.toValue.isNull = false := by
  cases t <;> rfl

theorem truthy_toValue (t : AnyText) : t.toValue.truthy = (t != "") := by
  cases t with
  | plain s =>
    show (s != "") = (plain s != plain "")
    rw [Bool.eq_iff_iff, bne_iff_ne, bne_iff_ne, ne_eq, ne_eq, plain.injEq]
  | ragged r => rfl

end AnyText

end RouteBook
