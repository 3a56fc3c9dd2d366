import RouteBook.Calendar.Moment
import RouteBook.Decimal.Binary64
import RouteBook.Entries
import RouteBook.Fault
import RouteBook.Text.Letter

/-!
# Values

The values that messages, schemas and settings hold. Their kinds are not known in advance,
so one type has them all; maps keep the order of their keys.

Messages and credentials may hold ragged texts. These are texts like others and show their faces, but
what they are a part of has no form in UTF-8 (`Value.isEncodable`). Schemas and settings are supposed to
hold none.
-/

namespace RouteBook

/-- A value of any kind. -/
inductive Value where
  | null
  | bool (b : Bool)
  | int (n : Int)
  | float (x : Binary64)
  | text (s : String)
  /-- A text with a unit that has no partner. -/
  | ragged (r : Text.Ragged)
  | bytes (b : List UInt8)
  | moment (t : Calendar.Moment)
  | list (items : List Value)
  | tuple (items : List Value)
  | set (items : List Value)
  | map (entries : List (String × Value))
  /-- A map with a ragged key; its keys are the faces. -/
  | raggedMap (entries : List (String × Value))
  /-- The map whose only entry, under the key `self`, is that map. -/
  | loop
  deriving Repr, Inhabited

/-- The parameters of a call by name. -/
abbrev Message := Entries Value

/-- The value under a key, null when the key is absent. -/
def Entries.value (es : Entries Value) (key : String) : Value :=
  (es.get? key).getD .null

namespace Value

/-- The entries of a map. -/
def entries? : Value → Option (Entries Value)
  | map entries | raggedMap entries => some entries
  | loop => some [("self", loop)]
  | _ => none

/-- Whether the value is a map. -/
def isMap (v : Value) : Bool :=
  v.entries?.isSome

/-- Whether the value is a map, a list or a tuple. -/
def isContainer : Value → Bool
  | map _ | raggedMap _ | loop | list _ | tuple _ => true
  | _ => false

/-- Whether the value counts as true: it is none of null, false, zero and the empty
values. -/
def truthy : Value → Bool
  | null => false
  | bool b => b
  | int n => n != 0
  | float x => !x.isZero
  | text s => s != ""
  | bytes b => !b.isEmpty
  | list items | tuple items | set items => !items.isEmpty
  | map entries | raggedMap entries => !entries.isEmpty
  | ragged _ | moment _ | loop => true

/-- The fault of asking a value that is no map for a map's members. -/
def notMap : Fault :=
  .noMember "not a map"

/-- The entries of a map; a value of another kind has none. -/
def entries (v : Value) : Except Fault (Entries Value) :=
  match v.entries? with
  | some es => .ok es
  | none => .error notMap

/-- The value if it counts as true, else the other one. -/
def orElse (v other : Value) : Value :=
  if v.truthy then v else other

/-- The value if it counts as true. -/
def whenTrue? (v : Value) : Option Value :=
  if v.truthy then some v else none

/-- Whether the value is null. -/
def isNull : Value → Bool
  | null => true
  | _ => false

/-- Whether the value is a text, ragged or not. -/
def isText : Value → Bool
  | text _ | ragged _ => true
  | _ => false

/-- Whether the value is a ragged text. -/
def isRagged : Value → Bool
  | ragged _ => true
  | _ => false

/-- The text with the given letters. -/
def ofLetters (letters : List Text.Letter) : Value :=
  if h : letters.any Text.Letter.isLone = true then ragged ⟨letters, h⟩
  else text (String.ofList (letters.map Text.Letter.face))

/-- The map with the given entries. -/
def ofEntries (hasRaggedKey : Bool) (entries : List (String × Value)) : Value :=
  if hasRaggedKey then raggedMap entries else map entries

mutual

/-- Whether every text that is written for the value has a form in UTF-8. The members of a set are shown,
and not written. -/
def isEncodable : Value → Bool
  | ragged _ | raggedMap _ => false
  | list items | tuple items => areEncodable items
  | map entries => entriesAreEncodable entries
  | _ => true

/-- Whether all values have forms in UTF-8. -/
def areEncodable : List Value → Bool
  | [] => true
  | v :: rest => v.isEncodable && areEncodable rest

/-- Whether the values of all entries have forms in UTF-8. -/
def entriesAreEncodable : List (String × Value) → Bool
  | [] => true
  | (_, v) :: rest => v.isEncodable && entriesAreEncodable rest

end

/-- The items that iterating over a value gives: the items of a sequence, the characters of
a text, the keys of a map, the octets of an octet string. -/
def items : Value → Except Fault (List Value)
  | list xs | tuple xs | set xs => .ok xs
  | text s => .ok (s.toList.map fun c => text c.toString)
  | ragged r => .ok (r.letters.map fun l => ofLetters [l])
  | map es | raggedMap es => .ok (es.map fun e => text e.1)
  | loop => .ok [text "self"]
  | bytes b => .ok (b.map fun x => int x.toNat)
  | _ => .error .wrongType

theorem ofLetters_char (cs : List Char) : ofLetters (cs.map .char) = text (String.ofList cs) := by
  have hplain : ¬ (cs.map Text.Letter.char).any Text.Letter.isLone = true := by
    rw [Text.Letter.any_isLone_char]
    exact Bool.false_ne_true
  rw [ofLetters, dif_neg hplain, Text.Letter.map_face_char]

theorem ofLetters_ragged (r : Text.Ragged) : ofLetters r.letters = ragged r :=
  dif_pos r.isRagged

theorem ofLetters_cases (letters : List Text.Letter) :
    (∃ s, ofLetters letters = text s) ∨ ∃ r, ofLetters letters = ragged r := by
  unfold ofLetters
  split
  · exact .inr ⟨_, rfl⟩
  · exact .inl ⟨_, rfl⟩

theorem ofLetters_ne_null (letters : List Text.Letter) : ofLetters letters ≠ null := by
  rcases ofLetters_cases letters with ⟨s, hs⟩ | ⟨r, hr⟩
  · exact fun h => nomatch hs.symm.trans h
  · exact fun h => nomatch hr.symm.trans h

end Value

end RouteBook
