import RouteBook.Text.Class
import RouteBook.Text.Table.CaseMap
import RouteBook.Text.Table.CaseContext

/-!
# Upper and lower case

The full case maps: one character may become several, and the capital sigma becomes the
final small sigma at the end of a word.
-/

namespace RouteBook.Text

/-- The shift that a run of a case table gives to a code point. -/
def shiftIn (runs : List (Nat × Nat × Nat × Int)) (n : Nat) : Option Int :=
  runs.findSome? fun (first, last, step, shift) =>
    if first ≤ n && n ≤ last && (n - first) % step == 0 then some shift else none

/-- The image of a character under a case map given by its runs and its expansions. -/
def mapCase (runs : List (Nat × Nat × Nat × Int)) (expansions : List (Nat × List Nat))
    (c : Char) : List Char :=
  match shiftIn runs c.toNat with
  | some shift => [Char.ofNat ((c.toNat : Int) + shift).toNat]
  | none =>
    match expansions.lookup c.toNat with
    | some ns => ns.map Char.ofNat
    | none => [c]

/-- The upper case of one character. -/
def upperChar (c : Char) : List Char :=
  if c.toNat < 0x80 then
    if 'a' ≤ c && c ≤ 'z' then [Char.ofNat (c.toNat - 32)] else [c]
  else mapCase Table.upperRuns Table.upperExpansions c

/-- The lower case of one character that stands alone. -/
def lowerChar (c : Char) : List Char :=
  if c.toNat < 0x80 then
    if 'A' ≤ c && c ≤ 'Z' then [Char.ofNat (c.toNat + 32)] else [c]
  else mapCase Table.lowerRuns Table.lowerExpansions c

/-- A letter with case, unless it is case-ignorable. -/
def isCased (c : Char) : Bool :=
  if c.toNat < 0x80 then isAsciiLetter c else inRanges Table.casedRanges c.toNat

/-- A character that is skipped in deciding the form of a sigma. -/
def isCaseIgnorable (c : Char) : Bool :=
  if c.toNat < 0x80 then
    c.toNat == 39 || c == '.' || c == ':' || c == '^' || c.toNat == 96
  else inRanges Table.caseIgnorableRanges c.toNat

/-- Whether the first character that is not case-ignorable is a cased letter. -/
def meetsCased (cs : List Char) : Bool :=
  match cs.dropWhile isCaseIgnorable with
  | [] => false
  | c :: _ => isCased c

/-- The lower case of the capital sigma between a reversed text and a text. -/
def lowerSigma (before after : List Char) : Char :=
  if meetsCased before && !meetsCased after then 'ς' else 'σ'

/-- The lower case of a text that follows the reversed text `before`. -/
def lowerAfter (before : List Char) : List Char → List Char
  | [] => []
  | c :: rest =>
    (if c == 'Σ' then [lowerSigma before rest] else lowerChar c) ++ lowerAfter (c :: before) rest

/-- The lower case of a text. -/
def lowerChars (cs : List Char) : List Char :=
  lowerAfter [] cs

/-- The upper case of a text. -/
def upperChars (cs : List Char) : List Char :=
  cs.flatMap upperChar

/-- The lower case of a text. -/
def lower (s : String) : String :=
  String.ofList (lowerChars s.toList)

/-- The upper case of a text. -/
def upper (s : String) : String :=
  String.ofList (upperChars s.toList)

/-- The one character that stands for a character's lower case in a comparison. -/
def lowerOne (c : Char) : Char :=
  (lowerChar c).headD c

end RouteBook.Text
