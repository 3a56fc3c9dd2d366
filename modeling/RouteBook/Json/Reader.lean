import RouteBook.Decimal.Reader
import RouteBook.Json.Writer
import RouteBook.Text.Letter

/-!
# Reading JSON

The reader takes characters off the front of a list. What it reports on failure is a reason
and the characters that were left; the wrapper turns their number into a position. A string
is read one character at a time, with the phase of the reading as a state. It may hold units without a
partner: those that escapes name, and those that the source has.
-/

namespace RouteBook.Json

open RouteBook.Text

/-- Why reading stops. -/
inductive Stop where
  /-- The text is not JSON where these characters are left. -/
  | misread (reason : Reason) (left : List Char)
  /-- An integer has too many digits. -/
  | tooManyDigits (digits : Nat)

/-- What was read and the characters after it. -/
abbrev Reading (α : Type) := Except Stop (α × List Char)

/-- Whether a character may stand between the parts of a JSON text. -/
def isSpace (c : Char) : Bool :=
  c == ' ' || c == '\t' || c == '\n' || c == '\r'

/-- The characters after the spaces. -/
def skipSpaces (cs : List Char) : List Char :=
  cs.dropWhile isSpace

/-! ## Strings -/

/-- The unit without a partner that a source has where so many characters follow. The characters of such
a source are faces. -/
abbrev Source := Nat → Option (Fin 0x800)

namespace Source

/-- A source that has none. -/
def plain : Source := fun _ => none

/-- The source of a ragged text. -/
def ofRagged (r : Ragged) : Source := fun left =>
  match r.letters.reverse[left]? with
  | some (.lone unit) => some unit
  | _ => none

/-- The letter that a character stands for when others follow. -/
def letter (src : Source) (c : Char) (rest : List Char) : Letter :=
  if c == replacement then ((src rest.length).map .lone).getD (.char c) else .char c

theorem letter_plain (c : Char) (rest : List Char) : letter plain c rest = .char c := by
  unfold letter
  split <;> rfl

end Source

/-- The letters read so far, the last one first, and a unit that waits for its partner. -/
structure Units where
  letters : List Letter
  high : Option Nat

/-- Nothing read yet. -/
def Units.none : Units := ⟨[], .none⟩

/-- The letters read, a waiting unit among them. -/
def Units.settled (u : Units) : List Letter :=
  match u.high with
  | some h => .ofUnit h :: u.letters
  | .none => u.letters

/-- One more letter. -/
def Units.letter (u : Units) (l : Letter) : Units :=
  ⟨l :: u.settled, .none⟩

/-- One more unit, which is a character, or half of one. -/
def Units.unit (u : Units) (n : Nat) : Units :=
  match u.high, isLowUnit n with
  | some h, true =>
    ⟨.char (Char.ofNat (0x10000 + 1024 * (h - 0xD800) + (n - 0xDC00))) :: u.letters, .none⟩
  | _, _ =>
    if isHighUnit n then ⟨u.settled, some n⟩
    else if isLowUnit n then u.letter (.ofUnit n)
    else u.letter (.char (Char.ofNat n))

/-- Where the reading of a string stands. Inside an escape it remembers where a fault would
be reported. -/
inductive Phase where
  | plain
  | escape (mark : List Char)
  | hex (missing value : Nat) (mark : List Char)

/-- The character that a short escape stands for. -/
def escaped? (c : Char) : Option Char :=
  if c == quoteMark || c == '\\' || c == '/' then some c
  else if c == 'b' then some (Char.ofNat 8)
  else if c == 'f' then some (Char.ofNat 12)
  else if c == 'n' then some '\n'
  else if c == 'r' then some '\r'
  else if c == 't' then some '\t'
  else none

/-- Reads a string to its closing quote. `opening` is what was left at the opening one. -/
def readString (src : Source) (opening : List Char) :
    Phase → Units → List Char → Reading (List Letter)
  | .hex _ _ mark, _, [] => .error (.misread .badUnicodeEscape mark)
  | _, _, [] => .error (.misread .unterminated opening)
  | .plain, u, c :: rest =>
    if c == quoteMark then .ok (u.settled.reverse, rest)
    else if c == '\\' then readString src opening (.escape (c :: rest)) u rest
    else if c.toNat < 32 then .error (.misread .controlCharacter (c :: rest))
    else readString src opening .plain (u.letter (src.letter c rest)) rest
  | .escape mark, u, c :: rest =>
    if c == 'u' then readString src opening (.hex 3 0 (c :: rest)) u rest
    else
      match escaped? c with
      | some d => readString src opening .plain (u.letter (.char d)) rest
      | none => .error (.misread .badEscape mark)
  | .hex missing value mark, u, c :: rest =>
    match hexValue? c, missing with
    | none, _ => .error (.misread .badUnicodeEscape mark)
    | some d, k + 1 => readString src opening (.hex k (16 * value + d) mark) u rest
    | some d, 0 =>
      if rest.isEmpty then .error (.misread .badUnicodeEscape mark)
      else readString src opening .plain (u.unit (16 * value + d)) rest

/-! ## Numbers -/

/-- The digits after a point and what follows them; a point without a digit is not taken. -/
def readFraction (cs : List Char) : List Char × List Char :=
  match cs with
  | '.' :: rest =>
    if (rest.takeWhile isAsciiDigit).isEmpty then ([], cs)
    else (rest.takeWhile isAsciiDigit, rest.dropWhile isAsciiDigit)
  | _ => ([], cs)

/-- An exponent and what follows it; the letter without a digit is not taken. -/
def readExponent (cs : List Char) : Option Int × List Char :=
  match cs with
  | c :: rest =>
    if c == 'e' || c == 'E' then
      let (negative, tail) := Decimal.splitSign rest
      match Decimal.plainNat? (tail.takeWhile isAsciiDigit) with
      | some n => (some (Binary64.signed negative n), tail.dropWhile isAsciiDigit)
      | none => (none, cs)
    else (none, cs)
  | [] => (none, [])

/-- The digits of a whole number: one zero, or digits of which the first is no zero. -/
def readWhole : List Char → List Char × List Char
  | '0' :: rest => (['0'], rest)
  | cs => (cs.takeWhile isAsciiDigit, cs.dropWhile isAsciiDigit)

/-- Reads a number: an integer, unless a fraction or an exponent follows. -/
def readNumber (cs : List Char) : Reading Value :=
  let (negative, body) := match cs with
    | '-' :: rest => (true, rest)
    | _ => (false, cs)
  let (whole, rest) := readWhole body
  if whole.isEmpty then .error (.misread .value cs)
  else
    let (part, rest) := readFraction rest
    let (exponent, rest) := readExponent rest
    if part.isEmpty && exponent.isNone then
      if Decimal.digitLimit < whole.length then .error (.tooManyDigits whole.length)
      else .ok (.int (Binary64.signed negative ((Decimal.digitsNumber? whole).getD 0)), rest)
    else
      let number : Decimal.Scientific := ⟨whole, part, exponent.getD 0⟩
      .ok (.float (number.toBinary64 negative), rest)

/-! ## Values -/

/-- The values that have a name. -/
def named : List (String × Value) :=
  [("null", .null), ("true", .bool true), ("false", .bool false), ("NaN", .float .nan),
    ("Infinity", .float (.infinity false)), ("-Infinity", .float (.infinity true))]

/-- Reads a name or a number. -/
def readScalar (cs : List Char) : Reading Value :=
  match named.findSome? fun p => (after? p.1.toList cs).map (p.2, ·) with
  | some found => .ok found
  | none => readNumber cs

mutual

/-- Reads a value. Each call takes at least one character or is the first of two on the
same characters, so twice their number is fuel enough. -/
def readValue (src : Source) : Nat → List Char → Reading Value
  | 0, cs => .error (.misread .value cs)
  | _, [] => .error (.misread .value [])
  | fuel + 1, c :: rest =>
    if c == quoteMark then
      (readString src (c :: rest) .plain .none rest).map fun (letters, r) => (.ofLetters letters, r)
    else if c == '\x7b' then
      match skipSpaces rest with
      | '\x7d' :: r => .ok (.map [], r)
      | r => readMembers src fuel false [] r
    else if c == '[' then
      match skipSpaces rest with
      | ']' :: r => .ok (.list [], r)
      | r => readItems src fuel [] r
    else readScalar (c :: rest)

/-- Reads the items of a list and its closing bracket. The items read so far come with the
last one first. -/
def readItems (src : Source) : Nat → List Value → List Char → Reading Value
  | 0, _, cs => .error (.misread .value cs)
  | fuel + 1, items, cs =>
    match readValue src fuel cs with
    | .error e => .error e
    | .ok (v, rest) =>
      match skipSpaces rest with
      | ']' :: r => .ok (.list (v :: items).reverse, r)
      | ',' :: r => readItems src fuel (v :: items) (skipSpaces r)
      | r => .error (.misread .comma r)

/-- Reads the members of a map and its closing brace. It is known whether a key so far is ragged. -/
def readMembers (src : Source) : Nat → Bool → Entries Value → List Char → Reading Value
  | 0, _, _, cs => .error (.misread .value cs)
  | _, _, _, [] => .error (.misread .propertyName [])
  | fuel + 1, hasRagged, entries, c :: cs =>
    if c == quoteMark then
      match readString src (c :: cs) .plain .none cs with
      | .error e => .error e
      | .ok (key, rest) =>
        match skipSpaces rest with
        | ':' :: r =>
          match readValue src fuel (skipSpaces r) with
          | .error e => .error e
          | .ok (v, rest) =>
            let entries := Entries.put entries (String.ofList (key.map Letter.face)) v
            let hasRagged := hasRagged || key.any Letter.isLone
            match skipSpaces rest with
            | '\x7d' :: r => .ok (.ofEntries hasRagged entries, r)
            | ',' :: r => readMembers src fuel hasRagged entries (skipSpaces r)
            | r => .error (.misread .comma r)
        | r => .error (.misread .colon r)
    else .error (.misread .propertyName (c :: cs))

end

/-- Reads a whole text: one value with nothing but spaces around it. -/
def readAll (src : Source) (text : List Char) : Except Stop Value := do
  let (v, rest) ← readValue src (2 * text.length + 2) (skipSpaces text)
  match skipSpaces rest with
  | [] => pure v
  | left => throw (.misread .extraData left)

/-- The fault that stopped the reading of a text. -/
def Stop.fault (text : List Char) : Stop → RouteBook.Fault
  | .misread reason left => .badJson (.at reason text (text.length - left.length))
  | .tooManyDigits n => .tooManyDigits n

/-- The value that a source writes. -/
def readFrom (src : Source) (text : List Char) : Except RouteBook.Fault Value :=
  (readAll src text).mapError (Stop.fault text)

theorem isValueFault_of_readFrom {src : Source} {text : List Char} {f : RouteBook.Fault}
    (h : readFrom src text = .error f) : f.isValueFault = true := by
  unfold readFrom at h
  cases hread : readAll src text with
  | ok v => exact nomatch hread ▸ h
  | error stop =>
    obtain rfl := Except.error.inj (hread ▸ h)
    cases stop <;> rfl

/-- The value that a text writes. -/
def readPlain (text : List Char) : Except RouteBook.Fault Value :=
  readFrom .plain text

/-- The mark of the order of octets, which a text must not start with. -/
def byteOrderMark : Char := Char.ofNat 0xFEFF

/-- The value that a source writes, which must not start with a byte order mark. -/
def readMarked (src : Source) (text : List Char) : Except RouteBook.Fault Value :=
  match text with
  | c :: rest =>
    if c == byteOrderMark then .error (.badJson (.at .byteOrderMark (c :: rest) 0))
    else readFrom src (c :: rest)
  | [] => readFrom src []

theorem isValueFault_of_readMarked {src : Source} {text : List Char} {f : RouteBook.Fault}
    (h : readMarked src text = .error f) : f.isValueFault = true := by
  unfold readMarked at h
  split at h
  · split at h
    · exact Except.error.inj h ▸ rfl
    · exact isValueFault_of_readFrom h
  · exact isValueFault_of_readFrom h

/-- The value that a text writes. -/
def read (text : String) : Except RouteBook.Fault Value :=
  readMarked .plain text.toList

/-- The value that a ragged text writes. -/
def readRagged (r : Ragged) : Except RouteBook.Fault Value :=
  readMarked (.ofRagged r) r.face.toList

end RouteBook.Json
