import RouteBook.Json.Writer
import RouteBook.Text.Blank
import RouteBook.Text.Quoted

/-!
# The text of a value

Two texts: the one shown in messages, in which the items of containers stand quoted, and
the one that goes on the wire, in which containers are JSON. Both fail for an integer with
more digits than may be written.
-/

namespace RouteBook.Value

open RouteBook.Text

/-- An integer in decimal. -/
def intDigits (n : Int) : Except Fault String :=
  if Decimal.exceedsLimit n then .error .badValue else .ok (Decimal.intText n)

/-- The texts with a comma and a space between them. -/
def commaSeparated (texts : List String) : String :=
  ", ".intercalate texts

/-- How the offset of a moment stands inside a container. -/
def offsetShown (offset : Int) : String :=
  if offset = 0 then "datetime.timezone.utc"
  else
    let days := offset.fdiv 86400000000
    let rest := (offset.fmod 86400000000).toNat
    let parts :=
      (if days = 0 then [] else [s!"days={days}"]) ++
        (if rest / 1000000 = 0 then [] else [s!"seconds={rest / 1000000}"]) ++
        (if rest % 1000000 = 0 then [] else [s!"microseconds={rest % 1000000}"])
    s!"datetime.timezone(datetime.timedelta({commaSeparated parts}))"

/-- How a moment stands inside a container. -/
def momentShown (t : Calendar.Moment) : String :=
  let numbers := [t.date.year, t.date.month, t.date.day, t.hour, t.minute] ++
    (if t.micro = 0 then (if t.second = 0 then [] else [t.second]) else [t.second, t.micro])
  let zone := match t.offset with
    | none => []
    | some o => [s!"tzinfo={offsetShown o}"]
  s!"datetime.datetime({commaSeparated (numbers.map toString ++ zone)})"

/-- A text between braces. -/
def braced (inner : String) : String :=
  "\x7b" ++ inner ++ "\x7d"

mutual

/-- How a value stands inside a container. -/
def quoted : Value → Except Fault String
  | null => .ok "None"
  | bool b => .ok (if b then "True" else "False")
  | int n => intDigits n
  | float x => .ok (Decimal.floatText x)
  | text s => .ok (String.ofList (quote s.toList))
  | ragged r => .ok r.quote
  | bytes b => .ok (String.ofList (quoteOctets b))
  | moment t => .ok (momentShown t)
  | list items => do
    let texts ← quotedItems items
    pure ("[" ++ commaSeparated texts ++ "]")
  | tuple items => do
    let texts ← quotedItems items
    pure (match texts with
      | [one] => "(" ++ one ++ ",)"
      | many => "(" ++ commaSeparated many ++ ")")
  | set items => do
    let texts ← quotedItems items
    pure (if texts.isEmpty then "set()" else braced (commaSeparated texts))
  | map entries => do
    let texts ← quotedEntries entries
    pure (braced (commaSeparated texts))
  | raggedMap entries => do
    let texts ← quotedEntries entries
    pure (braced (commaSeparated texts))
  | loop => .ok (braced ("'self': " ++ braced "..."))

/-- How the items of a container stand in it. -/
def quotedItems : List Value → Except Fault (List String)
  | [] => .ok []
  | v :: rest => do
    let head ← quoted v
    let tail ← quotedItems rest
    pure (head :: tail)

/-- How the entries of a map stand in it. -/
def quotedEntries : List (String × Value) → Except Fault (List String)
  | [] => .ok []
  | (k, v) :: rest => do
    let head ← quoted v
    let tail ← quotedEntries rest
    pure ((String.ofList (quote k.toList) ++ ": " ++ head) :: tail)

end

/-- The text of a value in a message: a text as itself, a moment with a space before its
time, any other value as inside a container. -/
def shown : Value → Except Fault String
  | text s => .ok s
  | ragged r => .ok r.face
  | moment t => .ok t.spacedText
  | v => v.quoted

/-- The text of a value in a message behind another one, ragged if the value is. -/
def shownAfter (front : String) : Value → Except Fault Value
  | ragged r => .ok (ragged (r.after front))
  | v => v.shown.map fun s => text (front ++ s)

/-- The text of a value on the wire: truth values in lower case, whole numbers without a
point, moments by their ISO text, containers as JSON. -/
def wireText : Value → Except Fault String
  | bool b => .ok (if b then "true" else "false")
  | float x =>
    match x.toInt? with
    | some n => intDigits n
    | none => .ok (Decimal.floatText x)
  | moment t => .ok t.isoText
  | list items => Json.writeCompact (list items)
  | tuple items => Json.writeCompact (tuple items)
  | map entries => Json.writeCompact (map entries)
  | raggedMap entries => Json.writeCompact (raggedMap entries)
  | loop => Json.writeCompact loop
  | v => v.shown

theorem wireText_of_isContainer {v : Value} (h : v.isContainer = true) :
    v.wireText = Json.writeCompact v := by
  cases v with
  | list _ | tuple _ | map _ | raggedMap _ | loop => rfl
  | _ => exact nomatch h

/-- The text of a value on the wire, which must have a form in UTF-8. -/
def encodableText (v : Value) : Except Fault String := do
  let text ← v.wireText
  if v.isEncodable then pure text else throw .unencodable

/-- The style in which a block of a schema is shown: ASCII with spaces, and any value that
JSON has no form for by its text. -/
def spacedJson : Json.Style where
  itemSeparator := [',', ' ']
  keySeparator := [':', ' ']
  asciiOnly := true
  fallback := shown

/-- A text without the blanks around it; any other value as it is. -/
def trimmed : Value → Value
  | text s => text (trim s)
  | ragged r => ragged r.trim
  | v => v

/-- Whether a value counts as not supplied: null, the empty text, zero, not a number. -/
def isBlank : Value → Bool
  | null => true
  | text s => s == ""
  | int n => n == 0
  | float x => x.isZero || x.isNaN
  | _ => false

end RouteBook.Value
