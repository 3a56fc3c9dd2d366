/-!
# Why a text is not JSON

A reason and the place where reading stopped, as line, column and number of characters
before it.
-/

namespace RouteBook.Json

/-- What is wrong with a text. -/
inductive Reason where
  | value
  | comma
  | colon
  | propertyName
  | extraData
  | unterminated
  | controlCharacter
  | badEscape
  | badUnicodeEscape
  | byteOrderMark
  deriving DecidableEq, Repr

/-- The words for a reason. -/
def Reason.text : Reason → String
  | .value => "Expecting value"
  | .comma => "Expecting ',' delimiter"
  | .colon => "Expecting ':' delimiter"
  | .propertyName => "Expecting property name enclosed in double quotes"
  | .extraData => "Extra data"
  | .unterminated => "Unterminated string starting at"
  | .controlCharacter => "Invalid control character at"
  | .badEscape => "Invalid \\escape"
  | .badUnicodeEscape => "Invalid \\uXXXX escape"
  | .byteOrderMark => "Unexpected UTF-8 BOM (decode using utf-8-sig)"

/-- A reason and its place. Lines and columns count from 1. -/
structure ReadFault where
  reason : Reason
  line : Nat
  column : Nat
  position : Nat
  deriving DecidableEq, Repr

/-- The fault at a position of a text. -/
def ReadFault.at (reason : Reason) (text : List Char) (position : Nat) : ReadFault :=
  let before := text.take position
  let lastLine := before.reverse.takeWhile (· != '\n')
  ⟨reason, before.count '\n' + 1, lastLine.length + 1, position⟩

/-- The message for a text that is not JSON. -/
def ReadFault.message (f : ReadFault) : String :=
  s!"{f.reason.text}: line {f.line} column {f.column} (char {f.position})"

end RouteBook.Json
