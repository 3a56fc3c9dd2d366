import RouteBook.Text.Blank
import RouteBook.Text.Case

/-!
# Camel case

A name of words joined by hyphens or blanks becomes one word in which each further word
starts with a capital. Scanning goes over the lower-cased name: at its start, after a
hyphen and after a run of blanks the next character is raised, and the separator goes.
A line feed is never raised; a run of blanks that ends the name, or that is followed by
a line feed, keeps what the scan could not use.
-/

namespace RouteBook.Text

/-- A character that a boundary may raise. -/
def isRaisable (c : Char) : Bool :=
  c != '\n'

/-- The last raisable character of a run of blanks that has one blank before it, with what
follows it; this is where a boundary made of blanks alone ends. -/
def lastRaisable : List Char → List Char → Option (Char × List Char)
  | [], _ => none
  | c :: rest, tail =>
    match lastRaisable rest tail with
    | some found => some found
    | none => if isRaisable c then some (c, rest ++ tail) else none

/-- The character that a boundary starting with a blank raises, and what follows it: the
character after the whole run of blanks, or else the last raisable one inside the run. -/
def blankBoundary (blank : Char) (rest : List Char) : Option (Char × List Char) :=
  if isBlank blank then
    let run := rest.takeWhile isBlank
    match rest.dropWhile isBlank with
    | c :: tail => some (c, tail)
    | [] => lastRaisable run []
  else none

/-- The boundary at the head of a text past its first character. -/
def boundary (c : Char) (rest : List Char) : Option (Char × List Char) :=
  match blankBoundary c rest with
  | some found => some found
  | none =>
    match c, rest with
    | '-', d :: tail => if isRaisable d then some (d, tail) else none
    | _, _ => none

/-- Raises the character at every boundary of a text past its first character. The first
argument bounds the number of characters left. -/
def raiseWords : Nat → List Char → List Char
  | 0, cs => cs
  | _ + 1, [] => []
  | n + 1, c :: rest =>
    match boundary c rest with
    | some (raised, tail) => upperChar raised ++ raiseWords n tail
    | none => c :: raiseWords n rest

/-- Raises the first character and the character at every boundary. -/
def pascalChars (cs : List Char) : List Char :=
  match lowerChars cs with
  | [] => []
  | c :: rest =>
    if isRaisable c then upperChar c ++ raiseWords rest.length rest
    else raiseWords (rest.length + 1) (c :: rest)

/-- Lowers the first character. -/
def lowerFirst : List Char → List Char
  | [] => []
  | c :: rest => lowerChars [c] ++ rest

/-- The camel case of a name, whose first letter is a capital if `upper` is set. -/
def camelCase (name : String) (upper : Bool) : String :=
  let cs := pascalChars name.toList
  String.ofList (if upper then cs else lowerFirst cs)

end RouteBook.Text
