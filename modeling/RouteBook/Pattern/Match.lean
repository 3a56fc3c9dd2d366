import RouteBook.Pattern.Syntax
import RouteBook.Text.Blank
import RouteBook.Text.Case

/-!
# Matching patterns

A pattern runs at a cursor and hands the cursor behind each match to a continuation, the
preferred match first; the first one that the continuation accepts counts. The recursion is
on the pattern. A repetition counts its rounds, and one that took no character is the last.
-/

namespace RouteBook.Pattern

open RouteBook.Text

/-! ## Characters -/

/-- Groups of small letters that have no common small letter and still count as the same
when case does not matter. -/
def sameLetters : List (List Nat) :=
  [[0x69, 0x131], [0x73, 0x17f], [0xb5, 0x3bc], [0x345, 0x3b9, 0x1fbe], [0x390, 0x1fd3],
    [0x3b0, 0x1fe3], [0x3b2, 0x3d0], [0x3b5, 0x3f5], [0x3b8, 0x3d1], [0x3ba, 0x3f0],
    [0x3c0, 0x3d6], [0x3c1, 0x3f1], [0x3c2, 0x3c3], [0x3c6, 0x3d5], [0x432, 0x1c80],
    [0x434, 0x1c81], [0x43e, 0x1c82], [0x441, 0x1c83], [0x442, 0x1c84, 0x1c85],
    [0x44a, 0x1c86], [0x463, 0x1c87], [0x1c88, 0xa64b], [0x1e61, 0x1e9b],
    [0xfb05, 0xfb06]]

/-- A small ASCII letter for a capital one. -/
def asciiLower (n : Nat) : Nat :=
  if 65 ≤ n && n ≤ 90 then n + 32 else n

/-- The code point that stands for all code points that count as the same. -/
def Fold.key (fold : Fold) (n : Nat) : Nat :=
  match fold with
  | .exact => n
  | .asciiCase => asciiLower n
  | .anyCase =>
    let l := (lowerOne (Char.ofNat n)).toNat
    match sameLetters.find? (·.contains l) with
    | some group => group.headD l
    | none => l

/-- Whether two code points count as the same. -/
def Fold.same (fold : Fold) (a b : Nat) : Bool :=
  a == b || fold.key a == fold.key b

/-- The code points that become the given one in lower case. -/
def capitalsOf (n : Nat) : List Nat :=
  (if 97 ≤ n && n ≤ 122 then [n - 32] else []) ++
    (Table.lowerRuns.filterMap fun (first, last, step, shift) =>
      let m := ((n : Int) - shift).toNat
      if first ≤ m && m ≤ last && (m - first) % step == 0 && (m : Int) + shift == n then some m
      else none) ++
    (Table.lowerExpansions.filterMap fun (m, image) =>
      if image.head? = some n then some m else none)

/-- The code points that count as the same as the given one. -/
def Fold.mates (fold : Fold) (n : Nat) : List Nat :=
  match fold with
  | .exact => [n]
  | .asciiCase => [n, asciiLower n] ++
      (if 97 ≤ asciiLower n && asciiLower n ≤ 122 then [asciiLower n - 32] else [])
  | .anyCase =>
    let l := (lowerOne (Char.ofNat n)).toNat
    let smalls := match sameLetters.find? (·.contains l) with
      | some group => group
      | none => [l]
    n :: smalls ++ smalls.flatMap capitalsOf

/-- Whether a character is in a class. -/
def Category.holds (kind : Category) (ascii : Bool) (c : Char) : Bool :=
  (!ascii || c.toNat < 128) &&
    match kind with
    | .digit => isDigit c
    | .space => isBlank c && !(ascii && 28 ≤ c.toNat && c.toNat ≤ 31)
    | .word => isWord c

/-- Whether a character fits a part of a class. -/
def ClassItem.holds (fold : Fold) (c : Char) : ClassItem → Bool
  | .range first last => (fold.mates c.toNat).any fun n => first ≤ n && n ≤ last
  | .category kind ascii negated => kind.holds ascii c != negated

/-- The test of a pattern that always takes exactly one character. -/
def Node.single? : Node → Option (Char → Bool)
  | .char code fold => some fun c => fold.same code c.toNat
  | .any lineBreaks => some fun c => lineBreaks || c != '\n'
  | .oneOf negated items fold => some fun c => items.any (·.holds fold c) != negated
  | _ => none

/-! ## Cursors -/

/-- A place in a text, and what the groups took so far, the last one first. A group is the
text from its start on and the number of characters taken. -/
structure Cursor where
  behind : List Char
  ahead : List Char
  position : Nat
  groups : List (Nat × List Char × Nat)

namespace Cursor

/-- The start of a text. -/
def start (text : List Char) : Cursor := ⟨[], text, 0, []⟩

/-- One character on. -/
def next? (c : Cursor) : Option (Char × Cursor) :=
  match c.ahead with
  | [] => none
  | x :: rest => some (x, { c with behind := x :: c.behind, ahead := rest, position := c.position + 1 })

/-- Some characters back. -/
def back? : Nat → Cursor → Option Cursor
  | 0, c => some c
  | n + 1, c =>
    match c.behind with
    | [] => none
    | x :: rest => back? n { c with behind := rest, ahead := x :: c.ahead, position := c.position - 1 }

/-- What a group took. -/
def taken? (c : Cursor) (index : Nat) : Option (List Char) :=
  (c.groups.lookup index).map fun (text, n) => text.take n

/-- With a group that goes from another cursor to this one. -/
def close (c : Cursor) (index : Nat) (opened : Cursor) : Cursor :=
  { c with groups := (index, opened.ahead, c.position - opened.position) :: c.groups }

/-- The cursors after one and more characters that pass a test, the furthest one first, put
before those already found. -/
def advances (test : Char → Bool) : Nat → Cursor → List Cursor → List Cursor
  | 0, _, found => found
  | n + 1, c, found =>
    match c.next? with
    | some (x, c') => if test x then advances test n c' (c' :: found) else found
    | none => found

/-- Whether the given text follows. -/
def skip? (fold : Fold) : List Char → Cursor → Option Cursor
  | [], c => some c
  | x :: rest, c =>
    match c.next? with
    | some (y, c') => if fold.same x.toNat y.toNat then skip? fold rest c' else none
    | none => none

/-- Whether the place is what an anchor asks for. A text without characters has no word
edge and no place inside. -/
def isAt (c : Cursor) : Anchor → Bool
  | .textStart => c.behind.isEmpty
  | .lineStart => c.behind.isEmpty || c.behind.head? == some '\n'
  | .lastLineEnd => c.ahead.isEmpty || c.ahead == ['\n']
  | .lineEnd => c.ahead.isEmpty || c.ahead.head? == some '\n'
  | .textEnd => c.ahead.isEmpty
  | .wordEdge negated ascii =>
    let inWord := Category.holds .word ascii
    !(c.behind.isEmpty && c.ahead.isEmpty) &&
      ((c.behind.head?.any inWord != c.ahead.head?.any inWord) != negated)

end Cursor

/-! ## Runs -/

/-- What follows a match. -/
abbrev Continuation := Cursor → Option Cursor

/-- Repeats a pattern as often as possible. `last` is where the round before began, once
the least number is reached. The number of rounds has no other bound than `most`, the
characters and the least number, so their sum is fuel enough. -/
def greedyRounds (body : Cursor → Continuation → Option Cursor) (least : Nat)
    (most : Option Nat) : Nat → Nat → Option Nat → Cursor → Continuation → Option Cursor
  | 0, _, _, c, k => k c
  | fuel + 1, count, last, c, k =>
    if count < least then
      body c fun c' => greedyRounds body least most fuel (count + 1) last c' k
    else if most.all (count < ·) && last != some c.position then
      match body c fun c' =>
          greedyRounds body least most fuel (count + 1) (some c.position) c' k with
      | some r => some r
      | none => k c
    else k c

/-- Repeats a pattern as seldom as possible. -/
def lazyRounds (body : Cursor → Continuation → Option Cursor) (least : Nat)
    (most : Option Nat) : Nat → Nat → Option Nat → Cursor → Continuation → Option Cursor
  | 0, _, _, c, k => k c
  | fuel + 1, count, last, c, k =>
    if count < least then
      body c fun c' => lazyRounds body least most fuel (count + 1) last c' k
    else
      match k c with
      | some r => some r
      | none =>
        if most.all (count < ·) && last != some c.position then
          body c fun c' => lazyRounds body least most fuel (count + 1) (some c.position) c' k
        else none

/-- The places after repetitions of a test, in the order in which they are tried. -/
def singleRounds (test : Char → Bool) (least : Nat) (most : Option Nat) (greed : Greed)
    (c : Cursor) : List Cursor :=
  let limit := match most with
    | some m => min m c.ahead.length
    | none => c.ahead.length
  let places := c.advances test limit [c]
  let enough := places.take (places.length - least)
  match greed with
  | .greedy => enough
  | .lazy => enough.reverse
  | .possessive => enough.take 1

/-- Runs a pattern. -/
def Node.run : Node → Cursor → Continuation → Option Cursor
  | .empty, c, k => k c
  | .char code fold, c, k =>
    match c.next? with
    | some (x, c') => if fold.same code x.toNat then k c' else none
    | none => none
  | .any lineBreaks, c, k =>
    match c.next? with
    | some (x, c') => if lineBreaks || x != '\n' then k c' else none
    | none => none
  | .oneOf negated items fold, c, k =>
    match c.next? with
    | some (x, c') => if items.any (·.holds fold x) != negated then k c' else none
    | none => none
  | .seq a b, c, k => a.run c fun c' => b.run c' k
  | .either a b, c, k =>
    match a.run c k with
    | some r => some r
    | none => b.run c k
  | .times least most greed body, c, k =>
    match body.single? with
    | some test => (singleRounds test least most greed c).findSome? k
    | none =>
      let rounds := least + c.ahead.length + 2
      match greed with
      | .greedy => greedyRounds (fun c k => body.run c k) least most rounds 0 none c k
      | .lazy => lazyRounds (fun c k => body.run c k) least most rounds 0 none c k
      | .possessive =>
        match greedyRounds (fun c k => body.run c k) least most rounds 0 none c some with
        | some c' => k c'
        | none => none
  | .group index body, c, k => body.run c fun c' => k (c'.close index c)
  | .atomic body, c, k =>
    match body.run c some with
    | some c' => k c'
    | none => none
  | .at anchor, c, k => if c.isAt anchor then k c else none
  | .look negated back body, c, k =>
    let found := match c.back? back with
      | some b => body.run b some
      | none => none
    match found, negated with
    | some c', false => k { c with groups := c'.groups }
    | none, true => k c
    | _, _ => none
  | .backReference index _ fold, c, k =>
    match c.taken? index with
    | some text =>
      match c.skip? fold text with
      | some c' => k c'
      | none => none
    | none => none
  | .ifGroup index yes no, c, k =>
    if (c.taken? index).isSome then yes.run c k else no.run c k

/-- Whether a pattern matches at a cursor or at one of the characters after it. -/
def Node.foundFrom (node : Node) (behind : List Char) (position : Nat) : List Char → Bool
  | [] => (node.run ⟨behind, [], position, []⟩ some).isSome
  | c :: rest =>
    if (node.run ⟨behind, c :: rest, position, []⟩ some).isSome then true
    else foundFrom node (c :: behind) (position + 1) rest

/-- Whether a pattern matches somewhere in a text. -/
def Node.foundIn (node : Node) (text : List Char) : Bool :=
  node.foundFrom [] 0 text

end RouteBook.Pattern
