/-!
# Patterns

The parts that a pattern is built from. Code points stand as numbers, because a pattern can
name code points that no character has.
-/

namespace RouteBook.Pattern

/-- When two characters count as the same. -/
inductive Fold where
  | exact
  | asciiCase
  | anyCase
  deriving DecidableEq, Repr

/-- The classes that have an escape. -/
inductive Category where
  | digit
  | space
  | word
  deriving DecidableEq, Repr

/-- One part of a class of characters. -/
inductive ClassItem where
  | range (first last : Nat)
  | category (c : Category) (ascii negated : Bool)
  deriving DecidableEq, Repr

/-- The least and the greatest number of characters that a pattern can take; none if there
is no greatest. -/
structure Width where
  least : Nat
  most : Option Nat
  deriving DecidableEq, Repr

/-- Which number of repetitions is tried first, and whether fewer or more are tried after
it. -/
inductive Greed where
  | greedy
  | lazy
  | possessive
  deriving DecidableEq, Repr

/-- The places between characters that a pattern can ask for. -/
inductive Anchor where
  | textStart
  | lineStart
  /-- The end of the text or before its last line break. -/
  | lastLineEnd
  | lineEnd
  | textEnd
  | wordEdge (negated ascii : Bool)
  deriving DecidableEq, Repr

/-- A pattern. -/
inductive Node where
  | empty
  | char (code : Nat) (fold : Fold)
  | any (lineBreaks : Bool)
  | oneOf (negated : Bool) (items : List ClassItem) (fold : Fold)
  | seq (first second : Node)
  | either (first second : Node)
  | times (least : Nat) (most : Option Nat) (greed : Greed) (body : Node)
  | group (index : Nat) (body : Node)
  | atomic (body : Node)
  | at (anchor : Anchor)
  /-- What follows, or, `back` characters before, what precedes. -/
  | look (negated : Bool) (back : Nat) (body : Node)
  | backReference (index : Nat) (width : Width) (fold : Fold)
  | ifGroup (index : Nat) (yes no : Node)
  deriving Repr

namespace Width

/-- Of one part after the other. -/
def add (a b : Width) : Width :=
  ⟨a.least + b.least, do pure ((← a.most) + (← b.most))⟩

/-- Of either of two parts. -/
def join (a b : Width) : Width :=
  ⟨min a.least b.least, do pure (max (← a.most) (← b.most))⟩

/-- Of a repeated part. -/
def times (w : Width) (least : Nat) (most : Option Nat) : Width :=
  ⟨w.least * least, if w.most = some 0 then some 0 else do pure ((← w.most) * (← most))⟩

/-- The number of characters, if there is only one that is possible. -/
def fixed? (w : Width) : Option Nat :=
  if w.most = some w.least then some w.least else none

end Width

/-- The width of a pattern. -/
def Node.width : Node → Width
  | .empty | .at _ | .look .. => ⟨0, some 0⟩
  | .char .. | .any _ | .oneOf .. => ⟨1, some 1⟩
  | .seq a b => a.width.add b.width
  | .either a b => a.width.join b.width
  | .times least most _ body => body.width.times least most
  | .group _ body | .atomic body => body.width
  | .backReference _ w _ => w
  | .ifGroup _ yes no => yes.width.join no.width

end RouteBook.Pattern
