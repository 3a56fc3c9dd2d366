import RouteBook.Decimal.Reader
import RouteBook.Fault
import RouteBook.Pattern.Syntax
import RouteBook.Text.Hex

/-!
# Reading patterns

The reader keeps the characters left, the groups opened and closed so far and the options
that hold for the rest of the pattern. Alternatives, sequences and groups call each other on
ever fewer characters, so the number of characters is fuel enough.
-/

namespace RouteBook.Pattern

open RouteBook.Text

/-- The options that hold at a place of a pattern. -/
structure Options where
  ignoreCase : Bool := false
  manyLines : Bool := false
  dotAll : Bool := false
  verbose : Bool := false
  ascii : Bool := false
  deriving Repr

/-- When two characters of the text count as the same. -/
def Options.fold (o : Options) : Fold :=
  if o.ignoreCase then (if o.ascii then .asciiCase else .anyCase) else .exact

/-- The state of the reader. -/
structure Progress where
  rest : List Char
  /-- The number of groups opened, with the whole pattern as the first. -/
  opened : Nat := 1
  closed : List (Nat × Width) := []
  names : List (String × Nat) := []
  options : Options := {}
  /-- Whether `u` was given as an option. -/
  unicode : Bool := false
  /-- The groups that conditions name. -/
  conditions : List Nat := []
  /-- Inside a look behind, the number of groups opened before it. -/
  behindFrom : Option Nat := none

/-- Why a text writes no pattern. -/
inductive Refusal where
  | malformed
  /-- A bound of a repetition is too great. -/
  | greatBound
  /-- Options were given that exclude each other. -/
  | clashingOptions
  deriving DecidableEq, Repr

/-- The fault that reports a refusal. -/
def Refusal.toFault : Refusal → Fault
  | malformed => .badPattern
  | greatBound => .overflow
  | clashingOptions => .badValue

/-- A reader of patterns. -/
abbrev Parser (α : Type) := StateT Progress (Except Refusal) α

/-- How an item of a sequence may be followed by a repetition. -/
inductive ItemKind where
  | anchor
  | repeated
  | plain
  deriving DecidableEq

/-- An item of a sequence. -/
structure Item where
  kind : ItemKind
  node : Node

/-- What parentheses with a question mark hold. -/
inductive Extension where
  | item (i : Item)
  | comment
  /-- Options that hold from here on. -/
  | options

namespace Parser

/-- The pattern is malformed. -/
def malformed {α : Type} : Parser α :=
  throw .malformed

/-- The next character, which stays. -/
def peek? : Parser (Option Char) := do
  pure (← get).rest.head?

/-- Takes the next character. -/
def next? : Parser (Option Char) := do
  let p ← get
  match p.rest with
  | [] => pure none
  | c :: rest =>
    set { p with rest := rest }
    pure (some c)

/-- Takes the next character, which must be there. -/
def next : Parser Char := do
  match ← next? with
  | some c => pure c
  | none => malformed

/-- Takes the given character if it is next. -/
def accept (c : Char) : Parser Bool := do
  let p ← get
  match p.rest with
  | d :: rest =>
    if c = d then
      set { p with rest := rest }
      pure true
    else pure false
  | [] => pure false

/-- Takes at most `n` characters that pass a test. -/
def takeWhileAtMost (n : Nat) (test : Char → Bool) : Parser (List Char) := do
  let p ← get
  let taken := (p.rest.take n).takeWhile test
  set { p with rest := p.rest.drop taken.length }
  pure taken

/-- Takes the nonempty text before a terminator, and the terminator. -/
def textBefore (terminator : Char) : Parser (List Char) := do
  let p ← get
  let taken := p.rest.takeWhile (· != terminator)
  match p.rest.drop taken.length with
  | [] => malformed
  | _ :: rest =>
    if taken.isEmpty then malformed
    else
      set { p with rest := rest }
      pure taken

/-- Whether a text is a name: word characters of which the first is no digit. -/
def isName (cs : List Char) : Bool :=
  match cs with
  | [] => false
  | c :: _ => cs.all isWord && !isDigit c

/-- A name up to a terminator. -/
def nameBefore (terminator : Char) : Parser String := do
  let cs ← textBefore terminator
  if isName cs then pure (String.ofList cs) else malformed

/-- Refuses a group that a look behind must not refer to. -/
def checkBehind (index : Nat) : Parser Unit := do
  let p ← get
  match p.behindFrom with
  | none => pure ()
  | some n =>
    if (p.closed.lookup index).isNone || n ≤ index then malformed else pure ()

/-- A reference back to a closed group. -/
def reference (o : Options) (index : Nat) : Parser Item := do
  let p ← get
  match p.closed.lookup index with
  | none => malformed
  | some w =>
    checkBehind index
    pure ⟨.plain, .backReference index w o.fold⟩

/-! ## Escapes -/

/-- The digits of an octal number. -/
def isOctal (c : Char) : Bool :=
  '0' ≤ c && c ≤ '7'

/-- The number that octal digits write. -/
def octalNumber (cs : List Char) : Nat :=
  cs.foldl (fun n c => 8 * n + (c.toNat - 48)) 0

/-- A code point of exactly `n` hexadecimal digits. -/
def hexCode (n : Nat) : Parser Nat := do
  let ds ← takeWhileAtMost n fun c => (hexValue? c).isSome
  match hexNumber? ds with
  | some code => if ds.length = n && code < 0x110000 then pure code else malformed
  | none => malformed

/-- The character of an escape that means the same everywhere. -/
def controlEscape? (c : Char) : Option Nat :=
  match c with
  | 'a' => some 7
  | 'f' => some 12
  | 'n' => some 10
  | 'r' => some 13
  | 't' => some 9
  | 'v' => some 11
  | '\\' => some 92
  | _ => none

/-- The class of an escape. -/
def categoryEscape? (ascii : Bool) (c : Char) : Option ClassItem :=
  match c with
  | 'd' => some (.category .digit ascii false)
  | 'D' => some (.category .digit ascii true)
  | 's' => some (.category .space ascii false)
  | 'S' => some (.category .space ascii true)
  | 'w' => some (.category .word ascii false)
  | 'W' => some (.category .word ascii true)
  | _ => none

/-- The code point of an escape that is neither a class nor a reference, after the backslash
and the character `c`. -/
def codeEscape (c : Char) : Parser Nat := do
  match controlEscape? c, c with
  | some code, _ => pure code
  | none, 'x' => hexCode 2
  | none, 'u' => hexCode 4
  | none, 'U' => hexCode 8
  | none, _ => if isAsciiLetter c || isAsciiDigit c then malformed else pure c.toNat

/-- An escape inside a class, after the backslash. -/
def classEscape (o : Options) : Parser ClassItem := do
  let c ← next
  match categoryEscape? o.ascii c with
  | some item => pure item
  | none =>
    if c == 'b' then pure (.range 8 8)
    else if isOctal c then
      let more ← takeWhileAtMost 2 isOctal
      let code := octalNumber (c :: more)
      if 0xFF < code then malformed else pure (.range code code)
    else
      let code ← codeEscape c
      pure (.range code code)

/-- A code point as an item. -/
def literal (o : Options) (code : Nat) : Item :=
  ⟨.plain, .char code o.fold⟩

/-- An octal code point or a reference, after the backslash and the digit `c`, which is no
zero. Three octal digits are a code point. -/
def digitEscape (o : Options) (c : Char) : Parser Item := do
  let p ← get
  match p.rest with
  | d :: e :: rest =>
    if isOctal c && isOctal d && isOctal e then
      let code := octalNumber [c, d, e]
      if 0xFF < code then malformed
      else
        set { p with rest := rest }
        pure (literal o code)
    else if isAsciiDigit d then
      set { p with rest := e :: rest }
      reference o (10 * (c.toNat - 48) + (d.toNat - 48))
    else reference o (c.toNat - 48)
  | [d] =>
    if isAsciiDigit d then
      set { p with rest := [] }
      reference o (10 * (c.toNat - 48) + (d.toNat - 48))
    else reference o (c.toNat - 48)
  | [] => reference o (c.toNat - 48)

/-- The place of an escape. -/
def anchorEscape? (ascii : Bool) (c : Char) : Option Anchor :=
  match c with
  | 'A' => some .textStart
  | 'Z' => some .textEnd
  | 'b' => some (.wordEdge false ascii)
  | 'B' => some (.wordEdge true ascii)
  | _ => none

/-- An escape outside a class, after the backslash. -/
def escape (o : Options) : Parser Item := do
  let c ← next
  match anchorEscape? o.ascii c, categoryEscape? o.ascii c with
  | some a, _ => pure ⟨.anchor, .at a⟩
  | none, some item => pure ⟨.plain, .oneOf false [item] .exact⟩
  | none, none =>
    if c == '0' then
      let more ← takeWhileAtMost 2 isOctal
      pure (literal o (octalNumber more))
    else if isAsciiDigit c then digitEscape o c
    else
      let code ← codeEscape c
      pure (literal o code)

/-! ## Classes -/

/-- One end of a range or an item on its own, of which the first character was taken. -/
def classAtom (o : Options) (c : Char) : Parser ClassItem :=
  if c == '\\' then classEscape o else pure (.range c.toNat c.toNat)

/-- The items of a class up to its closing bracket, the last one first. -/
def classItems (o : Options) : Nat → List ClassItem → Parser (List ClassItem)
  | 0, _ => malformed
  | fuel + 1, items => do
    let c ← next
    if c == ']' && !items.isEmpty then pure items
    else
      let first ← classAtom o c
      if ← accept '-' then
        let d ← next
        if d == ']' then pure (.range 45 45 :: first :: items)
        else
          let last ← classAtom o d
          match first, last with
          | .range a _, .range b _ =>
            if b < a then malformed else classItems o fuel (.range a b :: items)
          | _, _ => malformed
      else classItems o fuel (first :: items)

/-- A class, after its opening bracket. -/
def charClass (o : Options) : Parser Item := do
  let negated ← accept '^'
  let items ← classItems o ((← get).rest.length + 1) []
  pure ⟨.plain, .oneOf negated items.reverse o.fold⟩

/-! ## Repetitions -/

/-- The number that stands for no bound; no bound may reach it. -/
def boundless : Nat := 4294967295

/-- A bound, or the given one if no digits stand there. -/
def bound (digits : List Char) (default : Option Nat) : Parser (Option Nat) :=
  match Decimal.plainNat? digits with
  | none => pure default
  | some n => if boundless ≤ n then throw .greatBound else pure (some n)

/-- The bounds in braces after the opening one. None if the brace stands for itself; then
nothing is taken. -/
def bracedBounds? : Parser (Option (Nat × Option Nat)) := do
  let start ← get
  if start.rest.head? == some '\x7d' then pure none
  else
    let low ← takeWhileAtMost start.rest.length isAsciiDigit
    let comma ← accept ','
    let high ← if comma then takeWhileAtMost start.rest.length isAsciiDigit else pure low
    if ← accept '\x7d' then
      let least ← bound low (some 0)
      let most ← bound high none
      match least, most with
      | some a, some b => if b < a then malformed else pure (some (a, some b))
      | some a, none => pure (some (a, none))
      | none, _ => malformed
    else
      set start
      pure none

/-- The bounds that a character announces. -/
def bounds? (c : Char) : Parser (Option (Nat × Option Nat)) :=
  match c with
  | '?' => pure (some (0, some 1))
  | '*' => pure (some (0, none))
  | '+' => pure (some (1, none))
  | _ => bracedBounds?

/-- The mark behind the bounds of a repetition, if there is one. -/
def greed : Parser Greed := do
  if ← accept '?' then return .lazy
  if ← accept '+' then return .possessive
  return .greedy

/-- Repeats the last item. -/
def repeatLast (least : Nat) (most : Option Nat) : List Item → Parser (List Item)
  | [] => malformed
  | ⟨kind, node⟩ :: items => do
    if kind = .plain then
      let g ← greed
      pure (⟨.repeated, .times least most g node⟩ :: items)
    else malformed

/-! ## Options -/

/-- The letters of options. -/
def isOptionLetter (c : Char) : Bool :=
  "iLmsxatu".toList.contains c

/-- Options that are switched on and off. -/
structure Switches where
  on : List Char
  off : List Char

/-- Letters of options up to a character of another kind, which is taken as well. -/
def optionLetters (first : Char) : Parser (List Char × Char) := do
  if isOptionLetter first then
    let p ← get
    let more := p.rest.takeWhile isOptionLetter
    set { p with rest := p.rest.drop more.length }
    let stop ← next
    pure (first :: more, stop)
  else malformed

/-- Options inside parentheses after the question mark, up to the closing parenthesis or the
colon. None of them for options that hold for the whole pattern, which are set. -/
def switches? (first : Char) : Parser (Option Switches) := do
  let (on, stop) ← if first == '-' then pure ([], '-') else optionLetters first
  let kinds := on.filter fun c => c == 'a' || c == 'u'
  if on.contains 'L' || (kinds.contains 'a' && kinds.contains 'u') then malformed
  else if stop == ')' then
    modify fun p => { p with
      unicode := p.unicode || on.contains 'u'
      options := {
        ignoreCase := p.options.ignoreCase || on.contains 'i'
        manyLines := p.options.manyLines || on.contains 'm'
        dotAll := p.options.dotAll || on.contains 's'
        verbose := p.options.verbose || on.contains 'x'
        ascii := p.options.ascii || on.contains 'a' } }
    pure none
  else if on.contains 't' then malformed
  else if stop == ':' then pure (some ⟨on, []⟩)
  else if stop == '-' then
    let (off, stop) ← optionLetters (← next)
    if stop == ':' && !off.any (fun c => "aLut".toList.contains c || on.contains c) then
      pure (some ⟨on, off⟩)
    else malformed
  else malformed

/-- The options inside a group that switches some. -/
def Switches.apply (s : Switches) (o : Options) : Options where
  ignoreCase := (o.ignoreCase || s.on.contains 'i') && !s.off.contains 'i'
  manyLines := (o.manyLines || s.on.contains 'm') && !s.off.contains 'm'
  dotAll := (o.dotAll || s.on.contains 's') && !s.off.contains 's'
  verbose := (o.verbose || s.on.contains 'x') && !s.off.contains 'x'
  ascii := (o.ascii && !s.on.contains 'u') || s.on.contains 'a'

/-! ## Groups -/

/-- Opens a group. -/
def openGroup (name : Option String) : Parser Nat := do
  let p ← get
  match name with
  | none =>
    set { p with opened := p.opened + 1 }
    pure p.opened
  | some n =>
    if (p.names.lookup n).isSome then malformed
    else
      set { p with opened := p.opened + 1, names := (n, p.opened) :: p.names }
      pure p.opened

/-- The group that a condition asks for: by name or by number. -/
def conditionGroup : Parser Nat := do
  let cs ← textBefore ')'
  if isName cs then
    match (← get).names.lookup (String.ofList cs) with
    | some n => pure n
    | none => malformed
  else
    match Decimal.readInt? cs with
    | some n =>
      if n ≤ 0 then malformed
      else
        modify fun p => { p with conditions := n.toNat :: p.conditions }
        pure n.toNat
    | none => malformed

/-- Takes the closing parenthesis. -/
def close : Parser Unit := do
  if ← accept ')' then pure () else malformed

/-- What follows the first occurrence of a character that no backslash precedes. -/
def afterPlain? (c : Char) : List Char → Option (List Char)
  | [] => none
  | '\\' :: _ :: rest => afterPlain? c rest
  | d :: rest => if c = d then some rest else afterPlain? c rest

/-- Skips a comment and its closing parenthesis. -/
def comment : Parser Unit := do
  let p ← get
  match afterPlain? ')' p.rest with
  | none => malformed
  | some rest => set { p with rest := rest }

/-- The items of a sequence as one pattern. The last item comes first. -/
def joined (items : List Item) : Node :=
  match items with
  | [] => .empty
  | last :: before => before.foldl (fun node item => .seq item.node node) last.node

/-- Skips what a verbose pattern may hold between its parts, if one of them is next. -/
def skipVerbose (c : Char) : Parser Bool := do
  if c == ' ' || (9 ≤ c.toNat && c.toNat ≤ 13) then pure true
  else if c == '#' then
    modify fun p => { p with rest := (afterPlain? '\n' p.rest).getD [] }
    pure true
  else pure false

mutual

/-- Alternatives up to a closing parenthesis or the end. At the top, options may come
first. -/
def alternatives : Nat → Options → (top : Bool) → Parser Node
  | 0, _, _ => malformed
  | fuel + 1, o, top => do
    let first ← sequence fuel o top []
    if ← accept '|' then
      let p ← get
      let others ← moreAlternatives fuel (if top then p.options else o)
      pure (.either first others)
    else pure first

/-- Alternatives after the first one. -/
def moreAlternatives : Nat → Options → Parser Node
  | 0, _ => malformed
  | fuel + 1, o => do
    let first ← sequence fuel o false []
    if ← accept '|' then
      let others ← moreAlternatives fuel o
      pure (.either first others)
    else pure first

/-- Items up to a bar, a closing parenthesis or the end. Those read so far come with the
last one first. -/
def sequence : Nat → Options → (leading : Bool) → List Item → Parser Node
  | 0, _, _, _ => malformed
  | fuel + 1, o, leading, items => do
    match ← peek? with
    | none => pure (joined items)
    | some c =>
      if c == '|' || c == ')' then pure (joined items)
      else
        let _ ← next?
        if ← (if o.verbose then skipVerbose c else pure false) then
          sequence fuel o leading items
        else
          match c with
          | '\\' => sequence fuel o leading ((← escape o) :: items)
          | '[' => sequence fuel o leading ((← charClass o) :: items)
          | '.' => sequence fuel o leading (⟨.plain, .any o.dotAll⟩ :: items)
          | '^' =>
            let a := if o.manyLines then Anchor.lineStart else .textStart
            sequence fuel o leading (⟨.anchor, .at a⟩ :: items)
          | '$' =>
            let a := if o.manyLines then Anchor.lineEnd else .lastLineEnd
            sequence fuel o leading (⟨.anchor, .at a⟩ :: items)
          | '(' =>
            if ← accept '?' then
              match ← extension fuel o (← next) with
              | .item item => sequence fuel o leading (item :: items)
              | .comment => sequence fuel o leading items
              | .options =>
                let p ← get
                if leading && items.isEmpty then sequence fuel p.options leading items
                else malformed
            else
              let item ← capture fuel o none
              sequence fuel o leading (item :: items)
          | _ =>
            if c == '?' || c == '*' || c == '+' || c == '\x7b' then
              match ← bounds? c with
              | some (least, most) => sequence fuel o leading (← repeatLast least most items)
              | none => sequence fuel o leading (literal o c.toNat :: items)
            else sequence fuel o leading (literal o c.toNat :: items)

/-- A group that captures, after its head. -/
def capture : Nat → Options → Option String → Parser Item
  | 0, _, _ => malformed
  | fuel + 1, o, name => do
    let index ← openGroup name
    let body ← alternatives fuel o false
    close
    modify fun p => { p with closed := (index, body.width) :: p.closed }
    pure ⟨.plain, .group index body⟩

/-- What stands in parentheses after a question mark and the character `c`. -/
def extension : Nat → Options → Char → Parser Extension
  | 0, _, _ => malformed
  | fuel + 1, o, c => do
    match c with
    | 'P' =>
      if ← accept '<' then
        let name ← nameBefore '>'
        return .item (← capture fuel o (some name))
      if ← accept '=' then
        let name ← nameBefore ')'
        match (← get).names.lookup name with
        | some index => return .item (← reference o index)
        | none => malformed
      malformed
    | ':' =>
      let body ← alternatives fuel o false
      close
      return .item ⟨.plain, body⟩
    | '#' =>
      comment
      return .comment
    | '=' => return .item (← look fuel o false)
    | '!' => return .item (← look fuel o true)
    | '<' =>
      let sign ← next
      if sign == '=' then return .item (← lookBehind fuel o false)
      else if sign == '!' then return .item (← lookBehind fuel o true)
      else malformed
    | '(' =>
      let index ← conditionGroup
      checkBehind index
      let yes ← sequence fuel o false []
      let no ← if ← accept '|' then sequence fuel o false [] else pure .empty
      close
      return .item ⟨.plain, .ifGroup index yes no⟩
    | '>' =>
      let body ← alternatives fuel o false
      close
      return .item ⟨.plain, .atomic body⟩
    | _ =>
      if isOptionLetter c || c == '-' then
        match ← switches? c with
        | none => return .options
        | some s =>
          let body ← alternatives fuel (s.apply o) false
          close
          return .item ⟨.plain, body⟩
      else malformed

/-- A look ahead, after its head. -/
def look : Nat → Options → Bool → Parser Item
  | 0, _, _ => malformed
  | fuel + 1, o, negated => do
    let body ← alternatives fuel o false
    close
    pure ⟨.plain, .look negated 0 body⟩

/-- A look behind, after its head. What it looks for has one width. -/
def lookBehind : Nat → Options → Bool → Parser Item
  | 0, _, _ => malformed
  | fuel + 1, o, negated => do
    let outer := (← get).behindFrom
    modify fun p => { p with behindFrom := outer.or (some p.opened) }
    let body ← alternatives fuel o false
    modify fun p => { p with behindFrom := outer }
    close
    match body.width.fixed? with
    | some n => pure ⟨.plain, .look negated n body⟩
    | none => malformed

end

/-- A whole pattern. -/
def whole (fuel : Nat) : Parser Node := do
  let node ← alternatives fuel {} true
  let p ← get
  if !p.rest.isEmpty || p.conditions.any (p.opened ≤ ·) then malformed
  else if p.options.ascii && p.unicode then throw .clashingOptions
  else pure node

end Parser

/-- The pattern that a text writes. -/
def parse (source : List Char) : Except Fault Node :=
  ((Parser.whole (4 * source.length + 8)).run' { rest := source }).mapError Refusal.toFault

end RouteBook.Pattern
