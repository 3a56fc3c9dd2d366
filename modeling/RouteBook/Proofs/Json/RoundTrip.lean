import RouteBook.Proofs.Entries
import RouteBook.Proofs.Fault.Bind
import RouteBook.Proofs.Json.Scalar
import RouteBook.Proofs.Text.Pieces

/-!
# Compact JSON is read back

A value without numbers of floating point has a compact text, and reading this text gives the value
again, but for moments and tuples, which come back as texts and as lists (`exists_writeCompact`).

1. `IsTextOf text v` says that a text is read as a value wherever it stands, with fuel for twice its
   length. Names, integers and strings are such texts of their values (`isTextOf_int`,
   `isTextOf_text`).
2. Texts of items with commas between them are read as these items, and members likewise
   (`readItems_joined`, `readMembers_joined`). Each item takes one unit of fuel and at least one
   character, so the fuel for the whole is fuel for the rest.
3. The two are put together by induction on the value (`exists_isTextOf`).
-/

namespace RouteBook

open RouteBook.Text

namespace Value

/-! ## Values that are read back -/

mutual

/-- What is read where the value was written: texts for moments and lists for tuples. -/
def asRead : Value → Value
  | moment t => text t.isoText
  | list items => list (asReadItems items)
  | tuple items => list (asReadItems items)
  | map entries => map (asReadEntries entries)
  | v => v

/-- What is read where the items were written. -/
def asReadItems : List Value → List Value
  | [] => []
  | v :: rest => v.asRead :: asReadItems rest

/-- What is read where the entries were written. -/
def asReadEntries : List (String × Value) → List (String × Value)
  | [] => []
  | (k, v) :: rest => (k, v.asRead) :: asReadEntries rest

end

theorem asReadEntries_eq_map (entries : List (String × Value)) :
    asReadEntries entries = entries.map fun e => (e.1, e.2.asRead) := by
  induction entries with
  | nil => rfl
  | cons e rest ih =>
    obtain ⟨k, v⟩ := e
    rw [asReadEntries, ih, List.map_cons]

/-- The values of a document: all that JSON has a form for and moments, with integers that are not too
long and no numbers of floating point. -/
inductive Readable : Value → Prop
  | null : Readable null
  | bool (b : Bool) : Readable (bool b)
  | int {n : Int} (h : Decimal.exceedsLimit n = false) : Readable (int n)
  | text (s : String) : Readable (text s)
  | moment (t : Calendar.Moment) : Readable (moment t)
  | list {items : List Value} (h : ∀ v ∈ items, Readable v) : Readable (list items)
  | tuple {items : List Value} (h : ∀ v ∈ items, Readable v) : Readable (tuple items)
  | map {entries : Entries Value} (hkeys : entries.keys.Nodup) (h : ∀ e ∈ entries, Readable e.2) :
    Readable (map entries)

end Value

namespace Json

variable {text rest : List Char} {v : Value} {fuel : Nat}

/-! ## Texts of values -/

/-- The text is read as the value wherever it stands, and its first character cannot be taken for
anything else. -/
structure IsTextOf (text : List Char) (v : Value) : Prop where
  starts : ∃ c tail, text = c :: tail ∧ isSpace c = false ∧ c ≠ ']' ∧ c ≠ byteOrderMark
  reads : ∀ rest fuel, EndsNumber rest → 2 * text.length ≤ fuel →
    readValue .plain fuel (text ++ rest) = .ok (v, rest)

theorem skipSpaces_cons {c : Char} (h : isSpace c = false) (cs : List Char) :
    skipSpaces (c :: cs) = c :: cs := by
  rw [skipSpaces, List.dropWhile_cons_of_neg (by simp [h])]

theorem IsTextOf.skipSpaces_append (h : IsTextOf text v) (rest : List Char) :
    skipSpaces (text ++ rest) = text ++ rest := by
  obtain ⟨c, tail, rfl, hc, -⟩ := h.starts
  exact skipSpaces_cons hc (tail ++ rest)

theorem readValue_scalar {c : Char} (h : c ≠ quoteMark ∧ c ≠ '\x7b' ∧ c ≠ '[') (fuel : Nat)
    (cs : List Char) : readValue .plain (fuel + 1) (c :: cs) = readScalar (c :: cs) := by
  rw [readValue, if_neg (by simpa using h.1), if_neg (by simpa using h.2.1),
    if_neg (by simpa using h.2.2)]

theorem isTextOf_scalar {c : Char} {tail : List Char} (hspace : isSpace c = false)
    (hclose : c ≠ ']') (hmark : c ≠ byteOrderMark) (hopen : c ≠ quoteMark ∧ c ≠ '\x7b' ∧ c ≠ '[')
    (h : ∀ rest, EndsNumber rest → readScalar (c :: tail ++ rest) = .ok (v, rest)) :
    IsTextOf (c :: tail) v where
  starts := ⟨c, tail, rfl, hspace, hclose, hmark⟩
  reads := by
    intro rest fuel hrest hfuel
    obtain ⟨k, rfl⟩ : ∃ k, fuel = k + 1 := ⟨fuel - 1, by rw [List.length_cons] at hfuel; omega⟩
    rw [List.cons_append, readValue_scalar hopen]
    exact h rest hrest

theorem isTextOf_null : IsTextOf "null".toList .null :=
  isTextOf_scalar (by decide) (by decide) (by decide) (by decide) fun _ _ => rfl

theorem isTextOf_bool (b : Bool) : IsTextOf (if b then "true" else "false").toList (.bool b) := by
  cases b with
  | true => exact isTextOf_scalar (by decide) (by decide) (by decide) (by decide) fun _ _ => rfl
  | false => exact isTextOf_scalar (by decide) (by decide) (by decide) (by decide) fun _ _ => rfl

/-! ## Integers -/

theorem ne_of_isAsciiDigit {c d : Char} (hc : isAsciiDigit c = true) (hd : isAsciiDigit d = false) :
    c ≠ d := by
  rintro rfl
  rw [hd] at hc
  exact Bool.noConfusion hc

theorem findSome?_named {c : Char} (hc : isAsciiDigit c = true) (cs : List Char) :
    (named.findSome? fun p => (after? p.1.toList (c :: cs)).map (p.2, ·)) = none ∧
      (named.findSome? fun p => (after? p.1.toList ('-' :: c :: cs)).map (p.2, ·)) = none := by
  have hne (d : Char) (hd : isAsciiDigit d = false) : ¬ d = c := (ne_of_isAsciiDigit hc hd).symm
  constructor
  · simp [named, after?, hne 'n' (by decide), hne 't' (by decide), hne 'f' (by decide),
      hne 'N' (by decide), hne 'I' (by decide), hne '-' (by decide)]
  · simp [named, after?, hne 'I' (by decide)]

/-- An integer within the limit is read back from its digits. -/
theorem isTextOf_int {n : Int} (hn : Decimal.exceedsLimit n = false) :
    IsTextOf (Decimal.intText n).toList (.int n) := by
  obtain ⟨c, tail, hdigits, hc⟩ : ∃ c tail, Decimal.natDigits n.natAbs = c :: tail ∧
      isAsciiDigit c = true := by
    cases hd : Decimal.natDigits n.natAbs with
    | nil => exact absurd hd (Decimal.natDigits_ne_nil _)
    | cons c tail =>
      exact ⟨c, tail, rfl, Decimal.isAsciiDigit_of_mem_natDigits (hd ▸ List.mem_cons_self)⟩
  have hread := fun rest (hrest : EndsNumber rest) => readNumber_intText hn hrest
  have htext : (Decimal.intText n).toList = if n < 0 then '-' :: c :: tail else c :: tail := by
    rw [Decimal.intText, String.toList_ofList, hdigits]
  rw [htext] at hread ⊢
  split_ifs at hread ⊢ with hneg
  · refine isTextOf_scalar (by decide) (by decide) (by decide) (by decide) fun rest hrest => ?_
    rw [readScalar, List.cons_append, List.cons_append, (findSome?_named hc _).2]
    exact hread rest hrest
  · have hne (d : Char) (hd : isAsciiDigit d = false) : c ≠ d := ne_of_isAsciiDigit hc hd
    have hspace : isSpace c = false := by
      simp [isSpace, hne ' ' (by decide), hne '\t' (by decide), hne '\n' (by decide),
        hne '\r' (by decide)]
    refine isTextOf_scalar hspace (hne ']' (by decide)) (hne byteOrderMark (by decide))
      ⟨hne quoteMark (by decide), hne '\x7b' (by decide), hne '[' (by decide)⟩ fun rest hrest => ?_
    rw [readScalar, List.cons_append, (findSome?_named hc _).1]
    exact hread rest hrest

/-! ## Strings -/

theorem isTextOf_text (s : String) : IsTextOf (stringText false s.toList) (.text s) where
  starts := ⟨quoteMark, _, rfl, by decide, by decide, by decide⟩
  reads := by
    intro rest fuel _ hfuel
    obtain ⟨k, rfl⟩ : ∃ k, fuel = k + 1 :=
      ⟨fuel - 1, by rw [stringText, List.cons_append, List.length_cons] at hfuel; omega⟩
    have htext : stringText false s.toList ++ rest =
        quoteMark :: (s.toList.flatMap (stringChar false) ++ quoteMark :: rest) := by
      simp [stringText]
    rw [htext, readValue, if_pos (by decide), readString_stringText]
    show Except.ok (Value.ofLetters (s.toList.map .char), rest) = _
    rw [Value.ofLetters_char, String.ofList_toList]

/-! ## Lists -/

theorem skipSpaces_joined (h : ∀ rest, skipSpaces (text ++ rest) = text ++ rest)
    (texts : List (List Char)) (rest : List Char) :
    skipSpaces (joinWith [','] (text :: texts) ++ rest) = joinWith [','] (text :: texts) ++ rest := by
  obtain ⟨more, hmore⟩ := exists_joinWith_cons [','] text texts
  rw [hmore, List.append_assoc, h]

theorem readItems_last {seen : List Value} {cs : List Char}
    (h : readValue .plain fuel cs = .ok (v, ']' :: rest)) :
    readItems .plain (fuel + 1) seen cs = .ok (.list (seen.reverse ++ [v]), rest) := by
  rw [readItems, h]
  show Except.ok (Value.list (v :: seen).reverse, rest) = _
  rw [List.reverse_cons]

theorem readItems_next {seen : List Value} {cs : List Char}
    (h : readValue .plain fuel cs = .ok (v, ',' :: rest)) :
    readItems .plain (fuel + 1) seen cs = readItems .plain fuel (v :: seen) (skipSpaces rest) := by
  rw [readItems, h]
  rfl

/-- The items of a list are read one by one. The induction is on what is left of them. -/
theorem readItems_joined {items : List Value} {texts : List (List Char)}
    (h : List.Forall₂ (fun v text => IsTextOf text v) items texts) (hne : items ≠ [])
    (seen : List Value) (rest : List Char) (hfuel : 2 * (joinWith [','] texts).length + 1 ≤ fuel) :
    readItems .plain fuel seen (joinWith [','] texts ++ ']' :: rest) =
      .ok (.list (seen.reverse ++ items), rest) := by
  induction h generalizing seen fuel with
  | nil => exact absurd rfl hne
  | @cons v text items texts hv hrest ih =>
    obtain ⟨k, rfl⟩ : ∃ k, fuel = k + 1 := ⟨fuel - 1, by omega⟩
    cases hrest with
    | nil =>
      rw [joinWith] at hfuel ⊢
      exact readItems_last (hv.reads _ k (endsNumber_cons (by decide) rest) (by omega))
    | @cons w next items texts hw hrest =>
      rw [joinWith_singleton] at hfuel ⊢
      rw [List.length_append, List.length_cons] at hfuel
      have hread : readValue .plain k (text ++ ',' :: (joinWith [','] (next :: texts) ++ ']' :: rest)) =
          .ok (v, ',' :: (joinWith [','] (next :: texts) ++ ']' :: rest)) :=
        hv.reads _ k (endsNumber_cons (by decide) _) (by omega)
      rw [List.append_assoc, List.cons_append, readItems_next hread,
        skipSpaces_joined hw.skipSpaces_append,
        ih (List.cons_ne_nil w items) (v :: seen) (by omega), List.reverse_cons, List.append_assoc]
      rfl

theorem isTextOf_list {items : List Value} {texts : List (List Char)}
    (h : List.Forall₂ (fun v text => IsTextOf text v) items texts) :
    IsTextOf ('[' :: joinWith [','] texts ++ [']']) (.list items) where
  starts := ⟨'[', _, rfl, by decide, by decide, by decide⟩
  reads := by
    intro rest fuel _ hfuel
    rw [List.cons_append, List.length_cons, List.length_append, List.length_singleton] at hfuel
    obtain ⟨k, rfl⟩ : ∃ k, fuel = k + 1 := ⟨fuel - 1, by omega⟩
    rw [List.cons_append, List.cons_append, List.append_assoc, List.singleton_append, readValue,
      if_neg (by decide), if_neg (by decide), if_pos (by decide)]
    cases h with
    | nil => rfl
    | @cons v text items texts hv hrest =>
      -- The first item does not start with the closing bracket.
      have hitems := readItems_joined (.cons hv hrest) (List.cons_ne_nil v items) [] rest
        (by omega : 2 * (joinWith [','] (text :: texts)).length + 1 ≤ k)
      obtain ⟨c, tail, hc, -, hclose, -⟩ := hv.starts
      obtain ⟨more, hmore⟩ := exists_joinWith_cons [','] text texts
      rw [skipSpaces_joined hv.skipSpaces_append]
      rw [hmore, hc] at hitems ⊢
      split
      · rename_i hbracket
        exact absurd (List.cons.inj hbracket).1 hclose
      · exact hitems

/-! ## Maps -/

/-- A member: its key, a colon and the text of its value. -/
def memberText (key : String) (text : List Char) : List Char :=
  stringText false key.toList ++ ':' :: text

theorem memberText_append (key : String) (text rest : List Char) :
    memberText key text ++ rest = memberText key (text ++ rest) := by
  rw [memberText, memberText, List.append_assoc, List.cons_append]

theorem memberText_eq_cons (key : String) (text : List Char) :
    memberText key text =
      quoteMark :: (key.toList.flatMap (stringChar false) ++ quoteMark :: ':' :: text) := by
  simp [memberText, stringText]

theorem skipSpaces_memberText (key : String) (text rest : List Char) :
    skipSpaces (memberText key text ++ rest) = memberText key text ++ rest := by
  rw [memberText_eq_cons]
  exact skipSpaces_cons (by decide) _

theorem readMembers_last {seen : Entries Value} {key : String} {cs : List Char}
    (hspace : skipSpaces cs = cs) (h : readValue .plain fuel cs = .ok (v, '\x7d' :: rest)) :
    readMembers .plain (fuel + 1) false seen (memberText key cs) = .ok (.map (seen.put key v), rest) := by
  have hcolon : skipSpaces (':' :: cs) = ':' :: cs := skipSpaces_cons (by decide) cs
  have hclose : skipSpaces ('\x7d' :: rest) = '\x7d' :: rest := skipSpaces_cons (by decide) rest
  rw [memberText_eq_cons, readMembers]
  simp only [readString_stringText, hcolon, hspace, h, hclose, Letter.map_face_char,
    Letter.any_isLone_char]
  simp [Value.ofEntries]

theorem readMembers_next {seen : Entries Value} {key : String} {cs : List Char}
    (hspace : skipSpaces cs = cs) (h : readValue .plain fuel cs = .ok (v, ',' :: rest)) :
    readMembers .plain (fuel + 1) false seen (memberText key cs) =
      readMembers .plain fuel false (seen.put key v) (skipSpaces rest) := by
  have hcolon : skipSpaces (':' :: cs) = ':' :: cs := skipSpaces_cons (by decide) cs
  have hcomma : skipSpaces (',' :: rest) = ',' :: rest := skipSpaces_cons (by decide) rest
  rw [memberText_eq_cons, readMembers]
  simp only [readString_stringText, hcolon, hspace, h, hcomma, Letter.map_face_char,
    Letter.any_isLone_char]
  simp

/-- The text is a member with the key and the value of an entry. -/
def IsMemberText : String × Value → List Char → Prop
  | (key, v), member => ∃ text, member = memberText key text ∧ IsTextOf text v

/-- The members of a map are read one by one. The induction is on what is left of them. -/
theorem readMembers_joined {entries : Entries Value} {members : List (List Char)}
    (h : List.Forall₂ IsMemberText entries members) (hne : entries ≠ []) (seen : Entries Value)
    (rest : List Char) (hfuel : 2 * (joinWith [','] members).length + 1 ≤ fuel) :
    readMembers .plain fuel false seen (joinWith [','] members ++ '\x7d' :: rest) =
      .ok (.map (seen.merge entries), rest) := by
  induction h generalizing seen fuel with
  | nil => exact absurd rfl hne
  | @cons e member entries members he hrest ih =>
    obtain ⟨k, rfl⟩ : ∃ k, fuel = k + 1 := ⟨fuel - 1, by omega⟩
    obtain ⟨key, v⟩ := e
    obtain ⟨text, rfl, hv⟩ := he
    have hlength : text.length < (memberText key text).length := by
      rw [memberText_eq_cons, List.length_cons, List.length_append, List.length_cons, List.length_cons]
      omega
    cases hrest with
    | nil =>
      rw [joinWith] at hfuel ⊢
      have hread : readValue .plain k (text ++ '\x7d' :: rest) = .ok (v, '\x7d' :: rest) :=
        hv.reads _ k (endsNumber_cons (by decide) rest) (by omega)
      rw [memberText_append, readMembers_last (hv.skipSpaces_append _) hread]
      rfl
    | @cons e' next entries members he' hrest =>
      rw [joinWith_singleton] at hfuel ⊢
      rw [List.length_append, List.length_cons] at hfuel
      have hspaces (r : List Char) : skipSpaces (next ++ r) = next ++ r := by
        obtain ⟨key', w⟩ := e'
        obtain ⟨text', rfl, -⟩ := he'
        exact skipSpaces_memberText key' text' r
      have hread : readValue .plain k (text ++ ',' :: (joinWith [','] (next :: members) ++ '\x7d' :: rest)) =
          .ok (v, ',' :: (joinWith [','] (next :: members) ++ '\x7d' :: rest)) :=
        hv.reads _ k (endsNumber_cons (by decide) _) (by omega)
      rw [List.append_assoc, List.cons_append, memberText_append,
        readMembers_next (hv.skipSpaces_append _) hread, skipSpaces_joined hspaces,
        ih (List.cons_ne_nil e' entries) (seen.put key v) (by omega)]
      rfl

/-- A map of distinct keys is read back from its members. -/
theorem isTextOf_map {entries : Entries Value} {members : List (List Char)}
    (hkeys : entries.keys.Nodup) (h : List.Forall₂ IsMemberText entries members) :
    IsTextOf ('\x7b' :: joinWith [','] members ++ ['\x7d']) (.map entries) where
  starts := ⟨'\x7b', _, rfl, by decide, by decide, by decide⟩
  reads := by
    intro rest fuel _ hfuel
    rw [List.cons_append, List.length_cons, List.length_append, List.length_singleton] at hfuel
    obtain ⟨k, rfl⟩ : ∃ k, fuel = k + 1 := ⟨fuel - 1, by omega⟩
    rw [List.cons_append, List.cons_append, List.append_assoc, List.singleton_append, readValue,
      if_neg (by decide), if_pos (by decide)]
    cases h with
    | nil => rfl
    | @cons e member entries members he hrest =>
      have hall := readMembers_joined (.cons he hrest) (List.cons_ne_nil e entries) [] rest
        (by omega : 2 * (joinWith [','] (member :: members)).length + 1 ≤ k)
      rw [Entries.merge_nil_of_nodup hkeys] at hall
      obtain ⟨key, v⟩ := e
      obtain ⟨text, rfl, -⟩ := he
      obtain ⟨more, hmore⟩ := exists_joinWith_cons [','] (memberText key text) members
      rw [skipSpaces_joined fun r => skipSpaces_memberText key text r]
      rw [hmore, memberText_eq_cons] at hall ⊢
      exact hall

/-! ## Values -/

theorem exists_writeItems {items : List Value}
    (h : ∀ v ∈ items, ∃ text, write compact v = .ok text ∧ IsTextOf text v.asRead) :
    ∃ texts, writeItems compact items = .ok texts ∧
      List.Forall₂ (fun v text => IsTextOf text v) (Value.asReadItems items) texts := by
  induction items with
  | nil => exact ⟨[], rfl, List.Forall₂.nil⟩
  | cons v items ih =>
    obtain ⟨text, hwrite, htext⟩ := h v List.mem_cons_self
    obtain ⟨texts, hwrites, htexts⟩ := ih fun w hw => h w (List.mem_cons_of_mem v hw)
    refine ⟨text :: texts, ?_, List.Forall₂.cons htext htexts⟩
    rw [writeItems, hwrite, hwrites]
    rfl

theorem exists_writeEntries {entries : Entries Value}
    (h : ∀ e ∈ entries, ∃ text, write compact e.2 = .ok text ∧ IsTextOf text e.2.asRead) :
    ∃ members, writeEntries compact entries = .ok members ∧
      List.Forall₂ IsMemberText (Value.asReadEntries entries) members := by
  induction entries with
  | nil => exact ⟨[], rfl, List.Forall₂.nil⟩
  | cons e entries ih =>
    obtain ⟨key, v⟩ := e
    obtain ⟨text, hwrite, htext⟩ := h (key, v) List.mem_cons_self
    obtain ⟨members, hwrites, hmembers⟩ := ih fun e he => h e (List.mem_cons_of_mem _ he)
    refine ⟨memberText key text :: members, ?_, List.Forall₂.cons ⟨text, rfl, htext⟩ hmembers⟩
    have hmember : stringText false key.toList ++ [':'] ++ text = memberText key text := by
      rw [List.append_assoc]
      rfl
    rw [writeEntries, hwrite, hwrites]
    show Except.ok ((stringText false key.toList ++ [':'] ++ text) :: members) = _
    rw [hmember]

theorem keys_asReadEntries (entries : Entries Value) :
    Entries.keys (Value.asReadEntries entries) = entries.keys := by
  rw [Value.asReadEntries_eq_map, Entries.keys, List.map_map]
  rfl

/-- Every value of a document has a text. -/
theorem exists_isTextOf (h : v.Readable) :
    ∃ text, write compact v = .ok text ∧ IsTextOf text v.asRead := by
  induction h with
  | null => exact ⟨_, rfl, isTextOf_null⟩
  | bool b => exact ⟨_, rfl, isTextOf_bool b⟩
  | @int n hn => exact ⟨_, by rw [write, intLiteral, hn]; rfl, isTextOf_int hn⟩
  | text s => exact ⟨_, rfl, isTextOf_text s⟩
  | moment t => exact ⟨_, rfl, isTextOf_text t.isoText⟩
  | list _ ih =>
    obtain ⟨texts, hwrite, htexts⟩ := exists_writeItems ih
    exact ⟨_, by rw [write, hwrite]; rfl, isTextOf_list htexts⟩
  | tuple _ ih =>
    obtain ⟨texts, hwrite, htexts⟩ := exists_writeItems ih
    exact ⟨_, by rw [write, hwrite]; rfl, isTextOf_list htexts⟩
  | @map entries hkeys _ ih =>
    obtain ⟨members, hwrite, hmembers⟩ := exists_writeEntries ih
    have hkeys' : (Entries.keys (Value.asReadEntries entries)).Nodup := by
      rwa [keys_asReadEntries]
    exact ⟨_, by rw [write, hwrite]; rfl, isTextOf_map hkeys' hmembers⟩

/-- A value of a document is written, and its text is read as the value. -/
theorem exists_writeCompact (h : v.Readable) :
    ∃ text, writeCompact v = .ok text ∧ read text = .ok v.asRead := by
  obtain ⟨cs, hwrite, hcs⟩ := exists_isTextOf h
  refine ⟨String.ofList cs, by rw [writeCompact, hwrite]; rfl, ?_⟩
  have hall : readAll .plain cs = .ok v.asRead := by
    have hread := hcs.reads [] (2 * cs.length + 2) endsNumber_nil (by omega)
    have hspaces := hcs.skipSpaces_append []
    rw [List.append_nil] at hread hspaces
    rw [readAll, hspaces, hread]
    rfl
  obtain ⟨c, tail, rfl, -, -, hmark⟩ := hcs.starts
  rw [read, String.toList_ofList]
  show (if c == byteOrderMark then _ else readFrom .plain (c :: tail)) = _
  rw [if_neg (by simpa using hmark), readFrom, hall]
  rfl

end Json

end RouteBook
