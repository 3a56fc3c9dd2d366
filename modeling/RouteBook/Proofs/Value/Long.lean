import RouteBook.Proofs.Decimal.Range
import RouteBook.Proofs.Fault.Bind
import RouteBook.Value.Text

/-!
# Values that are too long to be written

A plain value is made of what JSON has a form for. It has a text in every form, unless an integer in it has
more digits than may be written; then it has no text in any form (`Plain.shown`, `Plain.wireText`).
-/

namespace RouteBook

variable {α β : Type} {condition : Prop}

/-! ## Failing under a condition -/

/-- A step that fails exactly under a condition, and then because a value is out of its domain. -/
structure FailsWhen (condition : Prop) (x : Except Fault α) : Prop where
  fails : condition → x = .error .badValue
  gives : ¬ condition → ∃ a, x = .ok a

namespace FailsWhen

theorem ok (h : ¬ condition) (a : α) : FailsWhen condition (.ok a : Except Fault α) :=
  ⟨fun hc => absurd hc h, fun _ => ⟨a, rfl⟩⟩

theorem guard (c : Bool) (a : α) :
    FailsWhen (c = true) (if c = true then .error .badValue else .ok a : Except Fault α) := by
  split
  · rename_i hc
    exact ⟨fun _ => rfl, fun h => absurd hc h⟩
  · rename_i hc
    exact ok hc a

theorem congr {other : Prop} {x : Except Fault α} (hx : FailsWhen condition x)
    (h : condition ↔ other) : FailsWhen other x :=
  propext h ▸ hx

theorem map {x : Except Fault α} (f : α → β) (hx : FailsWhen condition x) :
    FailsWhen condition (x.map f) where
  fails h := map_eq_error_iff.mpr (hx.fails h)
  gives h := by
    obtain ⟨a, ha⟩ := hx.gives h
    exact ⟨f a, map_eq_ok_iff.mpr ⟨a, ha, rfl⟩⟩

theorem mapM {f : α → Except Fault β} {long : α → Prop} {xs : List α}
    (h : ∀ x ∈ xs, FailsWhen (long x) (f x)) : FailsWhen (∃ x ∈ xs, long x) (xs.mapM f) := by
  induction xs with
  | nil => exact ok (fun ⟨_, hx, _⟩ => nomatch hx) []
  | cons x xs ih =>
    obtain ⟨hx, hxs⟩ := List.forall_mem_cons.mp h
    have htail := ih hxs
    rw [List.mapM_cons]
    by_cases hlong : long x
    · rw [hx.fails hlong]
      exact ⟨fun _ => rfl, fun hnone => absurd ⟨x, List.mem_cons_self, hlong⟩ hnone⟩
    · obtain ⟨b, hb⟩ := hx.gives hlong
      have hiff : (∃ y ∈ x :: xs, long y) ↔ ∃ y ∈ xs, long y := by
        rw [List.exists_mem_cons_iff, or_iff_right hlong]
      rw [hb]
      exact (htail.map (b :: ·)).congr hiff.symm

end FailsWhen

namespace Value

/-! ## Plain values -/

/-- A value that JSON has a form for. -/
inductive Plain : Value → Prop
  | null : Plain null
  | bool (b : Bool) : Plain (bool b)
  | int (n : Int) : Plain (int n)
  | float (x : Binary64) : Plain (float x)
  | text (s : String) : Plain (text s)
  | ragged (r : Text.Ragged) : Plain (ragged r)
  | list {items : List Value} (h : ∀ v ∈ items, Plain v) : Plain (list items)
  | map {entries : Entries Value} (h : ∀ e ∈ entries, Plain e.2) : Plain (map entries)
  | raggedMap {entries : Entries Value} (h : ∀ e ∈ entries, Plain e.2) : Plain (raggedMap entries)

/-- A value with an integer in it that has more digits than may be written. -/
inductive HasLong : Value → Prop
  | int {n : Int} (h : Decimal.exceedsLimit n = true) : HasLong (int n)
  | list {items : List Value} {v : Value} (hv : v ∈ items) (h : HasLong v) : HasLong (list items)
  | map {entries : Entries Value} {e : String × Value} (he : e ∈ entries) (h : HasLong e.2) :
    HasLong (map entries)
  | raggedMap {entries : Entries Value} {e : String × Value} (he : e ∈ entries) (h : HasLong e.2) :
    HasLong (raggedMap entries)

variable {v : Value} {items : List Value} {entries : Entries Value} {n : Int}

theorem hasLong_int_iff : HasLong (int n) ↔ Decimal.exceedsLimit n = true :=
  ⟨fun h => by cases h; assumption, .int⟩

theorem hasLong_list_iff : HasLong (list items) ↔ ∃ v ∈ items, HasLong v :=
  ⟨fun h => by cases h; exact ⟨_, ‹_›, ‹_›⟩, fun ⟨_, hv, h⟩ => .list hv h⟩

theorem hasLong_map_iff : HasLong (map entries) ↔ ∃ e ∈ entries, HasLong e.2 :=
  ⟨fun h => by cases h; exact ⟨_, ‹_›, ‹_›⟩, fun ⟨_, he, h⟩ => .map he h⟩

theorem hasLong_raggedMap_iff : HasLong (raggedMap entries) ↔ ∃ e ∈ entries, HasLong e.2 :=
  ⟨fun h => by cases h; exact ⟨_, ‹_›, ‹_›⟩, fun ⟨_, he, h⟩ => .raggedMap he h⟩

/-! ## Texts in messages -/

theorem intDigits_failsWhen (n : Int) : FailsWhen (HasLong (int n)) (intDigits n) :=
  (FailsWhen.guard (Decimal.exceedsLimit n) _).congr hasLong_int_iff.symm

theorem quotedItems_eq_mapM (items : List Value) : quotedItems items = items.mapM quoted := by
  induction items with
  | nil => rfl
  | cons v rest ih => rw [quotedItems, List.mapM_cons, ih]

theorem quotedEntries_eq_mapM (entries : Entries Value) :
    quotedEntries entries = entries.mapM fun e =>
      e.2.quoted.map (String.ofList (Text.quote e.1.toList) ++ ": " ++ ·) := by
  induction entries with
  | nil => rfl
  | cons e rest ih =>
    rw [quotedEntries, List.mapM_cons, ih]
    cases e.2.quoted <;> rfl

theorem Plain.quoted (h : Plain v) : FailsWhen (HasLong v) v.quoted := by
  induction h with
  | null | bool _ | float _ | text _ | ragged _ =>
    rw [Value.quoted]
    exact .ok (by rintro ⟨⟩) _
  | int n =>
    rw [Value.quoted]
    exact intDigits_failsWhen n
  | list _ ih =>
    rw [Value.quoted, quotedItems_eq_mapM, hasLong_list_iff]
    exact (FailsWhen.mapM ih).map _
  | map _ ih =>
    rw [Value.quoted, quotedEntries_eq_mapM, hasLong_map_iff]
    exact (FailsWhen.mapM fun e he => (ih e he).map _).map _
  | raggedMap _ ih =>
    rw [Value.quoted, quotedEntries_eq_mapM, hasLong_raggedMap_iff]
    exact (FailsWhen.mapM fun e he => (ih e he).map _).map _

theorem Plain.shown (h : Plain v) : FailsWhen (HasLong v) v.shown := by
  cases h with
  | text s => exact .ok nofun s
  | ragged r => exact .ok nofun r.face
  | null => exact Plain.null.quoted
  | bool b => exact (Plain.bool b).quoted
  | int n => exact (Plain.int n).quoted
  | float x => exact (Plain.float x).quoted
  | list h => exact (Plain.list h).quoted
  | map h => exact (Plain.map h).quoted
  | raggedMap h => exact (Plain.raggedMap h).quoted

end Value

namespace Json

open Value

variable {style : Style} {v : Value}

/-! ## Texts on the wire -/

theorem intLiteral_failsWhen (n : Int) : FailsWhen (HasLong (.int n)) (intLiteral n) :=
  (FailsWhen.guard (Decimal.exceedsLimit n) _).congr hasLong_int_iff.symm

theorem writeItems_eq_mapM (style : Style) (items : List Value) :
    writeItems style items = items.mapM (write style) := by
  induction items with
  | nil => rfl
  | cons v rest ih => rw [writeItems, List.mapM_cons, ih]

theorem writeEntries_eq_mapM (style : Style) (entries : Entries Value) :
    writeEntries style entries = entries.mapM fun e =>
      (write style e.2).map (stringText style.asciiOnly e.1.toList ++ style.keySeparator ++ ·) := by
  induction entries with
  | nil => rfl
  | cons e rest ih =>
    rw [writeEntries, List.mapM_cons, ih]
    cases write style e.2 <;> rfl

theorem write_failsWhen (h : Plain v) : FailsWhen (HasLong v) (write style v) := by
  induction h with
  | null | bool _ | float _ | text _ | ragged _ =>
    rw [write]
    exact .ok (by rintro ⟨⟩) _
  | int n =>
    rw [write]
    exact intLiteral_failsWhen n
  | list _ ih =>
    rw [write, writeItems_eq_mapM, hasLong_list_iff]
    exact (FailsWhen.mapM ih).map _
  | map _ ih =>
    rw [write, writeEntries_eq_mapM, hasLong_map_iff]
    exact (FailsWhen.mapM fun e he => (ih e he).map _).map _
  | raggedMap _ ih =>
    rw [write, writeEntries_eq_mapM, hasLong_raggedMap_iff]
    exact (FailsWhen.mapM fun e he => (ih e he).map _).map _

end Json

namespace Value

-- Powers are those of the core library, as in the definitions.
attribute [local instance (high)] instPowNat

variable {v : Value} {n : Int}

theorem exceedsLimit_of_toInt? {x : Binary64} (h : x.toInt? = some n) :
    Decimal.exceedsLimit n = false := by
  have hlimit : 2 ^ (1024 : Nat) ≤ 10 ^ Decimal.digitLimit := by decide +kernel
  have hn := Binary64.natAbs_lt_of_toInt? h
  rw [Decimal.exceedsLimit, decide_eq_false_iff_not]
  exact not_le.mpr (hn.trans_le hlimit)

theorem Plain.wireText (h : Plain v) : FailsWhen (HasLong v) v.wireText := by
  cases h with
  | null => exact Plain.null.shown
  | text s => exact (Plain.text s).shown
  | ragged r => exact (Plain.ragged r).shown
  | int n => exact (Plain.int n).shown
  | bool b => exact .ok nofun _
  | list h => exact (Json.write_failsWhen (.list h)).map _
  | map h => exact (Json.write_failsWhen (.map h)).map _
  | raggedMap h => exact (Json.write_failsWhen (.raggedMap h)).map _
  | float x =>
    unfold Value.wireText
    dsimp only
    split
    · rename_i n hn
      unfold intDigits
      rw [exceedsLimit_of_toInt? hn]
      exact .ok nofun _
    · exact .ok nofun _

end Value

end RouteBook
