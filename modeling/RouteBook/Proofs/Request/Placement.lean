import RouteBook.Proofs.Fault.Unwritable
import RouteBook.Request.Assembly

/-!
# Where parameters go

What one step of the assembly does with a parameter (`step_cases`): nothing if the parameter is
absent, a substitution if its name stands in the address, an addition to the payload if it does not,
and a warning if its value has no written form. `visits` lists the parameters of a run, each with the
state in which its turn comes, so that what a run leaves behind can be said parameter by parameter.
-/

namespace RouteBook.Assembly

open RouteBook.Text

variable {message : Message} {path : String} {a b : Assembly} {name : String} {rule : Rule}

/-! ## Placeholders -/

theorem afterPlaceholder?_eq_some {name cs rest : List Char}
    (h : afterPlaceholder? name cs = some rest) : cs = ':' :: name ++ rest ∧ endsName rest = true := by
  unfold afterPlaceholder? at h
  obtain ⟨hr, he⟩ := Option.filter_eq_some_iff.mp h
  exact ⟨after?_eq_some_iff.mp hr, he⟩

theorem splitAt?_eq_some {name cs before after : List Char}
    (h : splitAt? name cs = some (before, after)) :
    cs = before ++ (':' :: name) ++ after ∧ endsName after = true := by
  induction cs generalizing before with
  | nil =>
    obtain ⟨rest, hr, hp⟩ := Option.map_eq_some_iff.mp h
    obtain ⟨rfl, rfl⟩ := Prod.mk.inj hp
    exact afterPlaceholder?_eq_some hr
  | cons c cs ih =>
    rw [splitAt?] at h
    cases ha : afterPlaceholder? name (c :: cs) with
    | some rest =>
      rw [ha] at h
      obtain ⟨rfl, rfl⟩ := Prod.mk.inj (Option.some.inj h)
      exact afterPlaceholder?_eq_some ha
    | none =>
      rw [ha] at h
      obtain ⟨⟨x, y⟩, hs, hp⟩ := Option.map_eq_some_iff.mp h
      obtain ⟨rfl, rfl⟩ := Prod.mk.inj hp
      obtain ⟨hcs, he⟩ := ih hs
      exact ⟨congrArg (c :: ·) hcs, he⟩

/-! ## One parameter -/

/-- The payload with the value of a parameter added to it. -/
def stored (name : String) (rule : Rule) (v : Value) : Payload → Except Fault Payload
  | .members entries => (Json.writeCompact v).map fun _ => .members (entries.put name v)
  | .pairs items =>
    (encodeValue rule.combined v).map fun encoded => .pairs (items ++ [pairText name encoded])
  | .whole w => (encodeValue rule.combined v).map fun _ => .whole w

theorem place_of_some {v : Value} {before after : List Char}
    (h : splitAt? name.toList a.url = some (before, after)) :
    a.place name rule v =
      (encodeValue rule.combined v).map fun encoded => { a with url := before ++ encoded ++ after } := by
  unfold place
  rw [h]
  rfl

theorem place_of_none {v : Value} (h : splitAt? name.toList a.url = none) :
    a.place name rule v =
      (stored name rule v a.payload).map fun payload => { a with payload } := by
  unfold place stored
  rw [h]
  cases hp : a.payload with
  | members entries => cases Json.writeCompact v <;> rfl
  | pairs items => cases encodeValue rule.combined v <;> rfl
  | whole w =>
    cases encodeValue rule.combined v with
    | error f => rfl
    | ok encoded => cases a; cases hp; rfl

theorem exists_place {v : Value} (hencoded : (encodeValue rule.combined v).isOk = true)
    (hwritten : (Json.writeCompact v).isOk = true) (a : Assembly) (name : String) :
    ∃ b, a.place name rule v = .ok b := by
  obtain ⟨encoded, hencoded⟩ := exists_of_isOk hencoded
  obtain ⟨text, hwritten⟩ := exists_of_isOk hwritten
  cases hs : splitAt? name.toList a.url with
  | some parts =>
    rw [place_of_some hs, hencoded]
    exact ⟨_, rfl⟩
  | none =>
    rw [place_of_none hs]
    unfold stored
    cases a.payload with
    | members entries => rw [hwritten]; exact ⟨_, rfl⟩
    | pairs items => rw [hencoded]; exact ⟨_, rfl⟩
    | whole w => rw [hencoded]; exact ⟨_, rfl⟩

/-! ## One step -/

theorem isNull_of_ne {v : Value} (h : v ≠ .null) : v.isNull = false := by
  cases v <;> first | exact absurd rfl h | rfl

theorem encodeValue_writeFaults (combined : Bool) (v : Value) :
    WriteFaults (encodeValue combined v) := by
  refine FailsWithin.bind (Value.encodableText_writeFaults v) fun text => ?_
  split
  · exact .pure _
  · exact .pure _

theorem place_writeFaults (a : Assembly) (name : String) (rule : Rule) (v : Value) :
    WriteFaults (a.place name rule v) := by
  unfold place
  split
  · exact (encodeValue_writeFaults _ _).bind fun _ => .pure _
  · split
    · exact (Json.writeCompact_writeFaults _).bind fun _ => .pure _
    · exact (encodeValue_writeFaults _ _).bind fun _ => .pure _
    · exact (encodeValue_writeFaults _ _).bind fun _ => .pure _

/-- No step fails: a value without a place is left out. -/
theorem exists_step (message : Message) (path : String) (a : Assembly) (param : String × Rule) :
    ∃ b, step message path a param = .ok b := by
  unfold step
  split
  · exact ⟨a, rfl⟩
  · unfold orDropped
    split
    · exact ⟨_, rfl⟩
    · rename_i f hf
      rw [if_pos (place_writeFaults _ _ _ _ f hf)]
      exact ⟨_, rfl⟩

/-- What one step does. -/
inductive Step (message : Message) (path : String) (a : Assembly) (name : String) (rule : Rule) :
    Assembly → Prop where
  /-- A parameter that is absent has no place. -/
  | absent (hnull : message.value name = .null) : Step message path a name rule a
  | substituted {before after encoded : List Char} (hgiven : message.value name ≠ .null)
      (hfound : splitAt? name.toList a.url = some (before, after))
      (hencoded : encodeValue rule.combined (message.value name) = .ok encoded) :
      Step message path a name rule { a with url := before ++ encoded ++ after }
  | added {payload : Payload} (hgiven : message.value name ≠ .null)
      (hfound : splitAt? name.toList a.url = none)
      (hstored : stored name rule (message.value name) a.payload = .ok payload) :
      Step message path a name rule { a with payload }
  /-- A value that has no written form is left out with a warning. -/
  | leftOut {f : Fault} (hgiven : message.value name ≠ .null)
      (hfault : a.place name rule (message.value name) = .error f) (hf : f.isUnwritable = true) :
      Step message path a name rule { a with warnings := a.warnings ++ [dropped path name] }

theorem step_of_given (h : message.value name ≠ .null) :
    step message path a (name, rule) =
      a.orDropped path name (a.place name rule (message.value name)) := by
  unfold step
  cases hv : message.value name <;> first | exact absurd hv h | rfl

/-- A step that succeeds does one of four things. -/
theorem step_cases (h : step message path a (name, rule) = .ok b) :
    Step message path a name rule b := by
  by_cases hnull : message.value name = .null
  · have ha : step message path a (name, rule) = .ok a := by
      unfold step
      rw [hnull]
    obtain rfl := Except.ok.inj (ha.symm.trans h)
    exact Step.absent hnull
  rw [step_of_given hnull] at h
  unfold orDropped at h
  cases hp : a.place name rule (message.value name) with
  | error f =>
    rw [hp] at h
    by_cases hf : f.isUnwritable = true
    · simp only [if_pos hf] at h
      obtain rfl := Except.ok.inj h
      exact Step.leftOut hnull hp hf
    · simp only [if_neg hf] at h
      exact nomatch h
  | ok c =>
    rw [hp] at h
    obtain rfl := Except.ok.inj h
    cases hs : splitAt? name.toList a.url with
    | some parts =>
      obtain ⟨before, after⟩ := parts
      rw [place_of_some hs] at hp
      obtain ⟨encoded, he, rfl⟩ := map_eq_ok_iff.mp hp
      exact Step.substituted hnull hs he
    | none =>
      rw [place_of_none hs] at hp
      obtain ⟨payload, he, rfl⟩ := map_eq_ok_iff.mp hp
      exact Step.added hnull hs he

/-! ## A run -/

theorem start_url (message : Message) (path : String) (format : Format) (url : List Char) :
    (start message path format url).url = url := by
  unfold start
  split
  · rfl
  · dsimp only
    split
    · split <;> rfl
    · rfl
  · rfl

/-- A parameter with the state in which its turn comes. -/
structure Visit where
  state : Assembly
  name : String
  rule : Rule

/-- The parameters of a run in order, each with the state in which its turn comes. -/
def visits (message : Message) (path : String) : Assembly → Entries Rule → List Visit
  | _, [] => []
  | a, (name, rule) :: rest =>
    ⟨a, name, rule⟩ ::
      match step message path a (name, rule) with
      | .ok b => visits message path b rest
      | .error _ => []

theorem visits_cons (h : step message path a (name, rule) = .ok b) (rest : Entries Rule) :
    visits message path a ((name, rule) :: rest) =
      ⟨a, name, rule⟩ :: visits message path b rest := by
  rw [visits, h]

theorem run_cons {rest : Entries Rule} {c : Assembly}
    (h : ((name, rule) :: rest).foldlM (step message path) a = .ok c) :
    ∃ b, step message path a (name, rule) = .ok b ∧ rest.foldlM (step message path) b = .ok c := by
  rw [List.foldlM_cons] at h
  exact bind_eq_ok_iff.mp h

theorem exists_run (message : Message) (path : String) (a : Assembly) (params : Entries Rule) :
    ∃ b, params.foldlM (step message path) a = .ok b := by
  induction params generalizing a with
  | nil => exact ⟨a, rfl⟩
  | cons p rest ih =>
    obtain ⟨b, hb⟩ := exists_step message path a p
    obtain ⟨c, hc⟩ := ih b
    exact ⟨c, by rw [List.foldlM_cons, hb]; exact hc⟩

theorem map_visits {params : Entries Rule} {c : Assembly}
    (h : params.foldlM (step message path) a = .ok c) :
    (visits message path a params).map (fun v => (v.name, v.rule)) = params := by
  induction params generalizing a with
  | nil => rfl
  | cons p rest ih =>
    obtain ⟨name, rule⟩ := p
    obtain ⟨b, hb, hc⟩ := run_cons h
    rw [visits_cons hb, List.map_cons, ih hc]

end RouteBook.Assembly
