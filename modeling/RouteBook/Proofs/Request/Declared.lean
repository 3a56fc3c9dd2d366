import RouteBook.Proofs.Entries
import RouteBook.Proofs.Fault.Bind
import RouteBook.Request.Outbound

/-!
# A request holds only what its route declares

Two messages that agree on what a route declares make the same request, or end in the same fault, and
leave the same warnings (`prepare_eq_of_agree`).

1. Assembling reads a message at the names of the parameters alone, and at the data of a raw body
   (`assembled_congr`).
2. Headers that are not allowed may be left out before those of the settings are written over them
   (`addAllowed_filter`, `requested_congr`).
3. The rest of a request reads the path of the file and nothing else (`ofAssembly_congr`).
-/

namespace RouteBook

variable {config : Config} {env : Environment} {constants : Constants} {route : Route}
  {auth : Option Auth} {message other : Message} {format : Format}

/-! ## Assembling -/

namespace Assembly

variable {path : String}

theorem start_congr (h : format = .raw → message.value "data" = other.value "data") (url : List Char) :
    start message path format url = start other path format url := by
  cases format with
  | raw =>
    unfold start
    rw [h rfl]
  | _ => rfl

theorem step_congr {param : String × Rule} (h : message.value param.1 = other.value param.1)
    (a : Assembly) : step message path a param = step other path a param := by
  unfold step
  rw [h]

theorem run_congr {params : Entries Rule}
    (h : ∀ p ∈ params, message.value p.1 = other.value p.1) (a : Assembly) :
    params.foldlM (step message path) a = params.foldlM (step other path) a := by
  induction params generalizing a with
  | nil => rfl
  | cons p rest ih =>
    have hp := h p List.mem_cons_self
    have hrest : ∀ q ∈ rest, message.value q.1 = other.value q.1 :=
      fun q hq => h q (List.mem_cons_of_mem p hq)
    rw [List.foldlM_cons, List.foldlM_cons, step_congr hp]
    exact bind_congr fun b => ih hrest b

end Assembly

namespace Outbound

/-- What is assembled depends on the declared parameters and on the data of a raw body. -/
theorem assembled_congr (hparams : ∀ p ∈ route.params, message.value p.1 = other.value p.1)
    (hdata : route.format constants = .raw → message.value "data" = other.value "data") :
    assembled config constants route message = assembled config constants route other := by
  unfold assembled Assembly.assemble
  refine bind_congr fun url => ?_
  rw [Assembly.start_congr hdata, Assembly.run_congr hparams]

/-! ## Headers -/

/-- The headers that a message names: those of its map of headers, and none if it has none. -/
def givenHeaders? (message : Message) : Option (Entries Value) :=
  match message.value "headers" with
  | .null => some []
  | v => v.entries?

/-- Whether callers may set a header of this name. -/
def isAllowed (route : Route) (name : String) : Bool :=
  route.requestHeaders.contains (Text.lower name)

/-- The headers with those that a message and the settings ask for. -/
def requested (config : Config) (route : Route) (message : Message) (headers : Entries Value) :
    Except Fault (Entries Value) := do
  let custom ← customHeaders message config
  addAllowed route.requestHeaders headers custom

theorem customHeaders_of_given {given : Entries Value} (h : givenHeaders? message = some given) :
    customHeaders message config = .ok (given.merge config.headers) := by
  unfold givenHeaders? at h
  unfold customHeaders
  cases hv : message.value "headers" with
  | null =>
    rw [hv] at h
    obtain rfl := Option.some.inj h
    rfl
  | map entries | raggedMap entries =>
    rw [hv] at h
    obtain rfl := Option.some.inj h
    cases entries <;> rfl
  | loop =>
    rw [hv] at h
    obtain rfl := Option.some.inj h
    rfl
  | _ =>
    rw [hv] at h
    exact nomatch h

theorem addAllowed_filter (headers custom : Entries Value) :
    addAllowed route.requestHeaders headers custom =
      addAllowed route.requestHeaders headers (custom.filter fun e => isAllowed route e.1) := by
  unfold addAllowed isAllowed
  induction custom generalizing headers with
  | nil => rfl
  | cons e rest ih =>
    obtain ⟨name, v⟩ := e
    by_cases hname : route.requestHeaders.contains (Text.lower name) = true
    · rw [List.filter_cons_of_pos (by exact hname), List.foldlM_cons, List.foldlM_cons]
      exact bind_congr fun acc => ih acc
    · rw [List.filter_cons_of_neg (by exact hname), List.foldlM_cons]
      simp only [if_neg hname]
      exact ih headers

/-- Of the headers that a message names, only the allowed ones count. -/
theorem requested_congr {given given' : Entries Value} (h : givenHeaders? message = some given)
    (h' : givenHeaders? other = some given')
    (hsame : given.filter (fun e => isAllowed route e.1) = given'.filter fun e => isAllowed route e.1)
    (headers : Entries Value) :
    requested config route message headers = requested config route other headers := by
  unfold requested
  rw [customHeaders_of_given h, customHeaders_of_given h']
  show addAllowed route.requestHeaders headers (given.merge config.headers) =
    addAllowed route.requestHeaders headers (given'.merge config.headers)
  rw [addAllowed_filter, Entries.filter_merge, hsame, ← Entries.filter_merge, ← addAllowed_filter]

/-! ## Requests -/

/-- A request that is assembled depends on the headers that are asked for and on the path of its file. -/
theorem ofAssembly_congr
    (hheaders : ∀ headers, requested config route message headers =
      requested config route other headers)
    (hfile : route.hasFileBody = true → message.value "filePath" = other.value "filePath")
    (a : Assembly) :
    ofAssembly config env constants route auth message format a =
      ofAssembly config env constants route auth other format a := by
  have hpath : (if route.hasFileBody then message.value "filePath" else .null) =
      if route.hasFileBody then other.value "filePath" else .null := by
    split_ifs with hbody
    · exact hfile hbody
    · rfl
  unfold ofAssembly
  rw [hpath]
  refine bind_congr fun base => bind_congr fun target => bind_congr fun own => bind_congr fun q => ?_
  obtain ⟨path, headers⟩ := q
  have hask := hheaders headers
  unfold requested at hask
  dsimp only
  rw [← bind_assoc, ← bind_assoc, hask]

/-- A request depends on a message through what is assembled, the headers that are asked for and the
path of the file. -/
theorem prepare_congr
    (hassembled : assembled config constants route message = assembled config constants route other)
    (hheaders : ∀ headers, requested config route message headers =
      requested config route other headers)
    (hfile : route.hasFileBody = true → message.value "filePath" = other.value "filePath") :
    prepare config env constants route auth message =
      prepare config env constants route auth other := by
  unfold prepare
  rw [hassembled]
  refine bind_congr fun a => ?_
  rw [ofAssembly_congr hheaders hfile]

/-- The warnings that making a request leaves, also if it ends in a fault. -/
def warnings (config : Config) (constants : Constants) (route : Route) (message : Message) :
    List LogLine :=
  match assembled config constants route message with
  | .ok a => a.warnings
  | .error _ => []

/-- Two messages agree on what a route declares: on the values of its parameters, on the allowed ones
of their headers, on the data if it is sent as it is, and on the path of the file if one is sent. -/
structure Agree (constants : Constants) (route : Route) (message other : Message) : Prop where
  params : ∀ p ∈ route.params, message.value p.1 = other.value p.1
  headers : ∃ given given', givenHeaders? message = some given ∧ givenHeaders? other = some given' ∧
    given.filter (fun e => isAllowed route e.1) = given'.filter fun e => isAllowed route e.1
  data : route.format constants = .raw → message.value "data" = other.value "data"
  filePath : route.hasFileBody = true → message.value "filePath" = other.value "filePath"

/-- **Nothing undeclared reaches a request.** Messages that agree on what the route declares make the
same request or end in the same fault, and leave the same warnings. -/
theorem prepare_eq_of_agree (h : Agree constants route message other) :
    prepare config env constants route auth message = prepare config env constants route auth other ∧
      warnings config constants route message = warnings config constants route other := by
  obtain ⟨given, given', hgiven, hgiven', hsame⟩ := h.headers
  have hassembled : assembled config constants route message = assembled config constants route other :=
    assembled_congr h.params h.data
  constructor
  · exact prepare_congr hassembled (requested_congr hgiven hgiven' hsame) h.filePath
  · unfold warnings
    rw [hassembled]

/-- A raw body, with an undeclared parameter and a header that callers may not set in one message and
other ones in the other. -/
theorem prepare_eq_of_agree_raw :
    let route : Route :=
      { path := "docs/put", space := "docs", name := "put", url := .text "/docs/:id",
        method := "PUT", params := [("id", {})], requestFormat := .text "raw",
        requestHeaders := ["x-trace"] }
    let message : Message :=
      [("id", .int 7), ("title", .text "a"), ("data", .text "x=1"),
        ("headers", .map [("Cookie", .text "c"), ("X-Trace", .text "t")])]
    let other : Message :=
      [("headers", .map [("X-Trace", .text "t"), ("Host", .text "h")]), ("data", .text "x=1"),
        ("id", .int 7)]
    Agree {} route message other ∧
      prepare .withoutProxy [] {} route none message = prepare .withoutProxy [] {} route none other ∧
      warnings .withoutProxy {} route message = warnings .withoutProxy {} route other := by
  intro route message other
  have h : Agree {} route message other :=
    { params := fun p hp => by
        obtain rfl := List.mem_singleton.mp hp
        rfl
      headers := ⟨_, _, rfl, rfl, rfl⟩
      data := fun _ => rfl
      filePath := fun _ => rfl }
  exact ⟨h, prepare_eq_of_agree h⟩

end Outbound

end RouteBook
