import RouteBook.Proofs.Entries
import RouteBook.Proofs.Fault.Bind
import RouteBook.Request.Outbound

/-!
# The parts of an outbound request

A request is built step by step, and each step may fail. `ofAssembly_eq_ok_iff` gives for a request
that was built the result of every step, and the lemmas after it say what a step that succeeds can have
given for the body and done to the path. The headers of callers are written under their names in lower
case as far as these are allowed (`addAllowed_eq_ok_iff`). Headers that differ in the value of one key do so
after each step that writes headers (`addAllowed_sameBut`, `addDefaults_sameBut`).
-/

namespace RouteBook.Outbound

open Entries

variable {config : Config} {env : Environment} {constants : Constants} {route : Route}
  {auth : Option Auth} {message : Message} {format : Format} {a : Assembly} {o : Outbound}

/-- The results of the steps by which a request is built. -/
structure Parts where
  base : String
  machine : Machine
  path : String
  ownHeaders : Entries Value
  body : List UInt8
  authorizedPath : String
  authorizedHeaders : Entries Value
  custom : Entries Value
  headers : Entries Value
  port : Int

/-- The parts are what the steps give. -/
structure Parts.Made (p : Parts) (config : Config) (env : Environment) (constants : Constants)
    (route : Route) (auth : Option Auth) (message : Message) (format : Format) (a : Assembly) :
    Prop where
  base : basePath config (String.ofList a.url) = .ok p.base
  proxied : throughProxy (config.resolveProxy env) (Outbound.machine config constants route) p.base =
    .ok (p.machine, p.path)
  own : Outbound.ownHeaders p.machine.host route.hasBody format a.payload = .ok (p.ownHeaders, p.body)
  authorized : Auth.applyTo auth (withQuery route.hasBody a.payload p.path) p.ownHeaders =
    .ok (p.authorizedPath, p.authorizedHeaders)
  custom : customHeaders message config = .ok p.custom
  headers : addAllowed route.requestHeaders p.authorizedHeaders p.custom = .ok p.headers
  port : p.machine.port.toInt = .ok p.port

/-- The request that parts make. -/
def Parts.outbound (p : Parts) (config : Config) (env : Environment) (constants : Constants)
    (route : Route) (message : Message) : Outbound where
  method := Text.upper route.method
  protocol := p.machine.protocol
  host := p.machine.host
  port := p.port
  path := p.authorizedPath
  headers := addDefaults config constants p.headers
  body := p.body
  proxied := (config.resolveProxy env).truthy
  timeout := timeLimit route config
  filePath := if route.hasFileBody then message.value "filePath" else .null

/-- A request is built exactly when every step succeeds. -/
theorem ofAssembly_eq_ok_iff :
    ofAssembly config env constants route auth message format a = .ok o ↔
      ∃ p : Parts, p.Made config env constants route auth message format a ∧
        p.outbound config env constants route message = o := by
  unfold ofAssembly
  constructor
  · intro h
    obtain ⟨base, hbase, h⟩ := bind_eq_ok_iff.mp h
    obtain ⟨⟨m, path⟩, hproxied, h⟩ := bind_eq_ok_iff.mp h
    obtain ⟨⟨own, body⟩, hown, h⟩ := bind_eq_ok_iff.mp h
    obtain ⟨⟨path', headers'⟩, hauth, h⟩ := bind_eq_ok_iff.mp h
    obtain ⟨custom, hcustom, h⟩ := bind_eq_ok_iff.mp h
    obtain ⟨headers, hheaders, h⟩ := bind_eq_ok_iff.mp h
    obtain ⟨port, hport, h⟩ := bind_eq_ok_iff.mp h
    exact ⟨⟨base, m, path, own, body, path', headers', custom, headers, port⟩,
      ⟨hbase, hproxied, hown, hauth, hcustom, hheaders, hport⟩, Except.ok.inj h⟩
  · rintro ⟨p, hp, rfl⟩
    refine bind_eq_ok_iff.mpr ⟨_, hp.base, bind_eq_ok_iff.mpr ⟨_, hp.proxied, ?_⟩⟩
    refine bind_eq_ok_iff.mpr ⟨_, hp.own, bind_eq_ok_iff.mpr ⟨_, hp.authorized, ?_⟩⟩
    refine bind_eq_ok_iff.mpr ⟨_, hp.custom, bind_eq_ok_iff.mpr ⟨_, hp.headers, ?_⟩⟩
    exact bind_eq_ok_iff.mpr ⟨_, hp.port, rfl⟩

theorem prepare_eq_ok_iff {lines : List LogLine} :
    prepare config env constants route auth message = .ok (o, lines) ↔
      ∃ a, assembled config constants route message = .ok a ∧
        ofAssembly config env constants route auth message (route.format constants) a = .ok o ∧
        a.warnings = lines := by
  unfold prepare
  constructor
  · intro h
    obtain ⟨a, ha, h⟩ := bind_eq_ok_iff.mp h
    obtain ⟨o', ho, h⟩ := bind_eq_ok_iff.mp h
    obtain ⟨rfl, rfl⟩ := Prod.mk.inj (Except.ok.inj h)
    exact ⟨a, ha, ho, rfl⟩
  · rintro ⟨a, ha, ho, rfl⟩
    exact bind_eq_ok_iff.mpr ⟨a, ha, bind_eq_ok_iff.mpr ⟨o, ho, rfl⟩⟩

/-! ## Bodies -/

theorem hasBody_of_format (h : route.format constants ≠ .query) : route.hasBody = true := by
  unfold Route.format at h
  by_cases hbody : route.hasBody = true
  · exact hbody
  · exact absurd (if_neg hbody) h

theorem bodyOf_of_ownHeaders {host : Value} {payload : Payload} {headers : Entries Value}
    {body : List UInt8} (h : ownHeaders host true format payload = .ok (headers, body)) :
    bodyOf payload = .ok body := by
  obtain ⟨octets, hoctets, h⟩ := bind_eq_ok_iff.mp h
  obtain ⟨type, -, h⟩ := bind_eq_ok_iff.mp h
  obtain ⟨-, rfl⟩ := Prod.mk.inj (Except.ok.inj h)
  exact hoctets

theorem bodyOf_of_ofAssembly (hbody : route.hasBody = true)
    (h : ofAssembly config env constants route auth message format a = .ok o) :
    bodyOf a.payload = .ok o.body := by
  obtain ⟨p, hp, rfl⟩ := ofAssembly_eq_ok_iff.mp h
  exact bodyOf_of_ownHeaders (hbody ▸ hp.own)

theorem body_eq_nil (hbody : route.hasBody = false)
    (h : ofAssembly config env constants route auth message format a = .ok o) : o.body = [] := by
  obtain ⟨p, hp, rfl⟩ := ofAssembly_eq_ok_iff.mp h
  have hown := hp.own
  rw [hbody] at hown
  exact (Prod.mk.inj (Except.ok.inj hown)).2.symm

/-! ## Allowed headers -/

variable {allowed : List String} {headers headers' custom other : Entries Value} {key name : String}

/-- The value of a header: the text that is shown, null if there is none. -/
def shownText (v : Value) : Value :=
  match v.shown with
  | .ok text => .text text
  | .error _ => .null

theorem shownText_of_shown {v : Value} {text : String} (h : v.shown = .ok text) :
    shownText v = .text text := by
  unfold shownText
  rw [h]

/-- Headers whose names are allowed in some case. -/
def allowedOf (allowed : List String) (custom : Entries Value) : Entries Value :=
  custom.filter fun e => allowed.contains (Text.lower e.1)

/-- Allowed headers are written under their folded names, and all of them must have a text. -/
theorem addAllowed_eq_ok_iff :
    addAllowed allowed headers custom = .ok headers' ↔
      (∀ e ∈ allowedOf allowed custom, ∃ text, e.2.shown = .ok text) ∧
        headers' = headers.merge (folded Text.lower shownText (allowedOf allowed custom)) := by
  unfold addAllowed allowedOf
  induction custom generalizing headers with
  | nil =>
    simp only [List.foldlM_nil, List.filter_nil, List.not_mem_nil, false_implies, implies_true, true_and]
    exact ⟨fun h => (Except.ok.inj h).symm, fun h => congrArg Except.ok h.symm⟩
  | cons e rest ih =>
    obtain ⟨key, v⟩ := e
    rw [List.foldlM_cons]
    by_cases hname : allowed.contains (Text.lower key) = true
    · rw [List.filter_cons_of_pos (by exact hname)]
      simp only [if_pos hname, List.forall_mem_cons]
      cases hv : v.shown with
      | error f =>
        constructor
        · exact nofun
        · rintro ⟨⟨⟨text, htext⟩, -⟩, -⟩
          exact nomatch htext
      | ok text =>
        have hhead : shownText v = .text text := shownText_of_shown hv
        constructor
        · intro h
          obtain ⟨hrest, rfl⟩ := ih.mp h
          refine ⟨⟨⟨text, rfl⟩, hrest⟩, ?_⟩
          rw [← hhead]
          rfl
        · rintro ⟨⟨-, hrest⟩, rfl⟩
          refine ih.mpr ⟨hrest, ?_⟩
          rw [← hhead]
          rfl
    · rw [List.filter_cons_of_neg (by exact hname)]
      simp only [if_neg hname]
      exact ih

theorem mem_foldedKeys_allowedOf_iff :
    name ∈ (allowedOf allowed custom).foldedKeys Text.lower ↔
      name ∈ allowed ∧ ∃ key ∈ custom.keys, Text.lower key = name := by
  rw [mem_foldedKeys_iff]
  unfold allowedOf
  constructor
  · rintro ⟨e, he, rfl⟩
    obtain ⟨hmem, hname⟩ := List.mem_filter.mp he
    exact ⟨List.contains_iff_mem.mp hname, e.1, mem_keys hmem, rfl⟩
  · rintro ⟨hname, key, hkey, rfl⟩
    obtain ⟨e, hmem, rfl⟩ := List.mem_map.mp hkey
    exact ⟨e, List.mem_filter.mpr ⟨hmem, List.contains_iff_mem.mpr hname⟩, rfl⟩

/-! ## Headers written alike -/

theorem addAllowed_sameBut (hsame : SameBut key headers other)
    (h : addAllowed allowed headers custom = .ok headers') :
    ∃ other', addAllowed allowed other custom = .ok other' ∧ SameBut key headers' other' := by
  obtain ⟨hall, rfl⟩ := addAllowed_eq_ok_iff.mp h
  exact ⟨_, addAllowed_eq_ok_iff.mpr ⟨hall, rfl⟩, hsame.merge _⟩

theorem putDefault_sameBut (hsame : SameBut key headers other) (name : String) (v : Value) :
    SameBut key (putDefault headers name v) (putDefault other name v) := by
  unfold putDefault
  rw [hsame.has_eq name]
  split_ifs
  · exact hsame
  · exact hsame.put name v

theorem addDefaults_sameBut (hsame : SameBut key headers other) :
    SameBut key (addDefaults config constants headers) (addDefaults config constants other) := by
  have hagent := putDefault_sameBut hsame "user-agent" (.text userAgent)
  unfold addDefaults
  dsimp only
  split_ifs
  · exact putDefault_sameBut hagent _ _
  · exact hagent

/-! ## Paths -/

theorem basePath_eq_ok {url base : String} (h : basePath config url = .ok base) :
    base = url ∨ ∃ front, config.url.shown = .ok front ∧ base = front ++ url := by
  unfold basePath at h
  by_cases ht : config.url.truthy = true
  · rw [if_pos ht] at h
    obtain ⟨front, hf, h⟩ := bind_eq_ok_iff.mp h
    exact Or.inr ⟨front, hf, (Except.ok.inj h).symm⟩
  · rw [if_neg ht] at h
    exact Or.inl (Except.ok.inj h).symm

theorem throughProxy_of_truthy {proxy : Value} {m m' : Machine} {path path' : String}
    (ht : proxy.truthy = true) (h : throughProxy proxy m path = .ok (m', path')) :
    ∃ origin, originText m.protocol m.host m.port = .ok origin ∧ path' = origin ++ path := by
  unfold throughProxy at h
  rw [if_pos ht] at h
  obtain ⟨origin, ho, h⟩ := bind_eq_ok_iff.mp h
  obtain ⟨proxyText, -, h⟩ := bind_eq_ok_iff.mp h
  obtain ⟨place, -, h⟩ := bind_eq_ok_iff.mp h
  exact ⟨origin, ho, (Prod.mk.inj (Except.ok.inj h)).2.symm⟩

theorem throughProxy_eq_ok {proxy : Value} {m m' : Machine} {path path' : String}
    (h : throughProxy proxy m path = .ok (m', path')) :
    m' = m ∧ path' = path ∨
      ∃ origin, originText m.protocol m.host m.port = .ok origin ∧ path' = origin ++ path := by
  by_cases ht : proxy.truthy = true
  · exact Or.inr (throughProxy_of_truthy ht h)
  · unfold throughProxy at h
    rw [if_neg ht] at h
    obtain ⟨rfl, rfl⟩ := Prod.mk.inj (Except.ok.inj h)
    exact Or.inl ⟨rfl, rfl⟩

theorem originText_eq_ok {protocol host port : Value} {origin : String}
    (h : originText protocol host port = .ok origin) :
    ∃ p n q, protocol.shown = .ok p ∧ host.shown = .ok n ∧ port.shown = .ok q ∧
      origin = p ++ "://" ++ n ++ ":" ++ q := by
  unfold originText at h
  obtain ⟨p, hp, h⟩ := bind_eq_ok_iff.mp h
  obtain ⟨n, hn, h⟩ := bind_eq_ok_iff.mp h
  obtain ⟨q, hq, h⟩ := bind_eq_ok_iff.mp h
  exact ⟨p, n, q, hp, hn, hq, (Except.ok.inj h).symm⟩

end RouteBook.Outbound
