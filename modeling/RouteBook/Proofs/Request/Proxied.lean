import RouteBook.Proofs.Entries
import RouteBook.Proofs.Request.QueryRoundTrip

/-!
# A proxy changes only the target

A request through a proxy is the request without one, sent elsewhere: the origin of the machine that
it is meant for stands before its path, and no header but the host differs (`prepare_throughProxy`).

The two requests are made in step. After the origin has come before the path, each later step gives
the same on both sides: the query goes to the end (`withQuery_append`), the credentials go to the end
with the same joiner because the origin has no question mark (`applyTo_append`), and headers that are
written alike stay alike (`ownHeaders_sameBut`, `addAllowed_sameBut`, `addDefaults_sameBut`).
-/

namespace RouteBook

open Entries

variable {config : Config} {env : Environment} {constants : Constants} {route : Route}
  {auth : Option Auth} {message : Message} {origin path : String} {headers other : Entries Value}

/-! ## Paths -/

namespace Auth

theorem joiner_append (h : '?' ∉ origin.toList) (path : String) :
    joiner (origin ++ path) = joiner path := by
  unfold joiner
  rw [String.toList_append]
  simp [h]

theorem applyTo_append {path' : String} {headers' : Entries Value} (hmark : '?' ∉ origin.toList)
    (hsame : SameBut "host" headers other) (h : applyTo auth path headers = .ok (path', headers')) :
    ∃ other', applyTo auth (origin ++ path) other = .ok (origin ++ path', other') ∧
      SameBut "host" headers' other' := by
  cases auth with
  | none =>
    obtain ⟨rfl, rfl⟩ := Prod.mk.inj (Except.ok.inj h)
    exact ⟨other, rfl, hsame⟩
  | some a =>
    change a.apply path headers = _ at h
    show ∃ other', a.apply (origin ++ path) other = _ ∧ _
    by_cases hs : a.scheme = .oauth
    · rw [apply_of_oauth hs] at h ⊢
      obtain ⟨query, hq, h⟩ := map_eq_ok_iff.mp h
      obtain ⟨rfl, rfl⟩ := Prod.mk.inj h
      refine ⟨other, ?_, hsame⟩
      have hpath : origin ++ path ++ joiner path ++ query =
          origin ++ (path ++ joiner path ++ query) := by
        simp only [String.append_assoc]
      rw [hq, joiner_append hmark]
      exact congrArg (fun p => Except.ok (p, other)) hpath
    · rw [apply_of_ne hs] at h ⊢
      obtain ⟨text, ht, h⟩ := map_eq_ok_iff.mp h
      rw [ht]
      cases text with
      | none =>
        obtain ⟨rfl, rfl⟩ := Prod.mk.inj h
        exact ⟨other, rfl, hsame⟩
      | some text =>
        obtain ⟨rfl, rfl⟩ := Prod.mk.inj h
        exact ⟨_, rfl, hsame.put _ _⟩

end Auth

namespace Outbound

theorem withQuery_append (hasBody : Bool) (payload : Payload) (origin path : String) :
    withQuery hasBody payload (origin ++ path) = origin ++ withQuery hasBody payload path := by
  cases hasBody with
  | true => rfl
  | false =>
    cases payload with
    | pairs items =>
      cases items with
      | nil => rfl
      | cons item items => simp only [withQuery, String.append_assoc]
    | members entries => rfl
    | whole v => rfl

/-! ## Headers -/

theorem ownHeaders_sameBut (host' : Value) {host : Value} {hasBody : Bool} {format : Format}
    {payload : Payload} {body : List UInt8}
    (h : ownHeaders host hasBody format payload = .ok (headers, body)) :
    ∃ other, ownHeaders host' hasBody format payload = .ok (other, body) ∧
      SameBut "host" headers other := by
  have hfirst (rest : Entries Value) :
      SameBut "host" (("host", host) :: rest) (("host", host') :: rest) :=
    List.Forall₂.cons ⟨rfl, fun hne => absurd rfl hne⟩
      (List.forall₂_same.mpr fun _ _ => ⟨rfl, fun _ => rfl⟩)
  unfold ownHeaders at h ⊢
  cases hasBody with
  | false =>
    obtain ⟨rfl, rfl⟩ := Prod.mk.inj (Except.ok.inj h)
    exact ⟨_, rfl, hfirst _⟩
  | true =>
    obtain ⟨octets, hoctets, h⟩ := bind_eq_ok_iff.mp h
    obtain ⟨type, htype, h⟩ := bind_eq_ok_iff.mp h
    obtain ⟨rfl, rfl⟩ := Prod.mk.inj (Except.ok.inj h)
    rw [hoctets, htype]
    exact ⟨_, rfl, hfirst _⟩

/-! ## Machines -/

theorem orElse_int {v : Value} (h : v = .null ∨ ∃ n, v = .int n) (m : Int) :
    ∃ k, v.orElse (.int m) = .int k := by
  unfold Value.orElse
  split_ifs with ht
  · rcases h with rfl | ⟨n, rfl⟩
    · exact absurd ht Bool.false_ne_true
    · exact ⟨n, rfl⟩
  · exact ⟨m, rfl⟩

theorem machine_port (h : config.port = .null ∨ ∃ n, config.port = .int n) :
    ∃ n, (machine config constants route).port = .int n := by
  refine orElse_int ?_ _
  cases hconstants : constants.port with
  | none =>
    rcases h with h | ⟨n, h⟩
    · exact Or.inl (by rw [h]; rfl)
    · by_cases ht : (Value.int n).truthy = true
      · exact Or.inr ⟨n, by rw [h, Value.orElse, if_pos ht]⟩
      · exact Or.inl (by rw [h, Value.orElse, if_neg ht]; rfl)
  | some m =>
    exact Or.inr (orElse_int h m)

theorem origin_outbound {p : Parts} {n : Int} (hport : p.machine.port = .int n)
    (hp : p.machine.port.toInt = .ok p.port) :
    (p.outbound config env constants route message).origin =
      originText p.machine.protocol p.machine.host p.machine.port := by
  have hn : n = p.port := by
    rw [hport] at hp
    exact Except.ok.inj hp
  show originText p.machine.protocol p.machine.host (.int p.port) = _
  rw [hport, hn]

/-! ## Requests -/

/-- A request through a proxy is a direct one sent elsewhere. -/
structure SentElsewhere (direct proxied : Outbound) : Prop where
  path : ∃ origin, direct.origin = .ok origin ∧ proxied.path = origin ++ direct.path
  method : proxied.method = direct.method
  body : proxied.body = direct.body
  timeout : proxied.timeout = direct.timeout
  filePath : proxied.filePath = direct.filePath
  headers : SameBut "host" direct.headers proxied.headers
  isProxied : proxied.proxied = true
  isDirect : direct.proxied = false

/-- **A proxy changes only the target.** If no question mark stands in the protocol and the host that a
request is meant for, it goes through a proxy as it would go without one, with its origin before the
path. -/
theorem prepare_throughProxy {proxy : Value} {direct proxied : Outbound} {lines lines' : List LogLine}
    (hproxy : (Config.resolveProxy { config with proxy } env).truthy = true)
    (hport : config.port = .null ∨ ∃ n, config.port = .int n)
    (hprotocol : (machine config constants route).protocol.Lacks '?')
    (hhost : (machine config constants route).host.Lacks '?')
    (hdirect : prepare { config with proxy := .text "" } env constants route auth message =
      .ok (direct, lines))
    (hproxied : prepare { config with proxy } env constants route auth message =
      .ok (proxied, lines')) :
    SentElsewhere direct proxied ∧ lines' = lines := by
  obtain ⟨n, hn⟩ : ∃ n, (machine config constants route).port = .int n := machine_port hport
  obtain ⟨a, ha, hd, rfl⟩ := prepare_eq_ok_iff.mp hdirect
  obtain ⟨a', ha', hp, rfl⟩ := prepare_eq_ok_iff.mp hproxied
  obtain rfl : a = a' := Except.ok.inj (ha.symm.trans ha')
  obtain ⟨d, dmade, rfl⟩ := ofAssembly_eq_ok_iff.mp hd
  obtain ⟨p, pmade, rfl⟩ := ofAssembly_eq_ok_iff.mp hp
  -- The targets: the direct request goes to its machine, and the other has its origin in the path.
  obtain ⟨hmachine, hpath⟩ := Prod.mk.inj (Except.ok.inj dmade.proxied)
  obtain ⟨origin, horigin, hpath'⟩ := throughProxy_of_truthy hproxy pmade.proxied
  have hbase : p.base = d.base := Except.ok.inj (pmade.base.symm.trans dmade.base)
  have hdport : d.machine.port = .int n := hmachine ▸ hn
  have hmark : '?' ∉ origin.toList :=
    not_mem_originText horigin hprotocol hhost (hn ▸ Value.lacks_int n (by decide)) (by decide)
  rw [hbase, hpath] at hpath'
  -- The steps after that, one by one.
  obtain ⟨own, hown, hsame⟩ := ownHeaders_sameBut p.machine.host dmade.own
  obtain ⟨rfl, hbody⟩ := Prod.mk.inj (Except.ok.inj (hown.symm.trans pmade.own))
  obtain ⟨authorized, hauth, hsame⟩ := Auth.applyTo_append hmark hsame dmade.authorized
  rw [← withQuery_append, ← hpath'] at hauth
  obtain ⟨hfinal, rfl⟩ := Prod.mk.inj (Except.ok.inj (hauth.symm.trans pmade.authorized))
  have hcustom : d.custom = p.custom := Except.ok.inj (dmade.custom.symm.trans pmade.custom)
  obtain ⟨last, hlast, hsame⟩ := addAllowed_sameBut hsame dmade.headers
  rw [hcustom] at hlast
  obtain rfl : last = p.headers := Except.ok.inj (hlast.symm.trans pmade.headers)
  refine ⟨{
    path := ⟨origin, ?_, hfinal.symm⟩
    method := rfl
    body := hbody.symm
    timeout := rfl
    filePath := rfl
    headers := addDefaults_sameBut hsame
    isProxied := hproxy
    isDirect := rfl }, rfl⟩
  rw [origin_outbound hdport dmade.port, ← hmachine]
  exact horigin

/-- A proxy named without a scheme, a port of the settings, a query, and a key and its secret behind
it. -/
theorem prepare_throughProxy_keys :
    let config : Config :=
      { host := .text "api.test", port := .int 8443, protocol := .text "https" }
    let route : Route :=
      { path := "users/find", space := "users", name := "find", url := .text "/users/:id",
        method := "GET", params := [("id", {}), ("q", {})] }
    let auth : Auth := { scheme := .oauth, key := .text "k", secret := .text "s" }
    let message : Message := [("id", .int 7), ("q", .text "a b")]
    ∃ direct proxied lines lines',
      prepare { config with proxy := .text "" } [] {} route (some auth) message = .ok (direct, lines) ∧
        prepare { config with proxy := .text "corp:3128" } [] {} route (some auth) message =
          .ok (proxied, lines') ∧
        SentElsewhere direct proxied ∧
        proxied.path = "https://api.test:8443/users/7?q=a%20b&client_id=k&client_secret=s" := by
  intro config route auth message
  obtain ⟨⟨direct, lines⟩, hdirect⟩ : ∃ r, prepare { config with proxy := .text "" } [] {} route
      (some auth) message = .ok r := exists_of_isOk (by decide +kernel)
  have hpath : (prepare { config with proxy := .text "corp:3128" } [] {} route (some auth) message).map
      (fun r => r.1.path) = .ok "https://api.test:8443/users/7?q=a%20b&client_id=k&client_secret=s" := by
    decide +kernel
  obtain ⟨⟨proxied, lines'⟩, hproxied, hp⟩ := map_eq_ok_iff.mp hpath
  have hprotocol : (machine config {} route).protocol.Lacks '?' := Value.lacks_text (by decide)
  have hhost : (machine config {} route).host.Lacks '?' := Value.lacks_text (by decide)
  have hsent := prepare_throughProxy (by decide) (Or.inr ⟨8443, rfl⟩) hprotocol hhost hdirect hproxied
  exact ⟨direct, proxied, lines, lines', hdirect, hproxied, hsent.1, hp⟩

end Outbound

end RouteBook
