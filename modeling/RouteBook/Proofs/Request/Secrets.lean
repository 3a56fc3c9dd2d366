import RouteBook.Proofs.Request.Fields
import RouteBook.Proofs.Request.Mask
import RouteBook.Proofs.Request.OutboundParts

/-!
# What the log shows of credentials

Two requests that differ in the secrets of their credentials alone, as the log shows them. Their
headers are always masked alike. Their paths are masked alike unless OAuth credentials stand behind a
front that does not hide them (`prepare_secrets`): the mask of a name takes its first occurrence, so a
parameter with the name of a secret shows the secret that follows it (`masked_path_shows_token`). No
secret shows if the path without credentials has neither name in it.
-/

namespace RouteBook

open Entries
open RouteBook.Text

/-! ## Credentials -/

/-- A text, or nothing. -/
def Value.IsField (v : Value) : Prop :=
  v = .null ∨ ∃ s, v = .text s

theorem Value.IsField.eq_text {v : Value} (h : v.IsField) (ht : v.truthy = true) :
    ∃ s, v = .text s := by
  rcases h with rfl | h
  · exact absurd ht Bool.false_ne_true
  · exact h

namespace Auth

variable {a b : Auth}

/-- Credentials of texts that can authenticate. -/
structure Usable (a : Auth) : Prop where
  valid : a.problem? = none
  username : a.username.IsField
  password : a.password.IsField
  token : a.token.IsField
  key : a.key.IsField
  secret : a.secret.IsField

/-- Credentials of one scheme that have the same fields set, and the same key. -/
structure SameButSecrets (a b : Auth) : Prop where
  scheme : b.scheme = a.scheme
  username : b.username.truthy = a.username.truthy
  password : b.password.truthy = a.password.truthy
  token : b.token.truthy = a.token.truthy
  key : b.key = a.key
  secret : b.secret.truthy = a.secret.truthy

/-- The value that OAuth credentials keep secret: the token, else the secret of the key. -/
def secretValue (a : Auth) : Value :=
  if a.token.truthy then a.token else a.secret

/-- A text as a component of an address. -/
def component (s : String) : String :=
  String.ofList (Percent.encodeComponent s.toList)

/-- What OAuth credentials write before their secret. -/
def beforeSecret (a : Auth) : String :=
  match a.token.truthy, a.key with
  | false, .text key => "client_id=" ++ component key ++ "&client_secret="
  | _, _ => "access_token="

theorem beforeSecret_eq (h : SameButSecrets a b) : b.beforeSecret = a.beforeSecret := by
  unfold beforeSecret
  rw [h.token, h.key]

theorem oauthQuery_of_usable (h : a.Usable) (hs : a.scheme = .oauth) :
    ∃ s, a.secretValue = .text s ∧ a.oauthQuery = .ok (a.beforeSecret ++ component s) := by
  have hvalid := h.valid
  simp only [problem?, hs] at hvalid
  unfold secretValue oauthQuery beforeSecret
  by_cases ht : a.token.truthy = true
  · obtain ⟨s, hv⟩ := h.token.eq_text ht
    refine ⟨s, ?_, ?_⟩
    · rw [if_pos ht, hv]
    · rw [if_pos ht, ht, hv]
      rfl
  · have hboth : a.key.truthy = true ∧ a.secret.truthy = true := by
      simpa [ht] using hvalid
    obtain ⟨k, hk⟩ := h.key.eq_text hboth.1
    obtain ⟨s, hv⟩ := h.secret.eq_text hboth.2
    refine ⟨s, ?_, ?_⟩
    · rw [if_neg ht, hv]
    · rw [if_neg ht, Bool.eq_false_iff.mpr ht, hk, hv]
      rfl

theorem authorization_of_usable (h : a.Usable) :
    ∃ header, a.authorization = .ok header ∧
      (header.isSome = true ↔ a.scheme = .basic ∨ a.scheme = .token) := by
  have hvalid := h.valid
  unfold problem? at hvalid
  unfold authorization
  cases hs : a.scheme with
  | anonymous => exact ⟨none, rfl, by simp⟩
  | oauth => exact ⟨none, rfl, by simp⟩
  | token =>
    have ht : a.token.truthy = true := by simpa [hs] using hvalid
    obtain ⟨s, hv⟩ := h.token.eq_text ht
    rw [hv]
    exact ⟨_, rfl, by simp⟩
  | basic =>
    have hboth : a.username.truthy = true ∧ a.password.truthy = true := by simpa [hs] using hvalid
    obtain ⟨u, hu⟩ := h.username.eq_text hboth.1
    obtain ⟨p, hp⟩ := h.password.eq_text hboth.2
    rw [hu, hp]
    exact ⟨_, rfl, by simp⟩

theorem apply_sameBut_of_ne (h : SameButSecrets a b) (ha : a.Usable) (hb : b.Usable)
    (hs : a.scheme ≠ .oauth) (path : String) (headers : Entries Value) :
    ∃ ours theirs, a.apply path headers = .ok (path, ours) ∧
      b.apply path headers = .ok (path, theirs) ∧ SameBut "authorization" ours theirs := by
  obtain ⟨header, hheader, hset⟩ := authorization_of_usable ha
  obtain ⟨header', hheader', hset'⟩ := authorization_of_usable hb
  rw [h.scheme, ← hset] at hset'
  rw [apply_of_ne hs, apply_of_ne (h.scheme ▸ hs), hheader, hheader']
  cases header with
  | none =>
    cases header' with
    | none => exact ⟨headers, headers, rfl, rfl, .refl _ _⟩
    | some v' => exact absurd (hset'.mp rfl) Bool.false_ne_true
  | some v =>
    cases header' with
    | none => exact absurd (hset'.mpr rfl) Bool.false_ne_true
    | some v' => exact ⟨_, _, rfl, rfl, (SameBut.refl _ headers).put_key _ _⟩

theorem usable_of_token {s : String} (hs : (Value.text s).truthy = true) :
    Usable { scheme := .oauth, token := .text s } where
  valid := by simp [problem?, hs]
  username := .inl rfl
  password := .inl rfl
  token := .inr ⟨s, rfl⟩
  key := .inl rfl
  secret := .inl rfl

theorem sameButSecrets_of_tokens {s s' : String} (hs : (Value.text s).truthy = true)
    (hs' : (Value.text s').truthy = true) :
    SameButSecrets { scheme := .oauth, token := .text s }
      { scheme := .oauth, token := .text s' } where
  scheme := rfl
  username := rfl
  password := rfl
  token := hs'.trans hs.symm
  key := rfl
  secret := rfl

/-! ## Fronts that hide -/

theorem exists_joiner (path : String) : ∃ c, (joiner path).toList = [c] ∧ (c = '?' ∨ c = '&') := by
  unfold joiner
  split_ifs
  · exact ⟨'&', rfl, .inr rfl⟩
  · exact ⟨'?', rfl, .inl rfl⟩

theorem splitOnce?_clientId {name : String} (hname : name ∈ Mask.secretKeys) {front : List Char}
    {c : Char} (hc : c ∉ name.toList) (hlacks : ¬ name.toList <:+: front) (k : String) :
    Mask.splitOnce? name.toList
      (front ++ c :: ("client_id=".toList ++ Percent.encodeComponent k.toList)) = none := by
  have hend : ['='] <:+ name.toList := Mask.secretKeys_end _ (List.mem_map_of_mem hname)
  have hnone : ∀ name ∈ Mask.secretKeys,
      Mask.splitOnce? name.toList "client_id=".toList = none := by decide
  rw [Mask.splitOnce?_append_cons hc (Mask.splitOnce?_eq_none_iff.mpr hlacks),
    Mask.splitOnce?_append hend (Percent.not_mem_encodeComponent (by decide) _), hnone name hname]
  rfl

/-- Behind a path without the names of secrets, credentials hide their secret. -/
theorem hidesNext_beforeSecret (a : Auth) {path : String}
    (hlacks : ∀ name ∈ Mask.secretKeys, ¬ name.toList <:+: path.toList) :
    Mask.hidesNext (path ++ joiner path ++ a.beforeSecret).toList = true := by
  obtain ⟨c, hjoiner, hc⟩ := exists_joiner path
  have hnot : ∀ name ∈ Mask.secretKeys, c ∉ name.toList := by
    rcases hc with rfl | rfl <;> decide
  have htoken : "access_token=" ∈ Mask.secretKeys := List.mem_cons_self
  have hsecret : "client_secret=" ∈ Mask.secretKeys := List.mem_cons_of_mem _ List.mem_cons_self
  have hbare : Mask.splitOnce? "access_token=".toList path.toList = none :=
    Mask.splitOnce?_eq_none_iff.mpr (hlacks _ htoken)
  show (Mask.covers _ _ || (Mask.covers _ _ || false)) = true
  rw [String.toList_append, String.toList_append, hjoiner, List.append_assoc, List.singleton_append]
  unfold beforeSecret
  split
  case _ k _ _ =>
    -- The token's name is nowhere in the front, and the secret's name stands at its end.
    set front := path.toList ++ c :: ("client_id=".toList ++ Percent.encodeComponent k.toList)
      with hfront
    have hsplit : path.toList ++ c :: ("client_id=" ++ component k ++ "&client_secret=").toList =
        front ++ '&' :: "client_secret=".toList := by
      simp [hfront, component]
    have hother : Mask.splitOnce? "access_token=".toList "client_secret=".toList = none := by decide
    have hclear : Mask.splitOnce? "access_token=".toList (front ++ '&' :: "client_secret=".toList) =
        none := by
      rw [Mask.splitOnce?_append_cons (by decide)
        (splitOnce?_clientId htoken (hnot _ htoken) (hlacks _ htoken) k), hother]
      rfl
    rw [hsplit, Mask.maskKey_of_none hclear, Mask.covers_behind (by decide)
      (splitOnce?_clientId hsecret (hnot _ hsecret) (hlacks _ hsecret) k)]
    simp
  case _ =>
    rw [Mask.covers_behind (hnot _ htoken) hbare, Bool.true_or]

end Auth

/-! ## Requests -/

theorem Mask.maskHeaders_of_sameBut {headers other : Entries Value}
    (h : SameBut "authorization" headers other) : maskHeaders other = maskHeaders headers := by
  unfold maskHeaders
  induction h with
  | nil => rfl
  | @cons e e' rest rest' he _ ih =>
    obtain ⟨k, v⟩ := e
    obtain ⟨k', v'⟩ := e'
    obtain rfl : k = k' := he.1
    rw [List.map_cons, List.map_cons, ih]
    congr 2
    by_cases hk : k = "authorization"
    · simp [hk]
    · have hv : v = v' := he.2 hk
      rw [hv]

namespace Outbound

variable {config : Config} {env : Environment} {constants : Constants} {route : Route}
  {auth auth' : Option Auth} {a b : Auth} {message : Message} {format : Format}
  {assembly : Assembly}

theorem ofAssembly_of_applyTo {d : Parts} {key path : String} {theirs : Entries Value}
    (hmade : d.Made config env constants route auth message format assembly)
    (happly : Auth.applyTo auth' (withQuery route.hasBody assembly.payload d.path) d.ownHeaders =
      .ok (path, theirs))
    (hsame : SameBut key d.authorizedHeaders theirs) :
    ∃ o', ofAssembly config env constants route auth' message format assembly = .ok o' ∧
      o'.path = path ∧
      SameBut key (d.outbound config env constants route message).headers o'.headers := by
  obtain ⟨last, hlast, hheaders⟩ := addAllowed_sameBut hsame hmade.headers
  let d' : Parts :=
    { d with authorizedPath := path, authorizedHeaders := theirs, headers := last }
  have hmade' : d'.Made config env constants route auth' message format assembly :=
    ⟨hmade.base, hmade.proxied, hmade.own, happly, hmade.custom, hlast, hmade.port⟩
  exact ⟨_, ofAssembly_eq_ok_iff.mpr ⟨d', hmade', rfl⟩, rfl, addDefaults_sameBut hheaders⟩

/-- A request with a text behind its path. -/
def signed (o : Outbound) (query : String) : Outbound :=
  { o with path := o.path ++ Auth.joiner o.path ++ query }

/-- OAuth credentials only write their query behind the path. -/
theorem ofAssembly_of_oauth {query : String} (hs : a.scheme = .oauth)
    (hquery : a.oauthQuery = .ok query) :
    ofAssembly config env constants route (some a) message format assembly =
      (ofAssembly config env constants route none message format assembly).map (signed · query) := by
  have happly (path : String) (headers : Entries Value) :
      Auth.applyTo (some a) path headers = .ok (path ++ Auth.joiner path ++ query, headers) := by
    show a.apply path headers = _
    rw [Auth.apply_of_oauth hs, hquery]
    rfl
  unfold ofAssembly
  -- Both sides fail in the same step, or the path goes through all steps behind the credentials.
  rcases basePath config (String.ofList assembly.url) with f | base
  · rfl
  dsimp only [bind, Except.bind]
  rcases throughProxy (config.resolveProxy env) (machine config constants route) base with
    f | ⟨m, path⟩
  · rfl
  dsimp only
  rcases ownHeaders m.host route.hasBody format assembly.payload with f | ⟨own, body⟩
  · rfl
  dsimp only
  rw [happly]
  dsimp only [Auth.applyTo]
  rcases customHeaders message config with f | custom
  · rfl
  dsimp only
  rcases addAllowed route.requestHeaders own custom with f | headers
  · rfl
  dsimp only
  rcases m.port.toInt with f | port
  · rfl
  · rfl

variable {o : Outbound} {lines : List LogLine}

theorem prepare_of_oauth {query : String} (hs : a.scheme = .oauth)
    (hquery : a.oauthQuery = .ok query) :
    prepare config env constants route (some a) message =
      (prepare config env constants route none message).map fun r => (signed r.1 query, r.2) := by
  unfold prepare
  cases assembled config constants route message with
  | error f => rfl
  | ok assembly =>
    dsimp only [bind, Except.bind]
    rw [ofAssembly_of_oauth hs hquery]
    cases ofAssembly config env constants route none message (route.format constants) assembly with
    | error f => rfl
    | ok o => rfl

theorem prepare_of_ne_oauth (h : a.SameButSecrets b) (ha : a.Usable) (hb : b.Usable)
    (hs : a.scheme ≠ .oauth)
    (hok : prepare config env constants route (some a) message = .ok (o, lines)) :
    ∃ o', prepare config env constants route (some b) message = .ok (o', lines) ∧
      o'.path = o.path ∧ SameBut "authorization" o.headers o'.headers := by
  obtain ⟨assembly, hassembled, hmake, rfl⟩ := prepare_eq_ok_iff.mp hok
  obtain ⟨d, hd, rfl⟩ := ofAssembly_eq_ok_iff.mp hmake
  obtain ⟨ours, theirs, hours, htheirs, hsame⟩ := Auth.apply_sameBut_of_ne h ha hb hs
    (withQuery route.hasBody assembly.payload d.path) d.ownHeaders
  have hown : Except.ok (d.authorizedPath, d.authorizedHeaders) = Except.ok (_, ours) :=
    hd.authorized.symm.trans hours
  obtain ⟨hpath, hheaders⟩ := Prod.mk.inj (Except.ok.inj hown)
  have happly : Auth.applyTo (some b) (withQuery route.hasBody assembly.payload d.path)
      d.ownHeaders = .ok (_, theirs) := htheirs
  obtain ⟨o', ho', hpath', hheaders'⟩ := ofAssembly_of_applyTo hd happly (hheaders ▸ hsame)
  have hok' : prepare config env constants route (some b) message = .ok (o', assembly.warnings) :=
    prepare_eq_ok_iff.mpr ⟨assembly, hassembled, ho', rfl⟩
  exact ⟨o', hok', hpath'.trans hpath.symm, hheaders'⟩

theorem component_clean (s : String) :
    '=' ∉ (Auth.component s).toList ∧ '&' ∉ (Auth.component s).toList := by
  unfold Auth.component
  rw [String.toList_ofList]
  constructor
  · exact Percent.not_mem_encodeComponent (by decide) _
  · exact Percent.not_mem_encodeComponent (by decide) _

theorem component_inj {s s' : String} :
    (Auth.component s').toList = (Auth.component s).toList ↔ s' = s := by
  unfold Auth.component
  rw [String.toList_ofList, String.toList_ofList]
  constructor
  · intro h
    have hread := congrArg Percent.decodeComponent? h
    rw [Percent.decodeComponent?_encodeComponent, Percent.decodeComponent?_encodeComponent] at hread
    exact String.toList_inj.mp (Option.some.inj hread)
  · rintro rfl
    rfl

/-- **What the log shows of secrets.** Where credentials make a request, others that differ from them
in their secrets make one with the same warnings and masked headers. Its masked path is the same for
every scheme but OAuth. With OAuth the secret stands at the end of the path, and the masked paths are
the same exactly when the secrets are or the front hides what follows; it does if the path without
credentials has no name of a secret in it. -/
theorem prepare_secrets (h : a.SameButSecrets b) (ha : a.Usable) (hb : b.Usable)
    (hok : prepare config env constants route (some a) message = .ok (o, lines)) :
    ∃ o', prepare config env constants route (some b) message = .ok (o', lines) ∧
      Mask.maskHeaders o'.headers = Mask.maskHeaders o.headers ∧
      (a.scheme ≠ .oauth → Mask.maskPath o'.path = Mask.maskPath o.path) ∧
      (a.scheme = .oauth → ∃ plain s s',
        prepare config env constants route none message = .ok (plain, lines) ∧
          a.secretValue = .text s ∧ b.secretValue = .text s' ∧
          let front := plain.path ++ Auth.joiner plain.path ++ a.beforeSecret
          o.path = front ++ Auth.component s ∧ o'.path = front ++ Auth.component s' ∧
          (Mask.maskPath o'.path = Mask.maskPath o.path ↔
            s' = s ∨ Mask.hidesNext front.toList = true) ∧
          ((∀ name ∈ Mask.secretKeys, ¬ name.toList <:+: plain.path.toList) →
            Mask.maskPath o'.path = Mask.maskPath o.path)) := by
  by_cases hs : a.scheme = .oauth
  · obtain ⟨s, hsecret, hquery⟩ := Auth.oauthQuery_of_usable ha hs
    obtain ⟨s', hsecret', hquery'⟩ := Auth.oauthQuery_of_usable hb (h.scheme.trans hs)
    rw [Auth.beforeSecret_eq h] at hquery'
    rw [prepare_of_oauth hs hquery] at hok
    obtain ⟨⟨plain, lines'⟩, hplain, hsigned⟩ := map_eq_ok_iff.mp hok
    obtain ⟨rfl, rfl⟩ := Prod.mk.inj hsigned
    have hother : prepare config env constants route (some b) message =
        .ok (signed plain (a.beforeSecret ++ Auth.component s'), lines') := by
      rw [prepare_of_oauth (h.scheme.trans hs) hquery', hplain]
      rfl
    have hpath (t : String) : (signed plain (a.beforeSecret ++ Auth.component t)).path.toList =
        (plain.path ++ Auth.joiner plain.path ++ a.beforeSecret).toList ++
          (Auth.component t).toList := by
      simp [signed]
    have hmasks := Mask.maskPath_append_eq_iff (hpath s) (hpath s') (component_clean s)
      (component_clean s')
    rw [component_inj] at hmasks
    refine ⟨_, hother, rfl, fun hne => absurd hs hne, fun _ => ?_⟩
    refine ⟨plain, s, s', hplain, hsecret, hsecret', ?_, ?_, hmasks, ?_⟩
    · exact (String.append_assoc ..).symm
    · exact (String.append_assoc ..).symm
    · intro hlacks
      exact hmasks.mpr (.inr (Auth.hidesNext_beforeSecret a hlacks))
  · obtain ⟨o', ho', hpath, hheaders⟩ := prepare_of_ne_oauth h ha hb hs hok
    refine ⟨o', ho', Mask.maskHeaders_of_sameBut hheaders, fun _ => ?_, fun hs' => absurd hs' hs⟩
    rw [hpath]

/-- Two tokens behind a path with a query of its own. -/
theorem prepare_secrets_tokens :
    let route : Route :=
      { path := "users/find", space := "users", name := "find", url := .text "/users",
        method := "GET", params := [("q", {})] }
    let message : Message := [("q", .text "x")]
    ∃ o o' lines,
      prepare .withoutProxy [] {} route (some { scheme := .oauth, token := .text "one" }) message =
          .ok (o, lines) ∧
        prepare .withoutProxy [] {} route (some { scheme := .oauth, token := .text "two" }) message =
          .ok (o', lines) ∧
        o'.path ≠ o.path ∧ Mask.maskPath o'.path = Mask.maskPath o.path := by
  intro route message
  obtain ⟨⟨o, lines⟩, hok⟩ : ∃ r, prepare .withoutProxy [] {} route
      (some { scheme := .oauth, token := .text "one" }) message = .ok r :=
    exists_of_isOk (by decide +kernel)
  have hsame : Auth.SameButSecrets { scheme := .oauth, token := .text "one" }
      { scheme := .oauth, token := .text "two" } := Auth.sameButSecrets_of_tokens rfl rfl
  obtain ⟨o', hok', -, -, hoauth⟩ :=
    prepare_secrets hsame (Auth.usable_of_token rfl) (Auth.usable_of_token rfl) hok
  obtain ⟨plain, s, s', hplain, hs, hs', hpath, hpath', -, hmask⟩ := hoauth rfl
  obtain rfl : "one" = s := Value.text.inj hs
  obtain rfl : "two" = s' := Value.text.inj hs'
  have hfound : (prepare .withoutProxy [] {} route none message).map (fun r => r.1.path) =
      .ok "/users?q=x" := by decide +kernel
  rw [hplain] at hfound
  have hplainPath : plain.path = "/users?q=x" := Except.ok.inj hfound
  refine ⟨o, o', lines, hok, hok', ?_, ?_⟩
  · rw [hpath, hpath', hplainPath]
    decide +kernel
  · apply hmask
    rw [hplainPath]
    decide +kernel

/-- A caller may give a parameter with the name of the secret: its value is masked, and the token
that comes after it is not. -/
theorem masked_path_shows_token :
    let route : Route :=
      { path := "users/find", space := "users", name := "find", url := .text "/users",
        method := "GET", params := [("access_token", {})] }
    let message : Message := [("access_token", .text "x")]
    let masked (a : Auth) :=
      (prepare .withoutProxy [] {} route (some a) message).map fun r => Mask.maskPath r.1.path
    let a : Auth := { scheme := .oauth, token := .text "s3cret" }
    let b : Auth := { scheme := .oauth, token := .text "other" }
    a.SameButSecrets b ∧ a.Usable ∧ b.Usable ∧
      masked a = .ok "/users?access_token=***&access_token=s3cret" ∧
      masked b = .ok "/users?access_token=***&access_token=other" := by
  intro route message masked a b
  have hsame : a.SameButSecrets b := Auth.sameButSecrets_of_tokens rfl rfl
  have ha : a.Usable := Auth.usable_of_token rfl
  have hb : b.Usable := Auth.usable_of_token rfl
  refine ⟨hsame, ha, hb, ?_, ?_⟩
  · decide +kernel
  · decide +kernel

end Outbound

end RouteBook
