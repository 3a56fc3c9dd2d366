import RouteBook.Proofs.Request.Secrets
import RouteBook.Proofs.Text.Base64

/-!
# Credentials are read back

What constructed credentials of texts write into a request (`Writes`): nothing, their own header, or
a query behind the path. A server that knows the path without them reads them back (`readBack_of_writes`),
so no two credentials write the same. Basic credentials are the one exception, for names with a colon:
it ends the name in what is written (`authorization_colon`).

The texts of basic and OAuth credentials are encoded in UTF-8. Ragged ones can be constructed and fail in
every request (`applyTo_of_not_encodable`).
-/

namespace RouteBook

namespace Value

/-- A text, ragged or not, or nothing. -/
inductive IsLettered : Value → Prop
  | null : IsLettered null
  | text (s : String) : IsLettered (text s)
  | ragged (r : Text.Ragged) : IsLettered (ragged r)

variable {v : Value}

theorem IsLettered.exists_text (h : v.IsLettered) (ht : v.truthy = true) (he : v.isEncodable = true) :
    ∃ s, v = .text s ∧ s ≠ "" := by
  cases h with
  | null => exact absurd ht Bool.false_ne_true
  | text s => exact ⟨s, rfl, by simpa [truthy] using ht⟩
  | ragged r => exact absurd he Bool.false_ne_true

theorem IsLettered.exists_ragged (h : v.IsLettered) (he : v.isEncodable ≠ true) :
    ∃ r, v = .ragged r := by
  cases h with
  | null | text s => exact absurd rfl he
  | ragged r => exact ⟨r, rfl⟩

theorem IsLettered.exists_shown (h : v.IsLettered) : ∃ s, v.shown = .ok s := by
  cases h with
  | null | text s | ragged r => exact ⟨_, rfl⟩

theorem IsLettered.encoded_isOk (h : v.IsLettered) (he : v.isEncodable = true) :
    ∃ s, v.encoded = .ok s := by
  cases h with
  | null | text s => exact ⟨_, rfl⟩
  | ragged r => exact absurd he Bool.false_ne_true

end Value

namespace Auth

open Entries
open RouteBook.Text

variable {a b : Auth} {path path' : String} {headers headers' : Entries Value}

/-! ## Construction -/

/-- Credentials that were constructed from texts. -/
def Constructed (a : Auth) : Prop :=
  ∃ fields : Entries Value, (∀ name, (fields.value name).IsLettered) ∧ ofFields fields = .ok a

/-- Credentials of texts, ragged or not, that can authenticate. -/
structure Sound (a : Auth) : Prop where
  valid : a.problem? = none
  username : a.username.IsLettered
  password : a.password.IsLettered
  token : a.token.IsLettered
  key : a.key.IsLettered
  secret : a.secret.IsLettered

theorem checked_eq_ok_iff : a.checked = .ok b ↔ a.problem? = none ∧ a = b := by
  unfold checked
  cases a.problem? <;> simp

theorem constructed_iff : a.Constructed ↔ a.Sound := by
  constructor
  · rintro ⟨fields, hfields, h⟩
    unfold ofFields at h
    split at h
    · exact nomatch h
    · obtain ⟨hvalid, rfl⟩ := checked_eq_ok_iff.mp h
      exact ⟨hvalid, hfields _, hfields _, hfields _, hfields _, hfields _⟩
  · intro h
    refine ⟨[("type", .text a.scheme.name), ("username", a.username), ("password", a.password),
      ("token", a.token), ("key", a.key), ("secret", a.secret)], ?_, ?_⟩
    · intro name
      simp only [value, get?_cons]
      split_ifs
      · exact .text _
      · exact h.username
      · exact h.password
      · exact h.token
      · exact h.key
      · exact h.secret
      · exact .null
    · have hscheme : schemeOf? (.text a.scheme.name) = some a.scheme := by
        cases a.scheme <;> rfl
      simp only [ofFields, get?_cons, if_true, Option.getD_some, hscheme]
      exact checked_eq_ok_iff.mpr ⟨h.valid, rfl⟩

/-! ## What authenticates -/

/-- The texts by which credentials authenticate. -/
def used (a : Auth) : List Value :=
  match a.scheme with
  | .anonymous => []
  | .token => [a.token]
  | .basic => [a.username, a.password]
  | .oauth => if a.token.truthy then [a.token] else [a.key, a.secret]

/-- The texts that are encoded have forms in UTF-8. A token stands in its header as it is. -/
def Encodable (a : Auth) : Prop :=
  a.scheme ≠ .token → ∀ v ∈ a.used, v.isEncodable = true

/-! ## What is written -/

/-- The only header that differs is the authorization. -/
structure Authorizes (headers headers' : Entries Value) (v : Value) : Prop where
  set : headers'.get? "authorization" = some v
  kept : headers'.without "authorization" = headers.without "authorization"

theorem authorizes_put (headers : Entries Value) (v : Value) :
    Authorizes headers (headers.put "authorization" v) v where
  set := get?_put_self _ _ _
  kept := without_put_self headers _ _

/-- What credentials make of a path and headers. -/
inductive Writes (a : Auth) (path : String) (headers : Entries Value) :
    String → Entries Value → Prop
  | anonymous (hs : a.scheme = .anonymous) : Writes a path headers path headers
  | token {t : String} {headers' : Entries Value} (hs : a.scheme = .token) (ht : a.token = .text t)
      (hne : t ≠ "") (hset : Authorizes headers headers' (.text ("token " ++ t))) :
      Writes a path headers path headers'
  | raggedToken {r : Ragged} {headers' : Entries Value} (hs : a.scheme = .token) (ht : a.token = .ragged r)
      (hset : Authorizes headers headers' (.ragged (r.after "token "))) :
      Writes a path headers path headers'
  | basic {u p code : String} {headers' : Entries Value} (hs : a.scheme = .basic)
      (hu : a.username = .text u) (hp : a.password = .text p) (hne : u ≠ "" ∧ p ≠ "")
      (hcode : Base64.decode? code.toList = some (Utf8.ofString (u ++ ":" ++ p)))
      (hset : Authorizes headers headers' (.text ("Basic " ++ code))) :
      Writes a path headers path headers'
  | oauthToken {t : String} {code : List Char} {path' : String} (hs : a.scheme = .oauth)
      (ht : a.token = .text t) (hne : t ≠ "") (hcode : Percent.decodeComponent? code = some t.toList)
      (hpath : path' = path ++ joiner path ++ "access_token=" ++ String.ofList code) :
      Writes a path headers path' headers
  /-- Without a token. The key ends at the ampersand. -/
  | oauthKey {k s : String} {key secret : List Char} {path' : String} (hs : a.scheme = .oauth)
      (ht : a.token.truthy = false) (hk : a.key = .text k) (hsecret : a.secret = .text s)
      (hne : k ≠ "" ∧ s ≠ "") (hkey : Percent.decodeComponent? key = some k.toList ∧ '&' ∉ key)
      (hcode : Percent.decodeComponent? secret = some s.toList)
      (hpath : path' = path ++ joiner path ++ "client_id=" ++ String.ofList key ++
        "&client_secret=" ++ String.ofList secret) :
      Writes a path headers path' headers

theorem authorization_of_token {t : String} (hs : a.scheme = .token) (ht : a.token = .text t) :
    a.authorization = .ok (some (.text ("token " ++ t))) := by
  simp only [authorization, hs, ht]
  rfl

theorem authorization_of_raggedToken {r : Ragged} (hs : a.scheme = .token) (ht : a.token = .ragged r) :
    a.authorization = .ok (some (.ragged (r.after "token "))) := by
  simp only [authorization, hs, ht]
  rfl

theorem authorization_of_basic {u p : String} (hs : a.scheme = .basic) (hu : a.username = .text u)
    (hp : a.password = .text p) :
    a.authorization = .ok (some
      (.text ("Basic " ++ String.ofList (Base64.encode (Utf8.ofString (u ++ ":" ++ p)))))) := by
  simp only [authorization, hs, hu, hp]
  rfl

theorem oauthQuery_of_token {t : String} (ht : a.token.truthy = true) (htoken : a.token = .text t) :
    a.oauthQuery = .ok ("access_token=" ++ component t) := by
  unfold oauthQuery
  rw [if_pos ht, htoken]
  rfl

theorem oauthQuery_of_key {k s : String} (ht : ¬ a.token.truthy = true) (hk : a.key = .text k)
    (hsecret : a.secret = .text s) :
    a.oauthQuery = .ok ("client_id=" ++ component k ++ "&client_secret=" ++ component s) := by
  unfold oauthQuery
  rw [if_neg ht, hk, hsecret]
  rfl

theorem exists_writes_of_token (h : a.Sound) (hs : a.scheme = .token) (path : String)
    (headers : Entries Value) : ∃ path' headers', a.apply path headers = .ok (path', headers') ∧
      a.Writes path headers path' headers' := by
  have hvalid := h.valid
  unfold problem? at hvalid
  have htrue : a.token.truthy = true := by simpa [hs] using hvalid
  rw [apply_of_ne (by simp [hs])]
  by_cases hplain : a.token.isEncodable = true
  · obtain ⟨t, ht, hne⟩ := h.token.exists_text htrue hplain
    rw [authorization_of_token hs ht]
    exact ⟨path, _, rfl, .token hs ht hne (authorizes_put headers _)⟩
  · obtain ⟨r, hr⟩ := h.token.exists_ragged hplain
    rw [authorization_of_raggedToken hs hr]
    exact ⟨path, _, rfl, .raggedToken hs hr (authorizes_put headers _)⟩

theorem exists_writes_of_basic (h : a.Sound) (hencodable : a.Encodable) (hs : a.scheme = .basic)
    (path : String) (headers : Entries Value) :
    ∃ path' headers', a.apply path headers = .ok (path', headers') ∧
      a.Writes path headers path' headers' := by
  have hvalid := h.valid
  unfold problem? at hvalid
  unfold Encodable used at hencodable
  have hboth : a.username.truthy = true ∧ a.password.truthy = true := by simpa [hs] using hvalid
  have hplain : a.username.isEncodable = true ∧ a.password.isEncodable = true := by
    simpa [hs] using hencodable
  obtain ⟨u, hu, hune⟩ := h.username.exists_text hboth.1 hplain.1
  obtain ⟨p, hp, hpne⟩ := h.password.exists_text hboth.2 hplain.2
  rw [apply_of_ne (by simp [hs]), authorization_of_basic hs hu hp]
  refine ⟨path, _, rfl, .basic hs hu hp ⟨hune, hpne⟩ ?_ (authorizes_put headers _)⟩
  rw [String.toList_ofList, Base64.decode?_encode]

theorem exists_writes_of_oauth (h : a.Sound) (hencodable : a.Encodable) (hs : a.scheme = .oauth)
    (path : String) (headers : Entries Value) :
    ∃ path' headers', a.apply path headers = .ok (path', headers') ∧
      a.Writes path headers path' headers' := by
  have hvalid := h.valid
  unfold problem? at hvalid
  unfold Encodable used at hencodable
  rw [apply_of_oauth hs]
  by_cases ht : a.token.truthy = true
  · obtain ⟨t, htoken, hne⟩ := h.token.exists_text ht (by simpa [hs, ht] using hencodable)
    rw [oauthQuery_of_token ht htoken]
    refine ⟨_, headers, rfl, .oauthToken hs htoken hne
      (Percent.decodeComponent?_encodeComponent t.toList) ?_⟩
    simp only [component, String.append_assoc]
  · have hboth : a.key.truthy = true ∧ a.secret.truthy = true := by simpa [hs, ht] using hvalid
    have hplain : a.key.isEncodable = true ∧ a.secret.isEncodable = true := by
      simpa [hs, ht] using hencodable
    obtain ⟨k, hk, hkne⟩ := h.key.exists_text hboth.1 hplain.1
    obtain ⟨s, hsecret, hsne⟩ := h.secret.exists_text hboth.2 hplain.2
    have hclean : '&' ∉ Percent.encodeComponent k.toList :=
      Percent.not_mem_encodeComponent (by decide) _
    rw [oauthQuery_of_key ht hk hsecret]
    refine ⟨_, headers, rfl, .oauthKey hs (Bool.eq_false_iff.mpr ht) hk hsecret ⟨hkne, hsne⟩
      ⟨Percent.decodeComponent?_encodeComponent k.toList, hclean⟩
      (Percent.decodeComponent?_encodeComponent s.toList) ?_⟩
    simp only [component, String.append_assoc]

/-- Credentials that can authenticate have all that they write. -/
theorem exists_writes (h : a.Sound) (hencodable : a.Encodable) (path : String) (headers : Entries Value) :
    ∃ path' headers', applyTo (some a) path headers = .ok (path', headers') ∧
      a.Writes path headers path' headers' := by
  show ∃ path' headers', a.apply path headers = _ ∧ _
  cases hs : a.scheme with
  | anonymous =>
    have hnone : a.authorization = .ok none := by simp only [authorization, hs]
    rw [apply_of_ne (by simp [hs]), hnone]
    exact ⟨path, headers, rfl, .anonymous hs⟩
  | token => exact exists_writes_of_token h hs path headers
  | basic => exact exists_writes_of_basic h hencodable hs path headers
  | oauth => exact exists_writes_of_oauth h hencodable hs path headers

/-! ## What cannot be written -/

theorem authorization_of_ragged (h : a.Sound) (hs : a.scheme = .basic)
    (hragged : (a.username.isRagged || a.password.isRagged) = true) :
    a.authorization = .error .unencodable := by
  obtain ⟨u, hu⟩ := h.username.exists_shown
  obtain ⟨p, hp⟩ := h.password.exists_shown
  simp only [authorization, hs, hu, hp]
  show (if (a.username.isRagged || a.password.isRagged) = true then _ else _) = _
  rw [if_pos hragged]
  rfl

/-- Ragged texts that have to be encoded fail in every request. -/
theorem applyTo_of_not_encodable (h : a.Sound) (hnot : ¬ a.Encodable) (path : String)
    (headers : Entries Value) : applyTo (some a) path headers = .error .unencodable := by
  unfold Encodable used at hnot
  show a.apply path headers = _
  cases hs : a.scheme with
  | anonymous | token => exact absurd (by simp [hs]) hnot
  | basic =>
    have hragged : (a.username.isRagged || a.password.isRagged) = true := by
      by_cases hu : a.username.isEncodable = true
      · obtain ⟨r, hr⟩ := h.password.exists_ragged (by simpa [hs, hu] using hnot)
        rw [hr, Value.isRagged, Bool.or_true]
      · obtain ⟨r, hr⟩ := h.username.exists_ragged hu
        rw [hr, Value.isRagged, Bool.true_or]
    rw [apply_of_ne (by simp [hs]), authorization_of_ragged h hs hragged]
    rfl
  | oauth =>
    have hquery : a.oauthQuery = .error .unencodable := by
      unfold oauthQuery
      by_cases ht : a.token.truthy = true
      · obtain ⟨r, hr⟩ := h.token.exists_ragged (by simpa [hs, ht] using hnot)
        rw [if_pos ht, hr]
        rfl
      · rw [if_neg ht]
        by_cases hk : a.key.isEncodable = true
        · obtain ⟨k, hkey⟩ := h.key.encoded_isOk hk
          obtain ⟨r, hr⟩ := h.secret.exists_ragged (by simpa [hs, ht, hk] using hnot)
          rw [hkey, hr]
          rfl
        · obtain ⟨r, hr⟩ := h.key.exists_ragged hk
          rw [hr]
          rfl
    rw [apply_of_oauth hs, hquery]
    rfl

/-! ## What is read -/

/-- The credentials in the text of an authorization. -/
def readText (text : List Char) : Option (AuthScheme × List Value) :=
  match after? "token ".toList text with
  | some token => some (.token, [.text (String.ofList token)])
  | none => do
    let code ← after? "Basic ".toList text
    let octets ← Base64.decode? code
    let pair ← (Utf8.decode octets).toOption
    let (username, password) := Authority.cut ':' pair
    pure (.basic, [.text (String.ofList username), .text (String.ofList password)])

/-- The credentials in an authorization. A ragged one holds a token. -/
def readHeader : Value → Option (AuthScheme × List Value)
  | .text text => readText text.toList
  | .ragged r => some (.token, [.ofLetters (r.letters.drop "token ".toList.length)])
  | _ => none

/-- The credentials in a query. -/
def readQuery (query : List Char) : Option (AuthScheme × List Value) :=
  match after? "access_token=".toList query with
  | some code => do
    let token ← Percent.decodeComponent? code
    pure (.oauth, [.text (String.ofList token)])
  | none => do
    let codes ← after? "client_id=".toList query
    let key ← Percent.decodeComponent? (Authority.cut '&' codes).1
    let code ← after? "client_secret=".toList (Authority.cut '&' codes).2
    let secret ← Percent.decodeComponent? code
    pure (.oauth, [.text (String.ofList key), .text (String.ofList secret)])

/-- The credentials in a request whose path was another one without them. -/
def readBack (path path' : String) (headers : Entries Value) : Option (AuthScheme × List Value) :=
  if path' = path then
    (headers.get? "authorization").bind readHeader
  else readQuery (path'.toList.drop (path.toList.length + 1))

/-- A name that basic credentials can tell from the password. -/
def PlainUsername (a : Auth) : Prop :=
  ∀ u, a.username = .text u → ':' ∉ u.toList

theorem readHeader_token (t : String) :
    readHeader (.text ("token " ++ t)) = some (.token, [.text t]) := by
  have hafter : after? "token ".toList ("token " ++ t).toList = some t.toList :=
    after?_eq_some_iff.mpr (String.toList_append ..)
  unfold readHeader readText
  dsimp only
  rw [hafter]
  simp

theorem readHeader_raggedToken (r : Ragged) :
    readHeader (.ragged (r.after "token ")) = some (.token, [.ragged r]) := by
  have hdrop : (r.after "token ").letters.drop "token ".toList.length = r.letters :=
    List.drop_left' (List.length_map _)
  unfold readHeader
  dsimp only
  rw [hdrop, Value.ofLetters_ragged]

theorem readHeader_basic {u p code : String} (hu : ':' ∉ u.toList)
    (hcode : Base64.decode? code.toList = some (Utf8.ofString (u ++ ":" ++ p))) :
    readHeader (.text ("Basic " ++ code)) = some (.basic, [.text u, .text p]) := by
  have hnone : after? "token ".toList ("Basic " ++ code).toList = none := by
    rw [String.toList_append]
    rfl
  have hafter : after? "Basic ".toList ("Basic " ++ code).toList = some code.toList :=
    after?_eq_some_iff.mpr (String.toList_append ..)
  have hcut : Authority.cut ':' (u ++ ":" ++ p).toList = (u.toList, p.toList) := by
    rw [String.toList_append, String.toList_append, List.append_assoc]
    exact Authority.cut_append_cons hu p.toList
  unfold readHeader readText
  dsimp only
  rw [hnone, hafter]
  simp only [Option.bind_eq_bind, Option.bind_some, hcode, Utf8.decode_ofString, Except.toOption]
  rw [hcut]
  simp

theorem readQuery_token {t : String} {code : List Char}
    (hcode : Percent.decodeComponent? code = some t.toList) :
    readQuery ("access_token=" ++ String.ofList code).toList = some (.oauth, [.text t]) := by
  have hafter : after? "access_token=".toList ("access_token=" ++ String.ofList code).toList =
      some code := by
    rw [after?_eq_some_iff, String.toList_append, String.toList_ofList (l := code)]
  unfold readQuery
  rw [hafter]
  simp [hcode]

theorem readQuery_key {k s : String} {key secret : List Char}
    (hkey : Percent.decodeComponent? key = some k.toList) (hclean : '&' ∉ key)
    (hsecret : Percent.decodeComponent? secret = some s.toList) :
    readQuery ("client_id=" ++ String.ofList key ++ "&client_secret=" ++ String.ofList secret).toList =
      some (.oauth, [.text k, .text s]) := by
  have hquery : ("client_id=" ++ String.ofList key ++ "&client_secret=" ++
      String.ofList secret).toList =
        "client_id=".toList ++ (key ++ '&' :: ("client_secret=".toList ++ secret)) := by
    simp
  have hnone : after? "access_token=".toList
      ("client_id=".toList ++ (key ++ '&' :: ("client_secret=".toList ++ secret))) = none := rfl
  unfold readQuery
  rw [hquery, hnone, after?_eq_some_iff.mpr rfl]
  simp only [Option.bind_eq_bind, Option.bind_some]
  rw [Authority.cut_append_cons hclean, hkey]
  simp only [Option.bind_some]
  rw [after?_eq_some_iff.mpr rfl, Option.bind_some, hsecret]
  simp

theorem readBack_of_eq {v : Value} (h : headers'.get? "authorization" = some v) :
    readBack path path headers' = readHeader v := by
  unfold readBack
  rw [if_pos rfl, h]
  rfl

theorem readBack_of_query {query : String} (hpath : path' = path ++ joiner path ++ query) :
    readBack path path' headers' = readQuery query.toList := by
  obtain ⟨c, hc, -⟩ := exists_joiner path
  have hlist : path'.toList = path.toList ++ c :: query.toList := by
    rw [hpath, String.toList_append, String.toList_append, hc, List.append_assoc]
    rfl
  have hne : path' ≠ path := by
    intro heq
    rw [heq] at hlist
    exact absurd (congrArg List.length hlist) (by simp)
  unfold readBack
  rw [if_neg hne, hlist, ← List.drop_drop, List.drop_left]
  rfl

/-- What enabled credentials write is read back as they are. -/
theorem readBack_of_writes (h : a.Writes path headers path' headers') (hon : a.enabled = true)
    (hname : a.PlainUsername) : readBack path path' headers' = some (a.scheme, a.used) := by
  unfold used
  cases h with
  | anonymous hs => simp [enabled, hs] at hon
  | token hs ht hne hset =>
    rw [readBack_of_eq hset.set, readHeader_token, hs, ht]
  | raggedToken hs ht hset =>
    rw [readBack_of_eq hset.set, readHeader_raggedToken, hs, ht]
  | basic hs hu hp hne hcode hset =>
    rw [readBack_of_eq hset.set, readHeader_basic (hname _ hu) hcode, hs, hu, hp]
  | @oauthToken t code _ hs ht hne hcode hpath =>
    have hquery : path' = path ++ joiner path ++ ("access_token=" ++ String.ofList code) := by
      rw [hpath, String.append_assoc]
    rw [readBack_of_query hquery, readQuery_token hcode, hs, ht]
    simp [Value.truthy, hne]
  | @oauthKey k s key secret _ hs ht hk hsecret hne hkey hcode hpath =>
    have hquery : path' = path ++ joiner path ++
        ("client_id=" ++ String.ofList key ++ "&client_secret=" ++ String.ofList secret) := by
      rw [hpath]
      simp only [String.append_assoc]
    rw [readBack_of_query hquery, readQuery_key hkey.1 hkey.2 hcode, hs, hk, hsecret]
    simp [ht]

/-! ## Main result -/

/-- **Credentials in a request.** Constructed credentials fail if a text that has to be encoded has no form
in UTF-8. All others write what their scheme asks for and nothing else, and enabled ones with plain names
that write the same path and authorization behind the same request are the same, scheme and texts. -/
theorem applyTo_faithful (ha : a.Constructed) (path : String) (headers : Entries Value) :
    (¬ a.Encodable → applyTo (some a) path headers = .error .unencodable) ∧
      (a.Encodable → ∃ path' headers', applyTo (some a) path headers = .ok (path', headers') ∧
        a.Writes path headers path' headers' ∧
        ∀ b : Auth, b.Constructed → a.enabled = true → b.enabled = true → a.PlainUsername →
          b.PlainUsername → ∀ others, applyTo (some b) path headers = .ok (path', others) →
          others.get? "authorization" = headers'.get? "authorization" →
          b.scheme = a.scheme ∧ b.used = a.used) := by
  have hsound := constructed_iff.mp ha
  refine ⟨fun hnot => applyTo_of_not_encodable hsound hnot path headers, fun hencodable => ?_⟩
  obtain ⟨path', headers', happly, hwrites⟩ := exists_writes hsound hencodable path headers
  refine ⟨path', headers', happly, hwrites, ?_⟩
  intro b hb haon hbon haname hbname others hothers hsame
  have hbencodable : b.Encodable := by
    by_contra hnot
    exact nomatch hothers.symm.trans (applyTo_of_not_encodable (constructed_iff.mp hb) hnot path headers)
  obtain ⟨path'', others', happly', hwrites'⟩ :=
    exists_writes (constructed_iff.mp hb) hbencodable path headers
  obtain ⟨rfl, rfl⟩ := Prod.mk.inj (Except.ok.inj (hothers.symm.trans happly'))
  have hread : readBack path path' others = readBack path path' headers' := by
    unfold readBack
    rw [hsame]
  rw [readBack_of_writes hwrites haon haname, readBack_of_writes hwrites' hbon hbname] at hread
  exact Prod.mk.inj (Option.some.inj hread)

/-- Whoever adds a key and its secret to a path of its own query has that key and that secret. -/
theorem applyTo_faithful_key :
    let a : Auth := { scheme := .oauth, key := .text "a&b", secret := .text "é" }
    let path := "/user?page=2&client_id=a%26b&client_secret=%C3%A9"
    a.Constructed ∧ ∃ headers', applyTo (some a) "/user?page=2" [] = .ok (path, headers') ∧
      a.Writes "/user?page=2" [] path headers' ∧
      ∀ b : Auth, b.Constructed → b.enabled = true → b.PlainUsername →
        ∀ others, applyTo (some b) "/user?page=2" [] = .ok (path, others) →
        others.get? "authorization" = headers'.get? "authorization" →
        b.scheme = .oauth ∧ b.used = [.text "a&b", .text "é"] := by
  intro a path
  have ha : a.Constructed :=
    constructed_iff.mpr ⟨rfl, .null, .null, .null, .text _, .text _⟩
  have hencodable : a.Encodable := fun _ => by decide
  obtain ⟨path', headers', happly, hwrites, hsame⟩ :=
    (applyTo_faithful ha "/user?page=2" []).2 hencodable
  have hpath : path' = path := by
    have hmap := congrArg (Except.map Prod.fst) happly
    have heval : (applyTo (some a) "/user?page=2" []).map Prod.fst = .ok path := by decide +kernel
    exact Except.ok.inj (hmap.symm.trans heval)
  subst hpath
  refine ⟨ha, headers', happly, hwrites, ?_⟩
  intro b hb hbon hbname others hothers hauthorization
  have haname : a.PlainUsername := fun u hu => nomatch hu
  exact hsame b hb rfl hbon haname hbname others hothers hauthorization

/-- Where the name ends cannot be told behind a colon in it. -/
theorem authorization_colon (u v p : String) :
    authorization { scheme := .basic, username := .text (u ++ ":" ++ v), password := .text p } =
      authorization
        { scheme := .basic, username := .text u, password := .text (v ++ ":" ++ p) } := by
  simp [authorization, Value.shown, Value.isRagged, bind, Except.bind, String.append_assoc]

/-- Two tokens that are set and not written. One has a unit without its partner and is a token like others
until a request encodes it, and the other one is empty and gives way to the key. -/
theorem tokens_not_written :
    let ragged : Auth :=
      { scheme := .oauth, token := .ragged ⟨[.char 'c', .char 'a', .char 'f', .lone 0x4E9], rfl⟩ }
    let empty : Auth :=
      { scheme := .oauth, token := .text "", key := .text "k", secret := .text "s" }
    (ragged.Constructed ∧ applyTo (some ragged) "/user" [] = .error .unencodable) ∧
      empty.Constructed ∧
        (applyTo (some empty) "/user" []).map Prod.fst = .ok "/user?client_id=k&client_secret=s" := by
  intro ragged empty
  have hragged : ragged.Constructed :=
    constructed_iff.mpr ⟨rfl, .null, .null, .ragged _, .null, .null⟩
  have hempty : empty.Constructed :=
    constructed_iff.mpr ⟨rfl, .null, .null, .text _, .text _, .text _⟩
  exact ⟨⟨hragged, rfl⟩, hempty, by decide +kernel⟩

end Auth

end RouteBook
