import RouteBook.Proofs.Request.QueryRoundTrip
import RouteBook.Proofs.Request.Separation

/-!
# Addresses with a query of their own

The address of a route may carry a query before any parameter is put behind it. The credentials look for
it and go on behind an ampersand (`applyTo_own`). The parameters of a query do not look: they always start
with a question mark, so they go on with the query of the address only if it has none
(`prepare_carries_iff`).
-/

namespace RouteBook

open RouteBook.Text

/-! ## Queries of addresses -/

namespace Query

variable {address path : List Char} {fields : List Field} {texts : List String}

/-- The address before its query. -/
def front (address : List Char) : List Char :=
  (Authority.cut '?' address).1

/-- The pieces of the query that an address has of its own. -/
def own (address : List Char) : List String :=
  if '?' ∈ address then (pieces '&' (ofPath address)).map String.ofList else []

/-- A path has one question mark at most, and what stands behind it are the texts with ampersands
between. -/
def Carries (path : List Char) (texts : List String) : Prop :=
  path.count '?' ≤ 1 ∧ ofPath path = joined texts

theorem exists_front (h : '?' ∈ address) :
    address = front address ++ '?' :: ofPath address ∧ '?' ∉ front address := by
  obtain ⟨before, after, rfl, hbefore⟩ := List.eq_append_cons_of_mem h
  unfold front ofPath
  rw [Authority.cut_append_cons hbefore]
  exact ⟨rfl, hbefore⟩

theorem front_of_not_mem (h : '?' ∉ address) : front address = address := by
  unfold front
  rw [Authority.cut_of_not_mem h]

theorem mark_not_mem_front (address : List Char) : '?' ∉ front address := by
  by_cases h : '?' ∈ address
  · exact (exists_front h).2
  · rwa [front_of_not_mem h]

theorem withFields_own (address : List Char) : withFields (front address) (own address) = address := by
  unfold own withFields
  by_cases h : '?' ∈ address
  · have hne := pieces_ne_nil '&' (ofPath address)
    rw [if_pos h, if_neg (mt List.map_eq_nil_iff.mp hne), joined, List.map_map]
    have htexts : (pieces '&' (ofPath address)).map (String.toList ∘ String.ofList) =
        pieces '&' (ofPath address) := by
      simp [Function.comp_def]
    rw [htexts, joinWith_pieces]
    exact (exists_front h).1.symm
  · rw [if_neg h, if_pos rfl, front_of_not_mem h]

theorem own_append {origin : List Char} (h : '?' ∉ origin) (address : List Char) :
    own (origin ++ address) = own address := by
  unfold own
  by_cases hmark : '?' ∈ address
  · obtain ⟨hcut, hfront⟩ := exists_front hmark
    have hboth : '?' ∉ origin ++ front address :=
      fun hm => (List.mem_append.mp hm).elim h hfront
    have hquery : ofPath (origin ++ address) = ofPath address := by
      rw [hcut, ← List.append_assoc]
      unfold ofPath
      rw [Authority.cut_append_cons hboth, Authority.cut_append_cons hfront]
    rw [if_pos hmark, if_pos (List.mem_append_right origin hmark), hquery]
  · rw [if_neg hmark, if_neg fun hm => (List.mem_append.mp hm).elim h hmark]

theorem mark_not_mem_own (h : address.count '?' ≤ 1) : ∀ t ∈ own address, '?' ∉ t.toList := by
  unfold own
  by_cases hmark : '?' ∈ address
  · rw [if_pos hmark]
    intro t ht hm
    obtain ⟨piece, hpiece, rfl⟩ := List.mem_map.mp ht
    rw [String.toList_ofList] at hm
    have hquery : '?' ∈ ofPath address := by
      rw [← joinWith_pieces '&' (ofPath address)]
      exact mem_joinWith_of_mem hpiece hm
    have hpos := List.count_pos_iff.mpr hquery
    rw [(exists_front hmark).1, List.count_append, List.count_cons_self] at h
    omega
  · rw [if_neg hmark]
    exact fun t ht => absurd ht List.not_mem_nil

/-! ## Paths with fields -/

theorem mark_not_mem_joined (h : ∀ t ∈ texts, '?' ∉ t.toList) : '?' ∉ joined texts := by
  intro hm
  rcases mem_joinWith hm with hm | ⟨x, hx, hm⟩
  · exact absurd hm (by decide)
  · obtain ⟨t, ht, rfl⟩ := List.mem_map.mp hx
    exact h t ht hm

theorem carries_withFields {before : List Char} (hbefore : '?' ∉ before)
    (h : ∀ t ∈ texts, '?' ∉ t.toList) : Carries (withFields before texts) texts := by
  refine ⟨?_, ofPath_withFields hbefore texts⟩
  have hzero := List.count_eq_zero.mpr hbefore
  unfold withFields
  by_cases hne : texts = []
  · rw [if_pos hne, hzero]
    exact Nat.zero_le 1
  · rw [if_neg hne, List.count_append, List.count_cons_self, hzero,
      List.count_eq_zero.mpr (mark_not_mem_joined h)]

theorem two_le_count_withFields (hne : texts ≠ [])
    (h : '?' ∈ address ∨ ∃ t ∈ texts, '?' ∈ t.toList) : 2 ≤ (withFields address texts).count '?' := by
  unfold withFields
  rw [if_neg hne, List.count_append, List.count_cons_self]
  rcases h with h | ⟨t, ht, hm⟩
  · have hpos := List.count_pos_iff.mpr h
    omega
  · have hmem : '?' ∈ joined texts := mem_joinWith_of_mem (List.mem_map_of_mem ht) hm
    have hpos := List.count_pos_iff.mpr hmem
    omega

theorem mark_mem_written_iff {f : Field} {t : String} (h : f.written = .ok t) :
    '?' ∈ t.toList ↔ '?' ∈ f.name.toList := by
  obtain ⟨text, -, ht⟩ := Field.written_eq_ok h
  have hvalue : '?' ∉ Assembly.writtenAs f.inTerms text.toList :=
    Assembly.not_mem_writtenAs (by decide) (by decide) _ _
  rw [ht, List.mem_append, List.mem_cons]
  simp [hvalue]

theorem mark_mem_texts_iff (h : Written fields texts) :
    (∃ t ∈ texts, '?' ∈ t.toList) ↔ ∃ f ∈ fields, '?' ∈ f.name.toList := by
  induction h with
  | nil => simp
  | @cons f t fields texts hf hrest ih =>
    simp only [List.mem_cons, exists_eq_or_imp]
    rw [mark_mem_written_iff hf, ih]

end Query

/-! ## Credentials -/

namespace Auth

variable {auth : Option Auth} {path path' : String} {headers headers' : Entries Value}

theorem applyTo_own (h : applyTo auth path headers = .ok (path', headers')) :
    ∃ more, Query.Written (fieldsOf auth) more ∧
      path'.toList = Query.withFields (Query.front path.toList) (Query.own path.toList ++ more) :=
  applyTo_path h (Query.withFields_own path.toList).symm (Query.mark_not_mem_front path.toList)

theorem isPrefix_of_applyTo (h : applyTo auth path headers = .ok (path', headers')) :
    path.toList <+: path'.toList := by
  obtain ⟨more, -, hpath⟩ := applyTo_own h
  conv_lhs => rw [← Query.withFields_own path.toList]
  rw [hpath]
  by_cases hne : more = []
  · exact ⟨[], by rw [hne, List.append_nil, List.append_nil]⟩
  · rw [Query.withFields_append _ hne]
    exact List.prefix_append _ _

theorem mark_not_mem_credentials {more : List String} (h : Query.Written (fieldsOf auth) more) :
    ∀ t ∈ more, '?' ∉ t.toList := by
  intro t ht hm
  obtain ⟨f, hf, hname⟩ := (Query.mark_mem_texts_iff h).mp ⟨t, ht, hm⟩
  revert f
  cases auth with
  | none => exact fun f hf => absurd hf List.not_mem_nil
  | some a =>
    show ∀ f ∈ a.fields, '?' ∉ f.name.toList
    unfold fields
    split_ifs <;> simp

/-- Texts that start with a question mark behind an address, and the credentials behind them, go on with
the query of the address exactly if there are no such texts or no other question mark stands in the
address or in them. -/
theorem applyTo_carries_iff {address : List Char} {texts : List String}
    (h : applyTo auth path headers = .ok (path', headers'))
    (hpath : path.toList = Query.withFields address texts) (hcount : address.count '?' ≤ 1) :
    ∃ more, Query.Written (fieldsOf auth) more ∧
      (Query.Carries path'.toList (Query.own address ++ texts ++ more) ↔
        texts = [] ∨ '?' ∉ address ∧ ∀ t ∈ texts, '?' ∉ t.toList) := by
  by_cases hnone : texts = []
  · -- The address alone: the credentials go on with its query.
    obtain ⟨more, hw, hmore⟩ := applyTo_own h
    have haddress : path.toList = address := by
      rw [hpath, hnone]
      rfl
    rw [haddress] at hmore
    refine ⟨more, hw, iff_of_true ?_ (Or.inl hnone)⟩
    rw [hmore, hnone, List.append_nil]
    refine Query.carries_withFields (Query.mark_not_mem_front address) fun t ht => ?_
    rcases List.mem_append.mp ht with ht | ht
    · exact Query.mark_not_mem_own hcount t ht
    · exact mark_not_mem_credentials hw t ht
  by_cases hclean : '?' ∉ address ∧ ∀ t ∈ texts, '?' ∉ t.toList
  · -- The texts start the query, and the credentials go on with it.
    obtain ⟨haddress, htexts⟩ := hclean
    obtain ⟨more, hw, hmore⟩ := applyTo_path h hpath haddress
    refine ⟨more, hw, iff_of_true ?_ (Or.inr ⟨haddress, htexts⟩)⟩
    have hown : Query.own address = [] := if_neg haddress
    rw [hmore, hown, List.nil_append]
    refine Query.carries_withFields haddress fun t ht => ?_
    rcases List.mem_append.mp ht with ht | ht
    · exact htexts t ht
    · exact mark_not_mem_credentials hw t ht
  · -- The question mark of the texts is not the only one.
    obtain ⟨more, hw, -⟩ := applyTo_own h
    refine ⟨more, hw, iff_of_false ?_ (not_or.mpr ⟨hnone, hclean⟩)⟩
    rintro ⟨hone, -⟩
    have htwo : 2 ≤ path.toList.count '?' := by
      rw [hpath]
      refine Query.two_le_count_withFields hnone ?_
      by_contra hfree
      push Not at hfree
      exact hclean hfree
    have hle := (isPrefix_of_applyTo h).sublist.count_le '?'
    omega

end Auth

/-! ## Question marks of an address -/

namespace Assembly

variable {message : Message} {path : String} {a b : Assembly} {c : Char}

theorem count_step_url (hc : Percent.isComponentChar c = false) (hplus : c ≠ '+') {name : String}
    {rule : Rule} (h : step message path a (name, rule) = .ok b) : b.url.count c ≤ a.url.count c := by
  cases step_cases h with
  | absent hnull => exact le_rfl
  | @substituted before after encoded hgiven hfound hencoded =>
    have hnone := List.count_eq_zero.mpr (not_mem_encodeValue hc hplus hencoded)
    rw [(splitAt?_eq_some hfound).1]
    simp only [List.count_append, hnone]
    omega
  | added hgiven hfound hstored => exact le_rfl
  | leftOut hgiven hfault hf => exact le_rfl

theorem count_run_url (hc : Percent.isComponentChar c = false) (hplus : c ≠ '+')
    {params : Entries Rule} (h : params.foldlM (step message path) a = .ok b) :
    b.url.count c ≤ a.url.count c := by
  induction params generalizing a with
  | nil =>
    obtain rfl := Except.ok.inj h
    exact le_rfl
  | cons p rest ih =>
    obtain ⟨s, hs, hrest⟩ := run_cons h
    exact (ih hrest).trans (count_step_url hc hplus hs)

end Assembly

/-- How often a character stands in the text that shows a value. -/
def Value.countShown (v : Value) (c : Char) : Nat :=
  match v.shown with
  | .ok s => s.toList.count c
  | .error _ => 0

namespace Outbound

variable {config : Config} {env : Environment} {constants : Constants} {route : Route}
  {auth : Option Auth} {message : Message} {o : Outbound} {lines : List LogLine}

/-- The address of the settings, the path prefix and the address of the route have one question mark
together at most, and the machine has none. A port is an integer and never has one
(`Value.lacks_int`). -/
structure MarkedOnce (config : Config) (constants : Constants) (route : Route) : Prop where
  address : config.url.countShown '?' + (config.pathPrefix.getD "").toList.count '?' +
    route.url.countShown '?' ≤ 1
  protocol : (machine config constants route).protocol.Lacks '?'
  host : (machine config constants route).host.Lacks '?'
  port : (machine config constants route).port.Lacks '?'

theorem count_withPrefix_le (pathPrefix : Option String) (url : List Char) (c : Char) :
    (Assembly.withPrefix pathPrefix url).count c ≤
      (pathPrefix.getD "").toList.count c + url.count c := by
  unfold Assembly.withPrefix
  cases pathPrefix with
  | none => exact Nat.le_add_left _ _
  | some p =>
    show (if p.toList.isPrefixOf url then url else p.toList ++ url).count c ≤ p.toList.count c + _
    split_ifs
    · exact Nat.le_add_left _ _
    · rw [List.count_append]

/-- The question marks of an assembled address come from the prefix and from the address of the route. -/
theorem count_assembled_le {a : Assembly} (h : assembled config constants route message = .ok a) :
    a.url.count '?' ≤ (config.pathPrefix.getD "").toList.count '?' + route.url.countShown '?' := by
  obtain ⟨url, hurl, hrun⟩ := bind_eq_ok_iff.mp h
  have htemplate : url.count '?' = route.url.countShown '?' := by
    cases hv : route.url with
    | text s =>
      rw [hv] at hurl
      obtain rfl := Except.ok.inj hurl
      rfl
    | _ => rw [hv] at hurl; exact nomatch hurl
  have hle := Assembly.count_run_url (c := '?') (by decide) (by decide) hrun
  rw [Assembly.start_url] at hle
  rw [← htemplate]
  exact hle.trans (count_withPrefix_le _ _ _)

theorem count_basePath_le {url base : String} {c : Char} (h : basePath config url = .ok base) :
    base.toList.count c ≤ config.url.countShown c + url.toList.count c := by
  rcases basePath_eq_ok h with rfl | ⟨front, hf, rfl⟩
  · exact Nat.le_add_left _ _
  · unfold Value.countShown
    rw [hf, String.toList_append, List.count_append]

theorem exists_origin {proxy : Value} {m m' : Machine} {path path' : String}
    (h : throughProxy proxy m path = .ok (m', path')) (hp : m.protocol.Lacks '?')
    (hh : m.host.Lacks '?') (hq : m.port.Lacks '?') :
    ∃ origin, '?' ∉ origin ∧ path'.toList = origin ++ path.toList := by
  rcases throughProxy_eq_ok h with ⟨-, rfl⟩ | ⟨origin, ho, rfl⟩
  · exact ⟨[], List.not_mem_nil, rfl⟩
  · exact ⟨origin.toList, not_mem_originText ho hp hh hq (by decide), String.toList_append⟩

/-! ## Queries of requests -/

/-- The fields that the parameters of a call put into the query of its path: none if it has a body. -/
def queryFields (config : Config) (constants : Constants) (route : Route) (message : Message) :
    List Query.Field :=
  if route.hasBody then [] else Assembly.fields message (visits config constants route message)

theorem exists_queryTexts {a : Assembly} (h : assembled config constants route message = .ok a)
    (path : String) :
    ∃ declared, Query.Written (queryFields config constants route message) declared ∧
      (withQuery route.hasBody a.payload path).toList = Query.withFields path.toList declared := by
  unfold queryFields
  by_cases hbody : route.hasBody = true
  · rw [if_pos hbody, hbody, withQuery_of_hasBody]
    exact ⟨[], List.Forall₂.nil, rfl⟩
  · have hformat : route.format constants = .query := if_neg hbody
    obtain ⟨texts, hpayload, hw⟩ := assembled_pairs h (Or.inl hformat)
    rw [if_neg hbody, hpayload, toList_withQuery, if_neg hbody]
    exact ⟨texts, hw, rfl⟩

/-- **Queries are extended.** If the parts of an address have one question mark together at most, the path
of a request has one at most too, and behind it the query of the address, the fields of the parameters and
those of the credentials, all with ampersands between. This holds exactly if no parameter goes into the
query, or no question mark stands in the address or in the name of such a parameter. -/
theorem prepare_carries_iff
    (hprep : prepare config env constants route auth message = .ok (o, lines))
    (hmarks : MarkedOnce config constants route) :
    ∃ a base declared credentials,
      assembled config constants route message = .ok a ∧
        basePath config (String.ofList a.url) = .ok base ∧
        Query.Written (queryFields config constants route message) declared ∧
        Query.Written (Auth.fieldsOf auth) credentials ∧
        (Query.Carries o.path.toList (Query.own base.toList ++ declared ++ credentials) ↔
          queryFields config constants route message = [] ∨
            '?' ∉ base.toList ∧
              ∀ f ∈ queryFields config constants route message, '?' ∉ f.name.toList) := by
  obtain ⟨a, ha, ho, -⟩ := prepare_eq_ok_iff.mp hprep
  obtain ⟨p, hp, rfl⟩ := ofAssembly_eq_ok_iff.mp ho
  obtain ⟨origin, horigin, hpath⟩ :=
    exists_origin hp.proxied hmarks.protocol hmarks.host hmarks.port
  obtain ⟨declared, hdeclared, hquery⟩ := exists_queryTexts ha p.path
  have hcount : p.path.toList.count '?' ≤ 1 := by
    have hbase := count_basePath_le (c := '?') hp.base
    have hurl := count_assembled_le ha
    have hall := hmarks.address
    rw [String.toList_ofList] at hbase
    rw [hpath, List.count_append, List.count_eq_zero.mpr horigin]
    omega
  obtain ⟨credentials, hw, hcarries⟩ := Auth.applyTo_carries_iff hp.authorized hquery hcount
  refine ⟨a, p.base, declared, credentials, ha, hp.base, hdeclared, hw, ?_⟩
  have hnone : declared = [] ↔ queryFields config constants route message = [] := by
    rw [← List.length_eq_zero_iff, ← List.length_eq_zero_iff, hdeclared.length_eq]
  have hmark : '?' ∈ p.path.toList ↔ '?' ∈ p.base.toList := by
    rw [hpath, List.mem_append, or_iff_right horigin]
  have hnames : (∀ t ∈ declared, '?' ∉ t.toList) ↔
      ∀ f ∈ queryFields config constants route message, '?' ∉ f.name.toList := by
    have hsome := not_congr (Query.mark_mem_texts_iff hdeclared)
    push Not at hsome
    exact hsome
  rw [hnone, hmark, hnames, hpath, Query.own_append horigin] at hcarries
  exact hcarries

/-- An address with two placeholders in its query, through a proxy and with a token. -/
theorem prepare_carries_sorted :
    let config : Config := { proxy := .text "http://corp-proxy" }
    let route : Route :=
      { path := "search/run", space := "search", name := "run",
        url := .text "/search/:kind?sort=:by&order=desc", method := "GET",
        params := [("kind", {}), ("by", {})], host := .text "api.test" }
    let message : Message := [("kind", .text "a?b"), ("by", .text "x&y")]
    let auth : Auth := { scheme := .oauth, token := .text "s=1" }
    MarkedOnce config {} route ∧
      ∃ o lines, prepare config [] {} route (some auth) message = .ok (o, lines) ∧
        Query.Carries o.path.toList ["sort=x%26y", "order=desc", "access_token=s%3D1"] := by
  intro config route message auth
  have hmarks : MarkedOnce config {} route :=
    { address := by decide
      protocol := Value.lacks_text (by decide)
      host := Value.lacks_text (by decide)
      port := Value.lacks_int 80 (by decide) }
  obtain ⟨⟨o, lines⟩, h⟩ : ∃ r, prepare config [] {} route (some auth) message = .ok r :=
    exists_of_isOk (by decide +kernel)
  obtain ⟨a, base, declared, credentials, ha, hbase, hdeclared, hcredentials, hiff⟩ :=
    prepare_carries_iff h hmarks
  have hnone : queryFields config {} route message = [] :=
    List.eq_nil_of_length_eq_zero (by decide +kernel)
  have hcarries := hiff.mpr (Or.inl hnone)
  rw [hnone] at hdeclared
  obtain rfl := List.forall₂_nil_left_iff.mp hdeclared
  have hurl : (assembled config {} route message).map (fun a => String.ofList a.url) =
      .ok "/search/a%3Fb?sort=x%26y&order=desc" := by decide +kernel
  rw [ha] at hurl
  have hown : Query.own base.toList = ["sort=x%26y", "order=desc"] := by
    obtain rfl := Except.ok.inj hbase
    rw [show String.ofList a.url = _ from Except.ok.inj hurl]
    decide +kernel
  have hfields : Auth.fieldsOf (some auth) = [⟨"access_token", .text "s=1", false⟩] := rfl
  have hwritten : Query.Field.written ⟨"access_token", .text "s=1", false⟩ =
      .ok "access_token=s%3D1" := by decide +kernel
  rw [hfields] at hcredentials
  obtain ⟨token, rest, htoken, hrest, rfl⟩ := List.forall₂_cons_left_iff.mp hcredentials
  obtain rfl := List.forall₂_nil_left_iff.mp hrest
  obtain rfl := Except.ok.inj (htoken.symm.trans hwritten)
  rw [hown] at hcarries
  exact ⟨hmarks, o, lines, h, hcarries⟩

/-- A parameter behind an address that has a query: a second question mark stands in the path. -/
theorem not_carries_search :
    let route : Route :=
      { path := "search/run", space := "search", name := "run", url := .text "/search?type=repo",
        method := "GET", params := [("q", {})] }
    MarkedOnce .withoutProxy {} route ∧
      ∃ o lines, prepare .withoutProxy [] {} route none [("q", .text "x")] = .ok (o, lines) ∧
        o.path = "/search?type=repo?q=x" ∧ ¬ Query.Carries o.path.toList ["type=repo", "q=x"] := by
  intro route
  have hmarks : MarkedOnce .withoutProxy {} route :=
    { address := by decide
      protocol := Value.lacks_text (by decide)
      host := Value.lacks_null (by decide)
      port := Value.lacks_int 80 (by decide) }
  have hpath : (prepare .withoutProxy [] {} route none [("q", .text "x")]).map (fun r => r.1.path) =
      .ok "/search?type=repo?q=x" := by decide +kernel
  obtain ⟨⟨o, lines⟩, h, ho⟩ := map_eq_ok_iff.mp hpath
  refine ⟨hmarks, o, lines, h, ho, fun hcarries => ?_⟩
  have hone := hcarries.1
  rw [show o.path = "/search?type=repo?q=x" from ho] at hone
  exact absurd hone (by decide)

end Outbound

end RouteBook
