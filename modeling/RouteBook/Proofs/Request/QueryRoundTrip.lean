import RouteBook.Proofs.Request.Fields
import RouteBook.Proofs.Request.OutboundParts

/-!
# Queries and forms lose nothing

All parameters that become fields are read back from the query of the path or from the body, in the
order of their declaration, and after them in the path the fields of the credentials
(`prepare_readsBack`).

1. Neither the settings nor the address of the route nor a substituted value has a question mark, so
   the first one of the path starts the query (`not_mem_throughProxy`, `assembled_fields`).
2. The query is the written fields with ampersands between (`toList_withQuery`), and so is the body
   (`decode_body`).
3. Written fields are read back one by one.
-/

namespace RouteBook

open RouteBook.Text

/-- No text that shows the value holds the character. -/
def Value.Lacks (v : Value) (c : Char) : Prop :=
  ∀ s, v.shown = .ok s → c ∉ s.toList

theorem Value.lacks_null {c : Char} (h : c ∉ ['N', 'o', 'n', 'e']) : Value.null.Lacks c := by
  intro s hs
  obtain rfl := Except.ok.inj hs
  exact h

theorem Value.lacks_text {s : String} {c : Char} (h : c ∉ s.toList) : (Value.text s).Lacks c := by
  intro t ht
  obtain rfl := Except.ok.inj ht
  exact h

theorem Value.lacks_int (n : Int) {c : Char} (hc : c.isDigit = false ∧ c ≠ '-') :
    (Value.int n).Lacks c := by
  intro s hs
  have hdigits : c ∉ Decimal.natDigits n.natAbs := by
    intro hm
    have hd := Nat.isDigit_of_mem_toDigits (by omega) (by omega) hm
    rw [hc.1] at hd
    exact Bool.noConfusion hd
  have htext : Decimal.intText n = s := by
    change intDigits n = .ok s at hs
    unfold intDigits at hs
    by_cases hl : Decimal.exceedsLimit n = true
    · rw [if_pos hl] at hs
      exact nomatch hs
    · rw [if_neg hl] at hs
      exact Except.ok.inj hs
  rw [← htext, Decimal.intText, String.toList_ofList]
  split_ifs
  · exact List.not_mem_cons_of_ne_of_not_mem hc.2 hdigits
  · exact hdigits

namespace Outbound

variable {config : Config} {env : Environment} {constants : Constants} {route : Route}
  {auth : Option Auth} {message : Message} {o : Outbound} {lines : List LogLine}

/-- No part of an address but its query has a question mark: neither the settings and the machine nor
the address of the route. A port is an integer and never has one (`Value.lacks_int`). -/
structure Unmarked (config : Config) (constants : Constants) (route : Route) : Prop where
  url : config.url.Lacks '?'
  pathPrefix : ∀ p, config.pathPrefix = some p → '?' ∉ p.toList
  protocol : (machine config constants route).protocol.Lacks '?'
  host : (machine config constants route).host.Lacks '?'
  port : (machine config constants route).port.Lacks '?'
  template : route.url.Lacks '?'

/-- The parameters of a call in order, each with the state in which its turn comes. -/
def visits (config : Config) (constants : Constants) (route : Route) (message : Message) :
    List Assembly.Visit :=
  match Assembly.urlText config.pathPrefix route.url with
  | .ok url =>
    Assembly.visits message route.path
      (Assembly.start message route.path (route.format constants)
        (Assembly.withPrefix config.pathPrefix url)) route.params
  | .error _ => []

theorem not_mem_urlText {pathPrefix : Option String} {url : List Char} {c : Char} {v : Value}
    (hv : v.Lacks c) (h : Assembly.urlText pathPrefix v = .ok url) : c ∉ url := by
  cases v with
  | text s =>
    obtain rfl := Except.ok.inj h
    exact hv s rfl
  | _ => exact nomatch h

theorem not_mem_withPrefix {pathPrefix : Option String} {url : List Char} {c : Char}
    (hp : ∀ p, pathPrefix = some p → c ∉ p.toList) (hu : c ∉ url) :
    c ∉ Assembly.withPrefix pathPrefix url := by
  unfold Assembly.withPrefix
  cases pathPrefix with
  | none => exact hu
  | some p =>
    show c ∉ if p.toList.isPrefixOf url then url else p.toList ++ url
    split_ifs
    · exact hu
    · rw [List.mem_append, not_or]
      exact ⟨hp p rfl, hu⟩

theorem not_mem_basePath {url base : String} {c : Char} (h : basePath config url = .ok base)
    (hs : config.url.Lacks c) (hu : c ∉ url.toList) : c ∉ base.toList := by
  rcases basePath_eq_ok h with rfl | ⟨front, hf, rfl⟩
  · exact hu
  · rw [String.toList_append, List.mem_append, not_or]
    exact ⟨hs front hf, hu⟩

theorem not_mem_originText {m : Machine} {origin : String} {c : Char}
    (h : originText m.protocol m.host m.port = .ok origin) (hp : m.protocol.Lacks c)
    (hh : m.host.Lacks c) (hq : m.port.Lacks c) (hc : c ≠ ':' ∧ c ≠ '/') : c ∉ origin.toList := by
  obtain ⟨p, n, q, hps, hns, hqs, rfl⟩ := originText_eq_ok h
  simp only [String.toList_append, List.mem_append, not_or]
  refine ⟨⟨⟨⟨hp p hps, ?_⟩, hh n hns⟩, ?_⟩, hq q hqs⟩
  · simp [hc]
  · simp [hc.1]

theorem not_mem_throughProxy {proxy : Value} {m m' : Machine} {path path' : String} {c : Char}
    (h : throughProxy proxy m path = .ok (m', path')) (hp : m.protocol.Lacks c)
    (hh : m.host.Lacks c) (hq : m.port.Lacks c) (hc : c ≠ ':' ∧ c ≠ '/') (hpath : c ∉ path.toList) :
    c ∉ path'.toList := by
  rcases throughProxy_eq_ok h with ⟨-, rfl⟩ | ⟨origin, ho, rfl⟩
  · exact hpath
  · rw [String.toList_append, List.mem_append, not_or]
    exact ⟨not_mem_originText ho hp hh hq hc, hpath⟩

/-- The query of a call whose parameters do not go into a body. -/
theorem toList_withQuery (hasBody : Bool) (items : List String) (path : String) :
    (withQuery hasBody (.pairs items) path).toList =
      Query.withFields path.toList (if hasBody then [] else items) := by
  cases hasBody with
  | true => rfl
  | false =>
    cases items with
    | nil => rfl
    | cons item items =>
      show (path ++ "?" ++ "&".intercalate (item :: items)).toList = _
      rw [String.toList_append, String.toList_append, toList_intercalate, List.append_assoc]
      rfl

theorem decode_body {host : Value} {format : Format} {texts : List String} {headers : Entries Value}
    {body : List UInt8} (h : ownHeaders host true format (.pairs texts) = .ok (headers, body)) :
    Utf8.decode body = .ok (Query.joined texts) := by
  obtain rfl := Except.ok.inj (bodyOf_of_ownHeaders h)
  rw [Utf8.decode_ofString, toList_intercalate]
  rfl

theorem visits_eq {url : List Char} (h : Assembly.urlText config.pathPrefix route.url = .ok url) :
    visits config constants route message =
      Assembly.visits message route.path
        (Assembly.start message route.path (route.format constants)
          (Assembly.withPrefix config.pathPrefix url)) route.params := by
  unfold visits
  rw [h]

theorem assembled_pairs {a : Assembly} (h : assembled config constants route message = .ok a)
    (hformat : route.format constants = .query ∨ route.format constants = .form) :
    ∃ texts, a.payload = .pairs texts ∧
      Query.Written (Assembly.fields message (visits config constants route message)) texts := by
  obtain ⟨url, hurl, hrun⟩ := bind_eq_ok_iff.mp h
  rw [visits_eq hurl]
  have hstart : (Assembly.start message route.path (route.format constants)
      (Assembly.withPrefix config.pathPrefix url)).payload = .pairs [] := by
    rcases hformat with hf | hf <;> rw [hf] <;> rfl
  obtain ⟨texts, hw, hp⟩ := Assembly.run_pairs hrun hstart
  exact ⟨texts, hp, hw⟩

/-- Every declared parameter has its turn, in order, and the assembly ends with their fields. -/
theorem assembled_fields {a : Assembly} (h : assembled config constants route message = .ok a)
    (hformat : route.format constants = .query ∨ route.format constants = .form)
    (hfree : Unmarked config constants route) :
    (visits config constants route message).map (fun v => (v.name, v.rule)) = route.params ∧
      '?' ∉ a.url ∧
        ∃ texts, a.payload = .pairs texts ∧
          Query.Written (Assembly.fields message (visits config constants route message)) texts := by
  refine ⟨?_, ?_, assembled_pairs h hformat⟩
  all_goals obtain ⟨url, hurl, hrun⟩ := bind_eq_ok_iff.mp h
  · rw [visits_eq hurl]
    exact Assembly.map_visits hrun
  · refine Assembly.not_mem_run_url (by decide) (by decide) hrun ?_
    rw [Assembly.start_url]
    exact not_mem_withPrefix hfree.pathPrefix (not_mem_urlText hfree.template hurl)

theorem fields_names {visits : List Assembly.Visit} {P : String → Prop}
    (hvisits : visits.map (fun v => (v.name, v.rule)) = route.params)
    (h : ∀ p ∈ route.params, P p.1) : ∀ f ∈ Assembly.fields message visits, P f.name := by
  intro f hf
  obtain ⟨v, hv, rfl⟩ := List.mem_map.mp hf
  refine h (v.name, v.rule) ?_
  rw [← hvisits]
  exact List.mem_map_of_mem (List.mem_filter.mp hv).1

/-- **Round trip of a request.** Every declared parameter has its turn once, in order. Those that
become fields are read back from the body, or from the query of the path if there is no body, in
their order and one pair each; the query of the path ends with the fields of the credentials. -/
theorem prepare_readsBack
    (hprep : prepare config env constants route auth message = .ok (o, lines))
    (hformat : route.format constants = .query ∨ route.format constants = .form)
    (hnames : ∀ p ∈ route.params, '&' ∉ p.1.toList ∧ '=' ∉ p.1.toList)
    (hfree : Unmarked config constants route) :
    (visits config constants route message).map (fun v => (v.name, v.rule)) = route.params ∧
      (route.hasBody = false →
        Query.ReadAs
          (Assembly.fields message (visits config constants route message) ++ Auth.fieldsOf auth)
          (Query.pairs (Query.ofPath o.path.toList))) ∧
      (route.hasBody = true →
        Query.ReadAs (Auth.fieldsOf auth) (Query.pairs (Query.ofPath o.path.toList)) ∧
          ∃ text, Utf8.decode o.body = .ok text ∧
            Query.ReadAs (Assembly.fields message (visits config constants route message))
              (Query.pairs text)) := by
  obtain ⟨a, ha, ho, -⟩ := prepare_eq_ok_iff.mp hprep
  obtain ⟨p, hp, rfl⟩ := ofAssembly_eq_ok_iff.mp ho
  obtain ⟨hvisits, hmark, texts, hpayload, hw⟩ := assembled_fields ha hformat hfree
  have hfront : '?' ∉ p.path.toList := by
    refine not_mem_throughProxy hp.proxied hfree.protocol hfree.host hfree.port (by decide) ?_
    exact not_mem_basePath hp.base hfree.url (by rwa [String.toList_ofList])
  have hquery := toList_withQuery route.hasBody texts p.path
  rw [← hpayload] at hquery
  obtain ⟨more, hmore, hpath⟩ := Auth.applyTo_path hp.authorized hquery hfront
  have hfields : ∀ f ∈ Assembly.fields message (visits config constants route message),
      '&' ∉ f.name.toList ∧ '=' ∉ f.name.toList :=
    fields_names (P := fun n => '&' ∉ n.toList ∧ '=' ∉ n.toList) hvisits hnames
  refine ⟨hvisits, fun hbody => ?_, fun hbody => ⟨?_, ?_⟩⟩
  · show Query.ReadAs _ (Query.pairs (Query.ofPath p.authorizedPath.toList))
    rw [hpath, Query.ofPath_withFields hfront, hbody]
    refine Query.readAs_pairs_joined (List.rel_append hw hmore) fun f hf => ?_
    rcases List.mem_append.mp hf with hf | hf
    · exact hfields f hf
    · exact Auth.fieldsOf_names auth f hf
  · show Query.ReadAs _ (Query.pairs (Query.ofPath p.authorizedPath.toList))
    rw [hpath, Query.ofPath_withFields hfront, hbody]
    exact Query.readAs_pairs_joined hmore (Auth.fieldsOf_names auth)
  · have hown := hp.own
    rw [hbody, hpayload] at hown
    exact ⟨Query.joined texts, decode_body hown, Query.readAs_pairs_joined hw hfields⟩

/-- A list of terms and a list, with a name in the address and a token behind them. -/
theorem prepare_readsBack_search :
    let route : Route :=
      { path := "users/find", space := "users", name := "find", url := .text "/users/:id",
        method := "GET", params := [("id", {}), ("q", { combined := true }), ("tags", {}), ("page", {})] }
    let message : Message :=
      [("id", .text "a?b"), ("q", .text "x + y&z"), ("tags", .list [.text "é"])]
    ∃ o lines,
      prepare .withoutProxy [] {} route (some { scheme := .oauth, token := .text "s=1" }) message =
          .ok (o, lines) ∧
        Query.ReadAs
          [⟨"q", .text "x + y&z", true⟩, ⟨"tags", .list [.text "é"], false⟩,
            ⟨"access_token", .text "s=1", false⟩]
          (Query.pairs (Query.ofPath o.path.toList)) := by
  intro route message
  obtain ⟨⟨o, lines⟩, h⟩ : ∃ r, prepare .withoutProxy [] {} route
      (some { scheme := .oauth, token := .text "s=1" }) message = .ok r :=
    exists_of_isOk (by decide +kernel)
  have hfree : Unmarked .withoutProxy {} route :=
    { url := Value.lacks_null (by decide)
      pathPrefix := fun p hp => nomatch hp
      protocol := Value.lacks_text (by decide)
      host := Value.lacks_null (by decide)
      port := Value.lacks_int 80 (by decide)
      template := Value.lacks_text (by decide) }
  have hfields : Assembly.fields message (visits .withoutProxy {} route message) =
      [⟨"q", .text "x + y&z", true⟩, ⟨"tags", .list [.text "é"], false⟩] := by
    have hplaces : ((visits .withoutProxy {} route message).filter (Assembly.becomesField message)).map
        (fun v => (v.name, v.rule.combined)) = [("q", true), ("tags", false)] := by decide +kernel
    have hmap := congrArg
      (List.map fun p => (⟨p.1, message.value p.1, p.2⟩ : Query.Field)) hplaces
    rwa [List.map_map] at hmap
  have hbody : route.hasBody = false := by decide +kernel
  have hformat : route.format {} = .query := by
    unfold Route.format
    rw [hbody]
    rfl
  have hread := (prepare_readsBack h (Or.inl hformat) (by decide) hfree).2.1 hbody
  rw [hfields] at hread
  exact ⟨o, lines, h, hread⟩


/-- The host of a route counts, and not only that of the settings: through a proxy the address of the
machine stands in the path, and a question mark in it comes before that of the query. -/
theorem not_readsBack_markedHost :
    let config : Config := { proxy := .text "http://corp-proxy" }
    let route : Route :=
      { path := "users/find", space := "users", name := "find", url := .text "/u", method := "GET",
        params := [("q", {})], host := .text "a?b" }
    config.url.Lacks '?' ∧ config.pathPrefix = none ∧ config.protocol.Lacks '?' ∧
      config.host.Lacks '?' ∧ route.url.Lacks '?' ∧
      ∃ o lines, prepare config [] {} route none [("q", .text "x")] = .ok (o, lines) ∧
        ¬ Query.ReadAs [⟨"q", .text "x", false⟩] (Query.pairs (Query.ofPath o.path.toList)) := by
  intro config route
  refine ⟨Value.lacks_null (by decide), rfl, Value.lacks_null (by decide),
    Value.lacks_null (by decide), Value.lacks_text (by decide), ?_⟩
  have hpath : (prepare config [] {} route none [("q", .text "x")]).map (fun r => r.1.path) =
      .ok "http://a?b:80/u?q=x" := by decide +kernel
  obtain ⟨⟨o, lines⟩, h, ho⟩ := map_eq_ok_iff.mp hpath
  refine ⟨o, lines, h, ?_⟩
  rw [ho]
  intro hread
  exact absurd (Query.names_of_readAs hread) (by decide +kernel)

end Outbound

end RouteBook
