import RouteBook.Proofs.Request.Fields
import RouteBook.Proofs.Request.OutboundParts
import RouteBook.Proofs.Request.Substitution

/-!
# Paths and bodies are kept apart

In a template whose tokens do not touch, an address depends on a message through the parameters whose
placeholders stand in the template, and through nothing else (`fill_congr`). The payload of a call with a
body does not go into the path, so neither does any other value (`prepare_separates`); a call without a
body has none.
-/

namespace RouteBook

open Text Assembly
open Template (Part parts fillParts fill Spaced)

/-! ## Placeholders of a template -/

namespace Template

/-- The placeholder of a name stands in a template: a colon and the name, with nothing behind it that
would continue the name. -/
def Mentions (template : List Char) (name : String) : Prop :=
  ∃ before after, template = before ++ (':' :: name.toList) ++ after ∧ endsName after = true

theorem mentions_iff {template : List Char} {name : String} :
    Mentions template name ↔ (splitAt? name.toList template).isSome = true := by
  constructor
  · rintro ⟨before, after, rfl, hafter⟩
    induction before with
    | nil =>
      have hfirst : afterPlaceholder? name.toList (':' :: (name.toList ++ after)) = some after := by
        unfold afterPlaceholder?
        rw [after?_eq_some_iff.mpr (by rfl), Option.filter_some, if_pos hafter]
      rw [List.nil_append, List.cons_append, splitAt?, hfirst]
      rfl
    | cons c before ih =>
      rw [List.cons_append, List.cons_append, splitAt?]
      cases afterPlaceholder? name.toList (c :: (before ++ (':' :: name.toList) ++ after)) with
      | some rest => rfl
      | none =>
        dsimp only
        rw [Option.isSome_map]
        exact ih
  · intro h
    obtain ⟨⟨before, after⟩, hsplit⟩ := Option.isSome_iff_exists.mp h
    exact ⟨before, after, splitAt?_eq_some hsplit⟩

instance (template : List Char) (name : String) : Decidable (Mentions template name) :=
  decidable_of_iff _ mentions_iff.symm

theorem mentions_of_mem_parts {template : List Char} {name : String}
    (h : Part.token name ∈ parts template) : Mentions template name := by
  induction template using parts.induct with
  | case1 =>
    rw [parts] at h
    exact absurd h List.not_mem_nil
  | case2 rest ih =>
    rw [parts, if_pos rfl] at h
    have hrest : rest = rest.takeWhile isNameChar ++ rest.dropWhile isNameChar :=
      List.takeWhile_append_dropWhile.symm
    rcases List.mem_cons.mp h with htoken | hmem
    · obtain rfl := Part.token.inj htoken
      refine ⟨[], rest.dropWhile isNameChar, ?_, ?_⟩
      · rw [String.toList_ofList, List.nil_append, List.cons_append, ← hrest]
      · have hstop := List.head?_dropWhile_not isNameChar rest
        cases hd : rest.dropWhile isNameChar with
        | nil => rfl
        | cons c after =>
          rw [hd] at hstop
          exact (Bool.not_eq_true' _).mpr hstop
    · obtain ⟨before, after, hsplit, hafter⟩ := ih hmem
      refine ⟨':' :: rest.takeWhile isNameChar ++ before, after, ?_, hafter⟩
      conv_lhs => rw [hrest, hsplit]
      simp only [List.cons_append, List.append_assoc]
  | case3 c rest hc ih =>
    rw [parts, if_neg hc] at h
    obtain ⟨before, after, hsplit, hafter⟩ := ih ((List.mem_cons.mp h).resolve_left (by rintro ⟨⟩))
    exact ⟨c :: before, after, congrArg (c :: ·) hsplit, hafter⟩

theorem fillParts_congr_of_tokens {text? text?' : String → Option (List Char)} {ps : List Part}
    (h : ∀ name, Part.token name ∈ ps → text? name = text?' name) (met : List String) :
    fillParts text? met ps = fillParts text?' met ps := by
  induction ps generalizing met with
  | nil => rfl
  | cons p ps ih =>
    have hrest := ih fun name hname => h name (List.mem_cons_of_mem p hname)
    cases p with
    | char c => rw [fillParts, fillParts, hrest]
    | token name => rw [fillParts, fillParts, hrest, h name List.mem_cons_self]

theorem fill_congr {text? text?' : String → Option (List Char)} {template : List Char}
    (h : ∀ name, Mentions template name → text? name = text?' name) :
    fill text? template = fill text?' template :=
  fillParts_congr_of_tokens (fun name hname => h name (mentions_of_mem_parts hname)) []

end Template

open Template (Mentions)

variable {config : Config} {env : Environment} {constants : Constants} {route : Route}
  {auth : Option Auth} {message other : Message} {template : List Char}

/-- Two messages agree on the parameters that stand in the template. -/
def AgreeInAddress (route : Route) (template : List Char) (message other : Message) : Prop :=
  ∀ name ∈ route.params.keys, Mentions template name → message.value name = other.value name

namespace Assembly

theorem fill_addressTexts_congr (h : AgreeInAddress route template message other) :
    fill (addressTexts message route.params) template =
      fill (addressTexts other route.params) template := by
  refine Template.fill_congr fun name hname => ?_
  unfold addressTexts
  cases hrule : route.params.get? name with
  | none => rfl
  | some rule =>
    have hvalue := h name (Entries.mem_keys (Entries.mem_of_get? hrule)) hname
    show addressText message name rule = addressText other name rule
    unfold addressText
    rw [hvalue]

end Assembly

namespace Outbound

theorem hasBody_iff : route.hasBody = true ↔
    route.hasFileBody = false ∧ Text.upper route.method ∉ Route.bodylessMethods := by
  unfold Route.hasBody
  simp

/-- A body takes the payload, so none of it goes behind the path. -/
theorem withQuery_of_hasBody (payload : Payload) (path : String) : withQuery true payload path = path :=
  rfl

theorem applyTo_path_congr {path p p' : String} {headers headers' h h' : Entries Value}
    (hp : Auth.applyTo auth path headers = .ok (p, h))
    (hp' : Auth.applyTo auth path headers' = .ok (p', h')) : p = p' := by
  cases auth with
  | none =>
    obtain ⟨rfl, -⟩ := Prod.mk.inj (Except.ok.inj hp)
    obtain ⟨rfl, -⟩ := Prod.mk.inj (Except.ok.inj hp')
    rfl
  | some a =>
    change a.apply path headers = _ at hp
    change a.apply path headers' = _ at hp'
    by_cases hs : a.scheme = .oauth
    · rw [Auth.apply_of_oauth hs] at hp hp'
      obtain ⟨query, hq, hp⟩ := map_eq_ok_iff.mp hp
      obtain ⟨query', hq', hp'⟩ := map_eq_ok_iff.mp hp'
      obtain rfl : query = query' := Except.ok.inj (hq.symm.trans hq')
      exact (Prod.mk.inj hp).1.symm.trans (Prod.mk.inj hp').1
    · rw [Auth.apply_path_of_ne hs hp, Auth.apply_path_of_ne hs hp']

theorem path_congr {format : Format} {a a' : Assembly} {o o' : Outbound}
    (hbody : route.hasBody = true) (hurl : a.url = a'.url)
    (ho : ofAssembly config env constants route auth message format a = .ok o)
    (ho' : ofAssembly config env constants route auth other format a' = .ok o') :
    o.path = o'.path := by
  obtain ⟨p, hp, rfl⟩ := ofAssembly_eq_ok_iff.mp ho
  obtain ⟨q, hq, rfl⟩ := ofAssembly_eq_ok_iff.mp ho'
  have hbase : p.base = q.base := Except.ok.inj (hp.base.symm.trans (hurl ▸ hq.base))
  have hpath : p.path = q.path :=
    (Prod.mk.inj (Except.ok.inj (hp.proxied.symm.trans (hbase ▸ hq.proxied)))).2
  have hauth := hp.authorized
  have hauth' := hq.authorized
  rw [hbody, withQuery_of_hasBody, hpath] at hauth
  rw [hbody, withQuery_of_hasBody] at hauth'
  exact applyTo_path_congr hauth hauth'

/-- **Paths and bodies are kept apart.** If a call has a body, its path is the same for all messages
that agree on the parameters in the template. If it has none, its body is empty. -/
theorem prepare_separates {url : String} (hurl : route.url = .text url)
    (hkeys : route.params.keys.Nodup)
    (hnames : ∀ name ∈ route.params.keys, ∀ c ∈ name.toList, isNameChar c = true)
    (hspaced : Spaced (withPrefix config.pathPrefix url.toList)) :
    (route.hasFileBody = false ∧ Text.upper route.method ∉ Route.bodylessMethods →
        ∀ message other o o' lines lines',
          AgreeInAddress route (withPrefix config.pathPrefix url.toList) message other →
          prepare config env constants route auth message = .ok (o, lines) →
          prepare config env constants route auth other = .ok (o', lines') → o.path = o'.path) ∧
      (¬ (route.hasFileBody = false ∧ Text.upper route.method ∉ Route.bodylessMethods) →
        ∀ message o lines,
          prepare config env constants route auth message = .ok (o, lines) → o.body = []) := by
  rw [← hasBody_iff]
  constructor
  · intro hbody message other o o' lines lines' hagree hprep hprep'
    obtain ⟨a, ha, ho, -⟩ := prepare_eq_ok_iff.mp hprep
    obtain ⟨a', ha', ho', -⟩ := prepare_eq_ok_iff.mp hprep'
    refine path_congr hbody ?_ ho ho'
    have hfill := assemble_eq_fill message route (route.format constants) config.pathPrefix hurl hkeys
      hnames hspaced
    have hfill' := assemble_eq_fill other route (route.format constants) config.pathPrefix hurl hkeys
      hnames hspaced
    rw [show assemble message route _ _ = .ok a from ha] at hfill
    rw [show assemble other route _ _ = .ok a' from ha'] at hfill'
    calc a.url = fill (addressTexts message route.params) _ := Except.ok.inj hfill
      _ = fill (addressTexts other route.params) _ := fill_addressTexts_congr hagree
      _ = a'.url := (Except.ok.inj hfill').symm
  · intro hbody message o lines hprep
    obtain ⟨a, -, ho, -⟩ := prepare_eq_ok_iff.mp hprep
    exact body_eq_nil (Bool.eq_false_iff.mpr hbody) ho

/-- A secret that stands in the body, next to an identifier in the path. -/
theorem prepare_separates_secret :
    let route : Route :=
      { path := "users/put", space := "users", name := "put", url := .text "/users/:id",
        method := "put", params := [("id", {}), ("pass", {}), ("i", {})] }
    let message (secret : String) : Message :=
      [("pass", .text secret), ("id", .int 7), ("i", .text secret)]
    let auth : Auth := { scheme := .oauth, token := .text "t" }
    ∃ o o' lines lines',
      prepare .withoutProxy [] {} route (some auth) (message "one") = .ok (o, lines) ∧
        prepare .withoutProxy [] {} route (some auth) (message "?:id") = .ok (o', lines') ∧
        o.path = o'.path := by
  intro route message auth
  obtain ⟨⟨o, lines⟩, h⟩ : ∃ r, prepare .withoutProxy [] {} route (some auth) (message "one") = .ok r :=
    exists_of_isOk (by decide +kernel)
  obtain ⟨⟨o', lines'⟩, h'⟩ :
      ∃ r, prepare .withoutProxy [] {} route (some auth) (message "?:id") = .ok r :=
    exists_of_isOk (by decide +kernel)
  have hall : route.params.keys.all (fun name => name.toList.all isNameChar) = true := by decide
  have hnames : ∀ name ∈ route.params.keys, ∀ c ∈ name.toList, isNameChar c = true :=
    fun name hname => List.all_eq_true.mp (List.all_eq_true.mp hall name hname)
  have hmethod : route.hasFileBody = false ∧ Text.upper route.method ∉ Route.bodylessMethods := by
    decide +kernel
  have hagree : AgreeInAddress route "/users/:id".toList (message "one") (message "?:id") := by
    intro name hname hmentions
    have honly : ∀ name ∈ route.params.keys, Mentions "/users/:id".toList name → name = "id" := by
      decide
    rw [honly name hname hmentions]
    rfl
  have hspaced : Spaced (withPrefix Config.withoutProxy.pathPrefix "/users/:id".toList) := by decide
  have hpath := (prepare_separates rfl (by decide) hnames hspaced).1 hmethod _ _ _ _ _ _ hagree h h'
  exact ⟨o, o', lines, lines', h, h', hpath⟩

end Outbound

end RouteBook
