import RouteBook.Proofs.Request.Placement
import RouteBook.Proofs.Request.Query

/-!
# The fields of a call

Which parameters become fields of a query or a form, and which fields the credentials add. A run of
the assembly adds to the pairs exactly the written fields of its parameters (`run_pairs`) and brings no
separator into the address (`not_mem_run_url`). The credentials join theirs to those that are there
(`applyTo_path`), and the first question mark of a path with fields starts its query
(`ofPath_withFields`).
-/

namespace RouteBook

open RouteBook.Text

/-! ## The fields of a run -/

namespace Assembly

variable {message : Message} {path : String} {a b : Assembly}

/-- The field that a parameter makes. -/
def fieldOf (message : Message) (v : Visit) : Query.Field :=
  ⟨v.name, message.value v.name, v.rule.combined⟩

/-- Whether a parameter becomes a field: it is given, has a written form, and its name does not
stand in the address when its turn comes. -/
def becomesField (message : Message) (v : Visit) : Bool :=
  !(message.value v.name).isNull && (plainText (message.value v.name)).isOk &&
    (splitAt? v.name.toList v.state.url).isNone

/-- The fields that the parameters of a run become. -/
def fields (message : Message) (visits : List Visit) : List Query.Field :=
  (visits.filter (becomesField message)).map (fieldOf message)

theorem fields_cons_of_pos {v : Visit} (h : becomesField message v = true) (rest : List Visit) :
    fields message (v :: rest) = fieldOf message v :: fields message rest := by
  unfold fields
  rw [List.filter_cons_of_pos h, List.map_cons]

theorem fields_cons_of_neg {v : Visit} (h : becomesField message v = false) (rest : List Visit) :
    fields message (v :: rest) = fields message rest := by
  unfold fields
  rw [List.filter_cons_of_neg (by rw [h]; exact Bool.false_ne_true)]

theorem plainText_isOk (combined : Bool) (v : Value) :
    (plainText v).isOk = (encodeValue combined v).isOk := by
  rw [encodeValue_eq]
  cases plainText v <;> rfl

theorem encodeValue_isOk_of_place {name : String} {rule : Rule} {v : Value} {items : List String}
    {f : Fault} (hp : a.payload = .pairs items) (h : a.place name rule v = .error f) :
    (encodeValue rule.combined v).isOk = false := by
  cases hs : splitAt? name.toList a.url with
  | some parts =>
    obtain ⟨before, after⟩ := parts
    rw [place_of_some hs] at h
    cases he : encodeValue rule.combined v with
    | error g => rfl
    | ok encoded => rw [he] at h; exact nomatch h
  | none =>
    rw [place_of_none hs, hp] at h
    cases he : encodeValue rule.combined v with
    | error g => rfl
    | ok encoded => unfold stored at h; rw [he] at h; exact nomatch h

/-- A parameter adds its written field to the pairs, or nothing. -/
theorem step_pairs {name : String} {rule : Rule} {items : List String}
    (h : step message path a (name, rule) = .ok b) (hp : a.payload = .pairs items) :
    (becomesField message ⟨a, name, rule⟩ = false ∧ b.payload = .pairs items) ∨
      becomesField message ⟨a, name, rule⟩ = true ∧
        ∃ t, (fieldOf message ⟨a, name, rule⟩).written = .ok t ∧ b.payload = .pairs (items ++ [t]) := by
  unfold becomesField
  cases step_cases h with
  | absent hnull => exact Or.inl ⟨by rw [hnull]; rfl, hp⟩
  | substituted hgiven hfound hencoded =>
    exact Or.inl ⟨by rw [hfound, Option.isNone_some, Bool.and_false], hp⟩
  | added hgiven hfound hstored =>
    rw [hp] at hstored
    obtain ⟨encoded, he, rfl⟩ := map_eq_ok_iff.mp hstored
    refine Or.inr ⟨?_, pairText name encoded, map_eq_ok_iff.mpr ⟨encoded, he, rfl⟩, rfl⟩
    rw [isNull_of_ne hgiven, plainText_isOk rule.combined, he, hfound]
    rfl
  | leftOut hgiven hfault hf =>
    refine Or.inl ⟨?_, hp⟩
    rw [plainText_isOk rule.combined, encodeValue_isOk_of_place hp hfault,
      Bool.and_false, Bool.false_and]

/-- Assembly adds exactly the written fields, in the order of the parameters. -/
theorem run_pairs {params : Entries Rule} {items : List String}
    (h : params.foldlM (step message path) a = .ok b) (hp : a.payload = .pairs items) :
    ∃ texts, Query.Written (fields message (visits message path a params)) texts ∧
      b.payload = .pairs (items ++ texts) := by
  induction params generalizing a items with
  | nil =>
    obtain rfl := Except.ok.inj h
    exact ⟨[], List.Forall₂.nil, by rw [List.append_nil, hp]⟩
  | cons p rest ih =>
    obtain ⟨name, rule⟩ := p
    obtain ⟨c, hc, hrest⟩ := run_cons h
    rw [visits_cons hc]
    rcases step_pairs hc hp with ⟨hno, hp'⟩ | ⟨hyes, t, ht, hp'⟩
    · rw [fields_cons_of_neg hno]
      exact ih hrest hp'
    · rw [fields_cons_of_pos hyes]
      obtain ⟨texts, hw, hb⟩ := ih hrest hp'
      exact ⟨t :: texts, List.Forall₂.cons ht hw, by rw [hb, List.append_assoc]; rfl⟩

/-! ## The address of a run -/

theorem not_mem_step_url {c : Char} (hc : Percent.isComponentChar c = false) (hplus : c ≠ '+')
    {name : String} {rule : Rule} (h : step message path a (name, rule) = .ok b)
    (ha : c ∉ a.url) : c ∉ b.url := by
  cases step_cases h with
  | absent hnull => exact ha
  | @substituted before after encoded hgiven hfound hencoded =>
    rw [(splitAt?_eq_some hfound).1, List.mem_append, List.mem_append, not_or, not_or] at ha
    rw [List.mem_append, List.mem_append, not_or, not_or]
    exact ⟨⟨ha.1.1, not_mem_encodeValue hc hplus hencoded⟩, ha.2⟩
  | added hgiven hfound hstored => exact ha
  | leftOut hgiven hfault hf => exact ha

theorem not_mem_run_url {c : Char} (hc : Percent.isComponentChar c = false) (hplus : c ≠ '+')
    {params : Entries Rule} (h : params.foldlM (step message path) a = .ok b)
    (ha : c ∉ a.url) : c ∉ b.url := by
  induction params generalizing a with
  | nil =>
    obtain rfl := Except.ok.inj h
    exact ha
  | cons p rest ih =>
    obtain ⟨s, hs, hrest⟩ := run_cons h
    exact ih hrest (not_mem_step_url hc hplus hs ha)

end Assembly

/-! ## The fields of the credentials -/

namespace Auth

/-- The fields that credentials add to the query of a path. -/
def fields (a : Auth) : List Query.Field :=
  if a.scheme = .oauth then
    if a.token.truthy then [⟨"access_token", a.token, false⟩]
    else [⟨"client_id", a.key, false⟩, ⟨"client_secret", a.secret, false⟩]
  else []

/-- The fields of credentials that may be missing. -/
def fieldsOf (auth : Option Auth) : List Query.Field :=
  auth.elim [] fields

theorem written_of_encoded {name encoded : String} {v : Value} (h : v.encoded = .ok encoded) :
    Query.Field.written ⟨name, v, false⟩ = .ok (name ++ "=" ++ encoded) := by
  obtain ⟨text, ht, rfl⟩ := map_eq_ok_iff.mp h
  unfold Query.Field.written
  rw [Assembly.encodeValue_eq, Assembly.plainText_eq_encodableText, ht]
  rfl

theorem fieldsOf_names (auth : Option Auth) :
    ∀ f ∈ fieldsOf auth, '&' ∉ f.name.toList ∧ '=' ∉ f.name.toList := by
  cases auth with
  | none => exact fun f hf => absurd hf List.not_mem_nil
  | some a =>
    show ∀ f ∈ a.fields, _
    unfold fields
    split_ifs <;> simp

theorem oauthQuery_eq_ok {a : Auth} {query : String} (hs : a.scheme = .oauth)
    (h : a.oauthQuery = .ok query) :
    ∃ texts, texts ≠ [] ∧ Query.Written a.fields texts ∧ query.toList = Query.joined texts := by
  unfold oauthQuery at h
  unfold fields
  rw [if_pos hs]
  by_cases ht : a.token.truthy = true
  · rw [if_pos ht] at h
    rw [if_pos ht]
    obtain ⟨token, htoken, h⟩ := bind_eq_ok_iff.mp h
    obtain rfl := Except.ok.inj h
    exact ⟨["access_token=" ++ token], List.cons_ne_nil _ _,
      List.Forall₂.cons (written_of_encoded htoken) List.Forall₂.nil, rfl⟩
  · rw [if_neg ht] at h
    rw [if_neg ht]
    obtain ⟨key, hkey, h⟩ := bind_eq_ok_iff.mp h
    obtain ⟨secret, hsecret, h⟩ := bind_eq_ok_iff.mp h
    obtain rfl := Except.ok.inj h
    refine ⟨["client_id=" ++ key, "client_secret=" ++ secret], List.cons_ne_nil _ _, ?_, ?_⟩
    · exact List.Forall₂.cons (written_of_encoded hkey)
        (List.Forall₂.cons (written_of_encoded hsecret) List.Forall₂.nil)
    · simp [Query.joined, joinWith]

end Auth

/-! ## Paths with fields -/

namespace Query

/-- A path with the given texts for its query, if there are any. -/
def withFields (front : List Char) (texts : List String) : List Char :=
  if texts = [] then front else front ++ '?' :: joined texts

theorem ofPath_withFields {front : List Char} (h : '?' ∉ front) (texts : List String) :
    ofPath (withFields front texts) = joined texts := by
  unfold withFields ofPath
  by_cases hne : texts = []
  · rw [if_pos hne, Authority.cut_of_not_mem h, hne]
    rfl
  · rw [if_neg hne, Authority.cut_append_cons h]

theorem joined_append {xs ys : List String} (hx : xs ≠ []) (hy : ys ≠ []) :
    joined (xs ++ ys) = joined xs ++ '&' :: joined ys := by
  induction xs with
  | nil => exact absurd rfl hx
  | cons x xs ih =>
    cases xs with
    | nil =>
      cases ys with
      | nil => exact absurd rfl hy
      | cons y ys => simp [joined, joinWith]
    | cons x' xs =>
      have ih' := ih (List.cons_ne_nil x' xs)
      unfold joined at ih' ⊢
      simp only [List.cons_append, List.map_cons, joinWith_cons_cons] at ih' ⊢
      rw [ih']
      simp only [List.append_assoc]

theorem withFields_append {front : List Char} (xs : List String) {ys : List String} (hy : ys ≠ []) :
    withFields front (xs ++ ys) =
      withFields front xs ++ (if xs = [] then '?' else '&') :: joined ys := by
  unfold withFields
  by_cases hx : xs = []
  · subst hx
    rw [List.nil_append, if_neg hy, if_pos rfl, if_pos rfl]
  · rw [if_neg (fun h => hx (List.append_eq_nil_iff.mp h).1), if_neg hx, if_neg hx,
      joined_append hx hy, List.append_assoc]
    rfl

theorem mark_mem_withFields_iff {front : List Char} (h : '?' ∉ front) (texts : List String) :
    '?' ∈ withFields front texts ↔ texts ≠ [] := by
  unfold withFields
  by_cases hne : texts = []
  · rw [if_pos hne]
    exact ⟨fun hm => absurd hm h, fun hn => absurd hne hn⟩
  · rw [if_neg hne]
    exact ⟨fun _ => hne, fun _ => List.mem_append_right front List.mem_cons_self⟩

end Query

namespace Auth

theorem toList_joiner {path : String} {front : List Char} {texts : List String}
    (hpath : path.toList = Query.withFields front texts) (hfront : '?' ∉ front) :
    (joiner path).toList = [if texts = [] then '?' else '&'] := by
  have hmark := Query.mark_mem_withFields_iff hfront texts
  unfold joiner
  rw [hpath]
  by_cases hne : texts = []
  · rw [if_pos hne, if_neg (by rw [List.contains_iff_mem, hmark]; exact not_not_intro hne)]
    rfl
  · rw [if_neg hne, if_pos (by rw [List.contains_iff_mem, hmark]; exact hne)]
    rfl

theorem apply_of_oauth {a : Auth} (hs : a.scheme = .oauth) (path : String) (headers : Entries Value) :
    a.apply path headers = a.oauthQuery.map fun query => (path ++ joiner path ++ query, headers) := by
  simp only [apply, hs]
  cases a.oauthQuery <;> rfl

theorem apply_of_ne {a : Auth} (hs : a.scheme ≠ .oauth) (path : String) (headers : Entries Value) :
    a.apply path headers = a.authorization.map fun
      | some v => (path, headers.put "authorization" v)
      | none => (path, headers) := by
  have happly : a.apply path headers = a.authorization >>= fun
      | some v => pure (path, headers.put "authorization" v)
      | none => pure (path, headers) := by
    unfold apply
    cases hscheme : a.scheme <;> first | exact absurd hscheme hs | rfl
  rw [happly]
  rcases a.authorization with f | _ | v <;> rfl

theorem apply_path_of_ne {a : Auth} {path path' : String} {headers headers' : Entries Value}
    (hs : a.scheme ≠ .oauth) (h : a.apply path headers = .ok (path', headers')) : path' = path := by
  rw [apply_of_ne hs] at h
  obtain ⟨header, -, h⟩ := map_eq_ok_iff.mp h
  cases header <;> exact (Prod.mk.inj h).1.symm

theorem applyTo_headers {auth : Option Auth} {path path' : String} {headers headers' : Entries Value}
    (h : applyTo auth path headers = .ok (path', headers')) :
    headers' = headers ∨ ∃ v, headers' = headers.put "authorization" v := by
  cases auth with
  | none => exact Or.inl (Prod.mk.inj (Except.ok.inj h)).2.symm
  | some a =>
    change a.apply path headers = _ at h
    by_cases hs : a.scheme = .oauth
    · rw [apply_of_oauth hs] at h
      obtain ⟨query, -, h⟩ := map_eq_ok_iff.mp h
      exact Or.inl (Prod.mk.inj h).2.symm
    · rw [apply_of_ne hs] at h
      obtain ⟨header, -, h⟩ := map_eq_ok_iff.mp h
      cases header with
      | none => exact Or.inl (Prod.mk.inj h).2.symm
      | some v => exact Or.inr ⟨v, (Prod.mk.inj h).2.symm⟩

theorem applyTo_path {auth : Option Auth} {path path' : String} {headers headers' : Entries Value}
    {front : List Char} {texts : List String} (h : applyTo auth path headers = .ok (path', headers'))
    (hpath : path.toList = Query.withFields front texts) (hfront : '?' ∉ front) :
    ∃ more, Query.Written (fieldsOf auth) more ∧
      path'.toList = Query.withFields front (texts ++ more) := by
  cases auth with
  | none =>
    obtain ⟨rfl, rfl⟩ := Prod.mk.inj (Except.ok.inj h)
    exact ⟨[], List.Forall₂.nil, by rw [List.append_nil, hpath]⟩
  | some a =>
    change a.apply path headers = _ at h
    by_cases hs : a.scheme = .oauth
    · rw [apply_of_oauth hs] at h
      obtain ⟨query, hq, h⟩ := map_eq_ok_iff.mp h
      obtain ⟨rfl, -⟩ := Prod.mk.inj h
      obtain ⟨more, hne, hw, hmore⟩ := oauthQuery_eq_ok hs hq
      refine ⟨more, hw, ?_⟩
      rw [String.toList_append, String.toList_append, hmore, toList_joiner hpath hfront, hpath,
        Query.withFields_append _ hne, List.append_assoc, List.singleton_append]
    · have hnone : fieldsOf (some a) = [] := if_neg hs
      obtain rfl := apply_path_of_ne hs h
      rw [hnone]
      exact ⟨[], List.Forall₂.nil, by rw [List.append_nil, hpath]⟩

end Auth

end RouteBook
