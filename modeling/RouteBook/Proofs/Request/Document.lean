import RouteBook.Proofs.Json.RoundTrip
import RouteBook.Proofs.Request.QueryRoundTrip
import RouteBook.Proofs.Validation.Checked
import RouteBook.Text.AnyText

/-!
# The document of a call

A body in JSON is one map, and reading it gives the parameters of the call with their values, in the
order of their declaration (`prepare_document`).

1. A run of the assembly adds exactly the members to the map (`run_members`). Their keys are distinct
   as those of the declarations are, and their values can be written, so the map can be written too
   (`writeCompact_map_isOk`).
2. The octets of a document are the UTF-8 of its text, which ragged texts have none of. That a value has a
   JSON text says nothing about this, so a ragged member ends the call (`bodyOf_members_isOk`,
   `ragged_member_unencodable`).
3. The text of a map in UTF-8 is read back as every text of a value is.
-/

namespace RouteBook

open RouteBook.Text

variable {message : Message}

/-! ## Texts of maps -/

namespace Value

theorem entriesAreEncodable_iff {entries : Entries Value} :
    entriesAreEncodable entries = true ↔ ∀ e ∈ entries, e.2.isEncodable = true := by
  induction entries with
  | nil => exact ⟨fun _ e he => absurd he List.not_mem_nil, fun _ => rfl⟩
  | cons e rest ih =>
    obtain ⟨key, v⟩ := e
    rw [entriesAreEncodable, Bool.and_eq_true, ih, List.forall_mem_cons]

end Value

namespace Json

theorem writeEntries_isOk {entries : Entries Value}
    (h : ∀ e ∈ entries, (writeCompact e.2).isOk = true) : (writeEntries compact entries).isOk = true := by
  induction entries with
  | nil => rfl
  | cons e rest ih =>
    obtain ⟨key, v⟩ := e
    obtain ⟨hv, hrest⟩ := List.forall_mem_cons.mp h
    obtain ⟨text, htext⟩ := exists_of_isOk hv
    obtain ⟨cs, hcs, -⟩ := map_eq_ok_iff.mp htext
    obtain ⟨texts, htexts⟩ := exists_of_isOk (ih hrest)
    rw [writeEntries, hcs, htexts]
    rfl

theorem writeCompact_map_isOk {entries : Entries Value}
    (h : ∀ e ∈ entries, (writeCompact e.2).isOk = true) : (writeCompact (.map entries)).isOk = true := by
  obtain ⟨texts, htexts⟩ := exists_of_isOk (writeEntries_isOk h)
  rw [writeCompact, write, htexts]
  rfl

end Json

/-! ## The members of a run -/

namespace Assembly

variable {path : String} {a b : Assembly} {name : String} {rule : Rule}

/-- Whether the value of a parameter has a written form for its place: encoded, if the name stands in the
address when its turn comes, else as JSON. -/
def hasForm (message : Message) (v : Visit) : Bool :=
  if (splitAt? v.name.toList v.state.url).isSome then
    (encodeValue v.rule.combined (message.value v.name)).isOk
  else (Json.writeCompact (message.value v.name)).isOk

/-- Whether a parameter is put into the address: it is given, its name stands there when its turn
comes, and its value has an encoding. -/
def isSubstituted (message : Message) (v : Visit) : Bool :=
  !(message.value v.name).isNull && (splitAt? v.name.toList v.state.url).isSome && hasForm message v

/-- Whether a parameter becomes a member of the document: it is given, has a written form, and is not put
into the address. -/
def becomesMember (message : Message) (v : Visit) : Bool :=
  !(message.value v.name).isNull && hasForm message v && !isSubstituted message v

/-- The members that the parameters of a run become, with their values. -/
def members (message : Message) (visits : List Visit) : Entries Value :=
  (visits.filter (becomesMember message)).map fun v => (v.name, message.value v.name)

theorem members_eq_map (visits : List Visit) :
    members message visits = ((visits.filter (becomesMember message)).map Visit.name).map
      fun name => (name, message.value name) := by
  unfold members
  rw [List.map_map]
  rfl

theorem becomesMember_iff {v : Visit} :
    becomesMember message v = true ↔ (message.value v.name).isNull = false ∧
      splitAt? v.name.toList v.state.url = none ∧
        (Json.writeCompact (message.value v.name)).isOk = true := by
  unfold becomesMember isSubstituted hasForm
  cases (message.value v.name).isNull <;> cases splitAt? v.name.toList v.state.url <;> simp

/-- A parameter adds its value to the map under its name, or nothing. -/
theorem step_members {es : Entries Value} (h : step message path a (name, rule) = .ok b)
    (hp : a.payload = .members es) :
    (becomesMember message ⟨a, name, rule⟩ = false ∧ b.payload = .members es) ∨
      (becomesMember message ⟨a, name, rule⟩ = true ∧
        b.payload = .members (es.put name (message.value name))) := by
  rw [← Bool.not_eq_true, becomesMember_iff]
  cases step_cases h with
  | absent hnull => exact Or.inl ⟨fun hm => absurd (hnull ▸ hm.1) Bool.noConfusion, hp⟩
  | substituted hgiven hfound hencoded =>
    exact Or.inl ⟨fun hm => (nomatch hfound.symm.trans hm.2.1), hp⟩
  | added hgiven hfound hstored =>
    rw [hp] at hstored
    obtain ⟨text, hwrite, rfl⟩ := map_eq_ok_iff.mp hstored
    exact Or.inr ⟨⟨isNull_of_ne hgiven, hfound, by rw [hwrite]; rfl⟩, rfl⟩
  | leftOut hgiven hfault hf =>
    refine Or.inl ⟨fun hm => ?_, hp⟩
    obtain ⟨text, hwrite⟩ := exists_of_isOk hm.2.2
    rw [place_of_none hm.2.1, hp] at hfault
    unfold stored at hfault
    rw [hwrite] at hfault
    exact nomatch hfault

/-- Assembly adds exactly the members of a document, in the order of the parameters. -/
theorem run_members {params : Entries Rule} {es : Entries Value}
    (h : params.foldlM (step message path) a = .ok b) (hp : a.payload = .members es) :
    b.payload = .members (es.merge (members message (visits message path a params))) := by
  induction params generalizing a es with
  | nil =>
    obtain rfl := Except.ok.inj h
    exact hp
  | cons p rest ih =>
    obtain ⟨name, rule⟩ := p
    obtain ⟨c, hc, hrest⟩ := run_cons h
    rw [visits_cons hc, members]
    rcases step_members hc hp with ⟨hno, hp'⟩ | ⟨hyes, hp'⟩
    · rw [List.filter_cons_of_neg (by simp [hno])]
      exact ih hrest hp'
    · rw [List.filter_cons_of_pos hyes, List.map_cons]
      exact ih hrest hp'

theorem nodup_keys_members {params : Entries Rule} {visits : List Visit}
    (hvisits : visits.map (fun v => (v.name, v.rule)) = params) (hnames : params.keys.Nodup) :
    (members message visits).keys.Nodup := by
  have hkeys : (members message visits).keys =
      (visits.filter (becomesMember message)).map Visit.name := by
    simp [members_eq_map, Entries.keys]
  have hparams : params.keys = visits.map Visit.name := by
    rw [← hvisits, Entries.keys, List.map_map]
    rfl
  rw [hkeys]
  rw [hparams] at hnames
  exact hnames.sublist (List.Sublist.map _ List.filter_sublist)

theorem exists_of_mem_members {visits : List Visit} {e : String × Value}
    (he : e ∈ members message visits) :
    (∃ v ∈ visits, e = (v.name, message.value v.name)) ∧ (Json.writeCompact e.2).isOk = true := by
  obtain ⟨v, hv, rfl⟩ := List.mem_map.mp he
  obtain ⟨hmem, hmember⟩ := List.mem_filter.mp hv
  exact ⟨⟨v, hmem, rfl⟩, (becomesMember_iff.mp hmember).2.2⟩

/-- The value of a parameter, as far as it has a form in UTF-8, can be a part of a document, or it has no
JSON text at all. -/
def Documentary (v : Value) : Prop :=
  v.isEncodable = true → v.Readable ∨ (Json.writeCompact v).isOk = false

theorem readable_members {params : Entries Rule} {visits : List Visit}
    (hvisits : visits.map (fun v => (v.name, v.rule)) = params) (hnames : params.keys.Nodup)
    (hvalues : ∀ p ∈ params, Documentary (message.value p.1))
    (hencodable : ∀ e ∈ members message visits, e.2.isEncodable = true) :
    (Value.map (members message visits)).Readable := by
  refine Value.Readable.map (nodup_keys_members hvisits hnames) fun e he => ?_
  obtain ⟨⟨v, hmem, rfl⟩, hwritten⟩ := exists_of_mem_members he
  have hparam : (v.name, v.rule) ∈ params := hvisits ▸ List.mem_map_of_mem hmem
  refine (hvalues _ hparam (hencodable _ he)).resolve_right fun hrejected => ?_
  exact absurd (hwritten.symm.trans hrejected) Bool.noConfusion

end Assembly

/-! ## The document of a call -/

namespace Outbound

variable {config : Config} {env : Environment} {constants : Constants} {route : Route}
  {auth : Option Auth}

/-- Every declared parameter has its turn, in order, and the assembly ends with their members. -/
theorem assembled_members {a : Assembly} (h : assembled config constants route message = .ok a)
    (hformat : route.format constants = .json) (hnames : (Entries.keys route.params).Nodup) :
    (visits config constants route message).map (fun v => (v.name, v.rule)) = route.params ∧
      a.payload = .members (Assembly.members message (visits config constants route message)) := by
  obtain ⟨url, hurl, hrun⟩ := bind_eq_ok_iff.mp h
  rw [visits_eq hurl]
  rw [hformat] at hrun ⊢
  have hvisits := Assembly.map_visits hrun
  refine ⟨hvisits, ?_⟩
  rw [Assembly.run_members hrun rfl, Entries.merge_nil_of_nodup]
  exact Assembly.nodup_keys_members hvisits hnames

theorem bodyOf_members_isOk {entries : Entries Value}
    (h : ∀ e ∈ entries, (Json.writeCompact e.2).isOk = true) :
    (bodyOf (.members entries)).isOk = true ↔ ∀ e ∈ entries, e.2.isEncodable = true := by
  have hbody : (bodyOf (.members entries)).isOk = (Value.map entries).encodableText.isOk := by
    show (Utf8.ofString <$> (Value.map entries).encodableText).isOk = _
    cases (Value.map entries).encodableText <;> rfl
  have htext : (Value.map entries).wireText.isOk = true := by
    rw [Value.wireText_of_isContainer rfl]
    exact Json.writeCompact_map_isOk h
  rw [hbody, Value.encodableText_isOk htext, Value.isEncodable, Value.entriesAreEncodable_iff]

/-- **The document.** A call in JSON has one map for its body. Every declared parameter has its turn
once, in order, and the map has those that become members, in their order and each with its own value;
moments stand there as texts and tuples as lists. Once a call is assembled its body can be written exactly
if the members have forms in UTF-8.

The declarations are an ordered map, so no name is declared twice. -/
theorem prepare_document (hformat : route.format constants = .json)
    (hnames : (Entries.keys route.params).Nodup)
    (hvalues : ∀ p ∈ route.params, Assembly.Documentary (message.value p.1)) :
    (∀ a, assembled config constants route message = .ok a →
        ((bodyOf a.payload).isOk = true ↔
          ∀ e ∈ Assembly.members message (visits config constants route message),
            e.2.isEncodable = true)) ∧
      ∀ o lines, prepare config env constants route auth message = .ok (o, lines) →
        (visits config constants route message).map (fun v => (v.name, v.rule)) = route.params ∧
          ∃ text, Utf8.decode o.body = .ok text ∧
            Json.read (String.ofList text) =
              .ok (.map ((Assembly.members message (visits config constants route message)).map
                fun e => (e.1, e.2.asRead))) := by
  have hbody : route.hasBody = true := hasBody_of_format (by rw [hformat]; exact nofun)
  have hwhen : ∀ a, assembled config constants route message = .ok a →
      ((bodyOf a.payload).isOk = true ↔
        ∀ e ∈ Assembly.members message (visits config constants route message),
          e.2.isEncodable = true) := by
    intro a ha
    rw [(assembled_members ha hformat hnames).2]
    exact bodyOf_members_isOk fun e he => (Assembly.exists_of_mem_members he).2
  refine ⟨hwhen, fun o lines hprep => ?_⟩
  obtain ⟨a, ha, ho, -⟩ := prepare_eq_ok_iff.mp hprep
  obtain ⟨p, hp, rfl⟩ := ofAssembly_eq_ok_iff.mp ho
  obtain ⟨hvisits, hpayload⟩ := assembled_members ha hformat hnames
  have hown := hp.own
  rw [hbody] at hown
  have hoctets := bodyOf_of_ownHeaders hown
  have hencodable := (hwhen a ha).mp (by rw [hoctets]; rfl)
  obtain ⟨text, hwrite, hread⟩ := Json.exists_writeCompact
    (Assembly.readable_members hvisits hnames hvalues hencodable)
  have hsame : p.body = Utf8.ofString text := by
    rw [hpayload, bodyOf, Value.encodableText,
      Value.wireText_of_isContainer rfl, hwrite, Value.isEncodable,
      Value.entriesAreEncodable_iff.mpr hencodable] at hoctets
    exact (Except.ok.inj hoctets).symm
  refine ⟨hvisits, text.toList, ?_, ?_⟩
  · show Utf8.decode p.body = _
    rw [hsame, Utf8.decode_ofString]
  · rw [String.ofList_toList, hread, Value.asRead, Value.asReadEntries_eq_map]

/-- A name in the address, octets that JSON has no form for, a note that is not given, and a list with a
tuple and a map inside. -/
theorem prepare_document_nested :
    let route : Route :=
      { path := "items/put", space := "items", name := "put", url := .text "/items/:id",
        method := "PUT",
        params := [("id", {}), ("title", {}), ("raw", {}), ("note", {}), ("tags", {}), ("at", {})] }
    let message : Message :=
      [("at", .moment { date := ⟨2024, 1, 2⟩, hour := 3, offset := some 0 }), ("id", .text "a/b"),
        ("tags", .list [.tuple [.int (-7), .null], .map [("é", .bool true)]]),
        ("raw", .bytes [0, 255]), ("title", .text "one\n\\two")]
    ∃ o lines, prepare .withoutProxy [] {} route none message = .ok (o, lines) ∧
      ∃ text, Utf8.decode o.body = .ok text ∧
        Json.read (String.ofList text) =
          .ok (.map [("title", .text "one\n\\two"),
            ("tags", .list [.list [.int (-7), .null], .map [("é", .bool true)]]),
            ("at", .text "2024-01-02T03:00:00+00:00")]) := by
  intro route message
  obtain ⟨⟨o, lines⟩, h⟩ : ∃ r, prepare .withoutProxy [] {} route none message = .ok r :=
    exists_of_isOk (by decide +kernel)
  have hbody : route.hasBody = true := by decide +kernel
  have hformat : route.format {} = .json := by
    unfold Route.format
    rw [if_pos hbody]
    rfl
  have hinner : ∀ v ∈ [Value.tuple [.int (-7), .null], .map [("é", .bool true)]], v.Readable := by
    intro v hv
    rcases List.mem_pair.mp hv with rfl | rfl
    · refine .tuple fun w hw => ?_
      rcases List.mem_pair.mp hw with rfl | rfl
      · exact .int (by decide +kernel)
      · exact .null
    · refine .map (by decide) fun e he => ?_
      rw [List.mem_singleton.mp he]
      exact .bool true
  have hvalues : ∀ p ∈ route.params, Assembly.Documentary (message.value p.1) := by
    simp only [route, List.forall_mem_cons]
    refine ⟨fun _ => .inl (.text "a/b"), fun _ => .inl (.text _), fun _ => .inr (by decide +kernel),
      fun _ => .inl .null, fun _ => .inl (.list hinner), fun _ => .inl (.moment _), ?_⟩
    exact fun p hp => absurd hp List.not_mem_nil
  have hnames : ((visits .withoutProxy {} route message).filter
      (Assembly.becomesMember message)).map Assembly.Visit.name = ["title", "tags", "at"] := by
    decide +kernel
  have hread := ((prepare_document hformat (by decide) hvalues).2 o lines h).2
  rw [Assembly.members_eq_map, hnames] at hread
  exact ⟨o, lines, h, hread⟩

/-- A unit without its partner is read from an escape and has a JSON text, so it becomes a member, without
a warning. Then the body cannot be encoded. -/
theorem ragged_member_unencodable :
    let rule : Rule := { kind := some .json }
    let route : Route :=
      { path := "items/post", space := "items", name := "post", url := .text "/items",
        method := "POST", params := [("p", rule)] }
    let v : Value := .ragged ⟨[.lone 0x3D], rfl⟩
    Coercion.toDocument "p" (.text "\"\\ud83d\"") = .ok v ∧ (Json.writeCompact v).isOk = true ∧
      (assembled .withoutProxy {} route [("p", v)]).map (·.warnings) = .ok [] ∧
      prepare .withoutProxy [] {} route none [("p", v)] = .error .unencodable := by
  intro rule route v
  have hread : Json.read "\"\\ud83d\"" = .ok v := by
    have htext : (Json.read "\"\\ud83d\"").map AnyText.ofValue? =
        .ok (some (.ragged ⟨[.lone 0x3D], rfl⟩)) := by decide +kernel
    obtain ⟨w, hw, hragged⟩ := map_eq_ok_iff.mp htext
    rw [hw, AnyText.ofValue?_eq_some_iff.mp hragged]
    rfl
  have hfails : (prepare .withoutProxy [] {} route none [("p", v)]).map Prod.snd =
      .error .unencodable := by decide +kernel
  exact ⟨Coercion.toDocument_text.mpr hread, rfl, by decide +kernel, map_eq_error_iff.mp hfails⟩

end Outbound

end RouteBook
