import RouteBook.Proofs.Request.Declared
import RouteBook.Proofs.Request.QueryRoundTrip
import RouteBook.Validation.Check

/-!
# Blank parameters

A check leaves a blank value as it is (`check_get?_of_blank`). A request then takes null for absent and
nothing else: removing a null changes nothing, and neither does removing a parameter that has no place
in a raw request, while every other blank value has a written form (`encodeValue_isOk_of_blank`,
`writeCompact_isOk_of_blank`) and goes to its place as it was given (`prepare_of_blank`).
-/

namespace RouteBook

/-! ## Blank values have a written form -/

namespace Binary64

variable {x : Binary64}

theorem toQuotient?_of_isZero (h : x.isZero = true) :
    ∃ negative den, x.toQuotient? = some (negative, 0, den) := by
  have hbits : x.bits.toNat % 2 ^ 63 = 0 := by simpa [isZero] using h
  have hexponent : x.exponentBits = 0 := by unfold exponentBits; omega
  have hfraction : x.fractionBits = 0 := by unfold fractionBits; omega
  have hview : x.view = .finite x.negative 0 (-1074) := by
    unfold view
    rw [hexponent, hfraction]
    rfl
  unfold toQuotient?
  rw [hview]
  exact ⟨x.negative, _, rfl⟩

theorem toInt?_of_isZero (h : x.isZero = true) : x.toInt? = some 0 := by
  obtain ⟨negative, den, hq⟩ := toQuotient?_of_isZero h
  unfold toInt?
  rw [hq]
  cases negative <;> simp [signed]

theorem toInt?_of_isNaN (h : x.isNaN = true) : x.toInt? = none := by
  have hview : x.view = .nan := by simpa [isNaN] using h
  unfold toInt? toQuotient?
  rw [hview]

end Binary64

theorem Decimal.exceedsLimit_zero : Decimal.exceedsLimit 0 = false := by
  simp [exceedsLimit]

theorem Value.cases_of_blank {v : Value} (hnull : v ≠ .null) (hblank : v.trimmed.isBlank = true) :
    (∃ s, v = .text s) ∨ v = .int 0 ∨
      ∃ x : Binary64, v = .float x ∧ (x.isZero = true ∨ x.isNaN = true) := by
  cases v with
  | null => exact absurd rfl hnull
  | text s => exact Or.inl ⟨s, rfl⟩
  | int n =>
    have hn : n = 0 := by simpa [trimmed, isBlank] using hblank
    exact Or.inr (Or.inl (by rw [hn]))
  | float x =>
    have hx : x.isZero = true ∨ x.isNaN = true := by simpa [trimmed, isBlank] using hblank
    exact Or.inr (Or.inr ⟨x, rfl, hx⟩)
  | _ => exact absurd hblank Bool.false_ne_true

theorem Value.wireText_isOk_of_blank {v : Value} (hblank : v.trimmed.isBlank = true) :
    v.wireText.isOk = true := by
  by_cases hnull : v = .null
  · rw [hnull]
    rfl
  rcases cases_of_blank hnull hblank with ⟨s, rfl⟩ | rfl | ⟨x, rfl, hx | hx⟩
  · rfl
  · show (intDigits 0).isOk = true
    rw [intDigits, Decimal.exceedsLimit_zero]
    rfl
  · rw [wireText, Binary64.toInt?_of_isZero hx]
    show (intDigits 0).isOk = true
    rw [intDigits, Decimal.exceedsLimit_zero]
    rfl
  · rw [wireText, Binary64.toInt?_of_isNaN hx]
    rfl

theorem Value.isEncodable_of_blank {v : Value} (hblank : v.trimmed.isBlank = true) :
    v.isEncodable = true := by
  by_cases hnull : v = .null
  · rw [hnull]
    rfl
  rcases cases_of_blank hnull hblank with ⟨s, rfl⟩ | rfl | ⟨x, rfl, -⟩ <;> rfl

namespace Assembly

theorem encodeValue_isOk_of_blank {v : Value} (hblank : v.trimmed.isBlank = true) (combined : Bool) :
    (encodeValue combined v).isOk = true := by
  rw [← plainText_isOk, plainText_eq_encodableText,
    Value.encodableText_isOk (Value.wireText_isOk_of_blank hblank), Value.isEncodable_of_blank hblank]

theorem writeCompact_isOk_of_blank {v : Value} (hblank : v.trimmed.isBlank = true) :
    (Json.writeCompact v).isOk = true := by
  by_cases hnull : v = .null
  · rw [hnull]
    rfl
  rcases Value.cases_of_blank hnull hblank with ⟨s, rfl⟩ | rfl | ⟨x, rfl, -⟩
  · rfl
  · show ((Json.intLiteral 0).map String.ofList).isOk = true
    rw [Json.intLiteral, Decimal.exceedsLimit_zero]
    rfl
  · rfl

end Assembly

/-! ## A check leaves blank values alone -/

namespace Validation

theorem checkParam_of_blank {name : String} {rule : Rule} {given : Value} {o : Option Value}
    (hblank : given.trimmed.isBlank = true) (h : checkParam name rule given = .ok o) : o = none := by
  unfold checkParam at h
  dsimp only at h
  rw [if_pos hblank] at h
  split_ifs at h
  · exact (Except.ok.inj h).symm
  · obtain ⟨shown, -, h⟩ := bind_eq_ok_iff.mp h
    exact nomatch h

/-- A check keeps a blank value in a message that it accepts, whatever the rules. -/
theorem check_get?_of_blank {rules : Entries Rule} {message after : Message} {name : String}
    (hblank : (message.value name).trimmed.isBlank = true)
    (h : check rules message = (after, .ok ())) : after.get? name = message.get? name := by
  induction rules generalizing message with
  | nil =>
    obtain rfl : message = after := (Prod.mk.inj h).1
    rfl
  | cons r rest ih =>
    obtain ⟨key, rule⟩ := r
    rw [check] at h
    cases hparam : checkParam key rule (message.value key) with
    | error e =>
      rw [hparam] at h
      exact nomatch (Prod.mk.inj h).2
    | ok o =>
      rw [hparam] at h
      cases o with
      | none => exact ih hblank h
      | some v =>
        have hkey : name ≠ key := by
          rintro rfl
          exact nomatch checkParam_of_blank hblank hparam
        have hget := Entries.get?_put_of_ne message v hkey
        have hblank' : (Entries.value (message.put key v) name).trimmed.isBlank = true := by
          unfold Entries.value
          rw [hget]
          exact hblank
        exact (ih hblank' h).trans hget

end Validation

/-! ## Removing a parameter -/

variable {config : Config} {env : Environment} {constants : Constants} {route : Route}
  {auth : Option Auth} {message : Message} {name path : String}

namespace Assembly

variable {a b : Assembly} {w : Value}

theorem step_whole {param : String × Rule} (hw : a.payload = .whole w)
    (h : step message path a param = .ok b) : b.payload = .whole w := by
  cases step_cases h with
  | absent hnull => exact hw
  | substituted hgiven hfound hencoded => exact hw
  | added hgiven hfound hstored =>
    rw [hw] at hstored
    obtain ⟨encoded, -, rfl⟩ := map_eq_ok_iff.mp hstored
    rfl
  | leftOut hgiven hfault hf => exact hw

/-- In a raw request a blank parameter does nothing unless its name stands in the address. -/
theorem step_whole_of_blank {rule : Rule} (hw : a.payload = .whole w)
    (hblank : (message.value name).trimmed.isBlank = true)
    (hfree : splitAt? name.toList a.url = none) : step message path a (name, rule) = .ok a := by
  by_cases hnull : message.value name = .null
  · unfold step
    rw [hnull]
  · obtain ⟨encoded, hencoded⟩ := exists_of_isOk (encodeValue_isOk_of_blank hblank rule.combined)
    have hstored : stored name rule (message.value name) a.payload = .ok a.payload := by
      unfold stored
      rw [hw, hencoded]
      rfl
    rw [step_of_given hnull, place_of_none hfree, hstored]
    rfl

/-- A run of a raw request does not read a blank parameter whose name does not stand in the address
when its turn comes. -/
theorem run_without {params : Entries Rule} (hw : a.payload = .whole w)
    (hblank : (message.value name).trimmed.isBlank = true)
    (hfree : ∀ v ∈ visits message path a params, v.name = name →
      splitAt? name.toList v.state.url = none) :
    params.foldlM (step message path) a = params.foldlM (step (message.without name) path) a := by
  induction params generalizing a with
  | nil => rfl
  | cons p rest ih =>
    obtain ⟨key, rule⟩ := p
    rw [List.foldlM_cons, List.foldlM_cons]
    have hstep : step message path a (key, rule) = step (message.without name) path a (key, rule) := by
      by_cases hkey : key = name
      · subst hkey
        have hgone := Entries.value_without_self message key
        have hturn : splitAt? key.toList a.url = none :=
          hfree ⟨a, key, rule⟩ (by rw [visits]; exact List.mem_cons_self) rfl
        rw [step_whole_of_blank hw hblank hturn]
        unfold step
        rw [hgone]
      · exact step_congr (Entries.value_without_of_ne hkey message).symm a
    rw [← hstep]
    cases hb : step message path a (key, rule) with
    | error f => rfl
    | ok b =>
      refine ih (step_whole hw hb) fun v hv => hfree v ?_
      rw [visits_cons hb]
      exact List.mem_cons_of_mem _ hv

end Assembly

namespace Outbound

theorem prepare_without_of_null (h : message.value name = .null) :
    prepare config env constants route auth (message.without name) =
      prepare config env constants route auth message := by
  have hvalue := Entries.value_without_of_null h
  refine prepare_congr ?_ (fun headers => ?_) fun _ => hvalue "filePath"
  · exact assembled_congr (fun p _ => hvalue p.1) fun _ => hvalue "data"
  · unfold requested customHeaders
    rw [hvalue "headers"]

/-- A parameter has no place in a request if the request is raw, the parameter is neither its data nor
its headers, and its name does not stand in the address when its turn comes. -/
structure Placeless (config : Config) (constants : Constants) (route : Route) (message : Message)
    (name : String) : Prop where
  raw : route.format constants = .raw
  notData : name ≠ "data"
  notHeaders : name ≠ "headers"
  notInUrl : ∀ v ∈ visits config constants route message, v.name = name →
    Assembly.splitAt? name.toList v.state.url = none

theorem hasFileBody_of_raw (h : route.format constants = .raw) : route.hasFileBody = false := by
  have hbody := hasBody_of_format (by rw [h]; exact nofun)
  unfold Route.hasBody at hbody
  simpa using (Bool.and_eq_true_iff.mp hbody).1

theorem assembled_without_of_placeless (h : Placeless config constants route message name)
    (hblank : (message.value name).trimmed.isBlank = true) :
    assembled config constants route message =
      assembled config constants route (message.without name) := by
  have hdata := Entries.value_without_of_ne h.notData.symm message
  have hwhole (url : List Char) : ∃ w,
      (Assembly.start message route.path (route.format constants) url).payload = .whole w := by
    rw [h.raw, Assembly.start]
    split_ifs
    · split <;> exact ⟨_, rfl⟩
    · exact ⟨_, rfl⟩
  unfold assembled Assembly.assemble
  cases hurl : Assembly.urlText config.pathPrefix route.url with
  | error f => rfl
  | ok url =>
    obtain ⟨w, hw⟩ := hwhole (Assembly.withPrefix config.pathPrefix url)
    have hfree := h.notInUrl
    rw [visits_eq hurl] at hfree
    have hstart (url : List Char) : Assembly.start message route.path (route.format constants) url =
        Assembly.start (message.without name) route.path (route.format constants) url :=
      Assembly.start_congr (fun _ => hdata.symm) url
    show route.params.foldlM _ _ = route.params.foldlM _ _
    rw [← hstart]
    exact Assembly.run_without hw hblank hfree

theorem prepare_without_of_placeless (h : Placeless config constants route message name)
    (hblank : (message.value name).trimmed.isBlank = true) :
    prepare config env constants route auth (message.without name) =
      prepare config env constants route auth message := by
  have hassembled := assembled_without_of_placeless h hblank
  refine prepare_congr hassembled.symm (fun headers => ?_) fun hfile => ?_
  · unfold requested customHeaders
    rw [Entries.value_without_of_ne h.notHeaders.symm]
  · exact absurd (hfile.symm.trans (hasFileBody_of_raw h.raw)) Bool.noConfusion

/-! ## Blank parameters of a call -/

/-- **A blank parameter.** A check leaves it as it was given. If it is null or has no place, the request
is the one without it. Otherwise it goes to its place like any other value, without a warning. -/
theorem prepare_of_blank {after : Message}
    (hcheck : Validation.check route.params message = (after, .ok ()))
    (hblank : (message.value name).trimmed.isBlank = true) :
    after.get? name = message.get? name ∧
      (message.value name = .null ∨ Placeless config constants route after name →
        prepare config env constants route auth (after.without name) =
          prepare config env constants route auth after) ∧
      (message.value name ≠ .null →
        ∀ v ∈ visits config constants route after, v.name = name →
          ∃ b, v.state.place name v.rule (message.value name) = .ok b ∧
            Assembly.step after route.path v.state (name, v.rule) = .ok b) := by
  have hget := Validation.check_get?_of_blank hblank hcheck
  have hvalue : after.value name = message.value name := by
    unfold Entries.value
    rw [hget]
  refine ⟨hget, ?_, fun hgiven v _ _ => ?_⟩
  · rintro (hnull | hplace)
    · exact prepare_without_of_null (hvalue.trans hnull)
    · exact prepare_without_of_placeless hplace (hvalue ▸ hblank)
  · obtain ⟨b, hb⟩ := Assembly.exists_place (Assembly.encodeValue_isOk_of_blank hblank v.rule.combined)
      (Assembly.writeCompact_isOk_of_blank hblank) v.state name
    refine ⟨b, hb, ?_⟩
    rw [Assembly.step_of_given (hvalue ▸ hgiven), hvalue, hb]
    rfl

/-- A raw body with a blank title: the title is not sent, whether it is there or not. -/
theorem prepare_of_blank_raw :
    let route : Route :=
      { path := "docs/put", space := "docs", name := "put", url := .text "/docs/:id",
        method := "PUT", params := [("id", {}), ("title", {})], requestFormat := .text "raw" }
    let message : Message := [("id", .text "7"), ("title", .text "  "), ("data", .text "x=1")]
    Validation.check route.params message = (message, .ok ()) ∧
      (message.value "title").trimmed.isBlank = true ∧
      prepare .withoutProxy [] {} route none (message.without "title") =
        prepare .withoutProxy [] {} route none message := by
  intro route message
  have hcheck : Validation.check route.params message = (message, .ok ()) := rfl
  have hblank : (message.value "title").trimmed.isBlank = true := by decide +kernel
  have hbody : route.hasBody = true := by decide +kernel
  have hplace : Placeless .withoutProxy {} route message "title" :=
    { raw := by
        unfold Route.format
        rw [if_pos hbody]
        rfl
      notData := by decide
      notHeaders := by decide
      notInUrl := by decide +kernel }
  exact ⟨hcheck, hblank, (prepare_of_blank hcheck hblank).2.1 (Or.inr hplace)⟩

/-- A blank value that is not null is supplied: the check passes it over, pattern included, and the
request carries it. -/
theorem not_unsupplied_blankText :
    let route : Route :=
      { path := "items/get", space := "items", name := "get", url := .text "/items", method := "GET",
        params := [("sort", { validation := some (.text "^[a-z]+$") })] }
    let message : Message := [("sort", .text "  ")]
    Validation.check route.params message = (message, .ok ()) ∧
      (message.value "sort").trimmed.isBlank = true ∧
      (prepare .withoutProxy [] {} route none message).map (fun r => r.1.path) =
        .ok "/items?sort=%20%20" ∧
      (prepare .withoutProxy [] {} route none (message.without "sort")).map (fun r => r.1.path) =
        .ok "/items" := by
  intro route message
  exact ⟨rfl, by decide +kernel, by decide +kernel, by decide +kernel⟩

end Outbound

end RouteBook
