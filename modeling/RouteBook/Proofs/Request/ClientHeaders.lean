import RouteBook.Proofs.Entries
import RouteBook.Proofs.Request.OutboundParts

/-!
# Headers of the settings and of the caller

Which header wins when the settings and the caller both name one, in spellings of their own. The two maps
are merged by spelling, where a key that both have keeps the caller's place, and only then are the names
folded to lower case, in the order of the merged map. So the last spelling of the merged map decides
(`get?_addAllowed_of_some`), and this is the last one of the settings exactly when it is `LastOfAll`
(`prepare_header_of_config`): a caller who has the same spelling and another one behind it wins over the
settings (`config_header_overridden`).
-/

namespace RouteBook.Outbound

open Entries

variable {config : Config} {env : Environment} {constants : Constants} {route : Route}
  {auth : Option Auth} {message : Message} {headers custom headers' : Entries Value}
  {allowed : List String} {name : String}

/-- The headers of the map that a message has for them, none if it has no such map. -/
def callerHeaders (message : Message) : Entries Value :=
  (message.value "headers").entries?.getD []

theorem customHeaders_eq_ok (h : customHeaders message config = .ok custom) :
    custom = (callerHeaders message).merge config.headers := by
  unfold customHeaders at h
  unfold callerHeaders
  dsimp only at h
  split_ifs at h with ht
  · cases hes : (message.value "headers").entries? with
    | none =>
      rw [hes] at h
      exact nomatch h
    | some es =>
      rw [hes] at h
      exact (Except.ok.inj h).symm
  · -- A map that counts as false is empty, and any other value that does has no entries.
    have hnone : (message.value "headers").entries?.getD [] = [] := by
      cases hv : message.value "headers" with
      | map es | raggedMap es =>
        rw [hv] at ht
        simpa [Value.truthy, Value.entries?] using ht
      | loop => exact absurd (hv ▸ rfl) ht
      | _ => rfl
    rw [hnone]
    exact (Except.ok.inj h).symm

/-! ## Folding names -/

/-- Whether a key is a name in some case. -/
def spells (name key : String) : Bool :=
  Text.lower key == name

/-- A header that callers may set is the text of the last value whose key spells it. -/
theorem get?_addAllowed_of_some (hname : name ∈ allowed) {e : String × Value}
    (h : addAllowed allowed headers custom = .ok headers')
    (hlast : custom.last? (spells name) = some e) :
    ∃ text, e.2.shown = .ok text ∧ headers'.get? name = some (.text text) := by
  obtain ⟨hall, rfl⟩ := addAllowed_eq_ok_iff.mp h
  obtain ⟨hmem, hspells⟩ := mem_of_last? hlast
  have hallowed : allowed.contains (Text.lower e.1) = true := by
    rw [show Text.lower e.1 = name by simpa [spells] using hspells]
    exact List.contains_iff_mem.mpr hname
  obtain ⟨text, htext⟩ := hall e (List.mem_filter.mpr ⟨hmem, hallowed⟩)
  have hlast' : last? (fun key => Text.lower key = name) (allowedOf allowed custom) = some e :=
    last?_filter hlast hallowed
  refine ⟨text, htext, ?_⟩
  rw [get?_merge, last?_folded, hlast']
  show some (shownText e.2) = _
  rw [shownText_of_shown htext]

theorem get?_putDefault {v w : Value} {other : String} (h : headers.get? name = some v) :
    (putDefault headers other w).get? name = some v := by
  unfold putDefault
  split_ifs with hhas
  · exact h
  · have hne : name ≠ other := by
      rintro rfl
      exact hhas (by simp [has, h])
    rw [get?_put_of_ne _ _ hne, h]

/-- Headers that hold unless others were given leave those that were. -/
theorem get?_addDefaults {v : Value} (h : headers.get? name = some v) :
    (addDefaults config constants headers).get? name = some v := by
  unfold addDefaults
  dsimp only
  split_ifs
  · exact get?_putDefault (get?_putDefault h)
  · exact get?_putDefault h

/-! ## The last spelling of all -/

variable {p : String → Bool} {caller settings : Entries Value} {key : String} {v : Value}

/-- The last spelling of a merged map is that of the new keys, and if there are none that of the keys of
the caller. -/
theorem last?_merge (hcaller : caller.keys.Nodup) (hsettings : settings.keys.Nodup) :
    (caller.merge settings).last? p =
      (last? p (settings.filter fun e => e.1 ∉ caller.keys)).or
        ((caller.last? p).map fun e => (e.1, (settings.get? e.1).getD e.2)) := by
  rw [merge_eq hcaller hsettings, last?_append, last?_map]

/-- A spelling of the settings is the last one of all: either the caller does not have it, or the caller
has it last and all others of the settings before it. -/
def LastOfAll (p : String → Bool) (key : String) (caller settings : Entries Value) : Prop :=
  key ∉ caller.keys ∨
    (caller.last? p).map Prod.fst = some key ∧ ∀ e ∈ settings, p e.1 = true → e.1 ∈ caller.keys

theorem last?_new_eq_none_iff :
    last? p (settings.filter fun e => e.1 ∉ caller.keys) = none ↔
      ∀ e ∈ settings, p e.1 = true → e.1 ∈ caller.keys := by
  rw [last?_eq_none_iff]
  constructor
  · intro h e he hp
    by_contra hnew
    rw [h e (List.mem_filter.mpr ⟨he, by simpa using hnew⟩)] at hp
    exact Bool.noConfusion hp
  · intro h e he
    obtain ⟨hmem, hnew⟩ := List.mem_filter.mp he
    exact Bool.eq_false_iff.mpr fun hp => of_decide_eq_true hnew (h e hmem hp)

theorem last?_merge_of_lastOfAll (hcaller : caller.keys.Nodup) (hsettings : settings.keys.Nodup)
    (hlast : settings.last? p = some (key, v)) (h : LastOfAll p key caller settings) :
    (caller.merge settings).last? p = some (key, v) := by
  rw [last?_merge hcaller hsettings]
  rcases h with hnew | ⟨hend, hold⟩
  · rw [last?_filter hlast (by simpa using hnew), Option.some_or]
  · obtain ⟨e, he, rfl⟩ := Option.map_eq_some_iff.mp hend
    have hget : settings.get? e.1 = some v := get?_of_mem hsettings (mem_of_last? hlast).1
    rw [last?_new_eq_none_iff.mpr hold, Option.none_or, he, Option.map_some, hget]
    rfl

theorem last?_merge_of_not_lastOfAll (hcaller : caller.keys.Nodup) (hsettings : settings.keys.Nodup)
    (hlast : settings.last? p = some (key, v)) (h : ¬ LastOfAll p key caller settings) :
    ∃ k w, k ≠ key ∧ (caller.merge settings).last? p = some (k, w) := by
  obtain ⟨hhas, hother⟩ := not_or.mp h
  have hmem : key ∈ caller.keys := Classical.not_not.mp hhas
  rw [last?_merge hcaller hsettings]
  cases hnew : last? p (settings.filter fun e => e.1 ∉ caller.keys) with
  | some e =>
    -- A spelling of the settings that the caller does not have, so it is not the one that both have.
    have hnot := (List.mem_filter.mp (mem_of_last? hnew).1).2
    refine ⟨e.1, e.2, ?_, rfl⟩
    rintro rfl
    exact of_decide_eq_true hnot hmem
  | none =>
    have hne : (caller.last? p).map Prod.fst ≠ some key :=
      fun hend => hother ⟨hend, last?_new_eq_none_iff.mp hnew⟩
    cases hend : caller.last? p with
    | none =>
      obtain ⟨e, he, rfl⟩ := List.mem_map.mp hmem
      have hfalse := last?_eq_none_iff.mp hend e he
      rw [(mem_of_last? hlast).2] at hfalse
      exact Bool.noConfusion hfalse
    | some e =>
      refine ⟨e.1, _, ?_, rfl⟩
      rintro rfl
      exact hne (by rw [hend]; rfl)

/-! ## Requests -/

theorem header_of_last {o : Outbound} {lines : List LogLine} {e : String × Value}
    (hname : name ∈ route.requestHeaders)
    (h : prepare config env constants route auth message = .ok (o, lines))
    (hlast : ((callerHeaders message).merge config.headers).last? (spells name) = some e) :
    ∃ text, e.2.shown = .ok text ∧ o.headers.get? name = some (.text text) := by
  obtain ⟨a, -, ho, -⟩ := prepare_eq_ok_iff.mp h
  obtain ⟨parts, hmade, rfl⟩ := ofAssembly_eq_ok_iff.mp ho
  rw [← customHeaders_eq_ok hmade.custom] at hlast
  obtain ⟨text, htext, hget⟩ := get?_addAllowed_of_some hname hmade.headers hlast
  exact ⟨text, htext, get?_addDefaults hget⟩

/-- **Which header wins.** A header that the settings name is the text of their last value for it exactly
as far as the last spelling of the settings is the last of all. Otherwise the value of another spelling
stands there.

The headers of the caller and of the settings are maps, so no key stands twice in either. -/
theorem prepare_header_of_config {o : Outbound} {lines : List LogLine}
    (hcaller : (callerHeaders message).keys.Nodup) (hsettings : config.headers.keys.Nodup)
    (hname : name ∈ route.requestHeaders)
    (hlast : config.headers.last? (spells name) = some (key, v))
    (h : prepare config env constants route auth message = .ok (o, lines)) :
    (LastOfAll (spells name) key (callerHeaders message) config.headers →
        ∃ text, v.shown = .ok text ∧ o.headers.get? name = some (.text text)) ∧
      (¬ LastOfAll (spells name) key (callerHeaders message) config.headers →
        ∃ k w text, k ≠ key ∧
          ((callerHeaders message).merge config.headers).last? (spells name) = some (k, w) ∧
          w.shown = .ok text ∧ o.headers.get? name = some (.text text)) := by
  constructor
  · intro hall
    exact header_of_last hname h (last?_merge_of_lastOfAll hcaller hsettings hlast hall)
  · intro hnot
    obtain ⟨k, w, hne, hmerged⟩ := last?_merge_of_not_lastOfAll hcaller hsettings hlast hnot
    obtain ⟨text, htext, hget⟩ := header_of_last hname h hmerged
    exact ⟨k, w, text, hne, hmerged, htext, hget⟩

/-- A caller with two spellings of a header, neither of them that of the settings. -/
theorem prepare_header_of_config_spellings :
    let config : Config := { Config.withoutProxy with headers := [("X-Trace", .text "c")] }
    let route : Route :=
      { path := "items/get", space := "items", name := "get", url := .text "/items", method := "GET",
        params := [], requestHeaders := ["x-trace"] }
    let message : Message :=
      [("headers", .map [("x-trace", .text "m"), ("X-TRACE", .text "n")])]
    ∃ o lines, prepare config [] {} route none message = .ok (o, lines) ∧
      o.headers.get? "x-trace" = some (.text "c") := by
  intro config route message
  obtain ⟨⟨o, lines⟩, h⟩ : ∃ r, prepare config [] {} route none message = .ok r :=
    exists_of_isOk (by decide +kernel)
  have hlast : config.headers.last? (spells "x-trace") = some ("X-Trace", .text "c") := rfl
  have hnew : "X-Trace" ∉ (callerHeaders message).keys := by decide
  obtain ⟨text, htext, hget⟩ :=
    (prepare_header_of_config (by decide) (by decide) (by decide) hlast h).1 (Or.inl hnew)
  obtain rfl : "c" = text := Except.ok.inj htext
  exact ⟨o, lines, h, hget⟩

/-- A caller who spells a header as the settings do and in another way behind it: the other spelling
wins over the settings. -/
theorem config_header_overridden :
    let config : Config := { Config.withoutProxy with headers := [("X-Trace", .text "c")] }
    let route : Route :=
      { path := "items/get", space := "items", name := "get", url := .text "/items", method := "GET",
        params := [], requestHeaders := ["x-trace"] }
    let message : Message :=
      [("headers", .map [("X-Trace", .text "m"), ("x-trace", .text "n")])]
    config.headers.last? (spells "x-trace") = some ("X-Trace", .text "c") ∧
      (prepare config [] {} route none message).map
        (fun r => (r.1.headers.get? "x-trace").bind Value.text?) = .ok (some "n") := by
  intro config route message
  constructor
  · rfl
  · decide +kernel

end RouteBook.Outbound
