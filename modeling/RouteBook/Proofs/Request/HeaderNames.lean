import RouteBook.Proofs.Request.ClientHeaders
import RouteBook.Proofs.Request.Declared
import RouteBook.Proofs.Request.Fields
import RouteBook.Proofs.Text.LowerCase

/-!
# Names of headers

The headers of a request have names in lower case (`lower_of_mem_keys`), and besides those that the library
sets they are exactly the allowed ones that the caller or the settings name in some case
(`mem_ownNames_or_askedFor`, `mem_keys_of_askedFor`).

Names are folded to lower case only after the headers of the settings were written over those of the
caller by their spelling. If neither map spells a name twice, the result is the same as if all names were
folded before (`merge_folded_merge`): then only the folded names count, and no spelling
(`prepare_respelled`).
-/

namespace RouteBook

open Entries

/-! ## Folded names -/

namespace Entries

variable {α β : Type} {fold : String → String} {f : α → β} {key : String} {value : α}
  {entries settings : Entries α} {headers : Entries β}

theorem nodup_keys_of_foldedKeys (h : (entries.foldedKeys fold).Nodup) : entries.keys.Nodup := by
  have hmap : entries.foldedKeys fold = entries.keys.map fold := by simp [foldedKeys, keys]
  exact List.Nodup.of_map fold (hmap ▸ h)

theorem folded_filter (keep : String → Bool) (entries : Entries α) :
    folded fold f (entries.filter fun e => keep (fold e.1)) =
      (folded fold f entries).filter fun e => keep e.1 := by
  unfold folded
  rw [List.filter_map]
  rfl

theorem count_foldedKeys_put {name : String} (hne : fold key ≠ name) :
    ((entries.put key value).foldedKeys fold).count name = (entries.foldedKeys fold).count name := by
  have hkeep : (fold key == name) = false := beq_eq_false_iff_ne.mpr hne
  unfold foldedKeys List.count
  rw [List.countP_map, List.countP_map, List.countP_eq_length_filter, List.countP_eq_length_filter]
  exact congrArg List.length
    (@filter_put_of_neg α (fun k => fold k == name) key hkeep entries value)

theorem merge_put {pairs : Entries β} {w : β} (hhas : headers.has key = true)
    (hnew : key ∉ pairs.keys) : (headers.merge pairs).put key w = (headers.put key w).merge pairs := by
  induction pairs generalizing headers with
  | nil => rfl
  | cons p rest ih =>
    obtain ⟨k, v⟩ := p
    obtain ⟨hne, hrest⟩ : key ≠ k ∧ key ∉ Entries.keys rest := by
      simpa [keys, not_or] using hnew
    have hhas' : (headers.put k v).has key = true :=
      has_of_mem (mem_keys_put_iff.mpr (Or.inr (mem_keys_of_has hhas)))
    show ((headers.put k v).merge rest).put key w = ((headers.put key w).put k v).merge rest
    rw [ih hhas' hrest, put_comm hne w v hhas]

/-- Setting a key that is the only spelling of its name, or a new one, is setting the folded name at the
end. -/
theorem merge_folded_put (hone : (entries.foldedKeys fold).count (fold key) ≤ 1)
    (headers : Entries β) :
    headers.merge (folded fold f (entries.put key value)) =
      (headers.merge (folded fold f entries)).put (fold key) (f value) := by
  induction entries generalizing headers with
  | nil => rfl
  | cons e rest ih =>
    obtain ⟨k, v⟩ := e
    have hcount : (foldedKeys fold ((k, v) :: rest)).count (fold key) =
        (foldedKeys fold rest).count (fold key) + if fold k = fold key then 1 else 0 := by
      simp [foldedKeys, List.count_cons]
    rw [hcount] at hone
    by_cases hk : k = key
    · subst hk
      rw [if_pos rfl] at hone
      have hnew : fold k ∉ (folded fold f rest).keys := by
        rw [keys_folded]
        exact List.count_eq_zero.mp (by omega)
      have hhas : (headers.put (fold k) (f v)).has (fold k) = true :=
        has_of_mem (mem_keys_put_iff.mpr (Or.inl rfl))
      rw [put, if_pos rfl]
      show (headers.put (fold k) (f value)).merge (folded fold f rest) =
        ((headers.put (fold k) (f v)).merge (folded fold f rest)).put (fold k) (f value)
      rw [merge_put hhas hnew, put_put]
    · rw [put, if_neg hk]
      exact ih (by omega) (headers.put (fold k) (f v))

/-- If no name is spelled twice, it does not matter whether names are folded before entries are written
over others or after. -/
theorem merge_folded_merge (hsettings : (settings.foldedKeys fold).Nodup)
    (hone : ∀ name ∈ settings.foldedKeys fold, (entries.foldedKeys fold).count name ≤ 1)
    (headers : Entries β) :
    headers.merge (folded fold f (entries.merge settings)) =
      (headers.merge (folded fold f entries)).merge (folded fold f settings) := by
  induction settings generalizing entries headers with
  | nil => rfl
  | cons e rest ih =>
    obtain ⟨key, value⟩ := e
    obtain ⟨hkey, hrest⟩ := List.nodup_cons.mp hsettings
    obtain ⟨hfirst, hothers⟩ := List.forall_mem_cons.mp hone
    -- Behind the first entry its name may be spelled twice, but no other name is.
    have hone' : ∀ name ∈ foldedKeys fold rest,
        ((entries.put key value).foldedKeys fold).count name ≤ 1 := by
      intro name hname
      have hne : fold key ≠ name := by
        rintro rfl
        exact hkey hname
      rw [count_foldedKeys_put hne]
      exact hothers name hname
    show headers.merge (folded fold f ((entries.put key value).merge rest)) = _
    rw [ih hrest hone', merge_folded_put hfirst]
    rfl

/-! ## Spelling -/

/-- The same names up to their spelling, in the same order and with the same values. -/
def Respelled (entries entries' : Entries α) : Prop :=
  List.Forall₂ (fun e e' => Text.lower e'.1 = Text.lower e.1 ∧ e'.2 = e.2) entries entries'

namespace Respelled

variable {entries' : Entries α}

theorem folded_eq (h : Respelled entries entries') (f : α → β) :
    folded Text.lower f entries' = folded Text.lower f entries := by
  unfold folded
  induction h with
  | nil => rfl
  | cons he _ ih => rw [List.map_cons, List.map_cons, he.1, he.2, ih]

theorem foldedKeys_eq (h : Respelled entries entries') :
    entries'.foldedKeys Text.lower = entries.foldedKeys Text.lower := by
  rw [← keys_folded, h.folded_eq id, keys_folded]

theorem exists_mem (h : Respelled entries entries') {e' : String × α} (he' : e' ∈ entries') :
    ∃ e ∈ entries, Text.lower e.1 = Text.lower e'.1 ∧ e.2 = e'.2 := by
  induction h with
  | nil => exact absurd he' List.not_mem_nil
  | cons hfirst _ ih =>
    rcases List.mem_cons.mp he' with rfl | hrest
    · exact ⟨_, List.mem_cons_self, hfirst.1.symm, hfirst.2.symm⟩
    · obtain ⟨e, he, hsame⟩ := ih hrest
      exact ⟨e, List.mem_cons_of_mem _ he, hsame⟩

end Respelled

end Entries

namespace Outbound

variable {config : Config} {env : Environment} {constants : Constants} {route : Route}
  {auth : Option Auth} {message : Message} {headers custom headers' : Entries Value}
  {allowed : List String} {name : String}

/-! ## Allowed headers -/

theorem mem_keys_addAllowed_iff (h : addAllowed allowed headers custom = .ok headers') :
    name ∈ headers'.keys ↔
      name ∈ headers.keys ∨ name ∈ allowed ∧ ∃ key ∈ custom.keys, Text.lower key = name := by
  obtain ⟨-, rfl⟩ := addAllowed_eq_ok_iff.mp h
  rw [mem_keys_merge_iff, keys_folded, mem_foldedKeys_allowedOf_iff]

/-! ## Headers of the library -/

/-- The names of the headers that the library sets itself. -/
def ownNames : List String :=
  ["host", "content-length", "content-type", "authorization", "user-agent", "accept"]

theorem keys_ownHeaders_subset {host : Value} {hasBody : Bool} {format : Format} {payload : Payload}
    {body : List UInt8} (h : ownHeaders host hasBody format payload = .ok (headers, body)) :
    headers.keys ⊆ ownNames := by
  cases hasBody with
  | false =>
    obtain ⟨rfl, -⟩ := Prod.mk.inj (Except.ok.inj h)
    simp [keys, ownNames]
  | true =>
    obtain ⟨octets, -, h⟩ := bind_eq_ok_iff.mp h
    obtain ⟨type, -, h⟩ := bind_eq_ok_iff.mp h
    obtain ⟨rfl, -⟩ := Prod.mk.inj (Except.ok.inj h)
    simp [keys, ownNames]

theorem mem_keys_putDefault_iff {other : String} {v : Value} :
    name ∈ (putDefault headers other v).keys ↔ name = other ∨ name ∈ headers.keys := by
  unfold putDefault
  split_ifs with hhas
  · exact ⟨Or.inr, fun h => h.elim (fun heq => heq ▸ mem_keys_of_has hhas) id⟩
  · exact mem_keys_put_iff

theorem mem_keys_addDefaults_iff :
    name ∈ (addDefaults config constants headers).keys ↔
      name = "accept" ∧ (config.requestMedia.orElse constants.requestMedia).truthy = true ∨
        name = "user-agent" ∨ name ∈ headers.keys := by
  unfold addDefaults
  dsimp only
  split_ifs with hmedia
  · rw [mem_keys_putDefault_iff, mem_keys_putDefault_iff]
    simp [hmedia]
  · rw [mem_keys_putDefault_iff]
    simp [hmedia]

/-! ## Names of a request -/

/-- A header that the route allows, and that the caller or the settings name in some case. -/
def AskedFor (config : Config) (route : Route) (message : Message) (name : String) : Prop :=
  name ∈ route.requestHeaders ∧ ∃ key,
    (key ∈ (callerHeaders message).keys ∨ key ∈ config.headers.keys) ∧ Text.lower key = name

variable {o : Outbound} {lines : List LogLine}

theorem mem_ownNames_or_askedFor (h : prepare config env constants route auth message = .ok (o, lines))
    (hname : name ∈ o.headers.keys) : name ∈ ownNames ∨ AskedFor config route message name := by
  obtain ⟨a, -, ho, -⟩ := prepare_eq_ok_iff.mp h
  obtain ⟨p, hp, rfl⟩ := ofAssembly_eq_ok_iff.mp ho
  rcases mem_keys_addDefaults_iff.mp hname with ⟨rfl, -⟩ | rfl | hname
  · exact Or.inl (by decide)
  · exact Or.inl (by decide)
  rcases (mem_keys_addAllowed_iff hp.headers).mp hname with hname | ⟨hallowed, key, hkey, hlower⟩
  · left
    rcases Auth.applyTo_headers hp.authorized with hsame | ⟨v, hput⟩
    · exact keys_ownHeaders_subset hp.own (hsame ▸ hname)
    · rw [hput] at hname
      rcases mem_keys_put_iff.mp hname with rfl | hown
      · decide
      · exact keys_ownHeaders_subset hp.own hown
  · right
    rw [customHeaders_eq_ok hp.custom, mem_keys_merge_iff] at hkey
    exact ⟨hallowed, key, hkey, hlower⟩

theorem mem_keys_of_askedFor (h : prepare config env constants route auth message = .ok (o, lines))
    (hasked : AskedFor config route message name) : name ∈ o.headers.keys := by
  obtain ⟨a, -, ho, -⟩ := prepare_eq_ok_iff.mp h
  obtain ⟨p, hp, rfl⟩ := ofAssembly_eq_ok_iff.mp ho
  obtain ⟨hallowed, key, hkey, hlower⟩ := hasked
  rw [← mem_keys_merge_iff, ← customHeaders_eq_ok hp.custom] at hkey
  have hmem : name ∈ p.headers.keys :=
    (mem_keys_addAllowed_iff hp.headers).mpr (Or.inr ⟨hallowed, key, hkey, hlower⟩)
  exact mem_keys_addDefaults_iff.mpr (Or.inr (Or.inr hmem))

theorem lower_of_mem_keys (h : prepare config env constants route auth message = .ok (o, lines))
    (hname : name ∈ o.headers.keys) : Text.lower name = name := by
  rcases mem_ownNames_or_askedFor h hname with hown | ⟨-, key, -, rfl⟩
  · have hall : ∀ name ∈ ownNames, Text.lower name = name := by decide +kernel
    exact hall name hown
  · exact Text.lower_lower key

/-! ## Spelling of headers -/

variable {caller caller' settings settings' : Entries Value}

theorem foldedKeys_allowedOf (allowed : List String) (custom : Entries Value) :
    ((allowedOf allowed custom).foldedKeys Text.lower).Sublist (custom.foldedKeys Text.lower) :=
  List.filter_sublist.map _

/-- If no name is spelled twice, the allowed headers of the settings are written over those of the caller
by their folded names. -/
theorem merge_allowedOf (hcaller : (caller.foldedKeys Text.lower).Nodup)
    (hsettings : (settings.foldedKeys Text.lower).Nodup) (headers : Entries Value) :
    headers.merge (folded Text.lower shownText (allowedOf allowed (caller.merge settings))) =
      (headers.merge (folded Text.lower shownText (allowedOf allowed caller))).merge
        (folded Text.lower shownText (allowedOf allowed settings)) := by
  have hsplit : allowedOf allowed (caller.merge settings) =
      (allowedOf allowed caller).merge (allowedOf allowed settings) :=
    filter_merge (fun key => allowed.contains (Text.lower key)) caller settings
  have hone := List.nodup_iff_count_le_one.mp (hcaller.sublist (foldedKeys_allowedOf allowed caller))
  rw [hsplit, merge_folded_merge (hsettings.sublist (foldedKeys_allowedOf allowed settings))
    fun name _ => hone name]

/-- Allowed headers are the same in every spelling. -/
theorem addAllowed_respelled (hcaller : (caller.foldedKeys Text.lower).Nodup)
    (hsettings : (settings.foldedKeys Text.lower).Nodup) (hrespell : Respelled caller caller')
    (hrespell' : Respelled settings settings')
    (htexts : ∀ e ∈ allowedOf allowed caller, Text.lower e.1 ∈ settings.foldedKeys Text.lower →
      ∃ text, e.2.shown = .ok text)
    (h : addAllowed allowed headers (caller.merge settings) = .ok headers') :
    addAllowed allowed headers (caller'.merge settings') = .ok headers' := by
  obtain ⟨hall, rfl⟩ := addAllowed_eq_ok_iff.mp h
  refine addAllowed_eq_ok_iff.mpr ⟨fun e' he' => ?_, ?_⟩
  · obtain ⟨hmem, hallowed⟩ := List.mem_filter.mp he'
    rcases mem_merge hmem with hmem | hmem
    · obtain ⟨e, he, hname, hvalue⟩ := hrespell.exists_mem hmem
      rw [← hname] at hallowed
      rw [← hvalue]
      by_cases hnamed : Text.lower e.1 ∈ settings.foldedKeys Text.lower
      · exact htexts e (List.mem_filter.mpr ⟨he, hallowed⟩) hnamed
      · -- No header of the settings takes the place of this one.
        have hnew : e.1 ∉ settings.keys := by
          intro hkey
          obtain ⟨s, hs, heq⟩ := List.mem_map.mp hkey
          exact hnamed (mem_foldedKeys_iff.mpr ⟨s, hs, congrArg Text.lower heq⟩)
        have hstays := mem_merge_of_not_mem (nodup_keys_of_foldedKeys hcaller) he hnew
        exact hall e (List.mem_filter.mpr ⟨hstays, hallowed⟩)
    · obtain ⟨e, he, hname, hvalue⟩ := hrespell'.exists_mem hmem
      rw [← hname] at hallowed
      rw [← hvalue]
      have hthere : e ∈ caller.merge settings :=
        mem_merge_of_mem (nodup_keys_of_foldedKeys hsettings) he
      exact hall e (List.mem_filter.mpr ⟨hthere, hallowed⟩)
  · have hsame {es es' : Entries Value} (hes : Respelled es es') :
        folded Text.lower shownText (allowedOf allowed es') =
          folded Text.lower shownText (allowedOf allowed es) := by
      unfold allowedOf
      rw [folded_filter allowed.contains, folded_filter allowed.contains, hes.folded_eq]
    rw [merge_allowedOf hcaller hsettings,
      merge_allowedOf (hrespell.foldedKeys_eq ▸ hcaller) (hrespell'.foldedKeys_eq ▸ hsettings),
      hsame hrespell, hsame hrespell']

theorem givenHeaders?_eq_some {given : Entries Value} (h : givenHeaders? message = some given) :
    callerHeaders message = given := by
  have hcustom : customHeaders message ({} : Config) = .ok (given.merge []) :=
    customHeaders_of_given h
  exact (customHeaders_eq_ok hcustom).symm

/-- A message and settings with headers in another spelling. The message differs in its headers alone. -/
structure HeadersRespelled (message message' : Message) (settings settings' : Entries Value) : Prop where
  values : ∀ key, key ≠ "headers" → message'.value key = message.value key
  isMap : (givenHeaders? message').isSome = true
  caller : Respelled (callerHeaders message) (callerHeaders message')
  settings : Respelled settings settings'

/-- If neither the caller nor the settings spell a name twice, every other spelling makes the same
request. -/
theorem prepare_respelled {message' : Message}
    (hcaller : (callerHeaders message |>.foldedKeys Text.lower).Nodup)
    (hsettings : (config.headers.foldedKeys Text.lower).Nodup) (hparam : "headers" ∉ route.params.keys)
    (htexts : ∀ e ∈ allowedOf route.requestHeaders (callerHeaders message),
      Text.lower e.1 ∈ config.headers.foldedKeys Text.lower → ∃ text, e.2.shown = .ok text)
    (hrespell : HeadersRespelled message message' config.headers settings')
    (h : prepare config env constants route auth message = .ok (o, lines)) :
    prepare { config with headers := settings' } env constants route auth message' = .ok (o, lines) := by
  obtain ⟨a, ha, ho, hlines⟩ := prepare_eq_ok_iff.mp h
  obtain ⟨p, hp, rfl⟩ := ofAssembly_eq_ok_iff.mp ho
  obtain ⟨given, hgiven⟩ := Option.isSome_iff_exists.mp hrespell.isMap
  have hparams : ∀ q ∈ route.params, message'.value q.1 = message.value q.1 := by
    intro q hq
    exact hrespell.values q.1 fun heq => hparam (heq ▸ mem_keys hq)
  have hassembled : assembled config constants route message' = .ok a := by
    rw [assembled_congr hparams fun _ => hrespell.values "data" (by decide), ha]
  have hcustom : p.custom = (callerHeaders message).merge config.headers :=
    customHeaders_eq_ok hp.custom
  have hheaders : addAllowed route.requestHeaders p.authorizedHeaders
      ((callerHeaders message').merge settings') = .ok p.headers :=
    addAllowed_respelled hcaller hsettings hrespell.caller hrespell.settings htexts
      (hcustom ▸ hp.headers)
  -- Only the merged headers are other ones; every other step is the same.
  have hmade : Parts.Made { p with custom := (callerHeaders message').merge settings' }
      { config with headers := settings' } env constants route auth message'
      (route.format constants) a :=
    { base := hp.base
      proxied := hp.proxied
      own := hp.own
      authorized := hp.authorized
      custom := givenHeaders?_eq_some hgiven ▸ customHeaders_of_given hgiven
      headers := hheaders
      port := hp.port }
  refine prepare_eq_ok_iff.mpr ⟨a, hassembled, ofAssembly_eq_ok_iff.mpr ⟨_, hmade, ?_⟩, hlines⟩
  unfold Parts.outbound
  rw [hrespell.values "filePath" (by decide)]
  rfl

/-- **Headers.** The headers of a request have names in lower case, and besides those that the library
sets they are exactly the allowed ones that the caller or the settings name in some case.

If neither the caller nor the settings spell a name twice, every other spelling makes the same request.
Two calls are left out: a parameter called `headers` is sent with the spelling of its value, and a header
of the caller that the settings write over must have a text as soon as its spelling is another one. -/
theorem prepare_headers (h : prepare config env constants route auth message = .ok (o, lines)) :
    (∀ name ∈ o.headers.keys, Text.lower name = name) ∧
      (∀ name, name ∉ ownNames →
        (name ∈ o.headers.keys ↔ AskedFor config route message name)) ∧
      ((callerHeaders message |>.foldedKeys Text.lower).Nodup →
        (config.headers.foldedKeys Text.lower).Nodup →
        "headers" ∉ route.params.keys →
        (∀ e ∈ allowedOf route.requestHeaders (callerHeaders message),
          Text.lower e.1 ∈ config.headers.foldedKeys Text.lower → ∃ text, e.2.shown = .ok text) →
        ∀ message' settings', HeadersRespelled message message' config.headers settings' →
          prepare { config with headers := settings' } env constants route auth message' =
            .ok (o, lines)) := by
  refine ⟨fun name hmem => lower_of_mem_keys h hmem,
    fun name hname => ⟨fun hmem => ?_, fun hasked => ?_⟩,
    fun hcaller hsettings hparam htexts message' settings' hrespell => ?_⟩
  · exact (mem_ownNames_or_askedFor h hmem).resolve_left hname
  · exact mem_keys_of_askedFor h hasked
  · exact prepare_respelled hcaller hsettings hparam htexts hrespell h

/-- The caller and the settings spell a header in two ways, and then in two others. -/
theorem prepare_headers_trace :
    let config : Config := { Config.withoutProxy with headers := [("x-trace", .text "c")] }
    let route : Route :=
      { path := "items/get", space := "items", name := "get", url := .text "/items", method := "GET",
        params := [], requestHeaders := ["x-trace", "accept"] }
    let message : Message :=
      [("headers", .map [("X-Trace", .text "m"), ("Accept", .text "text/html"), ("Cookie", .null)])]
    let message' : Message :=
      [("headers", .map [("x-trace", .text "m"), ("ACCEPT", .text "text/html"), ("cookie", .null)])]
    ∃ o lines, prepare config [] {} route none message = .ok (o, lines) ∧
      "x-trace" ∈ o.headers.keys ∧ "cookie" ∉ o.headers.keys ∧
      prepare { config with headers := [("X-TRACE", .text "c")] } [] {} route none message' =
        .ok (o, lines) := by
  intro config route message message'
  obtain ⟨⟨o, lines⟩, h⟩ : ∃ r, prepare config [] {} route none message = .ok r :=
    exists_of_isOk (by decide +kernel)
  obtain ⟨-, hnames, hspelling⟩ := prepare_headers h
  have hasked : AskedFor config route message "x-trace" :=
    ⟨by decide, "X-Trace", Or.inl (by decide), by decide +kernel⟩
  have hunasked : ¬ AskedFor config route message "cookie" := fun hasked =>
    absurd hasked.1 (by decide)
  have hrespell : HeadersRespelled message message' config.headers [("X-TRACE", .text "c")] :=
    { values := fun key hkey => by simp [message, message', Entries.value, get?_cons, Ne.symm hkey]
      isMap := rfl
      caller := .cons ⟨by decide +kernel, rfl⟩ (.cons ⟨by decide +kernel, rfl⟩
        (.cons ⟨by decide +kernel, rfl⟩ .nil))
      settings := .cons ⟨by decide +kernel, rfl⟩ .nil }
  refine ⟨o, lines, h, (hnames _ (by decide)).mpr hasked, mt (hnames _ (by decide)).mp hunasked, ?_⟩
  have htexts : ∀ e ∈ callerHeaders message, e.2.shown.isOk = true := by decide +kernel
  refine hspelling (by decide +kernel) (by decide +kernel) (by decide) (fun e he _ => ?_) _ _ hrespell
  exact exists_of_isOk (htexts e (List.mem_filter.mp he).1)

/-- Two pairs of calls that differ in the spelling of a header alone: one of a route with a parameter
called `headers`, and one where a header of the caller without a text is written over by the settings. -/
theorem prepare_not_blind_to_spelling :
    let declaring : Route :=
      { path := "items/get", space := "items", name := "get", url := .text "/items", method := "GET",
        params := [("headers", {})], requestHeaders := ["x-trace"] }
    let plain : Route := { declaring with params := [] }
    let config : Config := { Config.withoutProxy with headers := [("X-Trace", .text "c")] }
    let message (name : String) (v : Value) : Message := [("headers", .map [(name, v)])]
    HeadersRespelled (message "x-trace" (.text "m")) (message "X-Trace" (.text "m")) [] [] ∧
      (prepare .withoutProxy [] {} declaring none (message "x-trace" (.text "m"))).map
        (fun r => r.1.path) = .ok "/items?headers=%7B%22x-trace%22%3A%22m%22%7D" ∧
      (prepare .withoutProxy [] {} declaring none (message "X-Trace" (.text "m"))).map
        (fun r => r.1.path) = .ok "/items?headers=%7B%22X-Trace%22%3A%22m%22%7D" ∧
      HeadersRespelled (message "X-Trace" (.int (10 ^ 4300))) (message "x-trace" (.int (10 ^ 4300)))
        config.headers config.headers ∧
      (prepare config [] {} plain none (message "X-Trace" (.int (10 ^ 4300)))).isOk = true ∧
      (prepare config [] {} plain none (message "x-trace" (.int (10 ^ 4300)))).isOk = false := by
  intro declaring plain config message
  have hrespell {name name' : String} {settings : Entries Value} (v : Value)
      (hname : Text.lower name' = Text.lower name) :
      HeadersRespelled (message name v) (message name' v) settings settings :=
    { values := fun key hkey => by simp [message, Entries.value, get?_cons, Ne.symm hkey]
      isMap := rfl
      caller := .cons ⟨hname, rfl⟩ .nil
      settings := List.forall₂_same.mpr fun _ _ => ⟨rfl, rfl⟩ }
  refine ⟨hrespell _ (by decide +kernel), by decide +kernel, by decide +kernel,
    hrespell _ (by decide +kernel), by decide +kernel, by decide +kernel⟩

end Outbound

end RouteBook
