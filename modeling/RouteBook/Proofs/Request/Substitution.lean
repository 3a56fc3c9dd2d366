import RouteBook.Proofs.Entries
import RouteBook.Proofs.Fault.Unwritable
import RouteBook.Proofs.Request.EncodedValue
import RouteBook.Proofs.Request.Placement
import RouteBook.Request.Template

/-!
# Substitution at once

Parameters go into an address one after another, each in what the earlier ones left. In a template whose
tokens do not touch (`Spaced`) this is the same as filling all tokens at once: what is put in has no
colon, so it neither is nor ends a token (`replaceFirst_fillParts`), and therefore neither the order of
the parameters nor what their values look like matters (`assemble_url`).
-/

namespace RouteBook

open Text Assembly
open Template (Part parts fillParts fill Spaced)

/-! ## Replacing one placeholder -/

namespace Assembly

/-- An address with the first placeholder of a name replaced, if it has one. -/
def replaceFirst (name text url : List Char) : List Char :=
  match splitAt? name url with
  | some (before, after) => before ++ text ++ after
  | none => url

variable {name text : List Char}

theorem afterPlaceholder?_of_ne {c : Char} (h : c ≠ ':') (name rest : List Char) :
    afterPlaceholder? name (c :: rest) = none := by
  unfold afterPlaceholder? after?
  rw [if_neg (Ne.symm h)]
  rfl

theorem replaceFirst_cons_of_none {c : Char} {rest : List Char}
    (h : afterPlaceholder? name (c :: rest) = none) :
    replaceFirst name text (c :: rest) = c :: replaceFirst name text rest := by
  unfold replaceFirst
  rw [splitAt?, h]
  cases splitAt? name rest <;> rfl

theorem replaceFirst_append {front : List Char} (h : ':' ∉ front) (name text rest : List Char) :
    replaceFirst name text (front ++ rest) = front ++ replaceFirst name text rest := by
  induction front with
  | nil => rfl
  | cons c front ih =>
    have hc : c ≠ ':' := fun hc => h (hc ▸ List.mem_cons_self)
    rw [List.cons_append, replaceFirst_cons_of_none (afterPlaceholder?_of_ne hc name _),
      ih fun hfront => h (List.mem_cons_of_mem c hfront)]
    rfl

theorem replaceFirst_self {rest : List Char} (h : endsName rest = true) (name text : List Char) :
    replaceFirst name text (':' :: name ++ rest) = text ++ rest := by
  have hafter : afterPlaceholder? name (':' :: name ++ rest) = some rest := by
    unfold afterPlaceholder?
    rw [after?_eq_some_iff.mpr rfl, Option.filter_some, if_pos h]
  unfold replaceFirst
  rw [List.cons_append, splitAt?, ← List.cons_append, hafter]
  rfl

theorem takeWhile_name {rest : List Char} (hname : ∀ c ∈ name, isNameChar c = true)
    (hrest : endsName rest = true) : (name ++ rest).takeWhile isNameChar = name := by
  refine takeWhile_append_of_stop hname fun c hc => ?_
  cases rest with
  | nil => exact nomatch hc
  | cons d rest =>
    obtain rfl := Option.some.inj hc
    exact (Bool.not_eq_true' _).mp hrest

theorem colon_not_mem_name (h : ∀ c ∈ name, isNameChar c = true) : ':' ∉ name :=
  fun hmem => nomatch h _ hmem

theorem replaceFirst_other {other rest : List Char} (hname : ∀ c ∈ name, isNameChar c = true)
    (hother : ∀ c ∈ other, isNameChar c = true) (hne : other ≠ name) (hrest : endsName rest = true) :
    replaceFirst name text (':' :: other ++ rest) = ':' :: other ++ replaceFirst name text rest := by
  have hafter : afterPlaceholder? name (':' :: (other ++ rest)) = none := by
    rw [Option.eq_none_iff_forall_ne_some]
    intro after hsome
    obtain ⟨heq, hafter⟩ := afterPlaceholder?_eq_some hsome
    have hsame := (List.cons.inj heq).2
    refine hne ?_
    rw [← takeWhile_name hother hrest, ← takeWhile_name hname hafter]
    exact congrArg (List.takeWhile isNameChar) hsame
  rw [List.cons_append, replaceFirst_cons_of_none hafter,
    replaceFirst_append (colon_not_mem_name hother)]
  rfl

end Assembly

/-! ## Templates whose tokens do not touch -/

namespace Template

/-- Whether a token may end before these parts. -/
def endsToken : List Part → Bool
  | [] => true
  | .char c :: _ => !isNameChar c
  | .token _ :: _ => false

/-- Parts that stand apart: no plain character is a colon, and the name of a token goes as far as name
characters do. -/
inductive Apart : List Part → Prop where
  | nil : Apart []
  | char {c : Char} {rest : List Part} (hc : c ≠ ':') (hrest : Apart rest) : Apart (.char c :: rest)
  | token {name : String} {rest : List Part} (hname : ∀ c ∈ name.toList, isNameChar c = true)
      (hend : endsToken rest = true) (hrest : Apart rest) : Apart (.token name :: rest)

theorem spaced_dropWhile {p : Char → Bool} {template : List Char} (h : Spaced template) :
    Spaced (template.dropWhile p) := by
  induction template with
  | nil => exact h
  | cons c rest ih =>
    rw [List.dropWhile_cons]
    split
    · exact ih (spaced_cons_iff.mp h).2
    · exact h

theorem apart_parts {template : List Char} (h : Spaced template) : Apart (parts template) := by
  induction template using parts.induct with
  | case1 => rw [parts]; exact Apart.nil
  | case2 rest ih =>
    rw [parts, if_pos rfl]
    obtain ⟨htouch, hrest⟩ := spaced_cons_iff.mp h
    refine Apart.token ?_ ?_ (ih (spaced_dropWhile hrest))
    · rw [String.toList_ofList]
      exact List.all_eq_true.mp List.all_takeWhile
    · have hstop := List.head?_dropWhile_not isNameChar rest
      cases hd : rest.dropWhile isNameChar with
      | nil =>
        rw [parts]
        rfl
      | cons c after =>
        have hc : c ≠ ':' := by
          rintro rfl
          exact htouch ⟨rfl, by rw [hd]; rfl⟩
        rw [hd] at hstop
        rw [parts, if_neg hc, endsToken, hstop]
        rfl
  | case3 c rest hc ih =>
    rw [parts, if_neg hc]
    exact Apart.char hc (ih (spaced_cons_iff.mp h).2)

/-! ## Filling -/

theorem fillParts_none (met : List String) (template : List Char) :
    fillParts (fun _ => none) met (parts template) = template := by
  induction template using parts.induct generalizing met with
  | case1 => rw [parts]; rfl
  | case2 rest ih =>
    rw [parts, if_pos rfl, fillParts, ih]
    simp only [Option.getD_none, ite_self, Part.text, String.toList_ofList, List.cons_append,
      List.takeWhile_append_dropWhile]
  | case3 c rest hc ih => rw [parts, if_neg hc, fillParts, ih]

theorem fillParts_congr {text? text?' : String → Option (List Char)} {met : List String}
    (h : ∀ name, name ∉ met → text? name = text?' name) (ps : List Part) :
    fillParts text? met ps = fillParts text?' met ps := by
  induction ps generalizing met with
  | nil => rfl
  | cons p ps ih =>
    cases p with
    | char c => rw [fillParts, fillParts, ih h]
    | token name =>
      rw [fillParts, fillParts, ih fun n hn => h n fun hmet => hn (List.mem_cons_of_mem name hmet)]
      by_cases hmet : name ∈ met
      · rw [if_pos hmet, if_pos hmet]
      · rw [if_neg hmet, if_neg hmet, h name hmet]

theorem endsName_fillParts (text? : String → Option (List Char)) (met : List String) {ps : List Part}
    (h : endsToken ps = true) : endsName (fillParts text? met ps) = true := by
  cases ps with
  | nil => rfl
  | cons p ps =>
    cases p with
    | char c => exact h
    | token name => exact nomatch h

/-- Texts without colons, and none of them for the given names. -/
structure Pending (text? : String → Option (List Char)) (names : List String) : Prop where
  clean : ∀ name text, text? name = some text → ':' ∉ text
  free : ∀ name ∈ names, text? name = none

variable {text? : String → Option (List Char)} {name : String} {names : List String}

theorem Pending.nothing (names : List String) : Pending (fun _ => none) names where
  clean _ _ h := nomatch h
  free _ _ := rfl

theorem Pending.update (h : Pending text? (name :: names)) (hnew : name ∉ names)
    {given : Option (List Char)} (hgiven : ∀ text, given = some text → ':' ∉ text) :
    Pending (Function.update text? name given) names where
  clean n text hn := by
    by_cases heq : n = name
    · subst heq
      rw [Function.update_self] at hn
      exact hgiven text hn
    · rw [Function.update_of_ne heq] at hn
      exact h.clean n text hn
  free n hn := by
    have hne : n ≠ name := fun heq => hnew (heq ▸ hn)
    rw [Function.update_of_ne hne]
    exact h.free n (List.mem_cons_of_mem name hn)

/-- Replacing the placeholder of a name in a filled template fills that name too. -/
theorem replaceFirst_fillParts {ps : List Part} (hps : Apart ps)
    (htexts : Pending text? (name :: names)) (hname : ∀ c ∈ name.toList, isNameChar c = true)
    {met : List String} (hmet : name ∉ met) (text : List Char) :
    replaceFirst name.toList text (fillParts text? met ps) =
      fillParts (Function.update text? name (some text)) met ps := by
  induction hps generalizing met with
  | nil => rfl
  | char hc _ ih =>
    rw [fillParts, fillParts, replaceFirst_cons_of_none (afterPlaceholder?_of_ne hc _ _), ih hmet]
  | @token other rest hother hend _ ih =>
    rw [fillParts, fillParts]
    have hends := endsName_fillParts text? (other :: met) hend
    by_cases hsame : other = name
    · -- It is the first token of the name, since the name was not met.
      subst hsame
      rw [if_neg hmet, if_neg hmet, htexts.free _ List.mem_cons_self, Function.update_self,
        Option.getD_none, Option.getD_some, Part.text, replaceFirst_self hends]
      refine congrArg (text ++ ·) (fillParts_congr (fun n hn => ?_) rest)
      have hne : n ≠ other := fun h => hn (h ▸ List.mem_cons_self)
      rw [Function.update_of_ne hne]
    · have hmet' : name ∉ other :: met := fun h => (List.mem_cons.mp h).elim (hsame ∘ Eq.symm) hmet
      have hkept (after : List Char) (hafter : endsName after = true) :
          replaceFirst name.toList text ((Part.token other).text ++ after) =
            (Part.token other).text ++ replaceFirst name.toList text after :=
        replaceFirst_other hname hother (mt String.toList_inj.mp hsame) hafter
      rw [Function.update_of_ne hsame, ← ih hmet']
      by_cases hseen : other ∈ met
      · rw [if_pos hseen, hkept _ hends]
      · rw [if_neg hseen]
        cases ht : text? other with
        | none => exact hkept _ hends
        | some x => exact replaceFirst_append (htexts.clean other x ht) _ _ _

end Template

/-! ## The address of a request -/

namespace Assembly

variable {message : Message} {path : String} {a b : Assembly} {name : String} {rule : Rule}
  {params : Entries Rule}

/-- The text that stands for a parameter in an address, if it is given and has a written form: its plain
text, encoded as a whole or term by term. -/
def addressText (message : Message) (name : String) (rule : Rule) : Option (List Char) :=
  match message.value name with
  | .null => none
  | v => (plainText v).toOption.map fun text => writtenAs (inTerms rule.combined v) text.toList

/-- The text that stands for a name in an address, if it is that of a parameter. -/
def addressTexts (message : Message) (params : Entries Rule) (name : String) : Option (List Char) :=
  (params.get? name).bind (addressText message name)

theorem addressText_of_given (h : message.value name ≠ .null) :
    addressText message name rule = (encodeValue rule.combined (message.value name)).toOption := by
  rw [encodeValue_eq]
  unfold addressText
  split
  · rename_i hnull
    exact absurd hnull h
  · cases plainText (message.value name) <;> rfl

theorem addressText_of_null (h : message.value name = .null) (rule : Rule) :
    addressText message name rule = none := by
  unfold addressText
  rw [h]

theorem colon_not_mem_addressText {text : List Char} (h : addressText message name rule = some text) :
    ':' ∉ text := by
  by_cases hnull : message.value name = .null
  · exact nomatch (addressText_of_null hnull rule).symm.trans h
  rw [addressText_of_given hnull] at h
  cases he : encodeValue rule.combined (message.value name) with
  | error f =>
    rw [he] at h
    exact nomatch h
  | ok encoded =>
    rw [he] at h
    obtain rfl := Option.some.inj h
    exact not_mem_encodeValue (by decide) (by decide) he

theorem step_url_of_none (hs : splitAt? name.toList a.url = none)
    (h : step message path a (name, rule) = .ok b) : b.url = a.url := by
  cases step_cases h with
  | substituted _ hfound _ => exact nomatch hs.symm.trans hfound
  | _ => rfl

/-- The placeholder of the parameter gives way to its text, if it has one. -/
theorem step_url (h : step message path a (name, rule) = .ok b) :
    b.url = (addressText message name rule).elim a.url
      fun text => replaceFirst name.toList text a.url := by
  cases hs : splitAt? name.toList a.url with
  | none =>
    rw [step_url_of_none hs h]
    unfold replaceFirst
    rw [hs]
    cases addressText message name rule <;> rfl
  | some found =>
    obtain ⟨before, after⟩ := found
    have hreplace (text : List Char) :
        replaceFirst name.toList text a.url = before ++ text ++ after := by
      unfold replaceFirst
      rw [hs]
    cases step_cases h with
    | absent hnull =>
      rw [addressText_of_null hnull]
      rfl
    | substituted hgiven hfound hencoded =>
      obtain ⟨rfl, rfl⟩ := Prod.mk.inj (Option.some.inj (hs.symm.trans hfound))
      rw [addressText_of_given hgiven, hencoded]
      exact (hreplace _).symm
    | added _ hfound _ => exact nomatch hs.symm.trans hfound
    | leftOut hgiven hfault _ =>
      rw [place_of_some hs] at hfault
      rw [addressText_of_given hgiven]
      cases he : encodeValue rule.combined (message.value name) with
      | error f => rfl
      | ok encoded =>
        rw [he] at hfault
        exact nomatch hfault

theorem step_fillParts {text? : String → Option (List Char)} {names : List String} {ps : List Part}
    (hps : Template.Apart ps) (htexts : Template.Pending text? (name :: names))
    (hname : ∀ c ∈ name.toList, isNameChar c = true) (ha : a.url = fillParts text? [] ps)
    (h : step message path a (name, rule) = .ok b) :
    b.url = fillParts (Function.update text? name (addressText message name rule)) [] ps := by
  rw [step_url h, ha]
  cases addressText message name rule with
  | none =>
    have hfree := htexts.free name List.mem_cons_self
    rw [Function.update_eq_self_iff.mpr hfree.symm]
    rfl
  | some text => exact Template.replaceFirst_fillParts hps htexts hname List.not_mem_nil text

theorem addressTexts_cons (message : Message) (name : String) (rule : Rule) (rest : Entries Rule)
    (other : String) :
    addressTexts message ((name, rule) :: rest) other =
      if name = other then addressText message name rule else addressTexts message rest other := by
  unfold addressTexts
  rw [Entries.get?_cons]
  split
  · rename_i h
    rw [h]
    rfl
  · rfl

theorem addressTexts_of_not_mem (h : name ∉ params.keys) : addressTexts message params name = none := by
  unfold addressTexts
  rw [Entries.get?_of_not_mem h]
  rfl

/-- Assembly ends with an address in which the names of the parameters are filled too. The induction is on
the parameters that are left, whose names are not filled yet. -/
theorem run_url (message : Message) (path : String) {ps : List Part} (hps : Template.Apart ps)
    (hkeys : params.keys.Nodup)
    (hnames : ∀ name ∈ params.keys, ∀ c ∈ name.toList, isNameChar c = true)
    {text? : String → Option (List Char)} (htexts : Template.Pending text? params.keys)
    (ha : a.url = fillParts text? [] ps) :
    ∃ b, params.foldlM (step message path) a = .ok b ∧
      b.url = fillParts (fun n => (addressTexts message params n).or (text? n)) [] ps := by
  induction params generalizing a text? with
  | nil => exact ⟨a, rfl, ha⟩
  | cons p rest ih =>
    obtain ⟨name, rule⟩ := p
    obtain ⟨hnew, hrest⟩ := Entries.nodup_keys_cons.mp hkeys
    obtain ⟨hname, hnames⟩ := List.forall_mem_cons.mp hnames
    obtain ⟨b, hb⟩ := exists_step message path a (name, rule)
    have hburl := step_fillParts hps htexts hname ha hb
    obtain ⟨c, hc, hcurl⟩ :=
      ih hrest hnames (htexts.update hnew fun _ => colon_not_mem_addressText) hburl
    refine ⟨c, ?_, hcurl.trans (Template.fillParts_congr (fun n _ => ?_) ps)⟩
    · rw [List.foldlM_cons, hb]
      exact hc
    · rw [addressTexts_cons]
      by_cases hn : name = n
      · subst hn
        rw [if_pos rfl, Function.update_self, addressTexts_of_not_mem hnew,
          htexts.free name List.mem_cons_self, Option.or_none, Option.none_or]
      · rw [if_neg hn, Function.update_of_ne (Ne.symm hn)]

theorem assemble_eq_fill (message : Message) (route : Route) (format : Format)
    (pathPrefix : Option String) {url : String} (hurl : route.url = .text url)
    (hkeys : route.params.keys.Nodup)
    (hnames : ∀ name ∈ route.params.keys, ∀ c ∈ name.toList, isNameChar c = true)
    (hspaced : Spaced (withPrefix pathPrefix url.toList)) :
    (assemble message route format pathPrefix).map Assembly.url =
      .ok (fill (addressTexts message route.params) (withPrefix pathPrefix url.toList)) := by
  let template := withPrefix pathPrefix url.toList
  have hstart : (start message route.path format template).url =
      fillParts (fun _ => none) [] (parts template) := by
    rw [start_url, Template.fillParts_none]
  obtain ⟨b, hb, hburl⟩ := run_url message route.path (Template.apart_parts hspaced) hkeys
    hnames (.nothing _) hstart
  unfold assemble
  rw [hurl, urlText]
  show Except.map Assembly.url (route.params.foldlM _ _) = _
  rw [hb]
  refine congrArg Except.ok (hburl.trans ?_)
  simp only [Option.or_none]
  rfl

/-- **Substitution at once.** In a template whose tokens do not touch, the address of a request is the
template with the first token of every parameter replaced by its encoded value, all other characters
and tokens kept. It is the same in whichever order the parameters are declared. -/
theorem assemble_url (message : Message) (route : Route) (format : Format)
    (pathPrefix : Option String) {url : String} (hurl : route.url = .text url)
    (hkeys : route.params.keys.Nodup)
    (hnames : ∀ name ∈ route.params.keys, ∀ c ∈ name.toList, isNameChar c = true)
    (hspaced : Spaced (withPrefix pathPrefix url.toList)) :
    let filled := fill (addressTexts message route.params) (withPrefix pathPrefix url.toList)
    (assemble message route format pathPrefix).map Assembly.url = .ok filled ∧
      ∀ params, route.params.Perm params →
        (assemble message { route with params } format pathPrefix).map Assembly.url = .ok filled := by
  intro filled
  refine ⟨assemble_eq_fill message route format pathPrefix hurl hkeys hnames hspaced,
    fun params hperm => ?_⟩
  have hkeysPerm : route.params.keys.Perm (Entries.keys params) := hperm.map Prod.fst
  have hsame : addressTexts message params = addressTexts message route.params := by
    funext name
    unfold addressTexts
    rw [Entries.get?_of_perm hperm hkeys]
  have hnamesPerm : ∀ name ∈ Entries.keys params, ∀ c ∈ name.toList, isNameChar c = true :=
    fun name hname => hnames name (hkeysPerm.mem_iff.mpr hname)
  rw [assemble_eq_fill message { route with params } format pathPrefix hurl
    (hkeysPerm.nodup_iff.mp hkeys) hnamesPerm hspaced, hsame]

/-- A value that looks like a placeholder, a name that is met twice and one that goes on behind the name
of a parameter, with the parameters in both orders. -/
theorem assemble_url_lookalike :
    let route : Route :=
      { path := "files/get", space := "files", name := "get", url := .text "/:a/:b/:ab/:a"
        method := "GET", params := [("a", {}), ("b", { combined := true })] }
    let message : Message := [("b", .text "x + y"), ("a", .text ":b")]
    ∀ params ∈ [route.params, route.params.reverse],
      (assemble message { route with params } .query (some "/v1")).map Assembly.url =
        .ok "/v1/%3Ab/x+y/:ab/:a".toList := by
  intro route message params hparams
  have hall : route.params.keys.all (fun name => name.toList.all isNameChar) = true := by decide
  have hnames : ∀ name ∈ route.params.keys, ∀ c ∈ name.toList, isNameChar c = true :=
    fun name hname => List.all_eq_true.mp (List.all_eq_true.mp hall name hname)
  have hfilled := assemble_url message route .query (some "/v1") rfl (by decide) hnames (by decide)
  have htext : fill (addressTexts message route.params)
      (withPrefix (some "/v1") "/:a/:b/:ab/:a".toList) = "/v1/%3Ab/x+y/:ab/:a".toList := by
    decide +kernel
  rw [← htext]
  rcases List.mem_cons.mp hparams with rfl | hreverse
  · exact hfilled.1
  · obtain rfl := List.mem_singleton.mp hreverse
    exact hfilled.2 _ route.params.reverse_perm.symm

end Assembly

end RouteBook
