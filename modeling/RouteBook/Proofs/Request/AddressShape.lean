import RouteBook.Proofs.Request.EncodedValue
import RouteBook.Proofs.Request.Fates

/-!
# The shape of an address

An address has its shape from the characters that separate its parts, and its placeholders from its
colons. An encoded text has none of these characters, so a substitution takes one colon away and leaves
the rest of the shape as it was (`Substitutes.filter_eq`, `Substitutes.count_colon`). Therefore the shape
of the address of a request is that of the template, whatever the values are (`assemble_shape`).
-/

namespace RouteBook.Assembly

open RouteBook.Text

variable {message : Message} {c : Char}

/-- The characters that give an address its shape: those that separate its parts, those that end an
address in a text, blanks and control characters. -/
def isShapeChar (c : Char) : Bool :=
  ['/', '?', '#', '&', '=', '@', ';', ',', '\\', '"', '<', '>'].contains c || isBlank c ||
    c.toNat < 32 || (127 ≤ c.toNat && c.toNat < 160)

/-- The characters of the shape and the colons that start placeholders. -/
def isMark (c : Char) : Bool :=
  isShapeChar c || c == ':'

/-! ## Texts without marks -/

theorem toNat_of_isAsciiLetter (h : isAsciiLetter c = true) : c.toNat < 128 := by
  simp only [isAsciiLetter, Bool.or_eq_true, Bool.and_eq_true, decide_eq_true_eq, Char.le_def,
    UInt32.le_iff_toNat_le] at h
  unfold Char.toNat
  rcases h with ⟨-, hz⟩ | ⟨-, hz⟩
  · change c.val.toNat ≤ 122 at hz
    omega
  · change c.val.toNat ≤ 90 at hz
    omega

theorem toNat_of_isAsciiDigit (h : isAsciiDigit c = true) : c.toNat < 128 := by
  simp only [isAsciiDigit, Bool.and_eq_true, decide_eq_true_eq, Char.le_def,
    UInt32.le_iff_toNat_le] at h
  have hnine : c.val.toNat ≤ 57 := h.2
  unfold Char.toNat
  omega

theorem toNat_of_isComponentChar (h : Percent.isComponentChar c = true) : c.toNat < 128 := by
  simp only [Percent.isComponentChar, Bool.or_eq_true, beq_iff_eq, or_assoc] at h
  rcases h with hletter | hdigit | rfl | rfl | rfl | rfl | rfl | rfl | hquote | rfl | rfl | rfl
  · exact toNat_of_isAsciiLetter hletter
  · exact toNat_of_isAsciiDigit hdigit
  iterate 6 decide
  · omega
  iterate 3 decide

/-- A character of a component is no mark: there are only so many of them. -/
theorem isMark_of_isComponentChar (h : Percent.isComponentChar c = true) : isMark c = false := by
  have hall : ∀ n < 128, Percent.isComponentChar (Char.ofNat n) = true →
      isMark (Char.ofNat n) = false := by decide +kernel
  have hc := hall c.toNat (toNat_of_isComponentChar h)
  rw [Char.ofNat_toNat] at hc
  exact hc h

theorem isComponentChar_of_isNameChar (h : isNameChar c = true) :
    Percent.isComponentChar c = true := by
  unfold isNameChar at h
  unfold Percent.isComponentChar
  simp only [Bool.or_eq_true] at h ⊢
  tauto

theorem isMark_of_mem_encodeValue {combined : Bool} {v : Value} {encoded : List Char}
    (he : encodeValue combined v = .ok encoded) (hc : c ∈ encoded) : isMark c = false := by
  by_cases hcomponent : Percent.isComponentChar c = true
  · exact isMark_of_isComponentChar hcomponent
  by_cases hplus : c = '+'
  · rw [hplus]
    decide
  · exact absurd hc (not_mem_encodeValue (Bool.eq_false_iff.mpr hcomponent) hplus he)

/-! ## Substitutions without marks -/

/-- No mark is in the names and the texts of substitutions. -/
def Markless (subs : List (String × List Char)) : Prop :=
  ∀ s ∈ subs, ∀ c ∈ s.1.toList ++ s.2, isMark c = false

namespace Substitutes

variable {subs : List (String × List Char)} {url url' : List Char}

theorem filter_eq_nil {p : Char → Bool} (hp : ∀ c, isMark c = false → p c = false) {cs : List Char}
    (h : ∀ c ∈ cs, isMark c = false) : cs.filter p = [] :=
  List.filter_eq_nil_iff.mpr fun c hc => by rw [hp c (h c hc)]; exact Bool.false_ne_true

theorem filter_eq (h : Substitutes subs url url') (hsubs : Markless subs) :
    url'.filter isShapeChar = url.filter isShapeChar := by
  have hshape : ∀ c, isMark c = false → isShapeChar c = false := fun c hc =>
    (Bool.or_eq_false_iff.mp hc).1
  induction h with
  | nil => rfl
  | @cons name text url before after url' rest hfound hrest ih =>
    obtain ⟨hfirst, hothers⟩ := List.forall_mem_cons.mp hsubs
    obtain ⟨hname, htext⟩ := List.forall_mem_append.mp hfirst
    have hcolon : isShapeChar ':' = false := by decide
    rw [ih hothers, (splitAt?_eq_some hfound).1]
    simp only [List.filter_append, filter_eq_nil hshape hname, filter_eq_nil hshape htext,
      List.filter_cons_of_neg (Bool.eq_false_iff.mp hcolon)]

theorem count_colon (h : Substitutes subs url url') (hsubs : Markless subs) :
    url'.count ':' + subs.length = url.count ':' := by
  have hcolon : ∀ cs : List Char, (∀ c ∈ cs, isMark c = false) → cs.count ':' = 0 := fun cs hcs =>
    List.count_eq_zero.mpr fun hmem => absurd (hcs ':' hmem) (by decide)
  induction h with
  | nil => rfl
  | @cons name text url before after url' rest hfound hrest ih =>
    obtain ⟨hfirst, hothers⟩ := List.forall_mem_cons.mp hsubs
    obtain ⟨hname, htext⟩ := List.forall_mem_append.mp hfirst
    have hleft := ih hothers
    rw [(splitAt?_eq_some hfound).1]
    simp only [List.count_append, List.count_cons_self, hcolon _ hname, hcolon _ htext,
      List.length_cons] at hleft ⊢
    omega

theorem filter_sublist (h : Substitutes subs url url') (hsubs : Markless subs) :
    (url'.filter isMark).Sublist (url.filter isMark) := by
  induction h with
  | nil => exact List.Sublist.refl _
  | @cons name text url before after url' rest hfound hrest ih =>
    obtain ⟨hfirst, hothers⟩ := List.forall_mem_cons.mp hsubs
    obtain ⟨hname, htext⟩ := List.forall_mem_append.mp hfirst
    refine (ih hothers).trans ?_
    rw [(splitAt?_eq_some hfound).1]
    simp only [List.filter_append, filter_eq_nil (fun _ hc => hc) htext, List.append_nil]
    exact (List.sublist_append_left _ _).append (List.Sublist.refl _)

end Substitutes

/-! ## Addresses -/

theorem markless_substitutions {turns : List Visit}
    (hnames : ∀ v ∈ turns, ∀ c ∈ v.name.toList, isNameChar c = true) :
    Markless (substitutions message turns) := by
  intro s hs c hc
  obtain ⟨v, hv, hfate⟩ := List.mem_filterMap.mp hs
  split at hfate
  · rename_i text htext
    obtain rfl := Option.some.inj hfate
    rcases List.mem_append.mp hc with hname | hencoded
    · exact isMark_of_isComponentChar (isComponentChar_of_isNameChar (hnames v hv c hname))
    · exact isMark_of_mem_encodeValue (encodeValue_of_substituted htext) hencoded
  · exact nomatch hfate

/-- **No value changes the shape of an address.** The address has the separators, the blanks and the
control characters of the template, in its order, and one colon less for every parameter that is
substituted. So no value adds or takes away a part, opens a query or a fragment, or starts a
placeholder: all marks of the address are marks of the template in their order. -/
theorem assemble_shape (message : Message) (route : Route) (format : Format)
    (pathPrefix : Option String) {url : String} (hurl : route.url = .text url)
    (hnames : ∀ name ∈ route.params.keys, ∀ c ∈ name.toList, isNameChar c = true) :
    let template := withPrefix pathPrefix url.toList
    let turns := visits message route.path (start message route.path format template) route.params
    ∃ b, assemble message route format pathPrefix = .ok b ∧
      Substitutes (substitutions message turns) template b.url ∧
      b.url.filter isShapeChar = template.filter isShapeChar ∧
      b.url.count ':' + (substitutions message turns).length = template.count ':' ∧
      (b.url.filter isMark).Sublist (template.filter isMark) := by
  intro template turns
  obtain ⟨b, hrun⟩ := exists_run message route.path (start message route.path format template)
    route.params
  have hsubs := (run_turned hrun).url
  rw [start_url] at hsubs
  have hturns : turns.map (fun v => (v.name, v.rule)) = route.params := map_visits hrun
  have hmarkless : Markless (substitutions message turns) := by
    refine markless_substitutions fun v hv => hnames v.name ?_
    rw [← hturns]
    exact Entries.mem_keys (List.mem_map_of_mem hv)
  exact ⟨b, (assemble_of_text hurl message format pathPrefix).trans hrun, hsubs,
    hsubs.filter_eq hmarkless, hsubs.count_colon hmarkless, hsubs.filter_sublist hmarkless⟩

/-- Placeholders that touch, one that comes twice, and values that are made of separators. -/
theorem assemble_shape_separators :
    let route : Route :=
      { path := "files/get", space := "files", name := "get", url := .text "/:a:b/:a?q=:c"
        method := "GET", params := [("a", {}), ("b", { combined := true }), ("c", {})] }
    let message : Message :=
      [("a", .text "/..?#"), ("b", .text "x&y + :c"), ("c", .list [.text "é@", .null])]
    ∃ b, assemble message route .query (some "/v1") = .ok b ∧
      b.url.filter isShapeChar = "///?=".toList ∧ b.url.count ':' + 3 = 4 := by
  intro route message
  let turns := visits message route.path
    (start message route.path .query (withPrefix (some "/v1") "/:a:b/:a?q=:c".toList)) route.params
  have hall : route.params.keys.all (fun name => name.toList.all isNameChar) = true := by decide
  have hnames : ∀ name ∈ route.params.keys, ∀ c ∈ name.toList, isNameChar c = true :=
    fun name hname => List.all_eq_true.mp (List.all_eq_true.mp hall name hname)
  obtain ⟨b, hb, -, hshape, hcolons, -⟩ :=
    assemble_shape message route .query (some "/v1") rfl hnames
  have hthree : (substitutions message turns).length = 3 := by decide +kernel
  refine ⟨b, hb, hshape.trans (by decide +kernel), ?_⟩
  rw [← hthree]
  exact hcolons.trans (by decide +kernel)

end RouteBook.Assembly
