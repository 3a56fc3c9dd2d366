import RouteBook.Schema.Path
import RouteBook.Proofs.Text.CamelCase
import RouteBook.Proofs.Text.Pieces

/-!
# Names by words

The path of a route is written from words, with hyphens between those of a segment and slashes between
the segments (`written`). Its first segment names the namespace, and all words behind it name the
function, however they are grouped into segments (`split_written`).
-/

namespace RouteBook.RoutePath

open RouteBook.Text

/-- The words of a segment. -/
def IsSegment (words : List (List Char)) : Prop :=
  words ≠ [] ∧ ∀ w ∈ words, IsNameWord w

instance (words : List (List Char)) : Decidable (IsSegment words) :=
  haveI : Decidable (∀ w ∈ words, IsNameWord w) := List.decidableBAll IsNameWord words
  inferInstanceAs (Decidable (words ≠ [] ∧ ∀ w ∈ words, IsNameWord w))

/-- The path of segments that are given by their words. -/
def written (segments : List (List (List Char))) : String :=
  String.ofList (joinWith ['/'] (segments.map (joinWith ['-'])))

variable {words : List (List Char)}

theorem joinWith_hyphen_eq_spelled (w : List Char) (ws : List (List Char)) :
    joinWith ['-'] (w :: ws) = spelled w (ws.map fun v => (['-'], v)) := by
  induction ws generalizing w with
  | nil => simp [joinWith, spelled]
  | cons v ws ih =>
    rw [joinWith_cons_cons, ih v]
    simp [spelled]

theorem camelCase_joinWith (hwords : ∀ w ∈ words, IsNameWord w) :
    camelCase (String.ofList (joinWith ['-'] words)) false = String.ofList (camelWords words) := by
  cases words with
  | nil => exact camelCase_empty
  | cons w ws =>
    obtain ⟨hw, hws⟩ := List.forall_mem_cons.mp hwords
    have hrest : ∀ p ∈ ws.map fun v => (['-'], v), IsSeparator p.1 ∧ IsNameWord p.2 := by
      intro p hp
      obtain ⟨v, hv, rfl⟩ := List.mem_map.mp hp
      exact ⟨.inl rfl, hws v hv⟩
    rw [joinWith_hyphen_eq_spelled, camelCase_spelled hw hrest, List.map_map]
    simp [Function.comp_def]

theorem slash_not_mem_segment (hwords : ∀ w ∈ words, IsNameWord w) : '/' ∉ joinWith ['-'] words := by
  intro hmem
  rcases mem_joinWith hmem with hhyphen | ⟨w, hw, hmem⟩
  · exact absurd (List.mem_singleton.mp hhyphen) (by decide)
  · exact ((hwords w hw).2 '/' hmem).2.2.1 rfl

/-- The first segment of a path names the namespace, all words behind it the function. -/
theorem split_written {others : List (List (List Char))} (hwords : IsSegment words)
    (hothers : ∀ ws ∈ others, IsSegment ws) :
    split (written (words :: others)) =
      (String.ofList (camelWords words), String.ofList (camelWords others.flatten)) := by
  have hslash : ∀ x ∈ (words :: others).map (joinWith ['-']), '/' ∉ x := by
    intro x hx
    obtain ⟨ws, hws, rfl⟩ := List.mem_map.mp hx
    refine slash_not_mem_segment ?_
    rcases List.mem_cons.mp hws with rfl | hws
    · exact hwords.2
    · exact (hothers ws hws).2
  have hjoin : "-".intercalate ((others.map (joinWith ['-'])).map String.ofList) =
      String.ofList (joinWith ['-'] others.flatten) := by
    rw [intercalate_ofList, ← joinWith_flatten ['-'] fun ws hws => (hothers ws hws).1]
    rfl
  have hflat : ∀ w ∈ others.flatten, IsNameWord w := by
    intro w hw
    obtain ⟨ws, hws, hmem⟩ := List.mem_flatten.mp hw
    exact (hothers ws hws).2 w hmem
  unfold split written
  rw [String.toList_ofList, pieces_joinWith (by simp) hslash]
  show (camelCase (lower (String.ofList (joinWith ['-'] words))) false,
    camelCase ("-".intercalate ((others.map (joinWith ['-'])).map String.ofList)) false) = _
  rw [camelCase_lower, camelCase_joinWith hwords.2, hjoin, camelCase_joinWith hflat]

/-! ## Main result -/

/-- **Names by words.** The camel case of a name is that of its words, whatever separates them. So a path
of words has the names that its words make, and these do not depend on how the words behind the first
segment are grouped into segments. -/
theorem split_byWords :
    (∀ (first : List Char) (rest : List (List Char × List Char)), IsNameWord first →
      (∀ p ∈ rest, IsSeparator p.1 ∧ IsNameWord p.2) →
      camelCase (String.ofList (spelled first rest)) false =
        String.ofList (camelWords (first :: rest.map Prod.snd))) ∧
    ∀ (words : List (List Char)) (others : List (List (List Char))), IsSegment words →
      (∀ ws ∈ others, IsSegment ws) →
      split (written (words :: others)) =
          (String.ofList (camelWords words), String.ofList (camelWords others.flatten)) ∧
        ∀ others', (∀ ws ∈ others', IsSegment ws) → others'.flatten = others.flatten →
          split (written (words :: others')) = split (written (words :: others)) := by
  refine ⟨fun first rest => camelCase_spelled, fun words others hwords hothers => ?_⟩
  refine ⟨split_written hwords hothers, fun others' hothers' hflat => ?_⟩
  rw [split_written hwords hothers', split_written hwords hothers, hflat]

/-- Hyphens and slashes behind the first segment count alike, and so do hyphens and blanks in a name. -/
theorem split_byWords_pulls :
    let pull := "Pull".toList
    let requests := "REQUESTS".toList
    let get := "get".toList
    let all := "All2".toList
    IsNameWord pull ∧
      (∀ p ∈ [(" \n\t".toList, requests), (['-'], get)], IsSeparator p.1 ∧ IsNameWord p.2) ∧
      camelCase "Pull \n\tREQUESTS-get" false = "pullRequestsGet" ∧
      IsSegment [pull, requests] ∧ (∀ ws ∈ [[get, all]], IsSegment ws) ∧
      (∀ ws ∈ [[get], [all]], IsSegment ws) ∧
      split "Pull-REQUESTS/get-All2" = ("pullRequests", "getAll2") ∧
      split "Pull-REQUESTS/get/All2" = split "Pull-REQUESTS/get-All2" := by
  intro pull requests get all
  have hpull : IsNameWord pull := by decide
  have hrest : ∀ p ∈ [(" \n\t".toList, requests), (['-'], get)],
      IsSeparator p.1 ∧ IsNameWord p.2 := by decide
  have hsegment : IsSegment [pull, requests] := by decide
  have hone : ∀ ws ∈ [[get, all]], IsSegment ws := by decide
  have htwo : ∀ ws ∈ [[get], [all]], IsSegment ws := by decide
  have hspelled : String.ofList (spelled pull [(" \n\t".toList, requests), (['-'], get)]) =
      "Pull \n\tREQUESTS-get" := by decide
  have hgot : String.ofList (camelWords [pull, requests, get]) = "pullRequestsGet" := by decide
  have hjoined : written [[pull, requests], [get, all]] = "Pull-REQUESTS/get-All2" := by decide
  have hapart : written [[pull, requests], [get], [all]] = "Pull-REQUESTS/get/All2" := by decide
  have hwords : String.ofList (camelWords [pull, requests]) = "pullRequests" := by decide
  have hothers : String.ofList (camelWords [get, all]) = "getAll2" := by decide
  obtain ⟨hname, hpath⟩ := split_byWords
  have hcamel := hname pull [(" \n\t".toList, requests), (['-'], get)] hpull hrest
  obtain ⟨hsplit, hsame⟩ := hpath [pull, requests] [[get, all]] hsegment hone
  have hregrouped := hsame [[get], [all]] htwo rfl
  rw [hspelled] at hcamel
  rw [hjoined, hwords] at hsplit
  rw [hjoined, hapart] at hregrouped
  exact ⟨hpull, hrest, hcamel.trans hgot, hsegment, hone, htwo,
    hsplit.trans (congrArg _ hothers), hregrouped⟩

end RouteBook.RoutePath
