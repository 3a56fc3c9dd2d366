import RouteBook.Config
import RouteBook.Proofs.Fault.Bind
import RouteBook.Proofs.Request.Placement

/-!
# Addresses and the path prefix

The prefix of all paths is put before an address unless the address starts with it, character by
character (`withPrefix`). So the address always starts with the prefix and ends as the route has it, and
putting the prefix before it again changes nothing. It lies under the prefix unless the route's own
address goes on within the last segment of the prefix (`liesUnder_withPrefix_iff`,
`assemble_liesUnder`).
-/

namespace RouteBook.Assembly

variable {p url : List Char} {s : String}

/-! ## Segments -/

/-- An address lies under a prefix: it is the prefix, or a new segment follows the prefix. -/
def LiesUnder (p url : List Char) : Prop :=
  url = p ∨ p ++ ['/'] <+: url

/-- An address starts with the characters of a prefix, but the last segment of the prefix goes on in
it. -/
def Overruns (p url : List Char) : Prop :=
  ∃ c rest, url = p ++ c :: rest ∧ c ≠ '/'

theorem isPrefix_of_overruns (h : Overruns p url) : p <+: url := by
  obtain ⟨c, rest, rfl, -⟩ := h
  exact List.prefix_append p (c :: rest)

theorem liesUnder_iff_of_isPrefix (h : p <+: url) : LiesUnder p url ↔ ¬ Overruns p url := by
  obtain ⟨rest, rfl⟩ := h
  unfold LiesUnder Overruns
  rw [List.prefix_append_right_inj, List.append_right_eq_self]
  cases rest with
  | nil => simp
  | cons c rest => simp [eq_comm]

/-! ## Putting the prefix before an address -/

theorem withPrefix_of_isPrefix (h : s.toList <+: url) : withPrefix (some s) url = url := by
  show (if s.toList.isPrefixOf url then url else s.toList ++ url) = url
  rw [if_pos (List.isPrefixOf_iff_prefix.mpr h)]

theorem withPrefix_of_not_isPrefix (h : ¬ s.toList <+: url) :
    withPrefix (some s) url = s.toList ++ url := by
  show (if s.toList.isPrefixOf url then url else s.toList ++ url) = s.toList ++ url
  rw [if_neg (mt List.isPrefixOf_iff_prefix.mp h)]

theorem isPrefix_withPrefix (s : String) (url : List Char) : s.toList <+: withPrefix (some s) url := by
  by_cases h : s.toList <+: url
  · rwa [withPrefix_of_isPrefix h]
  · rw [withPrefix_of_not_isPrefix h]
    exact List.prefix_append s.toList url

theorem isSuffix_withPrefix (s : String) (url : List Char) : url <:+ withPrefix (some s) url := by
  by_cases h : s.toList <+: url
  · exact (withPrefix_of_isPrefix h).symm ▸ List.suffix_rfl
  · rw [withPrefix_of_not_isPrefix h]
    exact List.suffix_append s.toList url

theorem withPrefix_withPrefix (s : String) (url : List Char) :
    withPrefix (some s) (withPrefix (some s) url) = withPrefix (some s) url :=
  withPrefix_of_isPrefix (isPrefix_withPrefix s url)

/-- An address that starts with a slash comes to lie under the prefix, unless it overruns it. -/
theorem liesUnder_withPrefix_iff (hslash : ['/'] <+: url) :
    LiesUnder s.toList (withPrefix (some s) url) ↔ ¬ Overruns s.toList url := by
  by_cases h : s.toList <+: url
  · rw [withPrefix_of_isPrefix h]
    exact liesUnder_iff_of_isPrefix h
  · rw [withPrefix_of_not_isPrefix h]
    refine iff_of_true (Or.inr ?_) (mt isPrefix_of_overruns h)
    exact (List.prefix_append_right_inj s.toList).mpr hslash

/-! ## Routes without parameters -/

variable {route : Route} {text : String}

theorem assemble_of_nil (message : Message) (format : Format) (pathPrefix : Option String)
    (hparams : route.params = []) (hurl : route.url = .text text) :
    ∃ a, assemble message route format pathPrefix = .ok a ∧
      a.url = withPrefix pathPrefix text.toList := by
  refine ⟨start message route.path format (withPrefix pathPrefix text.toList), ?_, start_url ..⟩
  unfold assemble
  rw [hparams, hurl]
  rfl

/-- **Prefixed addresses.** A route without parameters whose address starts with a slash has an address
that ends with its own and that the same prefix leaves as it is. The address lies under the normal form
of the prefix exactly if the route's own address does not overrun that normal form. -/
theorem assemble_liesUnder (message : Message) (format : Format) (raw : String)
    (hparams : route.params = []) (hurl : route.url = .text text) (hslash : ['/'] <+: text.toList) :
    ∃ a, assemble message route format (some (Config.normalizePrefix raw)) = .ok a ∧
      text.toList <:+ a.url ∧
      (∀ (again : Route) (message' : Message) (format' : Format), again.params = [] →
        again.url = .text (String.ofList a.url) →
        ∃ b, assemble message' again format' (some (Config.normalizePrefix raw)) = .ok b ∧
          b.url = a.url) ∧
      (LiesUnder (Config.normalizePrefix raw).toList a.url ↔
        ¬ Overruns (Config.normalizePrefix raw).toList text.toList) := by
  obtain ⟨a, ha, haddress⟩ :=
    assemble_of_nil message format (some (Config.normalizePrefix raw)) hparams hurl
  refine ⟨a, ha, ?_, fun again message' format' hnone hagain => ?_, ?_⟩
  · rw [haddress]
    exact isSuffix_withPrefix _ _
  · obtain ⟨b, hb, hbaddress⟩ :=
      assemble_of_nil message' format' (some (Config.normalizePrefix raw)) hnone hagain
    refine ⟨b, hb, ?_⟩
    rw [hbaddress, String.toList_ofList, haddress, withPrefix_withPrefix]
  · rw [haddress]
    exact liesUnder_withPrefix_iff hslash

/-- A prefix without its leading slash and with one too many at the end. -/
theorem assemble_liesUnder_users :
    let route : Route :=
      { path := "users/list", space := "users", name := "list", url := .text "/users",
        method := "GET", params := [] }
    ∃ a, assemble [] route .query (some (Config.normalizePrefix "api/v3/")) = .ok a ∧
      LiesUnder "/api/v3".toList a.url ∧ "/users".toList <:+ a.url := by
  intro route
  have hnormal : Config.normalizePrefix "api/v3/" = "/api/v3" := by decide
  have hparams : route.params = [] := rfl
  obtain ⟨a, ha, hends, -, hunder⟩ :=
    assemble_liesUnder [] .query "api/v3/" hparams rfl (by decide)
  have hstays : ¬ Overruns (Config.normalizePrefix "api/v3/").toList "/users".toList := fun h =>
    absurd (isPrefix_of_overruns h) (by rw [hnormal]; decide)
  exact ⟨a, ha, hnormal ▸ hunder.mpr hstays, hends⟩

/-- An address that only shares its first characters with the prefix: it is taken for one that has the
prefix already. -/
theorem not_liesUnder_apiary :
    let route : Route :=
      { path := "hives/list", space := "hives", name := "list", url := .text "/apiary",
        method := "GET", params := [] }
    Config.normalizePrefix "api" = "/api" ∧
      ∃ a, assemble [] route .query (some (Config.normalizePrefix "api")) = .ok a ∧
        ¬ LiesUnder "/api".toList a.url := by
  intro route
  have hnormal : Config.normalizePrefix "api" = "/api" := by decide
  refine ⟨hnormal, _, rfl, ?_⟩
  unfold LiesUnder
  decide +kernel

end RouteBook.Assembly
