import RouteBook.Client.Build
import RouteBook.Proofs.Schema.Table

/-!
# Namespaces as attributes

The names of a client's namespaces come from its schema, and they share one space of names with the
client's own names and with the functions that give namespaces. Own names come first, then names that
start with a low line are refused, then come namespaces, then functions. So a namespace is found by its
name unless the name is an own one or starts with a low line, and the function of a namespace gives it,
whatever its name is, unless another namespace has the name of the function or shares it
(`namespaces_reachable`).
-/

namespace RouteBook

/-! ## The names of accessors -/

theorem exists_toList_accessorName (space : String) :
    ∃ rest, (accessorName space).toList = 'g' :: rest := by
  unfold accessorName
  split
  · exact ⟨_, rfl⟩
  · exact ⟨_, by rw [String.toList_append, String.toList_append]; rfl⟩

namespace Client

theorem isReserved_accessorName (space : String) : isReserved (accessorName space) = false := by
  obtain ⟨rest, hrest⟩ := exists_toList_accessorName space
  unfold isReserved
  rw [hrest]
  rfl

theorem accessorName_not_mem_ownNames (space : String) : accessorName space ∉ ownNames := by
  intro hmem
  obtain ⟨rest, hrest⟩ := exists_toList_accessorName space
  have hown : ∀ name ∈ ownNames, name.toList.head? ≠ some 'g' := by decide +kernel
  exact hown _ hmem (by rw [hrest]; rfl)

/-! ## What names stand for -/

variable {c : Client} {name space : String}

theorem meaning_of_reserved (hown : name ∉ ownNames) (hreserved : isReserved name = true) :
    c.meaning name = .missing name := by
  unfold meaning
  rw [if_neg (by simpa using hown), if_pos hreserved]

theorem meaning_of_space (hown : name ∉ ownNames) (hreserved : isReserved name = false)
    (hspace : name ∈ c.table.namespaces.keys) : c.meaning name = .space name := by
  unfold meaning
  rw [if_neg (by simpa using hown), if_neg (Bool.eq_false_iff.mp hreserved),
    if_pos (Entries.has_of_mem hspace)]

theorem meaning_of_accessor (hown : name ∉ ownNames) (hreserved : isReserved name = false)
    (hspace : name ∉ c.table.namespaces.keys) (hget : c.table.accessors.get? name = some space) :
    c.meaning name = .accessor space := by
  have hnot : ¬ c.table.namespaces.has name = true := by
    unfold Entries.has
    rw [Entries.get?_of_not_mem hspace]
    exact Bool.false_ne_true
  unfold meaning
  rw [if_neg (by simpa using hown), if_neg (Bool.eq_false_iff.mp hreserved), if_neg hnot, hget]

theorem get?_accessors (hspace : space ∈ c.table.namespaces.keys)
    (hdistinct : ∀ other ∈ c.table.namespaces.keys,
      accessorName other = accessorName space → other = space) :
    c.table.accessors.get? (accessorName space) = some space := by
  obtain ⟨e, he, rfl⟩ := List.mem_map.mp hspace
  refine Entries.get?_ofList_of_mem (List.mem_map_of_mem he) fun p hp hname => ?_
  obtain ⟨other, hother, rfl⟩ := List.mem_map.mp hp
  exact hdistinct _ (Entries.mem_keys hother) hname

/-! ## Clients that were built -/

variable {api : ApiClass} {config : Config} {env : Environment} {files : Files} {owns : Bool}
  {client : Client} {lines : List LogLine} {es : Entries (Endpoint Implementation)}

theorem keys_of_build (h : build api config env files owns = .ok (client, lines)) :
    client.table.namespaces.keys.Sublist api.sections.keys := by
  unfold build at h
  obtain ⟨schema, -, h⟩ := bind_eq_ok_iff.mp h
  obtain ⟨version, -, h⟩ := bind_eq_ok_iff.mp h
  split at h
  · exact nomatch h
  · rename_i t htable
    obtain ⟨rfl, -⟩ := Prod.mk.inj (Except.ok.inj h)
    exact Compile.keys_table htable

/-- **Namespaces are within reach.** A namespace of a client is what its name stands for, unless the
client has a name of its own like that or the name starts with a low line, and then it stands for no
namespace. The function that is called after a namespace gives it, whatever its name, as long as no
namespace is called like the function and no other one has a function of that name. -/
theorem namespaces_reachable (hbuild : build api config env files owns = .ok (client, lines))
    (hsections : api.sections.keys.Nodup) (hspace : (space, es) ∈ client.table.namespaces) :
    client.table.namespaces.get? space = some es ∧
      (space ∉ ownNames → isReserved space = false → client.meaning space = .space space) ∧
      (space ∉ ownNames → isReserved space = true → client.meaning space = .missing space) ∧
      (accessorName space ∉ client.table.namespaces.keys →
        (∀ other ∈ client.table.namespaces.keys,
          accessorName other = accessorName space → other = space) →
        client.meaning (accessorName space) = .accessor space) := by
  have hkey := Entries.mem_keys hspace
  have hkeys : client.table.namespaces.keys.Nodup := (keys_of_build hbuild).nodup hsections
  refine ⟨Entries.get?_of_mem hkeys hspace, fun hown hplain => ?_, fun hown hreserved => ?_,
    fun hfree hdistinct => ?_⟩
  · exact meaning_of_space hown hplain hkey
  · exact meaning_of_reserved hown hreserved
  · exact meaning_of_accessor (accessorName_not_mem_ownNames space) (isReserved_accessorName space)
      hfree (get?_accessors hkey hdistinct)

/-- Two namespaces, of which one has capitals inside its name. -/
theorem namespaces_reachable_pullRequests :
    let block : Value := .map [("url", .text "/a"), ("params", .map [])]
    let api : ApiClass :=
      { name := "Hub", version := .text "1"
        schema := .map [("pull-requests", .map [("get", block)]), ("repos", .map [("get", block)])]
        sections := [("pullRequests", [("get", some .forward)]), ("repos", [("get", some .forward)])] }
    ∃ client lines es, build api .withoutProxy [] [] true = .ok (client, lines) ∧
      client.table.namespaces.get? "pullRequests" = some es ∧
      client.meaning "pullRequests" = .space "pullRequests" ∧
      client.meaning "getPullRequestsApi" = .accessor "pullRequests" := by
  intro block api
  have hspaces : (build api .withoutProxy [] [] true).map (fun r => r.1.table.namespaces.keys) =
      .ok ["pullRequests", "repos"] := by decide +kernel
  obtain ⟨⟨client, lines⟩, hbuild, hkeys⟩ := map_eq_ok_iff.mp hspaces
  have hmem : "pullRequests" ∈ client.table.namespaces.keys := by
    rw [hkeys]
    exact List.mem_cons_self
  obtain ⟨⟨space, es⟩, he, rfl⟩ := List.mem_map.mp hmem
  obtain ⟨hget, hspace, -, haccessor⟩ := namespaces_reachable hbuild (by decide) he
  refine ⟨client, lines, es, hbuild, hget, hspace (by decide) (by decide), haccessor ?_ ?_⟩
  · rw [hkeys]
    decide +kernel
  · rw [hkeys]
    decide +kernel

/-- A namespace whose name starts with a low line is refused as an attribute. -/
theorem namespace_refused_lowLine :
    let block : Value := .map [("url", .text "/a"), ("params", .map [])]
    let api : ApiClass :=
      { name := "Hub", version := .text "1", schema := .map [("_internal", .map [("get", block)])]
        sections := [("_internal", [("get", some .forward)])] }
    ∃ client lines, build api .withoutProxy [] [] true = .ok (client, lines) ∧
      client.table.namespaces.keys = ["_internal"] ∧
      client.meaning "_internal" = .missing "_internal" := by
  intro block api
  have hspaces : (build api .withoutProxy [] [] true).map
      (fun r => (r.1.table.namespaces.keys, r.1.meaning "_internal")) =
        .ok (["_internal"], .missing "_internal") := by decide +kernel
  obtain ⟨⟨client, lines⟩, hbuild, hfound⟩ := map_eq_ok_iff.mp hspaces
  obtain ⟨hkeys, hmeaning⟩ := Prod.mk.inj hfound
  exact ⟨client, lines, hbuild, hkeys, hmeaning⟩

end Client

end RouteBook
