import RouteBook.Proofs.Fault.Bind
import RouteBook.Proofs.Text.Pieces
import RouteBook.Request.Files

/-!
# Sizes and octets of files

The size of a file is asked for under the tidy form of its path, and its octets are read under the path
itself, chunk by chunk. The chunks are the file again (`flatten_chunks`), and the tidy form names the same
file (`find_tidy`), so the size is the number of the octets that are read (`size_tidy_of_read`).
-/

namespace RouteBook.Files

open Text

variable {files : Files} {path : String}

/-! ## Chunks -/

theorem flatten_chunks (octets : List UInt8) : (chunks octets).flatten = octets := by
  induction octets using chunks.induct with
  | case1 octets h =>
    rw [chunks, if_pos h, List.isEmpty_iff.mp h]
    rfl
  | case2 octets h ih =>
    rw [chunks, if_neg h, List.flatten_cons, ih, List.take_append_drop]

theorem find_of_read {octets : List UInt8} (h : files.read path = .ok octets) :
    files.find path = .ok (.file octets) := by
  obtain ⟨node, hnode, h⟩ := bind_eq_ok_iff.mp h
  cases node with
  | directory => exact nomatch h
  | file content =>
    dsimp only at h
    split at h
    · exact nomatch h
    · rw [hnode, ← Except.ok.inj h, flatten_chunks]

theorem size_of_find {octets : List UInt8} (h : files.find path = .ok (.file octets)) :
    files.size path = .ok octets.length := by
  unfold size
  rw [h]
  rfl

/-! ## Tidy paths -/

theorem parts_cons (cs : List Char) : parts ('/' :: cs) = parts cs := by
  unfold parts
  rw [pieces, if_pos rfl, List.map_cons, List.filter_cons_of_neg (by decide)]

theorem toList_of_mem_parts {cs : List Char} {part : String} (h : part ∈ parts cs) :
    part ≠ "" ∧ part ≠ "." ∧ '/' ∉ part.toList := by
  obtain ⟨hmem, hkept⟩ := List.mem_filter.mp h
  obtain ⟨piece, hpiece, rfl⟩ := List.mem_map.mp hmem
  rw [Bool.and_eq_true, bne_iff_ne, bne_iff_ne] at hkept
  refine ⟨hkept.1, hkept.2, ?_⟩
  rw [String.toList_ofList]
  exact not_mem_of_mem_pieces hpiece

theorem parts_joined (cs : List Char) :
    parts (joinWith ['/'] ((parts cs).map String.toList)) = parts cs := by
  have hparts : ∀ part ∈ parts cs, part ≠ "" ∧ part ≠ "." ∧ '/' ∉ part.toList :=
    fun _ => toList_of_mem_parts
  generalize parts cs = names at hparts
  by_cases hne : names = []
  · rw [hne]
    decide
  · have hslash : ∀ x ∈ names.map String.toList, '/' ∉ x := by
      intro x hx
      obtain ⟨part, hpart, rfl⟩ := List.mem_map.mp hx
      exact (hparts part hpart).2.2
    have hkeep : ∀ part ∈ names, (part != "" && part != ".") = true := by
      intro part hpart
      obtain ⟨hempty, hpoint, -⟩ := hparts part hpart
      simp [hempty, hpoint]
    rw [parts, pieces_joinWith (mt List.map_eq_nil_iff.mp hne) hslash, List.map_map]
    simp only [Function.comp_def, String.ofList_toList, List.map_id']
    exact List.filter_eq_self.mpr hkeep

theorem head?_joined (cs : List Char) :
    (joinWith ['/'] ((parts cs).map String.toList)).head? ≠ some '/' := by
  cases hnames : parts cs with
  | nil => exact nofun
  | cons part rest =>
    obtain ⟨hempty, -, hslash⟩ := toList_of_mem_parts (hnames ▸ List.mem_cons_self)
    obtain ⟨more, hmore⟩ := exists_joinWith_cons ['/'] part.toList (rest.map String.toList)
    rw [List.map_cons, hmore]
    cases hpart : part.toList with
    | nil => exact absurd (String.toList_eq_nil_iff.mp hpart) hempty
    | cons c front =>
      rintro h
      rw [hpart, Option.some.inj h] at hslash
      exact hslash List.mem_cons_self

theorem root_cases (cs : List Char) :
    cs.head? = some '/' ∧ (root cs = "/" ∨ root cs = "//") ∨ cs.head? ≠ some '/' ∧ root cs = "" := by
  cases cs with
  | nil => exact .inr ⟨nofun, rfl⟩
  | cons c rest =>
    by_cases hc : c = '/'
    · subst hc
      refine .inl ⟨rfl, ?_⟩
      unfold root
      split <;> simp_all
    · refine .inr ⟨by simpa using hc, ?_⟩
      unfold root
      split <;> simp_all

theorem tidy_spec (path : String) :
    isAbsolute (tidy path) = isAbsolute path ∧ parts (tidy path).toList = parts path.toList := by
  have hrest : ("/".intercalate (parts path.toList)).toList =
      joinWith ['/'] ((parts path.toList).map String.toList) := toList_intercalate "/" _
  have hparts := parts_joined path.toList
  have hhead := head?_joined path.toList
  rw [← hrest] at hparts hhead
  unfold tidy isAbsolute
  dsimp only
  rcases root_cases path.toList with ⟨hslash, hroot⟩ | ⟨hslash, hroot⟩
  · rcases hroot with hroot | hroot
    · rw [hroot, if_neg (by simp), hslash, String.toList_append]
      refine ⟨rfl, ?_⟩
      show parts ('/' :: ("/".intercalate (parts path.toList)).toList) = _
      rw [parts_cons, hparts]
    · rw [hroot, if_neg (by simp), hslash, String.toList_append]
      refine ⟨rfl, ?_⟩
      show parts ('/' :: '/' :: ("/".intercalate (parts path.toList)).toList) = _
      rw [parts_cons, parts_cons, hparts]
  · rw [hroot, beq_eq_false_iff_ne.mpr hslash]
    by_cases hempty : "/".intercalate (parts path.toList) = ""
    · -- The path says nothing, and neither does the point in its place.
      rw [hempty] at hparts ⊢
      exact ⟨by decide, hparts⟩
    · rw [if_neg (by simpa using hempty), String.empty_append]
      exact ⟨beq_eq_false_iff_ne.mpr hhead, hparts⟩

theorem find_tidy (files : Files) (path : String) : files.find (tidy path) = files.find path := by
  obtain ⟨hroot, hparts⟩ := tidy_spec path
  unfold find alike
  rw [hroot, hparts]

/-- The size of a file that can be read is the number of its octets. -/
theorem size_tidy_of_read {octets : List UInt8} (h : files.read path = .ok octets) :
    files.size (tidy path) = .ok octets.length :=
  size_of_find ((find_tidy files path).trans (find_of_read h))

end RouteBook.Files
