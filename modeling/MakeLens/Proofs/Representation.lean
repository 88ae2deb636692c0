import MakeLens.Proofs.Runs
import MakeLens.Proofs.ScanEntities

/-! # The representation invariant of the cache

    Queries rely on the form of the entries: that an entry stands under its own
    normal path and includes normal paths, so that includes are found where they are
    stored; that its entities carry this path; and that they stand in the order of
    their lines, so that the search for the definition in effect may stop at the
    first one below the line.

    The form holds after every run of operations that starts with an empty cache,
    whatever happens on the disk in between.
-/

namespace MakeLens

/-- The form of an entry stored under `path`. -/
structure FileIndex.WellFormed (path : FilePath) (entry : FileIndex) : Prop where
  path_eq : entry.path = path
  isNormal : path.IsNormal
  includes_isNormal : ∀ file ∈ entry.includes, file.IsNormal
  file_eq : ∀ e ∈ entry.entities, e.file = path
  lines_ascend : entry.entities.Pairwise fun a b => a.line ≤ b.line
  /-- Only assignments have a value. -/
  value_of_ne : ∀ e ∈ entry.entities, e.kind ≠ .assignment → e.value = ""
  /-- No value starts with a blank. -/
  value_trimmed : ∀ e ∈ entry.entities, ∀ c, e.value.toList.head? = some c → isBlank c = false

/-- The index of a text has this form under a normal path. -/
theorem FileIndex.wellFormed_ofText {path : FilePath} {text : List Char}
    (hnormal : path.IsNormal) (hlines : FewLines text) : (ofText path text).WellFormed path where
  path_eq := rfl
  isNormal := hnormal
  includes_isNormal := fun _ hmem => (mem_includes_ofText.1 hmem).isNormal
  file_eq := by
    intro e hmem
    obtain ⟨name, kind, value, line, column, rfl⟩ := mem_entities_scan hmem
    rfl
  lines_ascend := pairwise_entities_scan hlines path
  value_of_ne := by
    intro e hmem hkind
    obtain ⟨name, kind, value, line, column, rfl⟩ := mem_entities_scan hmem
    exact Entity.value_make_of_ne hkind
  value_trimmed := by
    intro e hmem c hfirst
    obtain ⟨name, kind, value, line, column, rfl⟩ := mem_entities_scan hmem
    exact Entity.head?_value_make hfirst

/-- After any run on texts that 32 bits can number the lines of, given or on the
    disk, every entry is well formed. -/
theorem Index.run_wellFormed (steps : List (Disk × Operation))
    (hgiven : ∀ step ∈ steps, ∀ file text,
      step.2.given? step.1 = some (file, text) → FewLines text)
    (hdisk : ∀ step ∈ steps, ∀ file text, step.1.text? file = some text → FewLines text) :
    ∀ path entry, (Index.empty.run steps).cache.get? path = some entry →
      entry.WellFormed path := by
  intro path entry h
  refine Index.run_invariant steps ?_ Index.empty ?_ h
  · rintro step hstep file built ⟨hnormal, content, rfl, hsource⟩
    apply FileIndex.wellFormed_ofText hnormal
    rcases hsource with hsource | hsource
    · exact hgiven step hstep file content hsource
    · exact hdisk step hstep file content hsource
  · intro file found hfound
    cases hfound

/-! ### A run with an include that changes on the disk -/

/-- A disk with one file next to the working directory's own entry. -/
def oneFileDisk (content : String) : Disk where
  nodes := [([Utf8.encode "w"], .directory),
    ([Utf8.encode "w", Utf8.encode "a.mk"], .file (Utf8.encode content))]
  workingPlace := [Utf8.encode "w"]

theorem text_of_oneFileDisk {content : String} {file : FilePath} {text : List Char}
    (h : (oneFileDisk content).text? file = some text) :
    text = Utf8.decodeLossy (Utf8.encode content) := by
  obtain ⟨place, bytes, hmem, rfl⟩ := Disk.exists_file_of_text? h
  rcases List.mem_cons.1 hmem with hmem | hmem
  · cases hmem
  · cases List.mem_singleton.1 hmem
    rfl

/-- A file is opened, the file it includes changes, and both are asked about. -/
def editedRun : List (Disk × Operation) :=
  [(oneFileDisk "A = 1", .reindex (.ofString "sub/../Makefile") "include ./a.mk\nB := $(A)".toList),
   (oneFileDisk "A =  2\nall: b", .invalidate (.ofString "a.mk")),
   (oneFileDisk "A =  2\nall: b", .hoverValue (.ofString "./Makefile") "B" 1)]

theorem editedRun_wellFormed :
    (∀ step ∈ editedRun, ∀ file text,
      step.2.given? step.1 = some (file, text) → FewLines text) ∧
    (∀ step ∈ editedRun, ∀ file text, step.1.text? file = some text → FewLines text) ∧
    (Index.empty.run editedRun).cache.size = 2 ∧
    ∀ path entry, (Index.empty.run editedRun).cache.get? path = some entry →
      entry.WellFormed path := by
  have hgiven : ∀ step ∈ editedRun, ∀ file text,
      step.2.given? step.1 = some (file, text) → FewLines text := by
    intro step hstep file text hfile
    simp only [editedRun, List.mem_cons, List.not_mem_nil, or_false] at hstep
    rcases hstep with rfl | rfl | rfl
    · cases hfile
      decide +kernel
    · cases hfile
    · cases hfile
  have hdisk : ∀ step ∈ editedRun, ∀ file text,
      step.1.text? file = some text → FewLines text := by
    intro step hstep file text hfile
    simp only [editedRun, List.mem_cons, List.not_mem_nil, or_false] at hstep
    rcases hstep with rfl | rfl | rfl
    · rw [text_of_oneFileDisk hfile]
      decide +kernel
    · rw [text_of_oneFileDisk hfile]
      decide +kernel
    · rw [text_of_oneFileDisk hfile]
      decide +kernel
  exact ⟨hgiven, hdisk, by decide +kernel, Index.run_wellFormed editedRun hgiven hdisk⟩

end MakeLens
