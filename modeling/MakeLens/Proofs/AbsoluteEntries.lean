import MakeLens.Uri
import MakeLens.Proofs.AbsolutePath
import MakeLens.Proofs.QueryAgreement
import MakeLens.Proofs.Rescan

/-! # Absolute paths in the cache

    Where there is a working directory, every operation brings its path into absolute form,
    and a file that is included from an absolute path is absolute again, since it is looked
    for in the directory of the including file. So all paths of a cache start at the root,
    and every place that a name is found at has a URI.

    There is one exception. The root directory has no directory above it, and a relative
    path in a text that is indexed for the root itself stays relative. The disk holds no
    text for the root, but an operation can give one. What holds along all other runs
    therefore asks that such a text names no relative path; the last lines of the module
    show what happens otherwise.
-/

namespace MakeLens

/-! ## Section 1: What an absolute file includes -/

namespace FilePath

/-- The root directory. -/
def root : FilePath := ⟨[slash]⟩

end FilePath

/-- No directive of `text` that includes something has a relative path. -/
def NamesAbsolute (text : List Char) : Prop :=
  ∀ directive ∈ (scan text .root).includes, '$' ∉ directive.2.toList →
    (FilePath.ofString directive.2).isAbsolute = true

/-- Outside the root directory itself the directives of an absolute file lead to absolute
    files, and there too where they are absolute. -/
theorem Directs.isAbsolute {file target : FilePath} {text : List Char}
    (h : Directs file text target) (hnormal : file.IsNormal) (hfile : file.isAbsolute = true)
    (hroot : file = .root → NamesAbsolute text) : target.isAbsolute = true := by
  obtain ⟨directive, hdirective, hdollar, rfl⟩ := h
  by_cases heq : file = .root
  · subst heq
    have hraw := hroot rfl directive hdirective hdollar
    unfold FilePath.resolveInclude
    simp only [hraw, if_true]
    exact FilePath.isAbsolute_normalize hraw
  · exact FilePath.isAbsolute_resolveInclude hnormal hfile heq directive.2

/-! ## Section 2: Runs -/

/-- Where an operation gives a text for the root directory, the text names no relative
    path. -/
def Operation.SparesRoot (disk : Disk) (operation : Operation) : Prop :=
  ∀ text, operation.given? disk = some (.root, text) → NamesAbsolute text

/-- A normal path from the root. -/
def FilePath.IsRooted (path : FilePath) : Prop :=
  path.IsNormal ∧ path.isAbsolute = true

theorem spreads_isRooted {disk : Disk} {operation : Operation}
    (hworking : disk.workingDirectory?.isSome = true) (h : operation.SparesRoot disk) :
    Spreads FilePath.IsRooted disk (operation.given? disk) where
  absolute := fun path => ⟨disk.isNormal_absolute path, Disk.isAbsolute_absolute hworking path⟩
  directed := by
    intro file text target hgiven htarget
    -- a text is given for a path in absolute form
    obtain ⟨path, rfl⟩ : ∃ path, file = disk.absolute path := by
      cases operation with
      | ensure path given =>
        cases given with
        | none => cases hgiven
        | some given => exact ⟨path, by cases hgiven; rfl⟩
      | reindex path given => exact ⟨path, by cases hgiven; rfl⟩
      | _ => cases hgiven
    refine ⟨htarget.isNormal, htarget.isAbsolute (disk.isNormal_absolute path)
      (Disk.isAbsolute_absolute hworking path) ?_⟩
    intro hroot
    rw [hroot] at hgiven
    exact h text hgiven
  passed := by
    rintro file text target ⟨hnormal, habsolute⟩ htext htarget
    refine ⟨htarget.isNormal, htarget.isAbsolute hnormal habsolute ?_⟩
    -- the root is a directory
    rintro rfl
    rw [FilePath.root, disk.text?_root] at htext
    cases htext

/-- An entry under an absolute path that includes absolute paths. -/
structure FileIndex.IsRooted (path : FilePath) (entry : FileIndex) : Prop where
  path_absolute : path.isAbsolute = true
  includes_absolute : ∀ target ∈ entry.includes, target.isAbsolute = true

theorem Built.isRooted {disk : Disk} {given : Option (FilePath × List Char)} {file : FilePath}
    {entry : FileIndex} (hspreads : Spreads FilePath.IsRooted disk given)
    (h : Built FilePath.IsRooted disk given file entry) : entry.IsRooted file := by
  obtain ⟨hfile, content, rfl, hsource⟩ := h
  refine ⟨hfile.2, ?_⟩
  intro target hmem
  have htarget := mem_includes_ofText.1 hmem
  rcases hsource with hgiven | hdisk
  · exact (hspreads.directed file content target hgiven htarget).2
  · exact (hspreads.passed file content target hfile hdisk htarget).2

namespace Index

theorem run_isRooted {steps : List (Disk × Operation)}
    (hworking : ∀ step ∈ steps, step.1.workingDirectory?.isSome = true)
    (hroot : ∀ step ∈ steps, step.2.SparesRoot step.1) {file : FilePath} {entry : FileIndex}
    (h : (Index.empty.run steps).cache.get? file = some entry) : entry.IsRooted file := by
  have hspreads : ∀ step ∈ steps, Spreads FilePath.IsRooted step.1 (step.2.given? step.1) :=
    fun step hstep => spreads_isRooted (hworking step hstep) (hroot step hstep)
  refine run_property steps hspreads ?_ Index.empty ?_ h
  · exact fun step hstep file entry hbuilt => hbuilt.isRooted (hspreads step hstep)
  · intro file entry hget
    cases hget

/-! ## Section 3: Places -/

/-- A place of a name lies in a file that has an entry. -/
theorem contains_of_mem_locations {cache : Cache} (htexts : cache.FromTexts) {file : FilePath}
    {name : String} {location : Location} (h : location ∈ locations cache file name) :
    cache.contains location.file = true := by
  obtain ⟨seen, -, hmem⟩ := List.mem_flatMap.1 h
  cases hget : cache.get? seen with
  | none =>
    rw [hget] at hmem
    cases hmem
  | some entry =>
    rw [hget] at hmem
    obtain ⟨e, he, rfl⟩ := List.mem_map.1 hmem
    obtain ⟨text, rfl⟩ := htexts seen entry hget
    have hentity : e ∈ (scan text seen).entities := FileIndex.mem_entities_of_mem_lookup he
    obtain ⟨_, kind, value, line, column, rfl⟩ := mem_entities_scan hentity
    exact Cache.contains_of_get? hget

end Index

theorem Uri.exists_ofFilePath? {path : FilePath} (h : path.isAbsolute = true) :
    ∃ text, Uri.ofFilePath? path = some text := by
  obtain ⟨inner, hcomponents, -⟩ := FilePath.components_of_isAbsolute h
  unfold Uri.ofFilePath?
  rw [hcomponents]
  exact ⟨_, rfl⟩

namespace Index

/-- After any run from an empty cache in which no text given for the root directory names a
    relative path, whatever the operations, the texts and the disks are, as long as there is
    a working directory:
    1. every path that has an entry is absolute, and so is every path that the entry
       includes;
    2. every place that is found for a name afterwards, on whatever disk and from whatever
       file, has the URI of a file. -/
theorem run_absolute (steps : List (Disk × Operation))
    (hworking : ∀ step ∈ steps, step.1.workingDirectory?.isSome = true)
    (hroot : ∀ step ∈ steps, step.2.SparesRoot step.1) :
    let index := Index.empty.run steps
    (∀ path entry, index.cache.get? path = some entry →
      path.isAbsolute = true ∧ ∀ file ∈ entry.includes, file.isAbsolute = true) ∧
    ∀ (disk : Disk) (path : FilePath) (name : String), disk.workingDirectory?.isSome = true →
      ∀ location ∈ (index.definitions disk path name).2,
        ∃ uri, Uri.ofFilePath? location.file = some uri := by
  intro index
  constructor
  · intro path entry h
    have hrooted := run_isRooted hworking hroot h
    exact ⟨hrooted.path_absolute, hrooted.includes_absolute⟩
  · intro disk path name hasked location hlocation
    -- the question is one more step, and gives no text
    let last : Disk × Operation := (disk, .definitions path name)
    have hworking' : ∀ step ∈ steps ++ [last], step.1.workingDirectory?.isSome = true := by
      intro step hstep
      rcases List.mem_append.1 hstep with hstep | hstep
      · exact hworking step hstep
      · obtain rfl := List.mem_singleton.1 hstep
        exact hasked
    have hroot' : ∀ step ∈ steps ++ [last], step.2.SparesRoot step.1 := by
      intro step hstep
      rcases List.mem_append.1 hstep with hstep | hstep
      · exact hroot step hstep
      · obtain rfl := List.mem_singleton.1 hstep
        intro text hgiven
        cases hgiven
    have hrun : (Index.empty.run (steps ++ [last])).cache =
        (index.definitions disk path name).1.cache := by
      rw [run_append]
      rfl
    have htexts := run_fromTexts (steps ++ [last])
    rw [hrun] at htexts
    have hcached : (index.definitions disk path name).1.cache.contains location.file = true :=
      contains_of_mem_locations htexts hlocation
    obtain ⟨entry, hget⟩ := Option.isSome_iff_exists.1 hcached
    rw [← hrun] at hget
    exact Uri.exists_ofFilePath? (run_isRooted hworking' hroot' hget).path_absolute

end Index

/-! ### A text for the root directory -/

/-- The root directory is given a text, with a file in the working directory. -/
def rootRun (text : String) : List (Disk × Operation) :=
  [(oneFileDisk "A = 1", .reindex .root text.toList)]

/-- The places of a name as seen from the root directory, after a text was given for it that
    includes the file in the working directory under the path `file`. -/
theorem definitions_rootRun {text : String} {file : FilePath}
    (hroot : (Index.empty.run (rootRun text)).cache.includesOf .root = [file])
    (hne : file ≠ .root) (hfile : (Index.empty.run (rootRun text)).cache.includesOf file = [])
    (name : String) :
    ((Index.empty.run (rootRun text)).definitions (oneFileDisk "") .root name).2 =
      [FilePath.root, file].flatMap fun seen =>
        ((((Index.empty.run (rootRun text)).cache.get? seen).map fun index =>
          index.lookup name).getD []).map Entity.location := by
  have habsolute : (oneFileDisk "").absolute .root = .root := by decide +kernel
  have hcached : (Index.empty.run (rootRun text)).cache.contains
      ((oneFileDisk "").absolute .root) = true := by
    apply Cache.contains_of_get?
    exact Index.get?_takeText_self Index.empty _ text.toList rfl
  rw [Index.definitions_of_contains hcached, habsolute]
  unfold Index.locations
  rw [Cache.includeClosure_eq_singleton hroot hne (by simp [hfile])]

/-- With an absolute path in the text all is well: the file in the working directory is
    found from the root, and the place of a name in it has a URI. -/
theorem run_absolute_rootRun :
    let steps := rootRun "include /w/a.mk"
    let index := Index.empty.run steps
    let place : Location := ⟨.ofString "/w/a.mk", 0, 0, 0, 1⟩
    (∀ step ∈ steps, step.1.workingDirectory?.isSome = true) ∧
    (∀ step ∈ steps, step.2.SparesRoot step.1) ∧
    (index.cache.size = 2 ∧ ∀ path entry, index.cache.get? path = some entry →
      path.isAbsolute = true ∧ ∀ file ∈ entry.includes, file.isAbsolute = true) ∧
    place ∈ (index.definitions (oneFileDisk "") .root "A").2 ∧
    ∃ uri, Uri.ofFilePath? place.file = some uri := by
  intro steps index place
  have htext : NamesAbsolute "include /w/a.mk".toList := by
    unfold NamesAbsolute
    decide +kernel
  have hroot : ∀ step ∈ steps, step.2.SparesRoot step.1 := by
    intro step hstep text hgiven
    obtain rfl := List.mem_singleton.1 hstep
    cases hgiven
    exact htext
  have hworking : ∀ step ∈ steps, step.1.workingDirectory?.isSome = true := by
    intro step hstep
    obtain rfl := List.mem_singleton.1 hstep
    decide +kernel
  have hincludes : index.cache.includesOf .root = [.ofString "/w/a.mk"] := by decide +kernel
  have hplace : place ∈ (index.definitions (oneFileDisk "") .root "A").2 := by
    dsimp only [index, steps]
    rw [definitions_rootRun hincludes
      (by decide +kernel) (by decide +kernel)]
    decide +kernel
  obtain ⟨hpaths, hplaces⟩ := Index.run_absolute steps hworking hroot
  exact ⟨hworking, hroot, ⟨by decide +kernel, hpaths⟩, hplace,
    hplaces (oneFileDisk "") .root "A" (by decide +kernel) place hplace⟩

/-- With a relative path the file of the working directory gets an entry under its relative
    path, and the name in it a place without a URI. -/
theorem relative_below_root :
    let index := Index.empty.run (rootRun "include a.mk")
    let path := FilePath.ofString "a.mk"
    path.isAbsolute = false ∧ index.cache.contains path = true ∧
    index.cache.includesOf .root = [path] ∧
    (index.definitions (oneFileDisk "") .root "A").2 = [⟨path, 0, 0, 0, 1⟩] ∧
    Uri.ofFilePath? path = none := by
  intro index path
  have hincludes : index.cache.includesOf .root = [path] := by decide +kernel
  refine ⟨by decide +kernel, by decide +kernel, hincludes, ?_, by decide +kernel⟩
  dsimp only [index]
  rw [definitions_rootRun hincludes (by decide +kernel) (by decide +kernel)]
  decide +kernel

end MakeLens
