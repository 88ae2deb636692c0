import MakeLens.Proofs.Frame

/-! # The order of indexing

    Making sure of one file after the other stores different files at each step when
    the files come in another order: what one step has stored stops the steps after it.
    In the end the order does not matter.

    The files met from a start, through files that are on the disk and not in the cache,
    are described without any order (`MetFrom`). A whole list of files stores what is
    met from one of them in the cache *before the first step*. A way that a stored file
    stops later on is not lost, since with that file everything behind it was stored;
    this holds although entries from before the first step stop ways too, and need not
    have their own includes cached.
-/

namespace MakeLens

/-! ## Section 1: The files met -/

/-- The files met from `start` along include directives. The way goes on from a file that
    is on the disk and not in the cache. -/
inductive MetFrom (disk : Disk) (cache : Cache) (start : FilePath) : FilePath → Prop where
  | start : MetFrom disk cache start start
  | through {file target : FilePath} {content : List Char} :
      MetFrom disk cache start file → cache.contains file = false →
      disk.text? file = some content → Directs file content target →
      MetFrom disk cache start target

/-- The files met from one of several paths. -/
def MetFromAny (disk : Disk) (cache : Cache) (paths : List FilePath) (file : FilePath) : Prop :=
  ∃ path ∈ paths, MetFrom disk cache (disk.absolute path) file

theorem metFromAny_of_mem {disk : Disk} {cache : Cache} {paths : List FilePath} {path : FilePath}
    (h : path ∈ paths) : MetFromAny disk cache paths (disk.absolute path) :=
  ⟨path, h, .start⟩

theorem metFromAny_passes (disk : Disk) (cache : Cache) (paths : List FilePath) :
    (Pass.start cache).Passes disk (MetFromAny disk cache paths) := by
  rintro file content target ⟨path, hpath, hmet⟩ hfresh hcontent htarget
  exact ⟨path, hpath, .through hmet (Pass.isFresh_start.1 hfresh) hcontent htarget⟩

/-! ## Section 2: One step -/

namespace Pass

/-- Takes in a file and forgets the failures that were met. -/
def visitFile (disk : Disk) (pass : Pass) (file : FilePath) : Pass where
  cache := (visitInclude disk (indexText disk) pass file).cache
  inProgress := (visitInclude disk (indexText disk) pass file).inProgress
  failures := []

/-- Failures have no part in what is stored. -/
theorem visitFile_visits (disk : Disk) (P : FilePath → Prop) :
    Visits disk (nesting disk) P (visitFile disk) := by
  intro pass file hnormal hfile hpasses hroom
  have htakes : TakesIn disk (nesting disk) (indexText disk) := indexNested_takesIn disk _
  obtain ⟨new, hgrows, hclosed, hsettled⟩ :=
    visitInclude_visits htakes pass file hnormal hfile hpasses hroom
  exact ⟨new, ⟨hgrows.nodup, hgrows.property, hgrows.fresh, hgrows.stored, hgrows.kept,
    hgrows.scans, hgrows.inProgress⟩, hclosed, hsettled⟩

end Pass

namespace Index

variable {index : Index} {disk : Disk}

theorem provide_of_uncached (disk : Disk) {path : FilePath}
    (h : index.cache.contains path = false) :
    index.provide disk path none = index.takeFile disk path := by
  unfold provide
  rw [if_neg (by simp [h])]

/-- Making sure of a file stores what a visit to it stores. -/
theorem cache_ensure (index : Index) (disk : Disk) (path : FilePath) :
    (index.ensure disk path none).1.cache =
      (Pass.visitInclude disk (Pass.indexText disk) (.start index.cache)
        (disk.absolute path)).cache := by
  show (index.provide disk (disk.absolute path) none).1.cache = _
  cases hcached : index.cache.contains (disk.absolute path) with
  | true =>
    have hstale : (Pass.start index.cache).isFresh (disk.absolute path) = false := by
      simp [Pass.isFresh, Pass.start, hcached]
    rw [provide_of_contains disk none hcached, Pass.visitInclude_of_not_fresh hstale]
    rfl
  | false =>
    have hfresh : (Pass.start index.cache).isFresh (disk.absolute path) = true :=
      Pass.isFresh_start.2 hcached
    rw [provide_of_uncached disk hcached]
    cases htext : disk.text? (disk.absolute path) with
    | none =>
      rw [takeFile_of_unreadable htext, (Pass.visitInclude_of_unreadable _ _ htext).1]
      rfl
    | some text =>
      rw [takeFile_of_text htext, Pass.visitInclude_of_text hfresh htext]
      rfl

/-- Between two operations no file is in progress and no failure is remembered. -/
theorem start_ensure (index : Index) (disk : Disk) (path : FilePath) :
    Pass.start (index.ensure disk path none).1.cache =
      (Pass.start index.cache).visitFile disk (disk.absolute path) := by
  obtain ⟨new, hgrows, -, -⟩ :=
    Pass.visitFile_visits disk (fun _ => True) (Pass.start index.cache) (disk.absolute path)
      (disk.isNormal_absolute path) trivial (fun _ _ _ _ _ _ _ => trivial)
      (Nat.le_succ_of_le (Pass.length_pending_le_nodes disk _))
  have hidle : (Pass.visitInclude disk (Pass.indexText disk) (.start index.cache)
      (disk.absolute path)).inProgress = [] := hgrows.inProgress
  unfold Pass.visitFile
  rw [cache_ensure, hidle]
  rfl

/-! ## Section 3: A list of files -/

/-- The steps that make sure of each path of a list. -/
def ensureEach (disk : Disk) (paths : List FilePath) : List (Disk × Operation) :=
  paths.map fun path => (disk, .ensure path none)

theorem start_run_ensureEach (index : Index) (disk : Disk) (paths : List FilePath) :
    Pass.start (index.run (ensureEach disk paths)).cache =
      (paths.map disk.absolute).foldl (Pass.visitFile disk) (.start index.cache) := by
  induction paths generalizing index with
  | nil => rfl
  | cons path rest ih =>
    show Pass.start ((index.ensure disk path none).1.run (ensureEach disk rest)).cache = _
    rw [ih, start_ensure]
    rfl

/-- What a list of files stores: the files met from one of them, as the cache was before
    the first step, that are on the disk and not in the cache. -/
theorem run_ensureEach_exact (index : Index) (disk : Disk) (paths : List FilePath) :
    ∃ new, Pass.Grows disk (MetFromAny disk index.cache paths) (.start index.cache)
        (.start (index.run (ensureEach disk paths)).cache) new ∧
      ∀ file, file ∈ new ↔ MetFromAny disk index.cache paths file ∧
        index.cache.contains file = false ∧ ∃ content, disk.text? file = some content := by
  have hfiles : ∀ file ∈ paths.map disk.absolute,
      file.IsNormal ∧ MetFromAny disk index.cache paths file := by
    intro file hmem
    obtain ⟨path, hpath, rfl⟩ := List.mem_map.1 hmem
    exact ⟨disk.isNormal_absolute path, metFromAny_of_mem hpath⟩
  obtain ⟨new, hgrows, hclosed, hsettled⟩ :=
    Pass.foldl_visits (Pass.visitFile_visits disk (MetFromAny disk index.cache paths)) hfiles
      (metFromAny_passes disk index.cache paths)
      (Nat.le_succ_of_le (Pass.length_pending_le_nodes disk _))
  rw [← start_run_ensureEach] at hgrows hclosed hsettled
  -- a file that a later step did not enter because it was cached was stored on the way,
  -- so what it includes was met there
  have hmet : ∀ path ∈ paths, ∀ file, MetFrom disk index.cache (disk.absolute path) file →
      (Pass.start (index.run (ensureEach disk paths)).cache).Settled disk file := by
    intro path hpath file hmet
    induction hmet with
    | start => exact hsettled _ (List.mem_map_of_mem hpath)
    | through _ huncached hcontent htarget ih =>
      have hmem := hgrows.mem_new_of_settled ih (Pass.isFresh_start.2 huncached) hcontent
      exact hclosed _ hmem _ hcontent _ htarget
  refine ⟨new, hgrows, ?_⟩
  intro file
  constructor
  · intro hmem
    obtain ⟨content, hcontent, -⟩ := hgrows.stored file hmem
    exact ⟨hgrows.property file hmem, Pass.isFresh_start.1 (hgrows.fresh file hmem),
      content, hcontent⟩
  · rintro ⟨⟨path, hpath, hway⟩, huncached, content, hcontent⟩
    exact hgrows.mem_new_of_settled (hmet path hpath file hway)
      (Pass.isFresh_start.2 huncached) hcontent

/-- Making sure of the files of a list, in any order, ends with the same entries and the
    same number of scans. -/
theorem run_ensureEach_perm (index : Index) (disk : Disk) {paths reordered : List FilePath}
    (h : paths.Perm reordered) :
    let first := (index.run (ensureEach disk paths)).cache
    let second := (index.run (ensureEach disk reordered)).cache
    (∀ file, first.get? file = second.get? file) ∧ first.scans = second.scans := by
  intro first second
  obtain ⟨new, hgrows, hnew⟩ := run_ensureEach_exact index disk paths
  obtain ⟨new', hgrows', hnew'⟩ := run_ensureEach_exact index disk reordered
  have hmet : ∀ file, MetFromAny disk index.cache paths file ↔
      MetFromAny disk index.cache reordered file := by
    intro file
    unfold MetFromAny
    simp only [h.mem_iff]
  have hmem : ∀ file, file ∈ new ↔ file ∈ new' := by
    intro file
    rw [hnew, hnew', hmet]
  constructor
  · intro file
    by_cases hfile : file ∈ new
    · obtain ⟨text, htext, hget⟩ := hgrows.stored file hfile
      obtain ⟨text', htext', hget'⟩ := hgrows'.stored file ((hmem file).1 hfile)
      -- both read the same disk
      rw [htext] at htext'
      cases htext'
      exact hget.trans hget'.symm
    · have hfile' : file ∉ new' := fun hin => hfile ((hmem file).2 hin)
      exact (hgrows.kept file hfile).trans (hgrows'.kept file hfile').symm
  · have hlength : new.length = new'.length :=
      ((List.perm_ext_iff_of_nodup hgrows.nodup hgrows'.nodup).2 hmem).length_eq
    calc first.scans = index.cache.scans + new.length := hgrows.scans
      _ = index.cache.scans + new'.length := by rw [hlength]
      _ = second.scans := hgrows'.scans.symm

end Index

/-! ### A circle of files around an outdated entry -/

/-- `a.mk` leads into the circle of `b.mk` and `c.mk`. Behind `old.mk` there is one file
    more. -/
def circleDisk : Disk where
  nodes := [([Utf8.encode "w"], .directory),
    ([Utf8.encode "w", Utf8.encode "a.mk"], .file (Utf8.encode "include c.mk")),
    ([Utf8.encode "w", Utf8.encode "b.mk"], .file (Utf8.encode "include c.mk")),
    ([Utf8.encode "w", Utf8.encode "c.mk"], .file (Utf8.encode "include b.mk old.mk")),
    ([Utf8.encode "w", Utf8.encode "old.mk"], .file (Utf8.encode "include d.mk")),
    ([Utf8.encode "w", Utf8.encode "d.mk"], .file (Utf8.encode "D = 1"))]
  workingPlace := [Utf8.encode "w"]

/-- The entry of `old.mk` is from a time when it included nothing. -/
def outdatedIndex : Index :=
  Index.empty.withCache (Cache.empty.insert (.ofText (.ofString "/w/old.mk") "E = 1".toList))

/-- From `a.mk` three files are stored in one step, from `b.mk` two at first. -/
theorem run_ensureEach_circle :
    let start : List FilePath := [.ofString "a.mk", .ofString "b.mk", .ofString "gone.mk"]
    let other : List FilePath := [.ofString "b.mk", .ofString "gone.mk", .ofString "a.mk"]
    let first := (outdatedIndex.run (Index.ensureEach circleDisk start)).cache
    let second := (outdatedIndex.run (Index.ensureEach circleDisk other)).cache
    start.Perm other ∧
    (outdatedIndex.run (Index.ensureEach circleDisk (start.take 1))).cache.scans = 4 ∧
    (outdatedIndex.run (Index.ensureEach circleDisk (other.take 1))).cache.scans = 3 ∧
    (∀ file, first.get? file = second.get? file) ∧ first.scans = second.scans ∧
    second.contains (.ofString "/w/d.mk") = false := by
  intro start other first second
  have hperm : start.Perm other := by decide +kernel
  obtain ⟨hget, hscans⟩ := Index.run_ensureEach_perm outdatedIndex circleDisk hperm
  exact ⟨hperm, by decide +kernel, by decide +kernel, hget, hscans, by decide +kernel⟩

end MakeLens
