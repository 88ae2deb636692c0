import MakeLens.Index
import MakeLens.Proofs.BuildPass

/-! # Exactness of a build pass

    Putting a text in the place of a file's entry pulls in the files that the text
    includes, directly or through other files. `PulledIn` says which files these
    are, in terms of the disk and of the cache before the pass alone. The pass
    stores the text's own entry and theirs, and nothing else changes.

    A pass meets files in an order that depends on what it has stored so far, and
    passes over those in progress. The relation knows nothing of this, so the order
    has no part in the outcome.
-/

namespace MakeLens

/-! ## Section 1: The files a text pulls in -/

/-- The files met on the way from `text`, as the content of `path`, along include
    directives. The way goes on from a file that is on the disk and not in the
    cache; `path` itself counts with `text` alone, whatever the disk holds there. -/
inductive Reached (disk : Disk) (cache : Cache) (path : FilePath) (text : List Char) :
    FilePath → Prop where
  | directly {target : FilePath} : Directs path text target → Reached disk cache path text target
  | through {file target : FilePath} {content : List Char} :
      Reached disk cache path text file → file ≠ path → cache.contains file = false →
      disk.text? file = some content → Directs file content target →
      Reached disk cache path text target

/-- `file`, with `content` on the disk, is met on the way and not in the cache. -/
structure PulledIn (disk : Disk) (cache : Cache) (path : FilePath) (text : List Char)
    (file : FilePath) (content : List Char) : Prop where
  reached : Reached disk cache path text file
  ne_path : file ≠ path
  uncached : cache.contains file = false
  readable : disk.text? file = some content

/-! ## Section 2: The pass stores them -/

section exactness

variable {disk : Disk} {cache : Cache} {path : FilePath} {text : List Char}

theorem reached_passes (disk : Disk) (cache : Cache) (path : FilePath) (text : List Char) :
    ((Pass.start cache).enter path).Passes disk (Reached disk cache path text) := by
  intro file content target hreached hfresh hcontent htarget
  obtain ⟨huncached, hidle⟩ := Pass.isFresh_iff.1 hfresh
  have hne : file ≠ path := fun heq => hidle (heq ▸ List.mem_cons_self)
  exact .through hreached hne huncached hcontent htarget

/-- At the end of the pass only `path` is in progress, so what is settled and could
    be taken in has been. -/
theorem mem_new_of_settled {P : FilePath → Prop} {visited : Pass} {new : List FilePath}
    (hgrows : Pass.Grows disk P ((Pass.start cache).enter path) visited new) {file : FilePath}
    {content : List Char} (hsettled : visited.Settled disk file) (hne : file ≠ path)
    (huncached : cache.contains file = false) (hcontent : disk.text? file = some content) :
    file ∈ new := by
  have hidle : file ∉ ((Pass.start cache).enter path).inProgress :=
    fun hmem => hne (List.mem_singleton.1 hmem)
  exact hgrows.mem_new_of_settled hsettled (Pass.isFresh_iff.2 ⟨huncached, hidle⟩) hcontent

/-- No file is hidden by another one in progress: all that is reached is settled. -/
theorem settled_of_reached {P : FilePath → Prop} {visited : Pass} {new : List FilePath}
    (hgrows : Pass.Grows disk P ((Pass.start cache).enter path) visited new)
    (hclosed : Pass.Closed disk visited new)
    (htargets : ∀ target, Directs path text target → visited.Settled disk target)
    {file : FilePath} (h : Reached disk cache path text file) : visited.Settled disk file := by
  induction h with
  | directly htarget => exact htargets _ htarget
  | through _ hne huncached hcontent htarget ih =>
    have hmem := mem_new_of_settled hgrows ih hne huncached hcontent
    exact hclosed _ hmem _ hcontent _ htarget

/-- The files stored on the way are exactly those pulled in. -/
theorem indexText_pulls_in (disk : Disk) (cache : Cache) (text : List Char)
    (hnormal : path.IsNormal) :
    ∃ visited new,
      Pass.indexText disk (.start cache) path text = visited.leave (.ofText path text) ∧
      Pass.Grows disk (Reached disk cache path text) ((Pass.start cache).enter path) visited new ∧
      ∀ file, file ∈ new ↔ ∃ content, PulledIn disk cache path text file content := by
  have hidle : path ∉ (Pass.start cache).inProgress := List.not_mem_nil
  obtain ⟨visited, new, heq, hgrows, hclosed, htargets⟩ :=
    Pass.indexText_visits hnormal hidle (fun _ htarget => .directly htarget)
      (reached_passes disk cache path text)
  refine ⟨visited, new, heq, hgrows, ?_⟩
  intro file
  constructor
  · -- fresh inside the pass means uncached before it and not `path`
    intro hmem
    obtain ⟨huncached, hidle⟩ := Pass.isFresh_iff.1 (hgrows.fresh file hmem)
    obtain ⟨content, hcontent, -⟩ := hgrows.stored file hmem
    have hne : file ≠ path := fun heq => hidle (heq ▸ List.mem_cons_self)
    exact ⟨content, hgrows.property file hmem, hne, huncached, hcontent⟩
  · rintro ⟨content, hreached, hne, huncached, hcontent⟩
    have hsettled := settled_of_reached hgrows hclosed htargets hreached
    exact mem_new_of_settled hgrows hsettled hne huncached hcontent

end exactness

/-! ## Section 3: Reindexing -/

/-- Reindexing a file from a text, part by part:
    1. the file's entry is the index of the text, also where a circular include
       leads back to the file and the disk holds another version of it;
    2. each file pulled in has the index of its content on the disk;
    3. every other path keeps its entry, or has none as before;
    4. the scans grow by the number of entries stored, each path counted once;
    5. an index holds the entities of the scan and, in the order of the directives,
       the included files, without those that have an unexpanded `$`. -/
theorem Index.reindex_exact (index : Index) (disk : Disk) (path : FilePath) (text : List Char) :
    let file := disk.absolute path
    let before := index.cache
    let after := (index.reindex disk path text).1.cache
    after.get? file = some (.ofText file text) ∧
    (∀ other content, PulledIn disk before file text other content →
      after.get? other = some (.ofText other content)) ∧
    (∀ other, other ≠ file → (∀ content, ¬ PulledIn disk before file text other content) →
      after.get? other = before.get? other) ∧
    (∃ stored : List FilePath, stored.Nodup ∧
      (∀ other, other ∈ stored ↔
        other = file ∨ ∃ content, PulledIn disk before file text other content) ∧
      after.scans = before.scans + stored.length) ∧
    ∀ other content,
      (FileIndex.ofText other content).path = other ∧
      (FileIndex.ofText other content).entities = (scan content other).entities ∧
      (FileIndex.ofText other content).includes =
        ((scan content other).includes.filter fun directive =>
          '$' ∉ directive.2.toList).map fun directive => other.resolveInclude directive.2 := by
  intro file before after
  obtain ⟨visited, new, heq, hgrows, hnew⟩ :=
    indexText_pulls_in disk before text (disk.isNormal_absolute path)
  have hafter : after = (visited.leave (.ofText file text)).cache := congrArg Pass.cache heq
  have hfile : file ∉ new := by
    intro hmem
    obtain ⟨content, hpulled⟩ := (hnew file).1 hmem
    exact hpulled.ne_path rfl
  refine ⟨?_, ?_, ?_, ?_, ?_⟩
  · rw [hafter, Pass.get?_leave, if_pos rfl]
  · intro other content hpulled
    obtain ⟨found, hfound, hget⟩ := hgrows.stored other ((hnew other).2 ⟨content, hpulled⟩)
    -- the disk gives one text for a path
    rw [hpulled.readable] at hfound
    cases hfound
    rw [hafter, Pass.get?_leave, if_neg hpulled.ne_path, hget]
  · intro other hne hnone
    have hother : other ∉ new := by
      intro hmem
      obtain ⟨content, hpulled⟩ := (hnew other).1 hmem
      exact hnone content hpulled
    rw [hafter, Pass.get?_leave, if_neg hne, hgrows.kept other hother]
    rfl
  · refine ⟨file :: new, List.nodup_cons.2 ⟨hfile, hgrows.nodup⟩, ?_, ?_⟩
    · intro other
      rw [List.mem_cons, hnew other]
    · rw [hafter]
      show visited.cache.scans + 1 = before.scans + (new.length + 1)
      rw [hgrows.scans]
      show before.scans + new.length + 1 = _
      omega
  · intro other content
    refine ⟨rfl, rfl, ?_⟩
    show (scan content other).includedFiles other = _
    unfold Scan.includedFiles
    congr 2
    funext directive
    simp

end MakeLens
