import MakeLens.Proofs.AbsolutePath
import MakeLens.Proofs.PassExactness
import MakeLens.Proofs.Rescan

/-! # Agreement with the disk

    As long as the disk stays as it is and no operation brings a text of its own, the
    cache is a part of what the disk holds: each entry is the index of the file on the
    disk, and a file that an entry includes is cached too, unless it cannot be read.

    Inside a pass the second half fails, since a file's entry comes after those of the
    files that it includes. There it is replaced by what holds of every moment, that
    whatever a stored file includes is settled; when nothing is in progress any more,
    what is settled is cached or unreadable.

    Scanning a cached file again then finds nothing new.
-/

namespace MakeLens

/-! ## Section 1: The invariant -/

/-- The entries are those of the disk, and with a file all of its includes that can be
    read are cached. -/
structure Cache.AgreesWith (cache : Cache) (disk : Disk) : Prop where
  current : ∀ file entry, cache.get? file = some entry →
    ∃ text, disk.text? file = some text ∧ entry = .ofText file text
  closed : ∀ file entry, cache.get? file = some entry →
    ∀ target ∈ entry.includes, cache.contains target = true ∨ disk.text? target = none
  /-- A cached path is its own absolute form. -/
  own : ∀ file, cache.contains file = true → disk.absolute file = file

theorem Cache.exists_get?_of_contains {cache : Cache} {file : FilePath}
    (h : cache.contains file = true) : ∃ entry, cache.get? file = some entry :=
  Option.isSome_iff_exists.1 h

namespace Cache.AgreesWith

variable {disk : Disk} {cache other : Cache} {file : FilePath}

theorem empty (disk : Disk) : Cache.empty.AgreesWith disk where
  current := by simp
  closed := by simp
  own := by
    intro file h
    cases h

/-- Only the entries matter. -/
theorem of_get?_eq (h : cache.AgreesWith disk) (heq : ∀ file, other.get? file = cache.get? file) :
    other.AgreesWith disk := by
  have hcontains : ∀ file, other.contains file = cache.contains file := by
    intro file
    unfold Cache.contains
    rw [heq]
  refine ⟨?_, ?_, ?_⟩
  · intro file entry hget
    exact h.current file entry ((heq file).symm.trans hget)
  · intro file entry hget target htarget
    rw [hcontains]
    exact h.closed file entry ((heq file).symm.trans hget) target htarget
  · intro file hcached
    exact h.own file ((hcontains file).symm.trans hcached)

theorem readable (h : cache.AgreesWith disk) (hcached : cache.contains file = true) :
    ∃ text, disk.text? file = some text ∧ cache.get? file = some (.ofText file text) := by
  obtain ⟨entry, hget⟩ := Cache.exists_get?_of_contains hcached
  obtain ⟨text, htext, rfl⟩ := h.current file entry hget
  exact ⟨text, htext, hget⟩

end Cache.AgreesWith

/-! ## Section 2: A pass keeps the agreement -/

/-- The files that a file of the disk includes are their own absolute forms if it is. -/
theorem absolute_eq_self_of_directs {disk : Disk} {file target : FilePath} {text : List Char}
    (hown : disk.absolute file = file) (htext : disk.text? file = some text)
    (h : Directs file text target) : disk.absolute target = target := by
  have hnormal : file.IsNormal := hown ▸ disk.isNormal_absolute file
  have hroot : file ≠ ⟨[slash]⟩ := by
    rintro rfl
    rw [disk.text?_root] at htext
    cases htext
  apply Disk.absolute_eq_self h.isNormal
  have hform := disk.isAbsolute_or_gone file
  rw [hown] at hform
  rcases hform with habsolute | hgone
  · left
    obtain ⟨directive, -, -, rfl⟩ := h
    exact FilePath.isAbsolute_resolveInclude hnormal habsolute hroot directive.2
  · exact Or.inr hgone

theorem Pass.cached_or_unreadable {disk : Disk} {pass : Pass} {file : FilePath}
    (hidle : pass.inProgress = []) (h : pass.Settled disk file) :
    pass.cache.contains file = true ∨ disk.text? file = none := by
  rcases h with hcached | hprogress | hunread
  · exact Or.inl hcached
  · rw [hidle] at hprogress
    cases hprogress
  · exact Or.inr hunread

namespace Index

variable {index : Index} {disk : Disk} {path : FilePath}

/-- What a pass over a file of the disk leaves behind: old entries, and entries of files
    of the disk whose includes are settled. -/
theorem takeText_entries {text : List Char} (h : index.cache.AgreesWith disk)
    (hown : disk.absolute path = path) (htext : disk.text? path = some text) :
    ∃ after : Pass, (index.takeText disk path text).1.cache = after.cache ∧
      after.inProgress = [] ∧
      ∀ file entry, after.cache.get? file = some entry →
        disk.absolute file = file ∧
        (∃ content, disk.text? file = some content ∧ entry = .ofText file content) ∧
        ∀ target ∈ entry.includes, after.Settled disk target := by
  have hnormal : path.IsNormal := hown ▸ disk.isNormal_absolute path
  have hidle : path ∉ (Pass.start index.cache).inProgress := List.not_mem_nil
  obtain ⟨visited, new, heq, hgrows, hclosed, htargets⟩ :=
    Pass.indexText_visits hnormal hidle
      (fun _ htarget => absolute_eq_self_of_directs hown htext htarget)
      (fun _ _ _ hfile _ hcontent htarget => absolute_eq_self_of_directs hfile hcontent htarget)
  refine ⟨visited.leave (.ofText path text), congrArg Pass.cache heq,
    Pass.inProgress_leave hgrows, ?_⟩
  intro file entry hget
  rw [Pass.get?_leave] at hget
  split at hget
  · next hfile =>
    cases hget
    rw [hfile]
    refine ⟨hown, ⟨text, htext, rfl⟩, ?_⟩
    intro target htarget
    exact Pass.settled_leave hgrows (htargets target (mem_includes_ofText.1 htarget))
  · by_cases hmem : file ∈ new
    · obtain ⟨content, hcontent, hstored⟩ := hgrows.stored file hmem
      rw [hstored] at hget
      cases hget
      refine ⟨hgrows.property file hmem, ⟨content, hcontent, rfl⟩, ?_⟩
      intro target htarget
      exact Pass.settled_leave hgrows
        (hclosed file hmem content hcontent target (mem_includes_ofText.1 htarget))
    · -- an entry from before, whose includes were cached or unreadable then
      rw [hgrows.kept file hmem] at hget
      have hget : index.cache.get? file = some entry := hget
      refine ⟨h.own file (Cache.contains_of_get? hget), h.current file entry hget, ?_⟩
      intro target htarget
      apply Pass.settled_leave hgrows
      rcases h.closed file entry hget target htarget with hcached | hunread
      · exact Or.inl (hgrows.contains_mono hcached)
      · exact Or.inr (Or.inr hunread)

theorem takeFile_agrees (h : index.cache.AgreesWith disk) (hown : disk.absolute path = path) :
    (index.takeFile disk path).1.cache.AgreesWith disk := by
  cases htext : disk.text? path with
  | none =>
    rw [takeFile_of_unreadable htext]
    exact h
  | some text =>
    obtain ⟨after, hcache, hidle, hentries⟩ := takeText_entries h hown htext
    rw [takeFile_of_text htext, hcache]
    refine ⟨?_, ?_, ?_⟩
    · intro file entry hget
      exact (hentries file entry hget).2.1
    · intro file entry hget target htarget
      exact Pass.cached_or_unreadable hidle ((hentries file entry hget).2.2 target htarget)
    · intro file hcached
      obtain ⟨entry, hget⟩ := Cache.exists_get?_of_contains hcached
      exact (hentries file entry hget).1

/-! ## Section 3: Operations and runs -/

theorem provide_agrees (h : index.cache.AgreesWith disk) (hown : disk.absolute path = path) :
    (index.provide disk path none).1.cache.AgreesWith disk := by
  unfold provide
  split
  · exact h
  · exact takeFile_agrees h hown

/-- A missing file had no entry to lose. -/
theorem invalidate_agrees (h : index.cache.AgreesWith disk) (path : FilePath) :
    (index.invalidate disk path).1.cache.AgreesWith disk := by
  cases hread : disk.read (disk.absolute path) with
  | bytes bytes =>
    have htaken := takeFile_agrees h (disk.absolute_absolute path)
    rw [takeFile_of_text (Disk.text?_of_bytes hread)] at htaken
    rw [invalidate_of_bytes hread]
    exact htaken
  | missing =>
    rw [invalidate_of_missing hread]
    apply h.of_get?_eq
    intro file
    show (index.cache.remove (disk.absolute path)).get? file = _
    rw [Cache.get?_remove]
    split
    · next hfile =>
      cases hget : index.cache.get? file with
      | none => rfl
      | some entry =>
        obtain ⟨text, htext, -⟩ := h.current file entry hget
        rw [hfile, Disk.text?_of_missing hread] at htext
        cases htext
    · rfl
  | fault cause =>
    rw [invalidate_of_fault hread]
    exact h

/-- One operation that brings no text. -/
theorem perform_agrees {operation : Operation} (h : index.cache.AgreesWith disk)
    (hgiven : operation.given? disk = none) :
    (operation.perform disk index).cache.AgreesWith disk := by
  have hown : ∀ path, disk.absolute (disk.absolute path) = disk.absolute path :=
    disk.absolute_absolute
  cases operation with
  | symbols path text => exact h
  | ensure path text =>
    cases text with
    | none => exact provide_agrees h (hown path)
    | some text => cases hgiven
  | reindex path text => cases hgiven
  | invalidate path => exact invalidate_agrees h path
  | definitions path name => exact provide_agrees h (hown path)
  | hoverValue path name line => exact provide_agrees h (hown path)
  | includeSet path => exact h
  | setDepth depth => exact h

theorem run_keeps_agreement {operations : List Operation}
    (hgiven : ∀ operation ∈ operations, operation.given? disk = none) {index : Index}
    (h : index.cache.AgreesWith disk) :
    (index.run (operations.map fun operation => (disk, operation))).cache.AgreesWith disk := by
  induction operations generalizing index with
  | nil => exact h
  | cons operation rest ih =>
    have hstep := perform_agrees h (hgiven operation List.mem_cons_self)
    exact ih (fun o ho => hgiven o (List.mem_cons_of_mem _ ho)) hstep

/-! ## Section 4: Nothing new -/

/-- Where the cache agrees with the disk, a cached file leads to nothing that could be
    taken in: the way from it ends at the files it includes itself. -/
theorem not_fresh_of_reached {cache : Cache} {text content : List Char} {file : FilePath}
    (h : cache.AgreesWith disk) (hget : cache.get? path = some (.ofText path text))
    (hreached : Reached disk cache path text file) (huncached : cache.contains file = false)
    (hcontent : disk.text? file = some content) : False := by
  induction hreached generalizing content with
  | directly htarget =>
    rcases h.closed path _ hget _ (mem_includes_ofText.2 htarget) with hcached | hunread
    · rw [huncached] at hcached
      cases hcached
    · rw [hcontent] at hunread
      cases hunread
  | through _ _ hbefore hfound _ ih => exact ih hbefore hfound

/-- Scanning a cached file again puts the same entry in its place. -/
theorem invalidate_of_agrees (h : index.cache.AgreesWith disk)
    (hcached : index.cache.contains (disk.absolute path) = true) :
    (∀ file, (index.invalidate disk path).1.cache.get? file = index.cache.get? file) ∧
      (index.invalidate disk path).1.cache.scans = index.cache.scans + 1 := by
  obtain ⟨text, htext, hget⟩ := h.readable hcached
  obtain ⟨bytes, hread, rfl⟩ := Disk.text?_eq_some_iff.1 htext
  obtain ⟨visited, new, heq, hgrows, hnew⟩ :=
    indexText_pulls_in disk index.cache (Utf8.decodeLossy bytes) (disk.isNormal_absolute path)
  have hnil : new = [] := by
    rw [List.eq_nil_iff_forall_not_mem]
    intro file hmem
    obtain ⟨content, hpulled⟩ := (hnew file).1 hmem
    exact not_fresh_of_reached h hget hpulled.reached hpulled.uncached hpulled.readable
  have hafter : (index.invalidate disk path).1.cache =
      (visited.leave (.ofText (disk.absolute path) (Utf8.decodeLossy bytes))).cache := by
    rw [invalidate_of_bytes hread]
    exact congrArg Pass.cache heq
  rw [hafter]
  constructor
  · intro file
    rw [Pass.get?_leave]
    split
    · next hfile => rw [hfile, hget]
    · exact hgrows.kept file (by simp [hnil])
  · show visited.cache.scans + 1 = _
    rw [hgrows.scans, hnil]
    rfl

/-- After any run on one disk, from an empty cache and without texts of its own, the cache
    agrees with the disk; and scanning a cached file again leaves every entry as it is
    and counts one scan. -/
theorem run_agrees (disk : Disk) (operations : List Operation)
    (hgiven : ∀ operation ∈ operations, operation.given? disk = none) :
    let index := Index.empty.run (operations.map fun operation => (disk, operation))
    index.cache.AgreesWith disk ∧
    ∀ path, index.cache.contains (disk.absolute path) = true →
      (∀ file, (index.invalidate disk path).1.cache.get? file = index.cache.get? file) ∧
      (index.invalidate disk path).1.cache.scans = index.cache.scans + 1 := by
  intro index
  have hagrees : index.cache.AgreesWith disk := run_keeps_agreement hgiven (.empty disk)
  exact ⟨hagrees, fun _ hcached => invalidate_of_agrees hagrees hcached⟩

end Index

/-! ### Two files that include each other -/

/-- One of the two files also includes a missing file and a directory. -/
def mutualDisk : Disk where
  nodes := [([Utf8.encode "w"], .directory),
    ([Utf8.encode "w", Utf8.encode "sub"], .directory),
    ([Utf8.encode "w", Utf8.encode "a.mk"], .file (Utf8.encode "include sub/../b.mk\nA = 1")),
    ([Utf8.encode "w", Utf8.encode "b.mk"], .file (Utf8.encode "include gone.mk sub a.mk\nB = 2"))]
  workingPlace := [Utf8.encode "w"]

/-- A query takes in both files, and one of them is scanned again. -/
def mutualOperations : List Operation :=
  [.hoverValue (.ofString "./b.mk") "A" 0, .invalidate (.ofString "gone.mk"),
   .invalidate (.ofString "b.mk"), .ensure (.ofString "a.mk") none]

theorem mutualOperations_agree :
    let index := Index.empty.run (mutualOperations.map fun operation => (mutualDisk, operation))
    (∀ operation ∈ mutualOperations, operation.given? mutualDisk = none) ∧
    (index.cache.size = 2 ∧ index.cache.scans = 3 ∧
      index.cache.contains (mutualDisk.absolute (.ofString "a.mk")) = true) ∧
    index.cache.AgreesWith mutualDisk ∧
    (index.invalidate mutualDisk (.ofString "a.mk")).1.cache.scans = 4 := by
  intro index
  have hgiven : ∀ operation ∈ mutualOperations, operation.given? mutualDisk = none := by
    decide +kernel
  have hcached : index.cache.contains (mutualDisk.absolute (.ofString "a.mk")) = true := by
    decide +kernel
  have hscans : index.cache.scans = 3 := by decide +kernel
  have hrun := Index.run_agrees mutualDisk mutualOperations hgiven
  refine ⟨hgiven, ⟨by decide +kernel, hscans, hcached⟩, hrun.1, ?_⟩
  rw [(hrun.2 _ hcached).2, hscans]

end MakeLens
