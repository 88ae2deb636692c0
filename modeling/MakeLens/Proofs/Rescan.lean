import MakeLens.Proofs.FaultReports
import MakeLens.Proofs.Runs

/-! # Scanning a file again

    What happens to an index that is told that a file has changed depends on how
    reading the file ends, in one of three ways: its text takes the place of what was
    indexed, or the file is gone and so is its entry, or it cannot be read and nothing
    changes.

    The disk is asked twice, for the bytes and for whether there is anything at the
    path. The answers fit together: what can be read is there, and what is missing is
    not.

    A failure tells how far the operation went. The file itself is in progress during
    the whole pass, so that no include leads back to reading it: a failure that names
    the file is one from before the pass, and any other one is from inside it.
-/

namespace MakeLens

namespace Disk

variable {disk : Disk} {path : FilePath}

/-- What can be read is there. -/
theorem pathExists_of_bytes {bytes : List UInt8} (h : disk.read path = .bytes bytes) :
    disk.pathExists path = true := by
  unfold pathExists
  rw [follow_of_read_bytes h]

/-- What is missing is not there. -/
theorem pathExists_of_missing (h : disk.read path = .missing) :
    disk.pathExists path = false := by
  unfold read at h
  unfold pathExists
  split at h
  · cases h
  · cases h
  · cases h
  · cases h
  · next hfollow => rw [hfollow]
  · cases h

end Disk

namespace Index

variable {index : Index} {disk : Disk} {path : FilePath}

/-! ## Section 1: Taking a file -/

theorem takeFile_of_missing (h : disk.read path = .missing) :
    index.takeFile disk path = (index, none) := by
  unfold takeFile Pass.indexFile
  rw [h]
  rfl

theorem takeFile_of_fault {cause : ReadFault} (h : disk.read path = .fault cause) :
    index.takeFile disk path = (index, some ⟨path, cause⟩) := by
  unfold takeFile Pass.indexFile
  rw [h]

/-- The pass ends with the entry of its own file. -/
theorem get?_takeText_self (index : Index) (disk : Disk) (text : List Char)
    (hnormal : path.IsNormal) :
    (index.takeText disk path text).1.cache.get? path = some (.ofText path text) := by
  have hidle : path ∉ (Pass.start index.cache).inProgress := List.not_mem_nil
  obtain ⟨inside, -, heq⟩ := Pass.indexText_indexes disk text hnormal hidle
  show (Pass.indexText disk (.start index.cache) path text).cache.get? path = _
  rw [heq, Pass.get?_leave, if_pos rfl]

/-- An include never makes a pass fail on its own file. -/
theorem path_ne_of_takeText_failure {text : List Char} {failure : ReadFailure}
    (hnormal : path.IsNormal) (h : (index.takeText disk path text).2 = some failure) :
    failure.path ≠ path := by
  obtain ⟨order, horder, hfirst⟩ := indexText_faults disk index.cache text hnormal
  have hhead : (order.filterMap (disk.failureBeyond? index.cache)).head? = some failure :=
    hfirst.symm.trans h
  exact ((mem_failures_iff horder).1 (List.mem_of_head? hhead)).ne_path

/-- What a failure on taking a file says about the index: it names the file and nothing
    has changed, or it names another one and the file has a new entry. -/
theorem takeFile_failure {failure : ReadFailure} (hnormal : path.IsNormal)
    (h : (index.takeFile disk path).2 = some failure) :
    (failure.path = path ∧ (index.takeFile disk path).1 = index) ∨
    (failure.path ≠ path ∧ ∃ text, disk.text? path = some text ∧
      (index.takeFile disk path).1.cache.get? path = some (.ofText path text)) := by
  cases htext : disk.text? path with
  | some text =>
    right
    rw [takeFile_of_text htext] at h ⊢
    exact ⟨path_ne_of_takeText_failure hnormal h, text, rfl,
      get?_takeText_self index disk text hnormal⟩
  | none =>
    left
    refine ⟨?_, takeFile_of_unreadable htext⟩
    cases hread : disk.read path with
    | bytes bytes =>
      rw [Disk.text?_of_bytes hread] at htext
      cases htext
    | missing =>
      rw [takeFile_of_missing hread] at h
      cases h
    | fault cause =>
      rw [takeFile_of_fault hread] at h
      cases h
      rfl

/-! ## Section 2: The three cases -/

theorem invalidate_of_bytes {bytes : List UInt8}
    (h : disk.read (disk.absolute path) = .bytes bytes) :
    index.invalidate disk path = index.reindex disk path (Utf8.decodeLossy bytes) := by
  unfold invalidate Pass.indexFile
  simp only [h, Disk.pathExists_of_bytes h, if_true]
  rfl

theorem invalidate_of_missing (h : disk.read (disk.absolute path) = .missing) :
    index.invalidate disk path =
      (index.withCache (index.cache.remove (disk.absolute path)), none) := by
  unfold invalidate Pass.indexFile
  simp only [h, Disk.pathExists_of_missing h]
  rfl

theorem invalidate_of_fault {cause : ReadFault}
    (h : disk.read (disk.absolute path) = .fault cause) :
    index.invalidate disk path = (index, some ⟨disk.absolute path, cause⟩) := by
  unfold invalidate Pass.indexFile
  simp only [h]

/-- With or without a look whether the file is there, a failure is that of taking the
    file. -/
theorem takeFile_of_invalidate_failure {failure : ReadFailure}
    (h : (index.invalidate disk path).2 = some failure) :
    index.invalidate disk path = index.takeFile disk (disk.absolute path) := by
  cases hread : disk.read (disk.absolute path) with
  | bytes bytes =>
    rw [invalidate_of_bytes hread, takeFile_of_text (Disk.text?_of_bytes hread)]
    rfl
  | missing =>
    rw [invalidate_of_missing hread] at h
    cases h
  | fault cause => rw [invalidate_of_fault hread, takeFile_of_fault hread]

theorem takeFile_of_ensure_failure {failure : ReadFailure}
    (h : (index.ensure disk path none).2 = some failure) :
    index.ensure disk path none = index.takeFile disk (disk.absolute path) := by
  unfold ensure provide at h ⊢
  split at h
  · cases h
  · next hcached => rw [if_neg hcached]

/-- Scanning a file again, by how reading it ends:
    1. bytes are decoded and indexed as if they were given as a text, and the file's
       entry is the index of nothing but this text;
    2. a missing file loses its entry without a failure, and nothing else changes;
    3. on a fault nothing changes, and the failure names the file.

    Whether a file is scanned again or for the first time: on a failure that names the
    file nothing has changed, and on any other one the file has its new entry. -/
theorem invalidate_outcome (index : Index) (disk : Disk) (path : FilePath) :
    let file := disk.absolute path
    let result := index.invalidate disk path
    (∀ bytes, disk.read file = .bytes bytes →
      result = index.reindex disk path (Utf8.decodeLossy bytes) ∧
      result.1.cache.get? file = some (.ofText file (Utf8.decodeLossy bytes))) ∧
    (disk.read file = .missing →
      result.2 = none ∧ result.1.cache.get? file = none ∧
      (∀ other, other ≠ file → result.1.cache.get? other = index.cache.get? other) ∧
      result.1.cache.scans = index.cache.scans) ∧
    (∀ cause, disk.read file = .fault cause → result = (index, some ⟨file, cause⟩)) ∧
    ∀ outcome failure, outcome = result ∨ outcome = index.ensure disk path none →
      outcome.2 = some failure →
      (failure.path = file → outcome.1 = index) ∧
      (failure.path ≠ file → ∃ content, disk.text? file = some content ∧
        outcome.1.cache.get? file = some (.ofText file content)) := by
  intro file result
  have hnormal : file.IsNormal := disk.isNormal_absolute path
  refine ⟨?_, ?_, ?_, ?_⟩
  · intro bytes hread
    have heq : result = index.reindex disk path (Utf8.decodeLossy bytes) :=
      invalidate_of_bytes hread
    refine ⟨heq, ?_⟩
    rw [heq]
    exact get?_takeText_self index disk _ hnormal
  · intro hread
    have heq : result = (index.withCache (index.cache.remove file), none) :=
      invalidate_of_missing hread
    rw [heq]
    refine ⟨rfl, ?_, ?_, rfl⟩
    · show (index.cache.remove file).get? file = none
      rw [Cache.get?_remove, if_pos rfl]
    · intro other hne
      show (index.cache.remove file).get? other = _
      rw [Cache.get?_remove, if_neg hne]
  · exact fun cause hread => invalidate_of_fault hread
  · intro outcome failure houtcome hfailure
    have htaken : outcome = index.takeFile disk file := by
      rcases houtcome with rfl | rfl
      · exact takeFile_of_invalidate_failure hfailure
      · exact takeFile_of_ensure_failure hfailure
    rw [htaken] at hfailure ⊢
    rcases takeFile_failure hnormal hfailure with ⟨hsame, hindex⟩ | ⟨hother, hstored⟩
    · exact ⟨fun _ => hindex, fun hne => absurd hsame hne⟩
    · exact ⟨fun heq => absurd heq hother, fun _ => hstored⟩

end Index

end MakeLens
