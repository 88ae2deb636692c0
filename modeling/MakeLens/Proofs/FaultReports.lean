import MakeLens.Proofs.DepthFirst
import MakeLens.Proofs.PassExactness
import MakeLens.Proofs.PassRelation

/-! # Faults on the way

    A read fault on an included file does not stop a pass; the first one is reported
    at its end. `FaultMet` says which faults are met, in terms of the disk and of the
    cache before the pass alone.

    The entries are stored in the order in which files are left, but faults are noted
    when a file is met: the first one is the first in depth-first order, where a
    file's directives are followed before those that come after it. A pass meets a
    faulting file each time that it is included, yet only its first place counts.

    The faults steer nothing. A pass over files some of which are missing instead of
    faulting goes through the same states, up to the failures it has noted.
-/

namespace MakeLens

/-! ## Section 1: What a pass meets beyond its cache -/

namespace Disk

/-- The files that a file of the disk leads to in a pass that begins with `cache`. A
    cached file and one that cannot be read lead nowhere. -/
def includesBeyond (disk : Disk) (cache : Cache) (file : FilePath) : List FilePath :=
  if cache.contains file then []
  else match disk.text? file with
    | some text => (FileIndex.ofText file text).includes
    | none => []

/-- The failure that such a pass notes where it meets a file. -/
def failureBeyond? (disk : Disk) (cache : Cache) (file : FilePath) : Option ReadFailure :=
  if cache.contains file then none
  else match disk.read file with
    | .fault cause => some ⟨file, cause⟩
    | _ => none

/-- Reads the disk as if there were nothing at the paths `absent`. -/
def readWithout (disk : Disk) (absent : List FilePath) (file : FilePath) : ReadOutcome :=
  if file ∈ absent then .missing else disk.read file

section beyond

variable {disk : Disk} {cache : Cache} {file target : FilePath}

theorem mem_includesBeyond_iff :
    target ∈ disk.includesBeyond cache file ↔ cache.contains file = false ∧
      ∃ text, disk.text? file = some text ∧ Directs file text target := by
  unfold includesBeyond
  cases hcached : cache.contains file with
  | true => simp
  | false =>
    cases htext : disk.text? file with
    | none => simp
    | some text => simp [mem_includes_ofText]

theorem includesBeyond_of_contains (h : cache.contains file = true) :
    disk.includesBeyond cache file = [] := by
  unfold includesBeyond
  rw [if_pos h]

theorem includesBeyond_of_unreadable (h : disk.text? file = none) :
    disk.includesBeyond cache file = [] := by
  unfold includesBeyond
  rw [h]
  split <;> rfl

theorem includesBeyond_of_text {text : List Char} (hcached : cache.contains file = false)
    (h : disk.text? file = some text) :
    disk.includesBeyond cache file = (FileIndex.ofText file text).includes := by
  unfold includesBeyond
  rw [hcached, h]
  rfl

theorem failureBeyond?_eq_some_iff {failure : ReadFailure} :
    disk.failureBeyond? cache file = some failure ↔
      failure.path = file ∧ cache.contains file = false ∧
        disk.read file = .fault failure.cause := by
  unfold failureBeyond?
  cases hcached : cache.contains file with
  | true => simp
  | false =>
    cases hread : disk.read file with
    | bytes bytes => simp
    | missing => simp
    | fault cause =>
      simp only [Bool.false_eq_true, if_false, Option.some.injEq, ReadOutcome.fault.injEq, true_and]
      constructor
      · rintro rfl
        exact ⟨rfl, rfl⟩
      · rintro ⟨rfl, rfl⟩
        rfl

theorem failureBeyond?_of_contains (h : cache.contains file = true) :
    disk.failureBeyond? cache file = none := by
  unfold failureBeyond?
  rw [if_pos h]

theorem failureBeyond?_of_text {text : List Char} (h : disk.text? file = some text) :
    disk.failureBeyond? cache file = none := by
  obtain ⟨bytes, hread, -⟩ := text?_eq_some_iff.1 h
  unfold failureBeyond?
  rw [hread]
  split <;> rfl

theorem failureBeyond?_of_missing (h : disk.read file = .missing) :
    disk.failureBeyond? cache file = none := by
  unfold failureBeyond?
  rw [h]
  split <;> rfl

theorem failureBeyond?_of_fault {cause : ReadFault} (hcached : cache.contains file = false)
    (h : disk.read file = .fault cause) :
    disk.failureBeyond? cache file = some ⟨file, cause⟩ :=
  failureBeyond?_eq_some_iff.2 ⟨rfl, hcached, h⟩

end beyond

end Disk

/-- A pass over `text`, as the content of `path`, meets a file that cannot be read. -/
structure FaultMet (disk : Disk) (cache : Cache) (path : FilePath) (text : List Char)
    (failure : ReadFailure) : Prop where
  reached : Reached disk cache path text failure.path
  ne_path : failure.path ≠ path
  uncached : cache.contains failure.path = false
  fault : disk.read failure.path = .fault failure.cause

section order

variable {disk : Disk} {cache : Cache} {path : FilePath} {text : List Char} {order : List FilePath}

/-- Depth-first order, from inside `path`, lists what is reached. -/
theorem mem_order_iff
    (h : DepthFirst (disk.includesBeyond cache) [path] (FileIndex.ofText path text).includes order)
    {file : FilePath} : file ∈ order ↔ Reached disk cache path text file ∧ file ≠ path := by
  constructor
  · intro hmem
    refine ⟨h.forall_mem ?_ ?_ file hmem, ?_⟩
    · exact fun target htarget => .directly (mem_includes_ofText.1 htarget)
    · intro other hother hreached target htarget
      obtain ⟨huncached, content, hcontent, hdirects⟩ := Disk.mem_includesBeyond_iff.1 htarget
      have hne : other ≠ path := fun heq => hother (List.mem_singleton.2 heq)
      exact .through hreached hne huncached hcontent hdirects
    · exact fun heq => h.not_mem_seen hmem (List.mem_singleton.2 heq)
  · rintro ⟨hreached, hne⟩
    have hfound : ∀ f, f ∈ order ++ [path] → f ≠ path → f ∈ order := by
      intro f hf hfne
      rcases List.mem_append.1 hf with hf | hf
      · exact hf
      · exact absurd (List.mem_singleton.1 hf) hfne
    -- along the way to the file, from one file of the order to the next
    induction hreached with
    | directly htarget =>
      exact hfound _ (h.mem_of_mem_todo (mem_includes_ofText.2 htarget)) hne
    | through _ hfile huncached hcontent htarget ih =>
      have hnext := Disk.mem_includesBeyond_iff.2 ⟨huncached, _, hcontent, htarget⟩
      exact hfound _ (h.mem_of_mem_next (ih hfile) hnext) hne

theorem mem_failures_iff
    (h : DepthFirst (disk.includesBeyond cache) [path] (FileIndex.ofText path text).includes order)
    {failure : ReadFailure} :
    failure ∈ order.filterMap (disk.failureBeyond? cache) ↔
      FaultMet disk cache path text failure := by
  rw [List.mem_filterMap]
  constructor
  · rintro ⟨file, hmem, hfailure⟩
    obtain ⟨rfl, huncached, hread⟩ := Disk.failureBeyond?_eq_some_iff.1 hfailure
    obtain ⟨hreached, hne⟩ := (mem_order_iff h).1 hmem
    exact ⟨hreached, hne, huncached, hread⟩
  · rintro ⟨hreached, hne, huncached, hread⟩
    exact ⟨failure.path, (mem_order_iff h).2 ⟨hreached, hne⟩,
      Disk.failureBeyond?_eq_some_iff.2 ⟨rfl, huncached, hread⟩⟩

end order

namespace Pass

/-! ## Section 2: The first failure of a pass

    A search that has discovered the files `seen` and a pass that has met the same
    files, both from `cache`, side by side. -/

/-- Files not seen are as they were in `cache`. A file that was seen and would still be
    taken in cannot be read, and if this was a fault, then one was noted. -/
structure Tracks (disk : Disk) (cache : Cache) (seen : List FilePath) (pass : Pass) : Prop where
  unseen : ∀ file, file ∉ seen → pass.isFresh file = !cache.contains file
  settled : ∀ file ∈ seen, pass.isFresh file = true →
    disk.text? file = none ∧ ∀ cause, disk.read file = .fault cause → pass.failures ≠ []

theorem note_failures_ne_nil (pass : Pass) (failure : ReadFailure) :
    (pass.note failure).failures ≠ [] :=
  List.append_ne_nil_of_right_ne_nil _ (List.cons_ne_nil _ _)

namespace Tracks

variable {disk : Disk} {cache : Cache} {seen : List FilePath} {pass : Pass} {file : FilePath}

theorem contains_of_not_fresh (h : Tracks disk cache seen pass) (hfile : file ∉ seen)
    (hfresh : pass.isFresh file = false) : cache.contains file = true := by
  have hunseen := h.unseen file hfile
  rw [hfresh] at hunseen
  simpa using hunseen.symm

theorem uncached_of_fresh (h : Tracks disk cache seen pass) (hfile : file ∉ seen)
    (hfresh : pass.isFresh file = true) : cache.contains file = false := by
  have hunseen := h.unseen file hfile
  rw [hfresh] at hunseen
  simpa using hunseen.symm

/-- In which order the files were seen does not matter. -/
theorem of_mem_iff {others : List FilePath} (h : Tracks disk cache seen pass)
    (hmem : ∀ f, f ∈ others ↔ f ∈ seen) : Tracks disk cache others pass where
  unseen := fun f hf => h.unseen f fun hseen => hf ((hmem f).2 hseen)
  settled := fun f hf => h.settled f ((hmem f).1 hf)

/-- Seeing one more file that there is nothing to do for. -/
theorem see (h : Tracks disk cache seen pass)
    (hsettled : pass.isFresh file = true →
      disk.text? file = none ∧ ∀ cause, disk.read file = .fault cause → pass.failures ≠ []) :
    Tracks disk cache (file :: seen) pass where
  unseen := fun f hf => h.unseen f fun hseen => hf (List.mem_cons_of_mem _ hseen)
  settled := by
    intro f hf
    rcases List.mem_cons.1 hf with rfl | hf
    · exact hsettled
    · exact h.settled f hf

theorem note (h : Tracks disk cache seen pass) (failure : ReadFailure) :
    Tracks disk cache seen (pass.note failure) where
  unseen := h.unseen
  settled := fun f hf hfresh => ⟨(h.settled f hf hfresh).1, fun _ _ => note_failures_ne_nil _ _⟩

theorem enter (h : Tracks disk cache seen pass) :
    Tracks disk cache (file :: seen) (pass.enter file) where
  unseen := by
    intro f hf
    rw [List.mem_cons, not_or] at hf
    rw [isFresh_enter hf.1]
    exact h.unseen f hf.2
  settled := by
    intro f hf hfresh
    rcases List.mem_cons.1 hf with rfl | hf
    · rw [isFresh_enter_self] at hfresh
      cases hfresh
    · exact h.settled f hf (isFresh_enter_anti hfresh)

theorem leave (h : Tracks disk cache seen pass) (hfile : file ∈ seen) (text : List Char) :
    Tracks disk cache seen (pass.leave (.ofText file text)) where
  unseen := by
    intro f hf
    have hne : f ≠ file := fun heq => hf (heq ▸ hfile)
    rw [isFresh_leave text hne]
    exact h.unseen f hf
  settled := fun f hf hfresh => h.settled f hf (isFresh_leave_anti hfresh)

/-- At the beginning only `path` has been seen. -/
theorem start (disk : Disk) (cache : Cache) (path : FilePath) :
    Tracks disk cache [path] ((Pass.start cache).enter path) := by
  have hnothing : Tracks disk cache [] (Pass.start cache) :=
    ⟨fun f _ => by simp [isFresh, Pass.start], by simp⟩
  exact hnothing.enter

end Tracks

/-- Between two moments of a pass that follows `files`, a search from `files` discovers
    what the pass meets, and the first failure is the first one in this order. -/
def Discovers (disk : Disk) (cache : Cache) (seen files : List FilePath) (before after : Pass) :
    Prop :=
  ∃ order, DepthFirst (disk.includesBeyond cache) seen files order ∧
    Tracks disk cache (order ++ seen) after ∧
    after.failures.head? =
      before.failures.head?.or (order.findSome? (disk.failureBeyond? cache))

section discovering

variable {disk : Disk} {cache : Cache} {before between after : Pass} {seen files : List FilePath}
variable {file : FilePath}

/-- A file that was seen is of no interest, a fault on it included: it was noted. -/
theorem Discovers.again (hseen : file ∈ seen)
    (hhead : between.failures.head? = before.failures.head?)
    (h : Discovers disk cache seen files between after) :
    Discovers disk cache seen (file :: files) before after := by
  obtain ⟨order, horder, htracks, hfirst⟩ := h
  exact ⟨order, .again hseen horder, htracks, by rw [hfirst, hhead]⟩

/-- A file that leads nowhere has at most a fault to offer. -/
theorem Discovers.leaf (hnew : file ∉ seen) (hincludes : disk.includesBeyond cache file = [])
    (hhead : between.failures.head? =
      before.failures.head?.or (disk.failureBeyond? cache file))
    (h : Discovers disk cache (file :: seen) files between after) :
    Discovers disk cache seen (file :: files) before after := by
  obtain ⟨order, horder, htracks, hfirst⟩ := h
  have hmem : ∀ f, f ∈ (file :: ([] ++ order)) ++ seen ↔ f ∈ order ++ ([] ++ file :: seen) :=
    fun _ => DepthFirst.mem_shift_iff
  refine ⟨file :: order, horder.leaf hnew hincludes, htracks.of_mem_iff hmem, ?_⟩
  rw [hfirst, hhead, Option.or_assoc, List.findSome?_cons]
  cases disk.failureBeyond? cache file with
  | none => rfl
  | some failure => rfl

/-- A file that is taken in has no fault itself. What is below it comes first. -/
theorem Discovers.below {text : List Char} {inside : Pass} (hnew : file ∉ seen)
    (huncached : cache.contains file = false) (htext : disk.text? file = some text)
    (hbelow : Discovers disk cache (file :: seen) (FileIndex.ofText file text).includes
      (before.enter file) inside)
    (hrest : ∀ met, Tracks disk cache (met ++ file :: seen) (inside.leave (.ofText file text)) →
      Discovers disk cache (met ++ file :: seen) files (inside.leave (.ofText file text)) after) :
    Discovers disk cache seen (file :: files) before after := by
  obtain ⟨below, hbelow, hinside, hfirstBelow⟩ := hbelow
  have hfile : file ∈ below ++ file :: seen := List.mem_append_right _ List.mem_cons_self
  obtain ⟨order, horder, htracks, hfirst⟩ := hrest below (hinside.leave hfile text)
  rw [← Disk.includesBeyond_of_text huncached htext] at hbelow
  refine ⟨file :: (below ++ order), .first hnew hbelow horder,
    htracks.of_mem_iff fun _ => DepthFirst.mem_shift_iff, ?_⟩
  -- neither entering nor leaving notes a failure
  have hleave : (inside.leave (.ofText file text)).failures.head? =
      before.failures.head?.or (below.findSome? (disk.failureBeyond? cache)) := hfirstBelow
  rw [hfirst, hleave, Option.or_assoc, List.findSome?_cons,
    Disk.failureBeyond?_of_text htext, List.findSome?_append]

/-- The induction is on the rules of the pass. The search discovers a file where the
    pass first meets it. -/
theorem Follows.discovers (h : Follows disk.read before files after)
    (htracks : Tracks disk cache seen before) : Discovers disk cache seen files before after := by
  induction h generalizing seen with
  | done => exact ⟨[], .done, htracks, by simp⟩
  | @passOver pass after file rest hfresh _ ih =>
    by_cases hseen : file ∈ seen
    · exact .again hseen rfl (ih htracks)
    · -- neither seen nor fresh: it was cached from the beginning
      have hcached := htracks.contains_of_not_fresh hseen hfresh
      refine .leaf hseen (Disk.includesBeyond_of_contains hcached) ?_ (ih (htracks.see ?_))
      · rw [Disk.failureBeyond?_of_contains hcached, Option.or_none]
      · intro hfresh'
        rw [hfresh] at hfresh'
        cases hfresh'
  | @missing pass after file rest hfresh hread _ ih =>
    by_cases hseen : file ∈ seen
    · exact .again hseen rfl (ih htracks)
    · have htext := Disk.text?_of_missing hread
      refine .leaf hseen (Disk.includesBeyond_of_unreadable htext) ?_ (ih (htracks.see ?_))
      · rw [Disk.failureBeyond?_of_missing hread, Option.or_none]
      · exact fun _ => ⟨htext, fun cause hfault => by simp [hread] at hfault⟩
  | @fault pass after file rest cause hfresh hread _ ih =>
    have hhead : (pass.note ⟨file, cause⟩).failures.head? =
        pass.failures.head?.or (some ⟨file, cause⟩) := List.head?_append
    by_cases hseen : file ∈ seen
    · refine .again hseen ?_ (ih (htracks.note _))
      obtain ⟨first, others, hfailures⟩ :=
        List.exists_cons_of_ne_nil ((htracks.settled file hseen hfresh).2 cause hread)
      rw [hhead, hfailures]
      rfl
    · have htext := Disk.text?_of_fault hread
      have huncached := htracks.uncached_of_fresh hseen hfresh
      refine .leaf hseen (Disk.includesBeyond_of_unreadable htext) ?_
        (ih ((htracks.note _).see ?_))
      · rw [hhead, Disk.failureBeyond?_of_fault huncached hread]
      · exact fun _ => ⟨htext, fun _ _ => note_failures_ne_nil pass _⟩
  | @takeIn pass inside after file rest bytes hfresh hread _ _ ihinside ihrest =>
    have htext := Disk.text?_of_bytes hread
    -- a file that can be read is fresh only until it is seen
    have hseen : file ∉ seen := by
      intro hmem
      have hnone := (htracks.settled file hmem hfresh).1
      rw [htext] at hnone
      cases hnone
    exact .below hseen (htracks.uncached_of_fresh hseen hfresh) htext (ihinside htracks.enter)
      fun _ => ihrest

end discovering

/-! ## Section 3: Passes that fault or miss

    Two passes side by side that read alike, but for files that are faulting in one of
    them and missing in the other. -/

/-- Two moments differ at most in the failures noted. -/
structure Alike (pass other : Pass) : Prop where
  cache : pass.cache = other.cache
  inProgress : pass.inProgress = other.inProgress

namespace Alike

variable {pass other : Pass}

theorem isFresh_eq (h : Alike pass other) (file : FilePath) :
    pass.isFresh file = other.isFresh file := by
  unfold isFresh
  rw [h.cache, h.inProgress]

theorem note (h : Alike pass other) (failure : ReadFailure) :
    Alike (pass.note failure) other :=
  ⟨h.cache, h.inProgress⟩

theorem enter (h : Alike pass other) (path : FilePath) :
    Alike (pass.enter path) (other.enter path) :=
  ⟨h.cache, congrArg (path :: ·) h.inProgress⟩

theorem leave (h : Alike pass other) (index : FileIndex) :
    Alike (pass.leave index) (other.leave index) :=
  ⟨congrArg (·.insert index) h.cache, congrArg (·.erase index.path) h.inProgress⟩

end Alike

/-- `masked` reads as `read` does, but finds nothing at some of the faulting files. -/
def Masks (read masked : FilePath → ReadOutcome) : Prop :=
  ∀ file, masked file = read file ∨ ∃ cause, read file = .fault cause ∧ masked file = .missing

section masking

variable {read masked : FilePath → ReadOutcome} {before after other : Pass} {files : List FilePath}

theorem Masks.eq_of_no_fault (h : Masks read masked) {file : FilePath}
    (hno : ∀ cause, read file ≠ .fault cause) : masked file = read file := by
  rcases h file with heq | ⟨cause, hfault, -⟩
  · exact heq
  · exact absurd hfault (hno cause)

/-- Faults steer nothing. -/
theorem Follows.of_masks (hmasks : Masks read masked) (h : Follows read before files after)
    (halike : Alike before other) :
    ∃ final, Follows masked other files final ∧ Alike after final := by
  induction h generalizing other with
  | done => exact ⟨other, .done, halike⟩
  | @passOver pass after file rest hfresh _ ih =>
    obtain ⟨final, hfollows, hfinal⟩ := ih halike
    exact ⟨final, .passOver (halike.isFresh_eq file ▸ hfresh) hfollows, hfinal⟩
  | @missing pass after file rest hfresh hread _ ih =>
    have hmasked := (hmasks.eq_of_no_fault (by simp [hread])).trans hread
    obtain ⟨final, hfollows, hfinal⟩ := ih halike
    exact ⟨final, .missing (halike.isFresh_eq file ▸ hfresh) hmasked hfollows, hfinal⟩
  | @fault pass after file rest cause hfresh hread _ ih =>
    have hfresh' : other.isFresh file = true := halike.isFresh_eq file ▸ hfresh
    rcases hmasks file with hmasked | ⟨-, -, hmasked⟩
    · -- the other pass notes the fault as well
      have hnoted : Alike (pass.note ⟨file, cause⟩) (other.note ⟨file, cause⟩) :=
        ⟨halike.cache, halike.inProgress⟩
      obtain ⟨final, hfollows, hfinal⟩ := ih hnoted
      exact ⟨final, .fault hfresh' (hmasked.trans hread) hfollows, hfinal⟩
    · obtain ⟨final, hfollows, hfinal⟩ := ih (halike.note _)
      exact ⟨final, .missing hfresh' hmasked hfollows, hfinal⟩
  | @takeIn pass inside after file rest bytes hfresh hread _ _ ihinside ihrest =>
    have hmasked := (hmasks.eq_of_no_fault (by simp [hread])).trans hread
    obtain ⟨inside', hfollows, hinside⟩ := ihinside (halike.enter file)
    obtain ⟨final, hfollows', hfinal⟩ := ihrest (hinside.leave _)
    exact ⟨final, .takeIn (halike.isFresh_eq file ▸ hfresh) hmasked hfollows hfollows', hfinal⟩

theorem Indexes.of_masks {path : FilePath} {text : List Char} (hmasks : Masks read masked)
    (h : Indexes read before path text after) :
    ∃ final, Indexes masked before path text final ∧ after.cache = final.cache := by
  obtain ⟨inside, hfollows, rfl⟩ := h
  obtain ⟨inside', hfollows', hinside⟩ := hfollows.of_masks hmasks ⟨rfl, rfl⟩
  exact ⟨_, ⟨inside', hfollows', rfl⟩, (hinside.leave _).cache⟩

end masking

end Pass

theorem Disk.masks_readWithout {disk : Disk} {failures : List ReadFailure}
    (h : ∀ failure ∈ failures, disk.read failure.path = .fault failure.cause) :
    Pass.Masks disk.read (disk.readWithout (failures.map ReadFailure.path)) := by
  intro file
  unfold readWithout
  split
  · next hmem =>
    obtain ⟨failure, hfailure, rfl⟩ := List.mem_map.1 hmem
    exact Or.inr ⟨failure.cause, h failure hfailure, rfl⟩
  · exact Or.inl rfl

/-! ## Section 4: Reindexing -/

/-- What a pass reports, in terms of the depth-first order. -/
theorem indexText_faults (disk : Disk) (cache : Cache) {path : FilePath} (text : List Char)
    (hnormal : path.IsNormal) :
    ∃ order,
      DepthFirst (disk.includesBeyond cache) [path] (FileIndex.ofText path text).includes order ∧
      (Pass.indexText disk (.start cache) path text).failure? =
        (order.filterMap (disk.failureBeyond? cache)).head? := by
  have hidle : path ∉ (Pass.start cache).inProgress := List.not_mem_nil
  obtain ⟨inside, hfollows, heq⟩ := Pass.indexText_indexes disk text hnormal hidle
  obtain ⟨order, horder, -, hfirst⟩ := hfollows.discovers (.start disk cache path)
  refine ⟨order, horder, ?_⟩
  rw [heq, List.head?_filterMap]
  exact hfirst

/-- Faults on reindexing a file from a text, and on making sure of an entry from a text:
    1. without an entry of the file, both are the same;
    2. a failure is reported exactly when a fault is met;
    3. the result is that of the pass that the rules describe, reading the disk;
    4. the failure is the first of the faults met, in depth-first order of the
       directives;
    5. entries and scans are those of the pass that the rules describe, reading the
       disk with nothing at the paths of these faults. -/
theorem Index.reindex_reports_faults (index : Index) (disk : Disk) (path : FilePath)
    (text : List Char) :
    let file := disk.absolute path
    let before := index.cache
    let result := index.reindex disk path text
    (before.contains file = false → index.ensure disk path (some text) = result) ∧
    ((∃ failure, result.2 = some failure) ↔
      ∃ failure, FaultMet disk before file text failure) ∧
    (∃ pass, Pass.Indexes disk.read (.start before) file text pass ∧
      result = (index.withCache pass.cache, pass.failure?)) ∧
    ∃ order faults,
      DepthFirst (disk.includesBeyond before) [file] (FileIndex.ofText file text).includes order ∧
      faults = order.filterMap (disk.failureBeyond? before) ∧
      (∀ failure, failure ∈ faults ↔ FaultMet disk before file text failure) ∧
      result.2 = faults.head? ∧
      (∃ pass, Pass.Indexes (disk.readWithout (faults.map ReadFailure.path)) (.start before)
        file text pass) ∧
      ∀ pass, Pass.Indexes (disk.readWithout (faults.map ReadFailure.path)) (.start before)
        file text pass → result.1.cache = pass.cache := by
  intro file before result
  have hnormal : file.IsNormal := disk.isNormal_absolute path
  have hidle : file ∉ (Pass.start before).inProgress := List.not_mem_nil
  obtain ⟨order, horder, hfirst⟩ := indexText_faults disk before text hnormal
  have hfirst : result.2 = (order.filterMap (disk.failureBeyond? before)).head? := hfirst
  have hfaults : ∀ failure, failure ∈ order.filterMap (disk.failureBeyond? before) ↔
      FaultMet disk before file text failure := fun _ => mem_failures_iff horder
  have hindexes : Pass.Indexes disk.read (.start before) file text
      (Pass.indexText disk (.start before) file text) :=
    Pass.indexText_indexes disk text hnormal hidle
  obtain ⟨final, hfinal, hcache⟩ := Pass.Indexes.of_masks
    (Disk.masks_readWithout fun _ hmem => ((hfaults _).1 hmem).fault) hindexes
  refine ⟨?_, ?_, ⟨_, hindexes, rfl⟩, order, _, horder, rfl, hfaults, hfirst, ⟨final, hfinal⟩, ?_⟩
  · intro huncached
    have hcached : ¬ index.cache.contains file = true := by simpa using huncached
    show index.provide disk file (some text) = _
    unfold Index.provide
    rw [if_neg hcached]
    rfl
  · rw [hfirst]
    constructor
    · rintro ⟨failure, hhead⟩
      exact ⟨failure, (hfaults failure).1 (List.mem_of_head? hhead)⟩
    · rintro ⟨failure, hmet⟩
      obtain ⟨first, rest, heq⟩ := List.exists_cons_of_ne_nil
        (List.ne_nil_of_mem ((hfaults failure).2 hmet))
      exact ⟨first, by rw [heq]; rfl⟩
  · intro pass hpass
    rw [← hfinal.unique hpass]
    exact hcache

-- a fault below an earlier directive comes before those of later ones
example :
    let disk : Disk := ⟨[([Utf8.encode "w"], .directory),
      ([Utf8.encode "w", Utf8.encode "d"], .directory),
      ([Utf8.encode "w", Utf8.encode "e"], .directory),
      ([Utf8.encode "w", Utf8.encode "b.mk"], .file (Utf8.encode "include d"))],
      [Utf8.encode "w"]⟩
    (Index.empty.reindex disk (.ofString "Makefile") "include b.mk e d".toList).2 =
      some ⟨.ofString "/w/d", .isDirectory⟩ := by
  decide +kernel

end MakeLens
