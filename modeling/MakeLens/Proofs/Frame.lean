import MakeLens.Proofs.Runs

/-! # The frame of an operation

    An entry that is there is trusted. Whatever an operation pulls in on its way
    through the include graph, it leaves the entries that it finds as they are; the
    one entry that it may put another in the place of is that of the file it was told
    to scan. Operations that only want a file to have an entry replace none, and with
    the entry there they do nothing at all.

    * `perform_keeps` and `run_keeps`: what an operation, and a run, leaves alone;
    * `perform_of_wanted` and `run_of_wanted`: when nothing happens.
-/

namespace MakeLens

/-! ## Section 1: What an operation is about -/

namespace Operation

/-- The file that an operation scans whether it has an entry or not. -/
def rescanned? (disk : Disk) : Operation → Option FilePath
  | .reindex path _ => some (disk.absolute path)
  | .invalidate path => some (disk.absolute path)
  | _ => none

/-- The file that an operation wants to have an entry, be it old or new. -/
def wanted? (disk : Disk) : Operation → Option FilePath
  | .ensure path _ => some (disk.absolute path)
  | .definitions path _ => some (disk.absolute path)
  | .hoverValue path _ _ => some (disk.absolute path)
  | _ => none

end Operation

namespace Index

/-! ## Section 2: Entries that stay -/

section keeping

variable {index : Index} {disk : Disk} {path file : FilePath} {entry : FileIndex}

/-- A pass leaves every entry alone but the one of the file that it is for. -/
theorem takeText_keeps {text : List Char} (hnormal : path.IsNormal) (hne : file ≠ path)
    (h : index.cache.get? file = some entry) :
    (index.takeText disk path text).1.cache.get? file = some entry := by
  have hidle : path ∉ (Pass.start index.cache).inProgress := List.not_mem_nil
  have htargets : ∀ target, Directs path text target → True := fun _ _ => trivial
  have hpasses : ((Pass.start index.cache).enter path).Passes disk fun _ => True :=
    fun _ _ _ _ _ _ _ => trivial
  obtain ⟨visited, new, heq, hgrows, -, -⟩ :=
    Pass.indexText_visits hnormal hidle htargets hpasses
  -- inside the pass the entry is cached, so no include directive leads into the file
  have hcached : ((Pass.start index.cache).enter path).cache.contains file = true :=
    Cache.contains_of_get? h
  have hvisited : visited.cache.get? file = some entry := by
    rw [hgrows.get?_of_contains hcached]
    exact h
  show (Pass.indexText disk (.start index.cache) path text).cache.get? file = some entry
  rw [heq, Pass.get?_leave, if_neg hne]
  exact hvisited

theorem takeFile_keeps (hnormal : path.IsNormal) (hne : file ≠ path)
    (h : index.cache.get? file = some entry) :
    (index.takeFile disk path).1.cache.get? file = some entry := by
  cases htext : disk.text? path with
  | none =>
    rw [takeFile_of_unreadable htext]
    exact h
  | some text =>
    rw [takeFile_of_text htext]
    exact takeText_keeps hnormal hne h

/-- An entry that is there is enough. -/
theorem provide_of_contains (disk : Disk) (text : Option (List Char))
    (h : index.cache.contains path = true) : index.provide disk path text = (index, none) := by
  unfold provide
  rw [if_pos h]

/-- No exception for the file itself: its entry is not asked for again. -/
theorem provide_keeps (text : Option (List Char)) (hnormal : path.IsNormal)
    (h : index.cache.get? file = some entry) :
    (index.provide disk path text).1.cache.get? file = some entry := by
  cases hpath : index.cache.contains path with
  | true =>
    rw [provide_of_contains disk text hpath]
    exact h
  | false =>
    have hne : file ≠ path := by
      intro heq
      rw [← heq, Cache.contains_of_get? h] at hpath
      cases hpath
    unfold provide
    rw [if_neg (by simp [hpath])]
    cases text with
    | none => exact takeFile_keeps hnormal hne h
    | some text => exact takeText_keeps hnormal hne h

theorem invalidate_keeps (hne : file ≠ disk.absolute path)
    (h : index.cache.get? file = some entry) :
    (index.invalidate disk path).1.cache.get? file = some entry := by
  have htaken : (index.takeFile disk (disk.absolute path)).1.cache.get? file = some entry :=
    takeFile_keeps (disk.isNormal_absolute path) hne h
  rcases index.invalidate_eq_or disk path with heq | heq
  · rw [heq]
    exact htaken
  · rw [heq]
    -- the entry that is dropped is another one
    show ((index.takeFile disk (disk.absolute path)).1.cache.remove
      (disk.absolute path)).get? file = some entry
    rw [Cache.get?_remove, if_neg hne]
    exact htaken

end keeping

/-- One operation: an entry stays unless the operation scans its file again. -/
theorem perform_keeps {index : Index} {disk : Disk} {operation : Operation} {file : FilePath}
    {entry : FileIndex} (hother : operation.rescanned? disk ≠ some file)
    (h : index.cache.get? file = some entry) :
    (operation.perform disk index).cache.get? file = some entry := by
  have hnormal : ∀ path, (disk.absolute path).IsNormal := disk.isNormal_absolute
  cases operation with
  | symbols path text => exact h
  | ensure path text => exact provide_keeps text (hnormal path) h
  | reindex path text =>
    have hne : file ≠ disk.absolute path := fun heq => hother (congrArg some heq.symm)
    exact takeText_keeps (hnormal path) hne h
  | invalidate path =>
    have hne : file ≠ disk.absolute path := fun heq => hother (congrArg some heq.symm)
    exact invalidate_keeps hne h
  | definitions path name => exact provide_keeps none (hnormal path) h
  | hoverValue path name line => exact provide_keeps none (hnormal path) h
  | includeSet path => exact h
  | setDepth depth => exact h

theorem run_keeps {file : FilePath} {entry : FileIndex} {steps : List (Disk × Operation)}
    (hother : ∀ step ∈ steps, step.2.rescanned? step.1 ≠ some file) {index : Index}
    (h : index.cache.get? file = some entry) :
    (index.run steps).cache.get? file = some entry := by
  induction steps generalizing index with
  | nil => exact h
  | cons step rest ih =>
    have hstep := perform_keeps (hother step List.mem_cons_self) h
    exact ih (fun s hs => hother s (List.mem_cons_of_mem _ hs)) hstep

/-! ## Section 3: Operations without effect -/

/-- An operation that wants no more than an entry that is there changes nothing. -/
theorem perform_of_wanted {index : Index} {disk : Disk} {operation : Operation} {file : FilePath}
    (hwanted : operation.wanted? disk = some file) (h : index.cache.contains file = true) :
    operation.perform disk index = index := by
  cases operation with
  | ensure path text =>
    cases hwanted
    exact congrArg Prod.fst (provide_of_contains disk text h)
  | definitions path name =>
    cases hwanted
    exact congrArg Prod.fst (provide_of_contains disk none h)
  | hoverValue path name line =>
    cases hwanted
    exact congrArg Prod.fst (provide_of_contains disk none h)
  | symbols path text => cases hwanted
  | reindex path text => cases hwanted
  | invalidate path => cases hwanted
  | includeSet path => cases hwanted
  | setDepth depth => cases hwanted

theorem run_of_wanted {index : Index} {steps : List (Disk × Operation)}
    (h : ∀ step ∈ steps, ∃ file, step.2.wanted? step.1 = some file ∧
      index.cache.contains file = true) : index.run steps = index := by
  induction steps with
  | nil => rfl
  | cons step rest ih =>
    obtain ⟨file, hwanted, hcached⟩ := h step List.mem_cons_self
    show (step.2.perform step.1 index).run rest = index
    rw [perform_of_wanted hwanted hcached]
    exact ih fun s hs => h s (List.mem_cons_of_mem _ hs)

/-- The frame law, for every index, every run and every disk at each of its steps:
    1. an entry stays as it is while no step scans its file again, as `reindex` and
       `invalidate` do;
    2. steps that make sure of an entry or ask about a file leave the whole index as
       it is, the scans included, where the file has an entry. -/
theorem run_frame (index : Index) (steps : List (Disk × Operation)) :
    (∀ file entry, index.cache.get? file = some entry →
      (∀ step ∈ steps, step.2.rescanned? step.1 ≠ some file) →
      (index.run steps).cache.get? file = some entry) ∧
    ((∀ step ∈ steps, ∃ file, step.2.wanted? step.1 = some file ∧
        index.cache.contains file = true) →
      index.run steps = index) :=
  ⟨fun _ _ h hother => run_keeps hother h, run_of_wanted⟩

end Index

end MakeLens
