import MakeLens.Index
import MakeLens.Proofs.BuildPass

/-! # Runs of an index

    A run is a sequence of operations, each with the disk as it is at the moment: in
    between, anything may have happened to the disk and to its working directory.

    Whatever the operation, an entry found after it was there before or is the index
    of some text under a normal path (`Built`). Invariants on entries need no more
    than this, or no more than another property of paths that goes over from a file to
    the files it includes (`Spreads`).
-/

namespace MakeLens

/-! ## Section 1: Operations -/

/-- What can be asked of an index. -/
inductive Operation where
  | symbols (path : FilePath) (text : List Char)
  | ensure (path : FilePath) (text : Option (List Char))
  | reindex (path : FilePath) (text : List Char)
  | invalidate (path : FilePath)
  | definitions (path : FilePath) (name : String)
  | hoverValue (path : FilePath) (name : String) (line : UInt32)
  | includeSet (path : FilePath)
  | setDepth (depth : Nat)
  deriving DecidableEq, Repr

namespace Operation

/-- The text that an operation hands over to be indexed, and the file it is for. -/
def given? (disk : Disk) : Operation → Option (FilePath × List Char)
  | .ensure path text => text.map fun text => (disk.absolute path, text)
  | .reindex path text => some (disk.absolute path, text)
  | _ => none

/-- The index after an operation. -/
def perform (disk : Disk) (index : Index) : Operation → Index
  | .symbols _ _ => index
  | .ensure path text => (index.ensure disk path text).1
  | .reindex path text => (index.reindex disk path text).1
  | .invalidate path => (index.invalidate disk path).1
  | .definitions path name => (index.definitions disk path name).1
  | .hoverValue path name line => (index.hoverValue disk path name line).1
  | .includeSet _ => index
  | .setDepth depth => index.setDepth depth

end Operation

/-- The index after a sequence of operations, each on the disk of its moment. -/
def Index.run (index : Index) (steps : List (Disk × Operation)) : Index :=
  steps.foldl (fun index step => step.2.perform step.1 index) index

/-! ## Section 2: Where entries come from -/

/-- The property `P` is one of every file that an operation can be for, and goes over from
    a file to the files that its text includes. -/
structure Spreads (P : FilePath → Prop) (disk : Disk) (given : Option (FilePath × List Char)) :
    Prop where
  absolute : ∀ path, P (disk.absolute path)
  directed : ∀ file text target, given = some (file, text) → Directs file text target → P target
  passed : ∀ file text target, P file → disk.text? file = some text →
    Directs file text target → P target

theorem spreads_isNormal (disk : Disk) (given : Option (FilePath × List Char)) :
    Spreads FilePath.IsNormal disk given where
  absolute := disk.isNormal_absolute
  directed := fun _ _ _ _ htarget => htarget.isNormal
  passed := fun _ _ _ _ _ htarget => htarget.isNormal

/-- `entry` is the index of a text under `file`, a path with the property `P`: of the text
    given for it, or of the one on the disk. -/
def Built (P : FilePath → Prop) (disk : Disk) (given : Option (FilePath × List Char))
    (file : FilePath) (entry : FileIndex) : Prop :=
  P file ∧ ∃ content, entry = .ofText file content ∧
    (given = some (file, content) ∨ disk.text? file = some content)

/-- Each entry of `after` was there in `before` or was built. -/
def BuiltFrom (P : FilePath → Prop) (disk : Disk) (given : Option (FilePath × List Char))
    (before after : Cache) : Prop :=
  ∀ file entry, after.get? file = some entry →
    before.get? file = some entry ∨ Built P disk given file entry

theorem BuiltFrom.refl (P : FilePath → Prop) (disk : Disk)
    (given : Option (FilePath × List Char)) (cache : Cache) :
    BuiltFrom P disk given cache cache :=
  fun _ _ h => Or.inl h

namespace Index

section entries

variable {P : FilePath → Prop} {index : Index} {disk : Disk} {path : FilePath}

theorem takeText_builtFrom {text : List Char} (hspreads : Spreads P disk (some (path, text)))
    (hnormal : path.IsNormal) (hpath : P path) :
    BuiltFrom P disk (some (path, text)) index.cache
      (index.takeText disk path text).1.cache := by
  intro file entry h
  have hidle : path ∉ (Pass.start index.cache).inProgress := List.not_mem_nil
  have htargets : ∀ target, Directs path text target → P target :=
    fun target htarget => hspreads.directed path text target rfl htarget
  have hpasses : ((Pass.start index.cache).enter path).Passes disk P :=
    fun file text target hfile _ htext htarget =>
      hspreads.passed file text target hfile htext htarget
  obtain ⟨visited, new, heq, hgrows, -, -⟩ :=
    Pass.indexText_visits hnormal hidle htargets hpasses
  change (Pass.indexText disk (.start index.cache) path text).cache.get? file = some entry at h
  rw [heq, Pass.get?_leave] at h
  split at h
  · next hfile =>
    right
    rw [hfile]
    exact ⟨hpath, text, (Option.some.inj h).symm, Or.inl rfl⟩
  · by_cases hmem : file ∈ new
    · right
      obtain ⟨content, hcontent, hget⟩ := hgrows.stored file hmem
      rw [hget] at h
      exact ⟨hgrows.property file hmem, content, (Option.some.inj h).symm, Or.inr hcontent⟩
    · left
      rw [hgrows.kept file hmem] at h
      exact h

theorem takeFile_of_text {text : List Char} (h : disk.text? path = some text) :
    index.takeFile disk path = index.takeText disk path text := by
  obtain ⟨bytes, hread, rfl⟩ := Disk.text?_eq_some_iff.1 h
  unfold takeFile Pass.indexFile
  rw [hread]
  rfl

theorem takeFile_of_unreadable (h : disk.text? path = none) :
    (index.takeFile disk path).1 = index := by
  unfold takeFile Pass.indexFile
  unfold Disk.text? at h
  cases hread : disk.read path with
  | bytes bytes => rw [hread] at h; cases h
  | missing => rfl
  | fault cause => rfl

theorem takeFile_builtFrom {given : Option (FilePath × List Char)}
    (hspreads : Spreads P disk given) (hnormal : path.IsNormal) (hpath : P path) :
    BuiltFrom P disk given index.cache (index.takeFile disk path).1.cache := by
  cases htext : disk.text? path with
  | none =>
    rw [takeFile_of_unreadable htext]
    exact .refl P disk given index.cache
  | some text =>
    rw [takeFile_of_text htext]
    -- the text taken for the file is the one on the disk
    have htaken : Spreads P disk (some (path, text)) := by
      refine ⟨hspreads.absolute, ?_, hspreads.passed⟩
      intro file content target hgiven htarget
      cases hgiven
      exact hspreads.passed path text target hpath htext htarget
    intro file entry h
    rcases takeText_builtFrom htaken hnormal hpath file entry h with
      h | ⟨hfile, content, rfl, hgiven | hcontent⟩
    · exact Or.inl h
    · cases hgiven
      exact Or.inr ⟨hfile, text, rfl, Or.inr htext⟩
    · exact Or.inr ⟨hfile, content, rfl, Or.inr hcontent⟩

theorem provide_builtFrom (text : Option (List Char))
    (hspreads : Spreads P disk (text.map fun text => (path, text))) (hnormal : path.IsNormal)
    (hpath : P path) :
    BuiltFrom P disk (text.map fun text => (path, text)) index.cache
      (index.provide disk path text).1.cache := by
  unfold provide
  split
  · exact .refl _ _ _ _
  · cases text with
    | none => exact takeFile_builtFrom hspreads hnormal hpath
    | some text => exact takeText_builtFrom hspreads hnormal hpath

/-- Scanning a file again is taking it, and perhaps dropping its entry then. -/
theorem invalidate_eq_or (index : Index) (disk : Disk) (path : FilePath) :
    let file := disk.absolute path
    let taken := index.takeFile disk file
    index.invalidate disk path = taken ∨
    index.invalidate disk path = (taken.1.withCache (taken.1.cache.remove file), taken.2) := by
  intro file taken
  dsimp only [taken, file]
  unfold invalidate takeFile
  simp only
  split
  · left
    rfl
  · by_cases hexists : disk.pathExists (disk.absolute path) = true
    · left
      rw [if_pos hexists]
    · right
      rw [if_neg hexists]
      rfl

theorem invalidate_builtFrom (hspreads : Spreads P disk none) (index : Index)
    (path : FilePath) :
    BuiltFrom P disk none index.cache (index.invalidate disk path).1.cache := by
  have htaken : BuiltFrom P disk none index.cache
      (index.takeFile disk (disk.absolute path)).1.cache :=
    takeFile_builtFrom hspreads (disk.isNormal_absolute path) (hspreads.absolute path)
  rcases index.invalidate_eq_or disk path with heq | heq
  · rw [heq]
    exact htaken
  · rw [heq]
    intro file entry h
    change ((index.takeFile disk (disk.absolute path)).1.cache.remove
      (disk.absolute path)).get? file = some entry at h
    rw [Cache.get?_remove] at h
    split at h
    · cases h
    · exact htaken file entry h

/-- One operation at a time: what is not from before was built. -/
theorem perform_builtFrom (index : Index) {operation : Operation}
    (hspreads : Spreads P disk (operation.given? disk)) :
    BuiltFrom P disk (operation.given? disk) index.cache (operation.perform disk index).cache := by
  have hnormal : ∀ path, (disk.absolute path).IsNormal := disk.isNormal_absolute
  cases operation with
  | symbols path text => exact .refl _ _ _ _
  | ensure path text =>
    exact provide_builtFrom text hspreads (hnormal path) (hspreads.absolute path)
  | reindex path text => exact takeText_builtFrom hspreads (hnormal path) (hspreads.absolute path)
  | invalidate path => exact invalidate_builtFrom hspreads index path
  | definitions path name =>
    exact provide_builtFrom none hspreads (hnormal path) (hspreads.absolute path)
  | hoverValue path name line =>
    exact provide_builtFrom none hspreads (hnormal path) (hspreads.absolute path)
  | includeSet path => exact .refl _ _ _ _
  | setDepth depth => exact .refl _ _ _ _

end entries

/-! ## Section 3: Invariants of a run -/

/-- A property of entries that every built entry has, along the whole run, holds of
    all entries at its end. -/
theorem run_property {P : FilePath → Prop} {Q : FilePath → FileIndex → Prop}
    (steps : List (Disk × Operation))
    (hspreads : ∀ step ∈ steps, Spreads P step.1 (step.2.given? step.1))
    (hbuilt : ∀ step ∈ steps, ∀ file entry,
      Built P step.1 (step.2.given? step.1) file entry → Q file entry)
    (index : Index) (hstart : ∀ file entry, index.cache.get? file = some entry → Q file entry)
    {file : FilePath} {entry : FileIndex}
    (h : (index.run steps).cache.get? file = some entry) : Q file entry := by
  induction steps generalizing index with
  | nil => exact hstart file entry h
  | cons step rest ih =>
    refine ih (fun s hs => hspreads s (List.mem_cons_of_mem _ hs))
      (fun s hs => hbuilt s (List.mem_cons_of_mem _ hs)) (step.2.perform step.1 index) ?_ h
    intro other found hfound
    rcases perform_builtFrom index (hspreads step List.mem_cons_self) other found hfound with
      hbefore | hnew
    · exact hstart other found hbefore
    · exact hbuilt step List.mem_cons_self other found hnew

/-- Entries are built under normal paths, whatever the operations are. -/
theorem run_invariant {Q : FilePath → FileIndex → Prop} (steps : List (Disk × Operation))
    (hbuilt : ∀ step ∈ steps, ∀ file entry,
      Built FilePath.IsNormal step.1 (step.2.given? step.1) file entry → Q file entry)
    (index : Index) (hstart : ∀ file entry, index.cache.get? file = some entry → Q file entry)
    {file : FilePath} {entry : FileIndex}
    (h : (index.run steps).cache.get? file = some entry) : Q file entry :=
  run_property steps (fun step _ => spreads_isNormal step.1 _) hbuilt index hstart h

end Index

end MakeLens
