import MakeLens.Proofs.BuildPass

/-! # The build pass as a relation

    What a pass does, said without a bound on its nesting and for any way of reading
    files: a function from paths to read outcomes takes the place of the disk. One
    rule for each thing that can be met at an included file.

    * `Follows.unique`: the rules leave no choice;
    * `indexText_indexes`: a pass over a disk, which nests as deep as its bound
      allows, is the one that the rules describe.

    Facts about the order of events in a pass are proved by induction on the rules.
-/

namespace MakeLens.Pass

/-! ## Section 1: The rules -/

/-- Notes a failure and goes on. -/
def note (pass : Pass) (failure : ReadFailure) : Pass :=
  { pass with failures := pass.failures ++ [failure] }

/-- Following the directives that include `files`, from first to last, leads from one
    state of a pass to another. -/
inductive Follows (read : FilePath → ReadOutcome) : Pass → List FilePath → Pass → Prop where
  | done {pass : Pass} : Follows read pass [] pass
  /-- A file that is cached or in progress is passed over. -/
  | passOver {pass after : Pass} {file : FilePath} {rest : List FilePath} :
      pass.isFresh file = false → Follows read pass rest after →
      Follows read pass (file :: rest) after
  | missing {pass after : Pass} {file : FilePath} {rest : List FilePath} :
      pass.isFresh file = true → read file = .missing → Follows read pass rest after →
      Follows read pass (file :: rest) after
  | fault {pass after : Pass} {file : FilePath} {rest : List FilePath} {cause : ReadFault} :
      pass.isFresh file = true → read file = .fault cause →
      Follows read (pass.note ⟨file, cause⟩) rest after →
      Follows read pass (file :: rest) after
  /-- The file's own directives come first, then its entry, then the rest. -/
  | takeIn {pass inside after : Pass} {file : FilePath} {rest : List FilePath}
      {bytes : List UInt8} :
      pass.isFresh file = true → read file = .bytes bytes →
      Follows read (pass.enter file)
        (FileIndex.ofText file (Utf8.decodeLossy bytes)).includes inside →
      Follows read (inside.leave (.ofText file (Utf8.decodeLossy bytes))) rest after →
      Follows read pass (file :: rest) after

/-- Indexing `text` as the content of `path` leads from one state of a pass to
    another. -/
def Indexes (read : FilePath → ReadOutcome) (pass : Pass) (path : FilePath) (text : List Char)
    (after : Pass) : Prop :=
  ∃ inside, Follows read (pass.enter path) (FileIndex.ofText path text).includes inside ∧
    after = inside.leave (.ofText path text)

/-! ## Section 2: One outcome -/

section rules

variable {read : FilePath → ReadOutcome} {pass before after other : Pass} {files : List FilePath}

/-- By induction on one run: what is met at the next file says which rule the other
    run has to use. -/
theorem Follows.unique (h : Follows read pass files after) (h' : Follows read pass files other) :
    after = other := by
  induction h generalizing other with
  | done => cases h'; rfl
  | passOver hfresh _ ih =>
    cases h' with
    | passOver _ hrest => exact ih hrest
    | missing hfresh' _ _ => simp [hfresh] at hfresh'
    | fault hfresh' _ _ => simp [hfresh] at hfresh'
    | takeIn hfresh' _ _ _ => simp [hfresh] at hfresh'
  | missing hfresh hread _ ih =>
    cases h' with
    | passOver hfresh' _ => simp [hfresh] at hfresh'
    | missing _ _ hrest => exact ih hrest
    | fault _ hread' _ => simp [hread] at hread'
    | takeIn _ hread' _ _ => simp [hread] at hread'
  | fault hfresh hread _ ih =>
    cases h' with
    | passOver hfresh' _ => simp [hfresh] at hfresh'
    | missing _ hread' _ => simp [hread] at hread'
    | fault _ hread' hrest =>
      rw [hread] at hread'
      cases hread'
      exact ih hrest
    | takeIn _ hread' _ _ => simp [hread] at hread'
  | takeIn hfresh hread _ _ ihinside ihrest =>
    cases h' with
    | passOver hfresh' _ => simp [hfresh] at hfresh'
    | missing _ hread' _ => simp [hread] at hread'
    | fault _ hread' _ => simp [hread] at hread'
    | takeIn _ hread' hinside hrest =>
      rw [hread] at hread'
      cases hread'
      cases ihinside hinside
      exact ihrest hrest

theorem Indexes.unique {path : FilePath} {text : List Char}
    (h : Indexes read pass path text after) (h' : Indexes read pass path text other) :
    after = other := by
  obtain ⟨inside, hinside, rfl⟩ := h
  obtain ⟨inside', hinside', rfl⟩ := h'
  rw [hinside.unique hinside']

/-! ## Section 3: Fresh files -/

theorem isFresh_enter {path file : FilePath} (hne : file ≠ path) :
    (pass.enter path).isFresh file = pass.isFresh file := by
  unfold isFresh enter
  simp [hne]

theorem isFresh_leave {path file : FilePath} (text : List Char) (hne : file ≠ path) :
    (pass.leave (.ofText path text)).isFresh file = pass.isFresh file := by
  have hcached : (pass.leave (.ofText path text)).cache.contains file =
      pass.cache.contains file := by
    unfold Cache.contains
    rw [get?_leave, if_neg hne]
  have hprogress : file ∈ pass.inProgress.erase path ↔ file ∈ pass.inProgress :=
    List.mem_erase_of_ne hne
  unfold isFresh
  rw [hcached]
  show (!(pass.cache.contains file || decide (file ∈ pass.inProgress.erase path))) = _
  simp [hprogress]

/-- A file that was left is cached. -/
theorem isFresh_leave_self (pass : Pass) (path : FilePath) (text : List Char) :
    (pass.leave (.ofText path text)).isFresh path = false := by
  have hcached : (pass.leave (.ofText path text)).cache.contains path = true := by
    apply Cache.contains_of_get?
    rw [get?_leave, if_pos rfl]
  unfold isFresh
  rw [hcached]
  rfl

theorem isFresh_leave_anti {path file : FilePath} {text : List Char}
    (h : (pass.leave (.ofText path text)).isFresh file = true) : pass.isFresh file = true := by
  by_cases hne : file = path
  · rw [hne, isFresh_leave_self] at h
    cases h
  · rw [isFresh_leave text hne] at h
    exact h

/-- Nothing becomes fresh on the way. -/
theorem Follows.isFresh_anti (h : Follows read before files after) {file : FilePath}
    (hfresh : after.isFresh file = true) : before.isFresh file = true := by
  induction h with
  | done => exact hfresh
  | passOver _ _ ih => exact ih hfresh
  | missing _ _ _ ih => exact ih hfresh
  | fault _ _ _ ih => exact ih hfresh
  | takeIn _ _ _ _ ihinside ihrest =>
    exact isFresh_enter_anti (ihinside (isFresh_leave_anti (ihrest hfresh)))

theorem Indexes.isFresh_anti {path file : FilePath} {text : List Char}
    (h : Indexes read before path text after) (hfresh : after.isFresh file = true) :
    before.isFresh file = true := by
  obtain ⟨inside, hinside, rfl⟩ := h
  exact isFresh_enter_anti (hinside.isFresh_anti (isFresh_leave_anti hfresh))

end rules

/-! ## Section 4: The pass over a disk

    What is asked of the function that takes in the text of a file, as long as at most
    `room` files are pending. -/

/-- `index` does with a fresh file what the rules say. -/
def IndexesWithin (disk : Disk) (room : Nat) (index : Pass → FilePath → List Char → Pass) : Prop :=
  ∀ (pass : Pass) (file : FilePath) (text : List Char), file.IsNormal →
    pass.isFresh file = true → disk.text? file = some text → (pass.pending disk).length ≤ room →
    Indexes disk.read pass file text (index pass file text)

section disk

variable {disk : Disk} {room : Nat} {index : Pass → FilePath → List Char → Pass}

theorem visitInclude_of_missing {pass : Pass} {file : FilePath} (h : pass.isFresh file = true)
    (hread : disk.read file = .missing) : visitInclude disk index pass file = pass := by
  unfold isFresh at h
  rw [Bool.not_eq_true'] at h
  unfold visitInclude
  rw [h, hread]
  rfl

theorem visitInclude_of_fault {pass : Pass} {file : FilePath} {cause : ReadFault}
    (h : pass.isFresh file = true) (hread : disk.read file = .fault cause) :
    visitInclude disk index pass file = pass.note ⟨file, cause⟩ := by
  unfold isFresh at h
  rw [Bool.not_eq_true'] at h
  unfold visitInclude
  rw [h, hread]
  rfl

/-- Visiting one included file after the other is following the directives. -/
theorem foldl_visitInclude_follows (hindex : IndexesWithin disk room index)
    {files : List FilePath} (hfiles : ∀ file ∈ files, file.IsNormal) {pass : Pass}
    (hroom : (pass.pending disk).length ≤ room) :
    Follows disk.read pass files (files.foldl (visitInclude disk index) pass) := by
  induction files generalizing pass with
  | nil => exact .done
  | cons file rest ih =>
    have hrest : ∀ f ∈ rest, f.IsNormal := fun f hf => hfiles f (List.mem_cons_of_mem _ hf)
    rw [List.foldl_cons]
    cases hfresh : pass.isFresh file with
    | false =>
      rw [visitInclude_of_not_fresh hfresh]
      exact .passOver hfresh (ih hrest hroom)
    | true =>
      cases hread : disk.read file with
      | missing =>
        rw [visitInclude_of_missing hfresh hread]
        exact .missing hfresh hread (ih hrest hroom)
      | fault cause =>
        rw [visitInclude_of_fault hfresh hread]
        exact .fault hfresh hread (ih hrest hroom)
      | bytes bytes =>
        have htext := Disk.text?_of_bytes hread
        have htaken := hindex pass file _ (hfiles file List.mem_cons_self) hfresh htext hroom
        -- no more is pending after the file than before it
        have hroom' : ((index pass file (Utf8.decodeLossy bytes)).pending disk).length ≤ room :=
          Nat.le_trans (length_pending_le fun _ => htaken.isFresh_anti) hroom
        have hfollows := ih hrest hroom'
        rw [visitInclude_of_text hfresh htext]
        obtain ⟨inside, hinside, heq⟩ := htaken
        rw [heq] at hfollows ⊢
        exact .takeIn hfresh hread hinside hfollows

theorem indexNested_indexes (hindex : IndexesWithin disk room (indexNested disk room))
    {pass : Pass} {path : FilePath} {text : List Char} (hnormal : path.IsNormal)
    (hidle : path ∉ pass.inProgress) (hroom : ((pass.enter path).pending disk).length ≤ room) :
    Indexes disk.read pass path text (indexNested disk (room + 1) pass path text) := by
  have hfiles : ∀ file ∈ (FileIndex.ofText path text).includes, file.IsNormal :=
    fun _ hmem => (mem_includes_ofText.1 hmem).isNormal
  exact ⟨_, foldl_visitInclude_follows hindex hfiles hroom, indexNested_succ hnormal hidle⟩

end disk

/-- The induction is on the room, as for what a pass stores. -/
theorem indexNested_indexesWithin (disk : Disk) (room : Nat) :
    IndexesWithin disk room (indexNested disk room) := by
  induction room with
  | zero =>
    -- the file itself is pending
    intro pass file text hnormal hfresh htext hroom
    have hmem := mem_pending hnormal htext hfresh
    rw [List.length_eq_zero_iff.1 (Nat.le_zero.1 hroom)] at hmem
    cases hmem
  | succ room ih =>
    intro pass file text hnormal hfresh htext hroom
    have hfewer : ((pass.enter file).pending disk).length < (pass.pending disk).length :=
      length_pending_lt (fun _ => isFresh_enter_anti) (mem_pending hnormal htext hfresh)
        (isFresh_enter_self pass file)
    exact indexNested_indexes ih hnormal (isFresh_iff.1 hfresh).2 (by omega)

/-- A pass over a disk does what the rules say. -/
theorem indexText_indexes (disk : Disk) {pass : Pass} {path : FilePath} (text : List Char)
    (hnormal : path.IsNormal) (hidle : path ∉ pass.inProgress) :
    Indexes disk.read pass path text (indexText disk pass path text) := by
  have hroom : ((pass.enter path).pending disk).length ≤ 2 * disk.nodes.length := by
    rw [← disk.length_nodePaths]
    exact List.length_filter_le _ _
  exact indexNested_indexes (indexNested_indexesWithin disk _) hnormal hidle hroom

end MakeLens.Pass
