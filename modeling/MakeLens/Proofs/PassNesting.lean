import Mathlib.Data.List.Dedup
import Mathlib.Data.List.Perm.Subperm
import Mathlib.Logic.Relation
import MakeLens.Proofs.PassRelation

/-! # The nesting of a build pass

    Taking in a text is a call, and every included file that is fresh and can be read makes
    for a call inside it. Here the calls of a pass are written out as a machine with a stack,
    without a bound on its height and for any way of reading files, so that something can be
    said about every moment between the beginning and the end of the outermost call.

    * `steps_follows`: the machine does what the rules of a pass say, so it comes to a halt
      with the pass that `indexText` computes;
    * `Moment.Orderly.step`: what holds at every moment. Of the files that have been entered
      none is entered again before it is left, and a file that was stored is not entered at
      all, since both are looked up under the path that the entry gets;
    * `Moment.Orderly.length_active_le`: each call but the outermost one is for a readable
      path of its own that had no entry at the beginning. This bounds the nesting;
    * `indexNested_eq_indexText`: the recursion needs no more room than that.
-/

namespace MakeLens

/-! ## Section 1: Readable paths without an entry -/

/-- The normal paths that can be read and have no entry in a cache, each of them once. -/
def Disk.uncachedPaths (disk : Disk) (cache : Cache) : List FilePath :=
  (disk.nodePaths.filter fun file =>
    file.normalize == file && (disk.text? file).isSome && !cache.contains file).dedup

theorem Disk.nodup_uncachedPaths (disk : Disk) (cache : Cache) :
    (disk.uncachedPaths cache).Nodup :=
  List.nodup_dedup _

theorem Disk.mem_uncachedPaths_iff {disk : Disk} {cache : Cache} {file : FilePath} :
    file ∈ disk.uncachedPaths cache ↔
      file.IsNormal ∧ (∃ text, disk.text? file = some text) ∧ cache.contains file = false := by
  unfold uncachedPaths
  rw [List.mem_dedup, List.mem_filter]
  simp only [Bool.and_eq_true, beq_iff_eq, Option.isSome_iff_exists, Bool.not_eq_true', and_assoc]
  constructor
  · rintro ⟨-, h⟩
    exact h
  · rintro ⟨hnormal, ⟨text, htext⟩, huncached⟩
    exact ⟨mem_nodePaths hnormal htext, hnormal, ⟨text, htext⟩, huncached⟩

namespace Pass

/-! ## Section 2: The machine -/

/-- A file that has been entered and not left yet: its path, its text, and the included files
    that are still to be visited. -/
structure OpenFile where
  path : FilePath
  text : List Char
  rest : List FilePath
  deriving DecidableEq, Repr

/-- A moment of a pass inside its outermost call. -/
structure Moment where
  pass : Pass
  /-- The path and the text of a call that has just been made and has not entered its file. -/
  called : Option (FilePath × List Char)
  /-- The files that have been entered, innermost first. -/
  opened : List OpenFile
  /-- The paths stored since the outermost call was made, last first. -/
  stored : List FilePath

namespace Moment

/-- The outermost call is made. -/
def start (pass : Pass) (path : FilePath) (text : List Char) : Moment :=
  ⟨pass, some (path, text), [], []⟩

/-- The paths that the calls which have not returned are for, innermost first. -/
def active (m : Moment) : List FilePath :=
  (m.called.map fun call => call.1.normalize).toList ++ m.opened.map OpenFile.path

end Moment

/-- One moment leads to another. One rule for each thing that can happen. -/
inductive Leads (read : FilePath → ReadOutcome) : Moment → Moment → Prop where
  /-- A call for a file in progress returns at once. -/
  | refuse {pass path text opened stored} :
      path.normalize ∈ pass.inProgress →
      Leads read ⟨pass, some (path, text), opened, stored⟩ ⟨pass, none, opened, stored⟩
  | enter {pass path text opened stored} :
      path.normalize ∉ pass.inProgress →
      Leads read ⟨pass, some (path, text), opened, stored⟩
        ⟨pass.enter path.normalize, none,
          ⟨path.normalize, text, (FileIndex.ofText path.normalize text).includes⟩ :: opened, stored⟩
  /-- An included file that is cached or in progress is passed over. -/
  | passOver {pass path text file rest opened stored} :
      pass.isFresh file = false →
      Leads read ⟨pass, none, ⟨path, text, file :: rest⟩ :: opened, stored⟩
        ⟨pass, none, ⟨path, text, rest⟩ :: opened, stored⟩
  | missing {pass path text file rest opened stored} :
      pass.isFresh file = true → read file = .missing →
      Leads read ⟨pass, none, ⟨path, text, file :: rest⟩ :: opened, stored⟩
        ⟨pass, none, ⟨path, text, rest⟩ :: opened, stored⟩
  | fault {pass path text file rest opened stored cause} :
      pass.isFresh file = true → read file = .fault cause →
      Leads read ⟨pass, none, ⟨path, text, file :: rest⟩ :: opened, stored⟩
        ⟨pass.note ⟨file, cause⟩, none, ⟨path, text, rest⟩ :: opened, stored⟩
  /-- The text of an included file is taken in by a call of its own. -/
  | call {pass path text file rest opened stored bytes} :
      pass.isFresh file = true → read file = .bytes bytes →
      Leads read ⟨pass, none, ⟨path, text, file :: rest⟩ :: opened, stored⟩
        ⟨pass, some (file, Utf8.decodeLossy bytes), ⟨path, text, rest⟩ :: opened, stored⟩
  /-- The entry of a file is stored when all its includes have been visited. -/
  | store {pass path text opened stored} :
      Leads read ⟨pass, none, ⟨path, text, []⟩ :: opened, stored⟩
        ⟨pass.leave (.ofText path text), none, opened, path :: stored⟩

section machine

variable {read : FilePath → ReadOutcome} {m m' other : Moment}

/-- The rules leave no choice. -/
theorem Leads.unique (h : Leads read m m') (h' : Leads read m other) : m' = other := by
  cases h <;> cases h' <;> simp_all

/-- The machine halts where the outermost call has returned. -/
theorem not_leads_of_returned {pass : Pass} {stored : List FilePath} :
    ¬ Leads read ⟨pass, none, [], stored⟩ m := by
  intro h
  cases h

/-- A machine that has come to a halt has made finitely many steps. -/
theorem acc_of_returned {last : Moment} (h : Relation.ReflTransGen (Leads read) m last)
    (hlast : ∀ after, ¬ Leads read last after) :
    Acc (fun after before => Leads read before after) m := by
  induction h using Relation.ReflTransGen.head_induction_on with
  | refl =>
    constructor
    intro after hafter
    exact absurd hafter (hlast after)
  | head hstep _ ih =>
    constructor
    intro after hafter
    rw [← hstep.unique hafter]
    exact ih

end machine

/-! ## Section 3: The machine does what the rules say -/

theorem includes_isNormal (path : FilePath) (text : List Char) :
    ∀ file ∈ (FileIndex.ofText path text).includes, file.IsNormal :=
  fun _ hmem => (mem_includes_ofText.1 hmem).isNormal

theorem Leads.enter_of_isNormal {read : FilePath → ReadOutcome} {pass : Pass} {path : FilePath}
    {text : List Char} {opened : List OpenFile} {stored : List FilePath}
    (hnormal : path.IsNormal) (hidle : path ∉ pass.inProgress) :
    Leads read ⟨pass, some (path, text), opened, stored⟩
      ⟨pass.enter path, none, ⟨path, text, (FileIndex.ofText path text).includes⟩ :: opened,
        stored⟩ := by
  have hpath : path.normalize = path := hnormal
  have hnew : path.normalize ∉ pass.inProgress := by rwa [hpath]
  have henter : Leads read ⟨pass, some (path, text), opened, stored⟩ _ := .enter hnew
  rw [hpath] at henter
  exact henter

/-- The includes of an open file are visited one after the other, while the files that it was
    entered from wait. The induction is on the rules of the pass. -/
theorem steps_follows {read : FilePath → ReadOutcome} {before after : Pass}
    {files : List FilePath} (h : Follows read before files after)
    (hfiles : ∀ file ∈ files, file.IsNormal) (path : FilePath) (text : List Char)
    (opened : List OpenFile) (stored : List FilePath) :
    ∃ stored', Relation.ReflTransGen (Leads read)
      ⟨before, none, ⟨path, text, files⟩ :: opened, stored⟩
      ⟨after, none, ⟨path, text, []⟩ :: opened, stored'⟩ := by
  induction h generalizing path text opened stored with
  | done => exact ⟨stored, .refl⟩
  | passOver hfresh _ ih =>
    obtain ⟨-, hfiles⟩ := List.forall_mem_cons.1 hfiles
    obtain ⟨stored', hrest⟩ := ih hfiles path text opened stored
    exact ⟨stored', .head (.passOver hfresh) hrest⟩
  | missing hfresh hread _ ih =>
    obtain ⟨-, hfiles⟩ := List.forall_mem_cons.1 hfiles
    obtain ⟨stored', hrest⟩ := ih hfiles path text opened stored
    exact ⟨stored', .head (.missing hfresh hread) hrest⟩
  | fault hfresh hread _ ih =>
    obtain ⟨-, hfiles⟩ := List.forall_mem_cons.1 hfiles
    obtain ⟨stored', hrest⟩ := ih hfiles path text opened stored
    exact ⟨stored', .head (.fault hfresh hread) hrest⟩
  | @takeIn pass inside after file rest bytes hfresh hread _ _ ihinside ihrest =>
    obtain ⟨hnormal, hfiles⟩ := List.forall_mem_cons.1 hfiles
    obtain ⟨between, hinside⟩ := ihinside (includes_isNormal file _) file
      (Utf8.decodeLossy bytes) (⟨path, text, rest⟩ :: opened) stored
    obtain ⟨stored', hrest⟩ := ihrest hfiles path text opened (file :: between)
    -- the call is made, the file is entered, its includes are visited, and it is stored
    refine ⟨stored', .head (.call hfresh hread) (.head ?_ (hinside.trans (.head .store hrest)))⟩
    exact .enter_of_isNormal hnormal (isFresh_iff.1 hfresh).2

/-- It comes to the same whether a path is normalised before the call or in it. -/
theorem indexNested_normalize (disk : Disk) (room : Nat) (pass : Pass) (path : FilePath)
    (text : List Char) :
    indexNested disk (room + 1) pass path.normalize text =
      indexNested disk (room + 1) pass path text := by
  unfold indexNested
  simp only [FilePath.normalize_normalize]

theorem indexNested_of_inProgress (disk : Disk) (room : Nat) {pass : Pass} {path : FilePath}
    (text : List Char) (h : path.normalize ∈ pass.inProgress) :
    indexNested disk (room + 1) pass path text = pass := by
  unfold indexNested
  simp only [if_pos h]

theorem indexText_eq_indexNested (disk : Disk) (pass : Pass) (path : FilePath)
    (text : List Char) :
    indexText disk pass path text = indexNested disk (2 * disk.nodes.length + 1) pass path text :=
  rfl

/-- A call for any path, in any state of a pass, comes to its end with the pass that
    `indexText` computes. -/
theorem steps_indexText (disk : Disk) (pass : Pass) (path : FilePath) (text : List Char) :
    ∃ stored, Relation.ReflTransGen (Leads disk.read) (.start pass path text)
      ⟨indexText disk pass path text, none, [], stored⟩ := by
  by_cases hopen : path.normalize ∈ pass.inProgress
  · rw [indexText_eq_indexNested, indexNested_of_inProgress disk _ text hopen]
    exact ⟨[], .single (.refuse hopen)⟩
  · obtain ⟨inside, hfollows, heq⟩ :=
      indexText_indexes disk text path.normalize_normalize hopen
    rw [indexText_eq_indexNested, indexNested_normalize] at heq
    rw [indexText_eq_indexNested, heq]
    obtain ⟨stored, hinside⟩ :=
      steps_follows hfollows (includes_isNormal path.normalize text) path.normalize text [] []
    exact ⟨path.normalize :: stored, .head (.enter hopen) (hinside.tail .store)⟩

/-! ## Section 4: What holds at every moment -/

/-- At a moment of a call that was made in the state `before`:
    the files in progress are those that have been entered, above those in progress before;
    the calls that have not returned are for different paths, all but the outermost one for
    readable paths that had no entry; and no path that is stored already is among them. -/
structure Moment.Orderly (disk : Disk) (before : Pass) (m : Moment) : Prop where
  normal : ∀ file ∈ m.opened, file.path.IsNormal ∧ ∀ target ∈ file.rest, target.IsNormal
  inProgress : m.pass.inProgress = m.opened.map OpenFile.path ++ before.inProgress
  idle : ∀ file ∈ m.opened, file.path ∉ before.inProgress
  nodup : m.active.Nodup
  inner : ∀ path ∈ m.active.dropLast, path ∈ disk.uncachedPaths before.cache
  kept : ∀ path, before.cache.contains path = true → m.pass.cache.contains path = true
  nodup_stored : m.stored.Nodup
  cached : ∀ path ∈ m.stored, m.pass.cache.contains path = true
  left : ∀ path ∈ m.stored, path ∉ m.active
  scans : m.pass.cache.scans = before.cache.scans + m.stored.length

/-- What is not last in a list is not last with one more element in front. -/
theorem mem_dropLast_cons {α : Type} {a b : α} {l : List α} (h : a ∈ l.dropLast) :
    a ∈ (b :: l).dropLast := by
  cases l with
  | nil => cases h
  | cons c l => exact List.mem_cons_of_mem b h

namespace Moment.Orderly

variable {disk : Disk} {before pass pass' : Pass} {path file : FilePath} {text : List Char}
variable {rest : List FilePath} {opened : List OpenFile} {stored : List FilePath}

theorem start (disk : Disk) (pass : Pass) (path : FilePath) (text : List Char) :
    (Moment.start pass path text).Orderly disk pass where
  normal := by simp [Moment.start]
  inProgress := rfl
  idle := by simp [Moment.start]
  nodup := by simp [Moment.start, active]
  inner := by simp [Moment.start, active]
  kept := fun _ h => h
  nodup_stored := List.nodup_nil
  cached := by simp [Moment.start]
  left := by simp [Moment.start]
  scans := rfl

/-- A call returns at once. -/
theorem refuse (h : Orderly disk before ⟨pass, some (path, text), opened, stored⟩) :
    Orderly disk before ⟨pass, none, opened, stored⟩ where
  normal := h.normal
  inProgress := h.inProgress
  idle := h.idle
  nodup := h.nodup.of_cons
  inner := fun p hp => h.inner p (mem_dropLast_cons hp)
  kept := h.kept
  nodup_stored := h.nodup_stored
  cached := h.cached
  left := fun p hp hmem => h.left p hp (List.mem_cons_of_mem _ hmem)
  scans := h.scans

/-- A call enters its file, so the calls are for the same paths as before. -/
theorem enter (h : Orderly disk before ⟨pass, some (path, text), opened, stored⟩)
    (hidle : path.normalize ∉ pass.inProgress) :
    Orderly disk before ⟨pass.enter path.normalize, none,
      ⟨path.normalize, text, (FileIndex.ofText path.normalize text).includes⟩ :: opened,
      stored⟩ where
  normal := List.forall_mem_cons.2
    ⟨⟨path.normalize_normalize, includes_isNormal path.normalize text⟩, h.normal⟩
  inProgress := congrArg (path.normalize :: ·) h.inProgress
  idle := by
    refine List.forall_mem_cons.2 ⟨?_, h.idle⟩
    intro hmem
    apply hidle
    rw [h.inProgress]
    exact List.mem_append_right _ hmem
  nodup := h.nodup
  inner := h.inner
  kept := h.kept
  nodup_stored := h.nodup_stored
  cached := h.cached
  left := h.left
  scans := h.scans

/-- A visit that makes no call leaves at most a failure behind. -/
theorem skip (h : Orderly disk before ⟨pass, none, ⟨path, text, file :: rest⟩ :: opened, stored⟩)
    (hcache : pass'.cache = pass.cache) (hprogress : pass'.inProgress = pass.inProgress) :
    Orderly disk before ⟨pass', none, ⟨path, text, rest⟩ :: opened, stored⟩ where
  normal := by
    obtain ⟨⟨hpath, hrest⟩, hopened⟩ := List.forall_mem_cons.1 h.normal
    exact List.forall_mem_cons.2 ⟨⟨hpath, (List.forall_mem_cons.1 hrest).2⟩, hopened⟩
  inProgress := hprogress.trans h.inProgress
  idle := List.forall_mem_cons.2 (List.forall_mem_cons.1 h.idle)
  nodup := h.nodup
  inner := h.inner
  kept := fun p hp => by rw [hcache]; exact h.kept p hp
  nodup_stored := h.nodup_stored
  cached := fun p hp => by rw [hcache]; exact h.cached p hp
  left := h.left
  scans := by rw [hcache]; exact h.scans

/-- A call is made for a fresh file: one that is neither open nor stored. -/
theorem call {bytes : List UInt8}
    (h : Orderly disk before ⟨pass, none, ⟨path, text, file :: rest⟩ :: opened, stored⟩)
    (hfresh : pass.isFresh file = true) (hread : disk.read file = .bytes bytes) :
    Orderly disk before
      ⟨pass, some (file, Utf8.decodeLossy bytes), ⟨path, text, rest⟩ :: opened, stored⟩ := by
  obtain ⟨huncached, hidle⟩ := isFresh_iff.1 hfresh
  obtain ⟨⟨-, hrest⟩, -⟩ := List.forall_mem_cons.1 h.normal
  have hnormal : file.normalize = file := (List.forall_mem_cons.1 hrest).1
  have hactive : Moment.active
      ⟨pass, some (file, Utf8.decodeLossy bytes), ⟨path, text, rest⟩ :: opened, stored⟩ =
      file :: path :: opened.map OpenFile.path := by
    simp [active, hnormal]
  -- whatever is open is in progress
  have hnew : file ∉ path :: opened.map OpenFile.path := by
    intro hmem
    apply hidle
    rw [h.inProgress]
    exact List.mem_append_left _ hmem
  -- no entry has been lost since the outermost call was made
  have hbefore : before.cache.contains file = false := by
    rw [Bool.eq_false_iff]
    intro hcached
    rw [h.kept file hcached] at huncached
    cases huncached
  have hskipped : Orderly disk before ⟨pass, none, ⟨path, text, rest⟩ :: opened, stored⟩ :=
    h.skip rfl rfl
  refine ⟨hskipped.normal, hskipped.inProgress, hskipped.idle, ?_, ?_, h.kept, h.nodup_stored,
    h.cached, ?_, h.scans⟩
  · rw [hactive]
    exact List.nodup_cons.2 ⟨hnew, h.nodup⟩
  · rw [hactive]
    refine List.forall_mem_cons.2 ⟨?_, h.inner⟩
    exact Disk.mem_uncachedPaths_iff.2 ⟨hnormal, ⟨_, Disk.text?_of_bytes hread⟩, hbefore⟩
  · rw [hactive]
    intro p hp hmem
    rcases List.mem_cons.1 hmem with rfl | hmem
    · -- what is stored is cached, and so not fresh
      rw [h.cached p hp] at huncached
      cases huncached
    · exact h.left p hp hmem

/-- A file is left and stored, which it was not before: its call has not returned. -/
theorem store (h : Orderly disk before ⟨pass, none, ⟨path, text, []⟩ :: opened, stored⟩) :
    Orderly disk before ⟨pass.leave (.ofText path text), none, opened, path :: stored⟩ := by
  have hmono : ∀ p, p = path ∨ pass.cache.contains p = true →
      (pass.leave (.ofText path text)).cache.contains p = true := by
    intro p hp
    unfold Cache.contains
    rw [get?_leave]
    split
    · rfl
    · next hne => exact hp.resolve_left hne
  have hactive : path ∉ opened.map OpenFile.path := (List.nodup_cons.1 h.nodup).1
  constructor
  · exact (List.forall_mem_cons.1 h.normal).2
  · show pass.inProgress.erase path = _
    rw [h.inProgress]
    show (path :: (opened.map OpenFile.path ++ before.inProgress)).erase path = _
    rw [List.erase_cons_head]
  · exact (List.forall_mem_cons.1 h.idle).2
  · exact h.nodup.of_cons
  · exact fun p hp => h.inner p (mem_dropLast_cons hp)
  · exact fun p hp => hmono p (Or.inr (h.kept p hp))
  · exact List.nodup_cons.2 ⟨fun hmem => h.left path hmem List.mem_cons_self, h.nodup_stored⟩
  · intro p hp
    rcases List.mem_cons.1 hp with rfl | hp
    · exact hmono p (Or.inl rfl)
    · exact hmono p (Or.inr (h.cached p hp))
  · intro p hp hmem
    rcases List.mem_cons.1 hp with rfl | hp
    · exact hactive hmem
    · exact h.left p hp (List.mem_cons_of_mem _ hmem)
  · show pass.cache.scans + 1 = before.cache.scans + (stored.length + 1)
    rw [h.scans]
    rfl

/-- One step, by the rules. -/
theorem step {m m' : Moment} (h : m.Orderly disk before) (hleads : Leads disk.read m m') :
    m'.Orderly disk before := by
  cases hleads with
  | refuse _ => exact h.refuse
  | enter hidle => exact h.enter hidle
  | passOver _ => exact h.skip rfl rfl
  | missing _ _ => exact h.skip rfl rfl
  | fault _ _ => exact h.skip rfl rfl
  | call hfresh hread => exact h.call hfresh hread
  | store => exact h.store

/-- All steps. -/
theorem reached {m m' : Moment} (h : m.Orderly disk before)
    (hreached : Relation.ReflTransGen (Leads disk.read) m m') : m'.Orderly disk before := by
  induction hreached with
  | refl => exact h
  | tail _ hleads ih => exact ih.step hleads

/-- Each call but the outermost one takes one of the readable paths without an entry. -/
theorem length_active_le {m : Moment} (h : m.Orderly disk before) :
    m.active.length ≤ (disk.uncachedPaths before.cache).length + 1 := by
  have hinner : m.active.dropLast.length ≤ (disk.uncachedPaths before.cache).length :=
    (List.subperm_of_subset (h.nodup.sublist (List.dropLast_sublist _)) h.inner).length_le
  rw [List.length_dropLast] at hinner
  omega

end Moment.Orderly

/-- The files in progress are pairwise different normal paths. -/
structure DistinctProgress (pass : Pass) : Prop where
  nodup : pass.inProgress.Nodup
  normal : ∀ file ∈ pass.inProgress, file.IsNormal

theorem distinctProgress_start (cache : Cache) : (start cache).DistinctProgress :=
  ⟨List.nodup_nil, by simp [start]⟩

namespace Moment.Orderly

variable {disk : Disk} {before : Pass} {m : Moment}

theorem isNormal_active (h : m.Orderly disk before) : ∀ file ∈ m.active, file.IsNormal := by
  intro file hmem
  rcases List.mem_append.1 hmem with hcalled | hopened
  · obtain ⟨call, -, rfl⟩ := Option.map_eq_some_iff.1 (Option.mem_toList.1 hcalled)
    exact call.1.normalize_normalize
  · obtain ⟨opened, hopen, rfl⟩ := List.mem_map.1 hopened
    exact (h.normal opened hopen).1

theorem distinctProgress (h : m.Orderly disk before) (hbefore : before.DistinctProgress) :
    m.pass.DistinctProgress := by
  have hopened : (m.opened.map OpenFile.path).Nodup :=
    h.nodup.sublist (List.sublist_append_right _ _)
  constructor
  · rw [h.inProgress, List.nodup_append]
    refine ⟨hopened, hbefore.nodup, ?_⟩
    intro file hmem other hother heq
    obtain ⟨opened, hopen, rfl⟩ := List.mem_map.1 hmem
    exact h.idle opened hopen (heq ▸ hother)
  · rw [h.inProgress]
    intro file hmem
    rcases List.mem_append.1 hmem with hmem | hmem
    · exact h.isNormal_active file (List.mem_append_right _ hmem)
    · exact hbefore.normal file hmem

end Moment.Orderly

/-! ## Section 5: Room for the nesting

    The recursion of `indexNested` is given room for a number of levels. As many as there are
    files that a pass can still take in are enough, and more make no difference. -/

/-- The readable files, under their normal paths, that are fresh in a pass. -/
def takeable (disk : Disk) (pass : Pass) : List FilePath :=
  (disk.uncachedPaths pass.cache).filter fun file => file ∉ pass.inProgress

section room

variable {disk : Disk} {pass before after : Pass} {path file : FilePath} {text : List Char}

theorem mem_takeable_iff : file ∈ pass.takeable disk ↔
    file.IsNormal ∧ (∃ text, disk.text? file = some text) ∧ pass.isFresh file = true := by
  unfold takeable
  rw [List.mem_filter, Disk.mem_uncachedPaths_iff, isFresh_iff, decide_eq_true_eq]
  simp only [and_assoc]

theorem nodup_takeable (disk : Disk) (pass : Pass) : (pass.takeable disk).Nodup :=
  (disk.nodup_uncachedPaths pass.cache).filter _

theorem takeable_subset (h : ∀ file, after.isFresh file = true → before.isFresh file = true) :
    after.takeable disk ⊆ before.takeable disk := by
  intro file hmem
  obtain ⟨hnormal, htext, hfresh⟩ := mem_takeable_iff.1 hmem
  exact mem_takeable_iff.2 ⟨hnormal, htext, h file hfresh⟩

theorem length_takeable_le
    (h : ∀ file, after.isFresh file = true → before.isFresh file = true) :
    (after.takeable disk).length ≤ (before.takeable disk).length :=
  (List.subperm_of_subset (nodup_takeable disk after) (takeable_subset h)).length_le

/-- A file that is entered cannot be taken in any more. -/
theorem length_takeable_enter_lt (hmem : path ∈ pass.takeable disk) :
    ((pass.enter path).takeable disk).length < (pass.takeable disk).length := by
  have hgone : path ∉ (pass.enter path).takeable disk := by
    intro hmem
    have hfresh := (mem_takeable_iff.1 hmem).2.2
    rw [isFresh_enter_self] at hfresh
    cases hfresh
  have hwithin : path :: (pass.enter path).takeable disk ⊆ pass.takeable disk :=
    List.cons_subset.2 ⟨hmem, takeable_subset fun _ => isFresh_enter_anti⟩
  have hnodup : (path :: (pass.enter path).takeable disk).Nodup :=
    List.nodup_cons.2 ⟨hgone, nodup_takeable disk _⟩
  exact (List.subperm_of_subset hnodup hwithin).length_le

/-- With room for all that can be taken in, visiting files one after the other is following
    the rules. The induction is on the rules, for every room: inside a file there is one level
    less, and one file less to be taken in. -/
theorem Follows.foldl_visitInclude_eq {files : List FilePath}
    (h : Follows disk.read before files after) (hfiles : ∀ file ∈ files, file.IsNormal)
    {room : Nat} (hroom : (before.takeable disk).length ≤ room) :
    files.foldl (visitInclude disk (indexNested disk room)) before = after := by
  induction h generalizing room with
  | done => rfl
  | passOver hfresh _ ih =>
    rw [List.foldl_cons, visitInclude_of_not_fresh hfresh]
    exact ih (List.forall_mem_cons.1 hfiles).2 hroom
  | missing hfresh hread _ ih =>
    rw [List.foldl_cons, visitInclude_of_missing hfresh hread]
    exact ih (List.forall_mem_cons.1 hfiles).2 hroom
  | fault hfresh hread _ ih =>
    rw [List.foldl_cons, visitInclude_of_fault hfresh hread]
    exact ih (List.forall_mem_cons.1 hfiles).2 hroom
  | @takeIn pass inside after file rest bytes hfresh hread hinside hrest ihinside ihrest =>
    obtain ⟨hnormal, hfiles⟩ := List.forall_mem_cons.1 hfiles
    have htext := Disk.text?_of_bytes hread
    have hmem : file ∈ pass.takeable disk := mem_takeable_iff.2 ⟨hnormal, ⟨_, htext⟩, hfresh⟩
    have hfewer := length_takeable_enter_lt hmem
    obtain ⟨less, rfl⟩ : ∃ less, room = less + 1 := Nat.exists_eq_add_one.2 (by omega)
    have htaken : indexNested disk (less + 1) pass file (Utf8.decodeLossy bytes) =
        inside.leave (.ofText file (Utf8.decodeLossy bytes)) := by
      rw [indexNested_succ hnormal (isFresh_iff.1 hfresh).2,
        ihinside (includes_isNormal file _) (by omega)]
    have hroom' : ((inside.leave (.ofText file (Utf8.decodeLossy bytes))).takeable disk).length ≤
        less + 1 := by
      refine Nat.le_trans (length_takeable_le fun other hother => ?_) hroom
      exact isFresh_enter_anti (hinside.isFresh_anti (isFresh_leave_anti hother))
    rw [List.foldl_cons, visitInclude_of_text hfresh htext, htaken]
    exact ihrest hfiles hroom'

/-- One level for the file itself, and one for each readable path without an entry. -/
theorem indexNested_eq_indexText {room : Nat} (pass : Pass) (path : FilePath) (text : List Char)
    (hroom : (disk.uncachedPaths pass.cache).length < room) :
    indexNested disk room pass path text = indexText disk pass path text := by
  obtain ⟨less, rfl⟩ : ∃ less, room = less + 1 := Nat.exists_eq_add_one.2 (by omega)
  by_cases hopen : path.normalize ∈ pass.inProgress
  · rw [indexText_eq_indexNested, indexNested_of_inProgress disk _ text hopen,
      indexNested_of_inProgress disk _ text hopen]
  · obtain ⟨inside, hfollows, heq⟩ :=
      indexText_indexes disk text path.normalize_normalize hopen
    have hless : ((pass.enter path.normalize).takeable disk).length ≤ less := by
      have hfew : (pass.takeable disk).length ≤ (disk.uncachedPaths pass.cache).length :=
        List.length_filter_le _ _
      have hinside : ((pass.enter path.normalize).takeable disk).length ≤
          (pass.takeable disk).length :=
        length_takeable_le fun _ => isFresh_enter_anti
      omega
    rw [indexText_eq_indexNested, indexNested_normalize] at heq
    rw [indexText_eq_indexNested, heq, ← indexNested_normalize,
      indexNested_succ path.normalize_normalize hopen,
      hfollows.foldl_visitInclude_eq (includes_isNormal path.normalize text) hless]

end room

/-! ## Section 6: Taking in a text or a file -/

/-- A call leaves the files in progress as it has found them. -/
theorem inProgress_indexText (disk : Disk) (pass : Pass) (path : FilePath) (text : List Char) :
    (indexText disk pass path text).inProgress = pass.inProgress := by
  obtain ⟨stored, hends⟩ := steps_indexText disk pass path text
  exact ((Moment.Orderly.start disk pass path text).reached hends).inProgress

theorem indexFile_of_text {disk : Disk} {path : FilePath} {text : List Char} (pass : Pass)
    (h : disk.text? path = some text) :
    indexFile disk pass path = (indexText disk pass path text, none) := by
  obtain ⟨bytes, hread, rfl⟩ := Disk.text?_eq_some_iff.1 h
  unfold indexFile
  rw [hread]

theorem indexFile_of_unreadable {disk : Disk} {path : FilePath} (pass : Pass)
    (h : disk.text? path = none) : (indexFile disk pass path).1 = pass := by
  unfold indexFile
  cases hread : disk.read path with
  | bytes bytes =>
    rw [Disk.text?_of_bytes hread] at h
    cases h
  | missing => rfl
  | fault cause => rfl

/-- A call that takes in any text as the content of any path, on any disk and in any state of
    a pass; the paths that can be read and have no entry then are counted under their normal
    form.
    1. The call comes to its end, with the pass that `indexText` computes.
    2. At every moment until then the calls that have not returned are for different normal
       paths, and there is at most one more of them than there are such paths to begin with.
       So the recursion may be given room for this many levels, and more make no difference.
    3. The files in progress are those that have been entered, above those in progress
       before: different normal paths at every moment if they were before the call, as they
       are at the beginning of a pass.
    4. No path has been stored twice, and every store counts as one scan.
    5. When the call has ended, the same files are in progress as before it. So it is with a
       file, which is taken in as the text that it holds; one that cannot be read changes
       nothing. -/
theorem indexText_nesting (disk : Disk) (pass : Pass) (path : FilePath) :
    let uncached := disk.uncachedPaths pass.cache
    (uncached.Nodup ∧ ∀ file, file ∈ uncached ↔
      file.IsNormal ∧ (∃ text, disk.text? file = some text) ∧
        pass.cache.contains file = false) ∧
    (start pass.cache).DistinctProgress ∧
    (∀ text,
      (Acc (fun after before => Leads disk.read before after) (.start pass path text) ∧
        ∃ stored, Relation.ReflTransGen (Leads disk.read) (.start pass path text)
          ⟨indexText disk pass path text, none, [], stored⟩) ∧
      (∀ m, Relation.ReflTransGen (Leads disk.read) (.start pass path text) m →
        (m.active.Nodup ∧ (∀ file ∈ m.active, file.IsNormal) ∧
          m.active.length ≤ uncached.length + 1) ∧
        (m.pass.inProgress = m.opened.map OpenFile.path ++ pass.inProgress ∧
          (pass.DistinctProgress → m.pass.DistinctProgress)) ∧
        m.stored.Nodup ∧ m.pass.cache.scans = pass.cache.scans + m.stored.length) ∧
      (∀ room, uncached.length + 1 ≤ room →
        indexNested disk room pass path text = indexText disk pass path text) ∧
      (indexText disk pass path text).inProgress = pass.inProgress) ∧
    (indexFile disk pass path).1.inProgress = pass.inProgress ∧
    (∀ text, disk.text? path = some text →
      indexFile disk pass path = (indexText disk pass path text, none)) ∧
    (disk.text? path = none → (indexFile disk pass path).1 = pass) := by
  intro uncached
  refine ⟨⟨disk.nodup_uncachedPaths pass.cache, fun _ => Disk.mem_uncachedPaths_iff⟩,
    distinctProgress_start pass.cache, ?_, ?_, fun _ => indexFile_of_text pass,
    indexFile_of_unreadable pass⟩
  · intro text
    obtain ⟨stored, hends⟩ := steps_indexText disk pass path text
    refine ⟨⟨acc_of_returned hends fun _ => not_leads_of_returned, stored, hends⟩, ?_,
      fun _ => indexNested_eq_indexText pass path text, inProgress_indexText disk pass path text⟩
    intro m hreached
    have horderly := (Moment.Orderly.start disk pass path text).reached hreached
    exact ⟨⟨horderly.nodup, horderly.isNormal_active, horderly.length_active_le⟩,
      ⟨horderly.inProgress, horderly.distinctProgress⟩, horderly.nodup_stored, horderly.scans⟩
  · cases htext : disk.text? path with
    | none => rw [indexFile_of_unreadable pass htext]
    | some text =>
      rw [indexFile_of_text pass htext]
      exact inProgress_indexText disk pass path text

/-! ### A ring of files

    A text that is not on the disk yet leads into two files that include each other, the text
    and themselves, under several spellings. -/

/-- The file that the text is for. -/
def ringStart : FilePath := .ofString "/w/new.mk"

/-- The file that the text includes. -/
def ringFirst : FilePath := .ofString "/w/a.mk"

/-- The file that the first file includes. -/
def ringSecond : FilePath := .ofString "/w/b.mk"

/-- The bytes of the first file. -/
def ringFirstBytes : List UInt8 := Utf8.encode "include b.mk ./b.mk"

/-- The bytes of the second file. -/
def ringSecondBytes : List UInt8 := Utf8.encode "include ../w/a.mk b.mk\ninclude /w/new.mk"

/-- A disk that holds the two files. -/
def ringDisk : Disk where
  nodes := [([Utf8.encode "v"], .directory), ([Utf8.encode "w"], .directory),
    ([Utf8.encode "w", Utf8.encode "a.mk"], .file ringFirstBytes),
    ([Utf8.encode "w", Utf8.encode "b.mk"], .file ringSecondBytes)]
  workingPlace := [Utf8.encode "v"]

/-- The moment at which all three files are open. -/
def ringMoment : Moment where
  pass := (((start .empty).enter ringStart).enter ringFirst).enter ringSecond
  called := none
  opened := [⟨ringSecond, Utf8.decodeLossy ringSecondBytes, [ringFirst, ringSecond, ringStart]⟩,
    ⟨ringFirst, Utf8.decodeLossy ringFirstBytes, [ringSecond]⟩,
    ⟨ringStart, "include a.mk".toList, []⟩]
  stored := []

theorem leads_ringMoment :
    Relation.ReflTransGen (Leads ringDisk.read)
      (.start (start .empty) ringStart "include a.mk".toList) ringMoment := by
  have hstart : (FileIndex.ofText ringStart "include a.mk".toList).includes = [ringFirst] := by
    decide +kernel
  have hfirst : (FileIndex.ofText ringFirst (Utf8.decodeLossy ringFirstBytes)).includes =
      [ringSecond, ringSecond] := by
    decide +kernel
  have hsecond : (FileIndex.ofText ringSecond (Utf8.decodeLossy ringSecondBytes)).includes =
      [ringFirst, ringSecond, ringStart] := by
    decide +kernel
  have hreadFirst : ringDisk.read ringFirst = .bytes ringFirstBytes := by decide +kernel
  have hreadSecond : ringDisk.read ringSecond = .bytes ringSecondBytes := by decide +kernel
  have hnormalStart : ringStart.normalize = ringStart := by decide +kernel
  have hnormalFirst : ringFirst.normalize = ringFirst := by decide +kernel
  have hnormalSecond : ringSecond.normalize = ringSecond := by decide +kernel
  refine .head (.enter_of_isNormal hnormalStart (by decide +kernel)) ?_
  rw [hstart]
  refine .head (.call (by decide +kernel) hreadFirst) ?_
  refine .head (.enter_of_isNormal hnormalFirst (by decide +kernel)) ?_
  rw [hfirst]
  refine .head (.call (by decide +kernel) hreadSecond) ?_
  refine .head (.enter_of_isNormal hnormalSecond (by decide +kernel)) ?_
  rw [hsecond]
  exact .refl

/-- Three calls are open, one more than there are readable paths. The ring is closed there;
    three entries are stored on the way back, but only two if there is room for two levels. -/
theorem nesting_ring :
    ringDisk.uncachedPaths .empty = [ringFirst, ringSecond] ∧
    Relation.ReflTransGen (Leads ringDisk.read)
      (.start (start .empty) ringStart "include a.mk".toList) ringMoment ∧
    ringMoment.active = [ringSecond, ringFirst, ringStart] ∧
    ringMoment.active.length ≤ (ringDisk.uncachedPaths .empty).length + 1 ∧
    ringMoment.pass.DistinctProgress ∧
    (indexText ringDisk (start .empty) ringStart "include a.mk".toList).inProgress = [] ∧
    (indexText ringDisk (start .empty) ringStart "include a.mk".toList).cache.scans = 3 ∧
    (indexNested ringDisk 2 (start .empty) ringStart "include a.mk".toList).cache.scans = 2 := by
  have hpaths : ringDisk.uncachedPaths .empty = [ringFirst, ringSecond] := by decide +kernel
  obtain ⟨-, hstart, hcalls, -⟩ := indexText_nesting ringDisk (start .empty) ringStart
  obtain ⟨-, hmoments, hroom, hends⟩ := hcalls "include a.mk".toList
  obtain ⟨⟨-, -, hdepth⟩, ⟨-, hdistinct⟩, -⟩ := hmoments ringMoment leads_ringMoment
  have hthree : (ringDisk.uncachedPaths (start .empty).cache).length + 1 ≤ 3 := by
    show (ringDisk.uncachedPaths .empty).length + 1 ≤ 3
    rw [hpaths]
    decide
  refine ⟨hpaths, leads_ringMoment, rfl, hdepth, hdistinct hstart, hends, ?_, ?_⟩
  · rw [← hroom 3 hthree]
    decide +kernel
  · decide +kernel

end Pass

end MakeLens
