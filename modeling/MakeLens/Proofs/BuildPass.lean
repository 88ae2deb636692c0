import MakeLens.Index.Pass
import MakeLens.Proofs.ReadablePaths

/-! # What a build pass stores

    A pass walks the include graph depth first. Between two moments of a pass the
    cache only grows (`Grows`): some files, each of them neither cached nor in
    progress before, were read from the disk and stored.

    No file is lost on the way. A file that was met is *settled*: it is cached, or
    still in progress, or it cannot be read. Whatever a stored file includes is
    settled (`Closed`), so that when nothing is in progress any more the stored
    files are closed under their include directives.

    The nesting of a pass is bounded by the files that are still pending, and
    `nesting` leaves room for all of them.
-/

namespace MakeLens

/-! ## Section 1: Include directives -/

/-- A directive of `text`, as the content of `path`, includes `target`. A directive
    with an unexpanded `$` includes nothing. -/
def Directs (path : FilePath) (text : List Char) (target : FilePath) : Prop :=
  ∃ directive ∈ (scan text path).includes,
    '$' ∉ directive.2.toList ∧ path.resolveInclude directive.2 = target

theorem mem_includes_ofText {path target : FilePath} {text : List Char} :
    target ∈ (FileIndex.ofText path text).includes ↔ Directs path text target := by
  show target ∈ (scan text path).includedFiles path ↔ _
  unfold Scan.includedFiles Directs
  rw [List.mem_map]
  constructor
  · rintro ⟨directive, hmem, htarget⟩
    obtain ⟨hdirective, hdollar⟩ := List.mem_filter.1 hmem
    exact ⟨directive, hdirective, by simpa using hdollar, htarget⟩
  · rintro ⟨directive, hdirective, hdollar, htarget⟩
    exact ⟨directive, List.mem_filter.2 ⟨hdirective, by simpa using hdollar⟩, htarget⟩

theorem Directs.isNormal {path target : FilePath} {text : List Char}
    (h : Directs path text target) : target.IsNormal := by
  obtain ⟨directive, -, -, rfl⟩ := h
  exact path.isNormal_resolveInclude directive.2

namespace Cache

theorem contains_of_get? {cache : Cache} {path : FilePath} {index : FileIndex}
    (h : cache.get? path = some index) : cache.contains path = true := by
  unfold contains
  rw [h]
  rfl

end Cache

namespace Pass

/-! ## Section 2: Fresh, settled and pending files -/

/-- Whether a pass would take in a file that it meets. -/
def isFresh (pass : Pass) (file : FilePath) : Bool :=
  !(pass.cache.contains file || file ∈ pass.inProgress)

theorem isFresh_iff {pass : Pass} {file : FilePath} :
    pass.isFresh file = true ↔ pass.cache.contains file = false ∧ file ∉ pass.inProgress := by
  unfold isFresh
  simp

theorem isFresh_start {cache : Cache} {file : FilePath} :
    (start cache).isFresh file = true ↔ cache.contains file = false := by
  simp [isFresh, start]

/-- There is nothing left to do for a file. -/
def Settled (disk : Disk) (pass : Pass) (file : FilePath) : Prop :=
  pass.cache.contains file = true ∨ file ∈ pass.inProgress ∨ disk.text? file = none

theorem settled_of_not_fresh {disk : Disk} {pass : Pass} {file : FilePath}
    (h : pass.isFresh file = false) : pass.Settled disk file := by
  unfold isFresh at h
  rw [Bool.not_eq_false', Bool.or_eq_true, decide_eq_true_eq] at h
  rcases h with h | h
  · exact Or.inl h
  · exact Or.inr (Or.inl h)

/-- The readable files that a pass could still take in. -/
def pending (disk : Disk) (pass : Pass) : List FilePath :=
  disk.nodePaths.filter pass.isFresh

theorem mem_pending {disk : Disk} {pass : Pass} {file : FilePath} {text : List Char}
    (hnormal : file.IsNormal) (htext : disk.text? file = some text)
    (hfresh : pass.isFresh file = true) : file ∈ pass.pending disk :=
  List.mem_filter.2 ⟨Disk.mem_nodePaths hnormal htext, hfresh⟩

/-- A pass with fewer fresh files has the pending ones among those of the other. -/
theorem pending_eq_filter {disk : Disk} {before after : Pass}
    (h : ∀ file, after.isFresh file = true → before.isFresh file = true) :
    after.pending disk = (before.pending disk).filter after.isFresh := by
  unfold pending
  rw [List.filter_filter]
  apply List.filter_congr
  intro file _
  cases hfresh : after.isFresh file with
  | false => rfl
  | true => rw [h file hfresh]; rfl

theorem length_pending_le {disk : Disk} {before after : Pass}
    (h : ∀ file, after.isFresh file = true → before.isFresh file = true) :
    (after.pending disk).length ≤ (before.pending disk).length := by
  rw [pending_eq_filter h]
  exact List.length_filter_le _ _

theorem length_pending_lt {disk : Disk} {before after : Pass} {file : FilePath}
    (h : ∀ file, after.isFresh file = true → before.isFresh file = true)
    (hmem : file ∈ before.pending disk) (hgone : after.isFresh file = false) :
    (after.pending disk).length < (before.pending disk).length := by
  rw [pending_eq_filter h]
  exact List.length_filter_lt_length_iff_exists.2 ⟨file, hmem, by simp [hgone]⟩

/-- There are no more pending files than paths that lead to a node. -/
theorem length_pending_le_nodes (disk : Disk) (pass : Pass) :
    (pass.pending disk).length ≤ 2 * disk.nodes.length := by
  rw [← disk.length_nodePaths]
  exact List.length_filter_le _ _

/-! ## Section 3: Growth -/

/-- From `before` to `after` the files of `new` were read from the disk and stored,
    and nothing else happened to the entries. All these files have the property
    `P`. -/
structure Grows (disk : Disk) (P : FilePath → Prop) (before after : Pass)
    (new : List FilePath) : Prop where
  nodup : new.Nodup
  property : ∀ file ∈ new, P file
  fresh : ∀ file ∈ new, before.isFresh file = true
  stored : ∀ file ∈ new, ∃ text, disk.text? file = some text ∧
    after.cache.get? file = some (.ofText file text)
  kept : ∀ file, file ∉ new → after.cache.get? file = before.cache.get? file
  scans : after.cache.scans = before.cache.scans + new.length
  inProgress : after.inProgress = before.inProgress

/-- Every include of the files of `new` is settled. -/
def Closed (disk : Disk) (pass : Pass) (new : List FilePath) : Prop :=
  ∀ file ∈ new, ∀ text, disk.text? file = some text →
    ∀ target, Directs file text target → pass.Settled disk target

/-- The property `P` goes over from a fresh file to what it includes. -/
def Passes (disk : Disk) (pass : Pass) (P : FilePath → Prop) : Prop :=
  ∀ file text target, P file → pass.isFresh file = true → disk.text? file = some text →
    Directs file text target → P target

namespace Grows

variable {disk : Disk} {P : FilePath → Prop} {before between after : Pass}
variable {new later : List FilePath}

/-- Noting a failure stores nothing. -/
theorem of_cache_eq (hcache : after.cache = before.cache)
    (hprogress : after.inProgress = before.inProgress) : Grows disk P before after [] where
  nodup := List.nodup_nil
  property := by simp
  fresh := by simp
  stored := by simp
  kept := fun file _ => by rw [hcache]
  scans := by rw [hcache]; rfl
  inProgress := hprogress

theorem contains_new (h : Grows disk P before after new) {file : FilePath} (hmem : file ∈ new) :
    after.cache.contains file = true := by
  obtain ⟨text, -, hget⟩ := h.stored file hmem
  exact Cache.contains_of_get? hget

/-- An entry that was there is still there, as it was. -/
theorem get?_of_contains (h : Grows disk P before after new) {file : FilePath}
    (hcached : before.cache.contains file = true) :
    after.cache.get? file = before.cache.get? file := by
  apply h.kept
  intro hmem
  have hfresh := (isFresh_iff.1 (h.fresh file hmem)).1
  rw [hcached] at hfresh
  cases hfresh

theorem contains_mono (h : Grows disk P before after new) {file : FilePath}
    (hcached : before.cache.contains file = true) : after.cache.contains file = true := by
  unfold Cache.contains
  rw [h.get?_of_contains hcached]
  exact hcached

theorem isFresh_anti (h : Grows disk P before after new) {file : FilePath}
    (hfresh : after.isFresh file = true) : before.isFresh file = true := by
  obtain ⟨hcached, hidle⟩ := isFresh_iff.1 hfresh
  refine isFresh_iff.2 ⟨?_, h.inProgress ▸ hidle⟩
  cases hbefore : before.cache.contains file with
  | false => rfl
  | true => rw [h.contains_mono hbefore] at hcached; exact hcached

theorem settled_mono (h : Grows disk P before after new) {file : FilePath}
    (hsettled : before.Settled disk file) : after.Settled disk file := by
  rcases hsettled with hcached | hprogress | hunread
  · exact Or.inl (h.contains_mono hcached)
  · exact Or.inr (Or.inl (h.inProgress ▸ hprogress))
  · exact Or.inr (Or.inr hunread)

theorem closed_mono (h : Grows disk P before after later) (hclosed : Closed disk before new) :
    Closed disk after new :=
  fun file hmem text htext target htarget =>
    h.settled_mono (hclosed file hmem text htext target htarget)

theorem passes_mono (h : Grows disk P before after new) (hpasses : before.Passes disk P) :
    after.Passes disk P :=
  fun file text target hfile hfresh htext htarget =>
    hpasses file text target hfile (h.isFresh_anti hfresh) htext htarget

theorem trans (h₁ : Grows disk P before between new) (h₂ : Grows disk P between after later) :
    Grows disk P before after (new ++ later) := by
  -- what is stored first is not fresh any more
  have hdisjoint : ∀ file ∈ new, file ∉ later := by
    intro file hmem hlater
    have hfresh := (isFresh_iff.1 (h₂.fresh file hlater)).1
    rw [h₁.contains_new hmem] at hfresh
    cases hfresh
  refine ⟨?_, ?_, ?_, ?_, ?_, ?_, ?_⟩
  · rw [List.nodup_append]
    refine ⟨h₁.nodup, h₂.nodup, ?_⟩
    intro file hmem other hother heq
    exact hdisjoint file hmem (heq ▸ hother)
  · intro file hmem
    rcases List.mem_append.1 hmem with hmem | hmem
    · exact h₁.property file hmem
    · exact h₂.property file hmem
  · intro file hmem
    rcases List.mem_append.1 hmem with hmem | hmem
    · exact h₁.fresh file hmem
    · exact h₁.isFresh_anti (h₂.fresh file hmem)
  · intro file hmem
    rcases List.mem_append.1 hmem with hmem | hmem
    · obtain ⟨text, htext, hget⟩ := h₁.stored file hmem
      exact ⟨text, htext, (h₂.kept file (hdisjoint file hmem)).trans hget⟩
    · exact h₂.stored file hmem
  · intro file hmem
    rw [List.mem_append, not_or] at hmem
    rw [h₂.kept file hmem.2, h₁.kept file hmem.1]
  · rw [h₂.scans, h₁.scans, List.length_append]
    omega
  · rw [h₂.inProgress, h₁.inProgress]

/-- What is settled afterwards and could have been taken in before has been. -/
theorem mem_new_of_settled (h : Grows disk P before after new) {file : FilePath}
    {content : List Char} (hsettled : after.Settled disk file)
    (hfresh : before.isFresh file = true) (hcontent : disk.text? file = some content) :
    file ∈ new := by
  obtain ⟨huncached, hidle⟩ := isFresh_iff.1 hfresh
  rcases hsettled with hcached | hprogress | hunread
  · by_cases hnew : file ∈ new
    · exact hnew
    -- otherwise its entry would be from before
    have hkept := h.kept file hnew
    unfold Cache.contains at hcached huncached
    rw [hkept, huncached] at hcached
    cases hcached
  · rw [h.inProgress] at hprogress
    exact absurd hprogress hidle
  · rw [hcontent] at hunread
    cases hunread

theorem length_pending_le (h : Grows disk P before after new) :
    (after.pending disk).length ≤ (before.pending disk).length :=
  Pass.length_pending_le fun _ hfresh => h.isFresh_anti hfresh

end Grows

/-! ## Section 4: Visiting included files

    What is asked of the function that takes in the text of a file, as long as at
    most `room` files are pending. -/

/-- `index` stores a fresh file with all that it pulls in. -/
def TakesIn (disk : Disk) (room : Nat) (index : Pass → FilePath → List Char → Pass) : Prop :=
  ∀ (P : FilePath → Prop) (pass : Pass) (file : FilePath) (text : List Char),
    file.IsNormal → P file → pass.Passes disk P → pass.isFresh file = true →
    disk.text? file = some text → (pass.pending disk).length ≤ room →
    ∃ new, Grows disk P pass (index pass file text) new ∧
      Closed disk (index pass file text) new ∧ file ∈ new

/-- `visit` stores what it finds fresh, with all that this pulls in, and settles the
    file that it is for. -/
def Visits (disk : Disk) (room : Nat) (P : FilePath → Prop) (visit : Pass → FilePath → Pass) :
    Prop :=
  ∀ (pass : Pass) (file : FilePath), file.IsNormal → P file → pass.Passes disk P →
    (pass.pending disk).length ≤ room →
    ∃ new, Grows disk P pass (visit pass file) new ∧ Closed disk (visit pass file) new ∧
      (visit pass file).Settled disk file

section visiting

variable {disk : Disk} {room : Nat} {index : Pass → FilePath → List Char → Pass}
variable {P : FilePath → Prop} {pass : Pass} {file : FilePath}

theorem visitInclude_of_not_fresh (h : pass.isFresh file = false) :
    visitInclude disk index pass file = pass := by
  unfold isFresh at h
  rw [Bool.not_eq_false'] at h
  unfold visitInclude
  rw [if_pos h]

theorem visitInclude_of_text {text : List Char} (h : pass.isFresh file = true)
    (htext : disk.text? file = some text) :
    visitInclude disk index pass file = index pass file text := by
  obtain ⟨bytes, hread, rfl⟩ := Disk.text?_eq_some_iff.1 htext
  unfold isFresh at h
  rw [Bool.not_eq_true'] at h
  unfold visitInclude
  rw [h, hread]
  rfl

/-- An unreadable file leaves at most a failure behind. -/
theorem visitInclude_of_unreadable (index : Pass → FilePath → List Char → Pass) (pass : Pass)
    (htext : disk.text? file = none) :
    (visitInclude disk index pass file).cache = pass.cache ∧
      (visitInclude disk index pass file).inProgress = pass.inProgress := by
  unfold visitInclude
  split
  · exact ⟨rfl, rfl⟩
  · split
    · next bytes hread =>
      have hsome : disk.text? file = some (Utf8.decodeLossy bytes) :=
        Disk.text?_eq_some_iff.2 ⟨bytes, hread, rfl⟩
      rw [hsome] at htext
      cases htext
    · exact ⟨rfl, rfl⟩
    · exact ⟨rfl, rfl⟩

/-- Visiting an included file is a visit in this sense. -/
theorem visitInclude_visits (hindex : TakesIn disk room index) :
    Visits disk room P (visitInclude disk index) := by
  intro pass file hnormal hfile hpasses hroom
  cases hfresh : pass.isFresh file with
  | false =>
    rw [visitInclude_of_not_fresh hfresh]
    exact ⟨[], .of_cache_eq rfl rfl, by simp [Closed], settled_of_not_fresh hfresh⟩
  | true =>
    cases htext : disk.text? file with
    | none =>
      obtain ⟨hcache, hprogress⟩ := visitInclude_of_unreadable index pass htext
      exact ⟨[], .of_cache_eq hcache hprogress, by simp [Closed], Or.inr (Or.inr htext)⟩
    | some text =>
      rw [visitInclude_of_text hfresh htext]
      obtain ⟨new, hgrows, hclosed, hmem⟩ :=
        hindex P pass file text hnormal hfile hpasses hfresh htext hroom
      exact ⟨new, hgrows, hclosed, Or.inl (hgrows.contains_new hmem)⟩

/-- One visit after the other. -/
theorem foldl_visits {visit : Pass → FilePath → Pass} (hvisit : Visits disk room P visit)
    {files : List FilePath} (hfiles : ∀ file ∈ files, file.IsNormal ∧ P file)
    (hpasses : pass.Passes disk P) (hroom : (pass.pending disk).length ≤ room) :
    ∃ new, Grows disk P pass (files.foldl visit pass) new ∧
      Closed disk (files.foldl visit pass) new ∧
      ∀ file ∈ files, (files.foldl visit pass).Settled disk file := by
  induction files generalizing pass with
  | nil => exact ⟨[], .of_cache_eq rfl rfl, by simp [Closed], by simp⟩
  | cons file rest ih =>
    obtain ⟨hnormal, hfile⟩ := hfiles file List.mem_cons_self
    obtain ⟨new, hgrows, hclosed, hsettled⟩ := hvisit pass file hnormal hfile hpasses hroom
    have hroom' := Nat.le_trans (hgrows.length_pending_le) hroom
    obtain ⟨later, hgrows', hclosed', hsettled'⟩ :=
      ih (fun f hf => hfiles f (List.mem_cons_of_mem _ hf)) (hgrows.passes_mono hpasses) hroom'
    rw [List.foldl_cons]
    refine ⟨new ++ later, hgrows.trans hgrows', ?_, ?_⟩
    · intro f hf
      rcases List.mem_append.1 hf with hf | hf
      · exact hgrows'.closed_mono hclosed f hf
      · exact hclosed' f hf
    · intro f hf
      rcases List.mem_cons.1 hf with rfl | hf
      · exact hgrows'.settled_mono hsettled
      · exact hsettled' f hf

end visiting

/-! ## Section 5: Taking in a file -/

/-- Begins with a file. -/
def enter (pass : Pass) (path : FilePath) : Pass :=
  { pass with inProgress := path :: pass.inProgress }

/-- Ends with a file by storing its index. -/
def leave (pass : Pass) (index : FileIndex) : Pass :=
  { pass with cache := pass.cache.insert index, inProgress := pass.inProgress.erase index.path }

/-- The included files are visited between entering and leaving. -/
theorem indexNested_succ {disk : Disk} {room : Nat} {pass : Pass} {path : FilePath}
    {text : List Char} (hnormal : path.IsNormal) (hidle : path ∉ pass.inProgress) :
    indexNested disk (room + 1) pass path text =
      ((FileIndex.ofText path text).includes.foldl
        (visitInclude disk (indexNested disk room)) (pass.enter path)).leave
          (.ofText path text) := by
  unfold indexNested
  simp only
  rw [hnormal, if_neg hidle]
  rfl

theorem get?_leave (pass : Pass) (path : FilePath) (text : List Char) (file : FilePath) :
    (pass.leave (.ofText path text)).cache.get? file =
      if file = path then some (.ofText path text) else pass.cache.get? file :=
  Cache.get?_insert pass.cache (.ofText path text) file

theorem isFresh_enter_anti {pass : Pass} {path file : FilePath}
    (h : (pass.enter path).isFresh file = true) : pass.isFresh file = true := by
  obtain ⟨hcached, hidle⟩ := isFresh_iff.1 h
  exact isFresh_iff.2 ⟨hcached, fun hmem => hidle (List.mem_cons_of_mem _ hmem)⟩

theorem isFresh_enter_self (pass : Pass) (path : FilePath) :
    (pass.enter path).isFresh path = false := by
  cases h : (pass.enter path).isFresh path with
  | false => rfl
  | true => exact absurd List.mem_cons_self (isFresh_iff.1 h).2

section taking

variable {disk : Disk} {P : FilePath → Prop} {pass visited : Pass} {path : FilePath}
variable {text : List Char} {new : List FilePath}

theorem inProgress_leave (hgrows : Grows disk P (pass.enter path) visited new) :
    (visited.leave (.ofText path text)).inProgress = pass.inProgress := by
  show visited.inProgress.erase path = pass.inProgress
  rw [hgrows.inProgress]
  show (path :: pass.inProgress).erase path = pass.inProgress
  rw [List.erase_cons_head]

/-- What was settled inside a file is settled when the file is left. -/
theorem settled_leave (hgrows : Grows disk P (pass.enter path) visited new) {file : FilePath}
    (h : visited.Settled disk file) : (visited.leave (.ofText path text)).Settled disk file := by
  by_cases hpath : file = path
  · -- the file was in progress and is stored now
    left
    apply Cache.contains_of_get?
    rw [get?_leave, if_pos hpath]
  · rcases h with hcached | hprogress | hunread
    · left
      unfold Cache.contains
      rw [get?_leave, if_neg hpath]
      exact hcached
    · right
      left
      rw [inProgress_leave hgrows]
      rw [hgrows.inProgress] at hprogress
      exact (List.mem_cons.1 hprogress).resolve_left hpath
    · exact Or.inr (Or.inr hunread)

/-- Entering a fresh file, storing what it pulls in and leaving it. -/
theorem grows_leave (hgrows : Grows disk P (pass.enter path) visited new) (hpath : P path)
    (hfresh : pass.isFresh path = true) (htext : disk.text? path = some text) :
    Grows disk P pass (visited.leave (.ofText path text)) (path :: new) := by
  -- no include on the way leads back into the file
  have hnew : path ∉ new := by
    intro hmem
    have hinside := hgrows.fresh path hmem
    rw [isFresh_enter_self] at hinside
    cases hinside
  refine ⟨List.nodup_cons.2 ⟨hnew, hgrows.nodup⟩, ?_, ?_, ?_, ?_, ?_, inProgress_leave hgrows⟩
  · intro file hmem
    rcases List.mem_cons.1 hmem with rfl | hmem
    · exact hpath
    · exact hgrows.property file hmem
  · intro file hmem
    rcases List.mem_cons.1 hmem with rfl | hmem
    · exact hfresh
    · exact isFresh_enter_anti (hgrows.fresh file hmem)
  · intro file hmem
    rcases List.mem_cons.1 hmem with rfl | hmem
    · exact ⟨text, htext, by rw [get?_leave, if_pos rfl]⟩
    · obtain ⟨content, hcontent, hget⟩ := hgrows.stored file hmem
      have hne : file ≠ path := fun heq => hnew (heq ▸ hmem)
      exact ⟨content, hcontent, by rw [get?_leave, if_neg hne, hget]⟩
  · intro file hmem
    rw [List.mem_cons, not_or] at hmem
    rw [get?_leave, if_neg hmem.1, hgrows.kept file hmem.2]
    rfl
  · show visited.cache.scans + 1 = _
    rw [hgrows.scans, List.length_cons]
    show pass.cache.scans + new.length + 1 = _
    omega

end taking

/-- The files that `path` includes are visited from inside it. -/
theorem indexNested_visits {disk : Disk} {room : Nat}
    (hindex : TakesIn disk room (indexNested disk room)) {P : FilePath → Prop}
    {pass : Pass} {path : FilePath} {text : List Char} (hnormal : path.IsNormal)
    (hidle : path ∉ pass.inProgress) (htargets : ∀ target, Directs path text target → P target)
    (hpasses : (pass.enter path).Passes disk P)
    (hroom : ((pass.enter path).pending disk).length ≤ room) :
    ∃ visited new, indexNested disk (room + 1) pass path text = visited.leave (.ofText path text) ∧
      Grows disk P (pass.enter path) visited new ∧ Closed disk visited new ∧
      ∀ target, Directs path text target → visited.Settled disk target := by
  have hfiles : ∀ file ∈ (FileIndex.ofText path text).includes, file.IsNormal ∧ P file := by
    intro file hmem
    have hdirects := mem_includes_ofText.1 hmem
    exact ⟨hdirects.isNormal, htargets file hdirects⟩
  obtain ⟨new, hgrows, hclosed, hsettled⟩ :=
    foldl_visits (visitInclude_visits hindex) hfiles hpasses hroom
  refine ⟨_, new, indexNested_succ hnormal hidle, hgrows, hclosed, ?_⟩
  intro target htarget
  exact hsettled target (mem_includes_ofText.2 htarget)

/-- Room for every pending file is room enough. The induction is on the room: a file
    that is entered is pending no longer. -/
theorem indexNested_takesIn (disk : Disk) (room : Nat) :
    TakesIn disk room (indexNested disk room) := by
  induction room with
  | zero =>
    -- the file itself is pending, so there is room
    intro P pass path text hnormal _ _ hfresh htext hroom
    have hmem := mem_pending hnormal htext hfresh
    rw [List.length_eq_zero_iff.1 (Nat.le_zero.1 hroom)] at hmem
    cases hmem
  | succ room ih =>
    intro P pass path text hnormal hpath hpasses hfresh htext hroom
    have hfewer : ((pass.enter path).pending disk).length < (pass.pending disk).length :=
      length_pending_lt (fun _ => isFresh_enter_anti) (mem_pending hnormal htext hfresh)
        (isFresh_enter_self pass path)
    have hpasses' : (pass.enter path).Passes disk P :=
      fun file content target hfile hnew => hpasses file content target hfile (isFresh_enter_anti hnew)
    obtain ⟨visited, new, heq, hgrows, hclosed, hsettled⟩ :=
      indexNested_visits ih hnormal (isFresh_iff.1 hfresh).2
        (fun target htarget => hpasses path text target hpath hfresh htext htarget)
        hpasses' (by omega)
    rw [heq]
    refine ⟨path :: new, grows_leave hgrows hpath hfresh htext, ?_, List.mem_cons_self⟩
    intro file hmem content hcontent target htarget
    apply settled_leave hgrows
    rcases List.mem_cons.1 hmem with rfl | hmem
    · -- the text that was given is the one on the disk
      rw [htext] at hcontent
      cases hcontent
      exact hsettled target htarget
    · exact hclosed file hmem content hcontent target htarget

/-- The nesting of a pass always leaves room: what a file pulls in is stored, and
    the file itself last. -/
theorem indexText_visits {disk : Disk} {P : FilePath → Prop} {pass : Pass} {path : FilePath}
    {text : List Char} (hnormal : path.IsNormal) (hidle : path ∉ pass.inProgress)
    (htargets : ∀ target, Directs path text target → P target)
    (hpasses : (pass.enter path).Passes disk P) :
    ∃ visited new, indexText disk pass path text = visited.leave (.ofText path text) ∧
      Grows disk P (pass.enter path) visited new ∧ Closed disk visited new ∧
      ∀ target, Directs path text target → visited.Settled disk target := by
  -- one level for the file itself, one for each path that can be read
  have hroom := length_pending_le_nodes disk (pass.enter path)
  exact indexNested_visits (indexNested_takesIn disk _) hnormal hidle htargets hpasses hroom

end Pass

end MakeLens
