import Mathlib.Data.List.Dedup
import Mathlib.Data.List.Perm.Subperm
import Mathlib.Logic.Relation
import MakeLens.Proofs.DefinitionInEffect
import MakeLens.Proofs.ExpansionChains

/-! # Expansion is bounded

    An expansion is a machine with a stack: a definition goes on the stack when it is
    entered and comes off when its value has been rewritten, and each reference met on the
    way is a call that starts with the stack as it is. Here the machine is written out step
    by step, so that something can be said about every moment of an expansion.

    * The machine computes the expansion and comes to a halt; a call ends with the stack
      that it has started with (`steps_asking`).
    * The sites on the stack differ, and there are no more of them than the depth allows
      (`Moment.Bounded.reached`).
    * Every definition that is entered has its site in the cache. So at a depth as great as
      the number of these sites an expansion is stopped by circles only, never by the depth
      (`Cache.expandInside_eq_of_covers`).
-/

namespace MakeLens

/-! ## Section 1: The machine -/

/-- A definition that is being expanded: its site, its value as far as it has been rewritten,
    and where the search for the next reference goes on. -/
structure Frame where
  site : Site
  text : List Char
  cursor : Nat
  deriving DecidableEq, Repr

/-- The frame after the call for its next reference has ended. -/
def Frame.resume (frame : Frame) (result : Option (List Char)) : Frame :=
  match nextOccurrence? frame.text frame.cursor with
  | none => frame
  | some o =>
    match result with
    | some replacement =>
      { frame with
        text := frame.text.take o.start ++ replacement ++ frame.text.drop o.stop
        cursor := o.start + replacement.length }
    | none => { frame with cursor := o.stop }

@[simp] theorem Frame.site_resume (frame : Frame) (result : Option (List Char)) :
    (frame.resume result).site = frame.site := by
  unfold Frame.resume
  split
  · rfl
  · split
    · rfl
    · rfl

/-- A moment of an expansion, with the frames on the stack, innermost first. -/
inductive Moment where
  /-- A name is about to be expanded as seen from a line of a file. -/
  | asking (name : String) (file : FilePath) (line : UInt32) (frames : List Frame)
  /-- The value on top of the stack is being rewritten. -/
  | rewriting (frame : Frame) (frames : List Frame)
  /-- The expansion of a name has ended. -/
  | answered (result : Option (List Char)) (frames : List Frame)
  deriving DecidableEq, Repr

namespace Moment

/-- The frames on the stack. -/
def frames : Moment → List Frame
  | .asking _ _ _ frames => frames
  | .rewriting frame frames => frame :: frames
  | .answered _ frames => frames

/-- The sites on the stack. -/
def sites (m : Moment) : List Site :=
  m.frames.map Frame.site

/-- The next moment; none when the first call has ended. A site that is on the stack already
    is refused before the depth is looked at. -/
def next? (cache : Cache) (depth : Nat) : Moment → Option Moment
  | .asking name file line frames =>
    match cache.definition? name file line with
    | none => some (.answered none frames)
    | some e =>
      if ⟨name, e.file, e.line⟩ ∈ frames.map Frame.site then some (.answered none frames)
      else if depth ≤ frames.length then some (.answered none frames)
      else some (.rewriting ⟨⟨name, e.file, e.line⟩, e.value.toList, 0⟩ frames)
  | .rewriting frame frames =>
    match nextOccurrence? frame.text frame.cursor with
    | none => some (.answered (some frame.text) frames)
    | some o => some (.asking o.name frame.site.file frame.site.line (frame :: frames))
  | .answered _ [] => none
  | .answered result (frame :: frames) => some (.rewriting (frame.resume result) frames)

/-- One moment leads to another. -/
def Leads (cache : Cache) (depth : Nat) (m m' : Moment) : Prop :=
  m.next? cache depth = some m'

/-- One moment leads to another with `base` still at the bottom of the stack. -/
def LeadsAbove (cache : Cache) (depth : Nat) (base : List Frame) (m m' : Moment) : Prop :=
  Leads cache depth m m' ∧ base <:+ m'.frames

variable {cache : Cache} {depth : Nat} {m m' : Moment}

theorem LeadsAbove.mono {base more : List Frame} (hmore : base <:+ more)
    (h : Relation.ReflTransGen (LeadsAbove cache depth more) m m') :
    Relation.ReflTransGen (LeadsAbove cache depth base) m m' := by
  refine Relation.ReflTransGen.mono ?_ m m' h
  rintro before after ⟨hleads, hkept⟩
  exact ⟨hleads, hmore.trans hkept⟩

theorem LeadsAbove.leads {base : List Frame}
    (h : Relation.ReflTransGen (LeadsAbove cache depth base) m m') :
    Relation.ReflTransGen (Leads cache depth) m m' := by
  refine Relation.ReflTransGen.mono ?_ m m' h
  rintro before after ⟨hleads, -⟩
  exact hleads

end Moment

/-! ## Section 2: The machine computes the expansion -/

/-- Where the site is open already, nothing is expanded, whatever the room. -/
theorem Cache.expandInside_of_mem {cache : Cache} {name : String} {file : FilePath} {line : UInt32}
    {e : Entity} {opened : List Site} (hdef : cache.definition? name file line = some e)
    (hsite : Resolved.site ⟨name, e⟩ ∈ opened) (room : Nat) :
    cache.expandInside room opened name file line = none := by
  have hopen : (⟨name, e.file, e.line⟩ : Site) ∈ opened := hsite
  cases room with
  | zero => rfl
  | succ room =>
    unfold expandInside
    rw [hdef]
    exact if_pos hopen

section machine

variable {cache : Cache} {depth : Nat} {frames : List Frame}

/-- The value on top of the stack is rewritten to its end, if every call from there gives
    what `resolve` says and leaves the stack alone. -/
theorem steps_rewriting {resolve : String → Option (List Char)} {site : Site}
    (hcalls : ∀ frame : Frame, frame.site = site → ∀ name,
      Relation.ReflTransGen (Moment.LeadsAbove cache depth (frame :: frames))
        (.asking name site.file site.line (frame :: frames))
        (.answered (resolve name) (frame :: frames))) (text : List Char) (cursor : Nat) :
    Relation.ReflTransGen (Moment.LeadsAbove cache depth frames)
      (.rewriting ⟨site, text, cursor⟩ frames)
      (.answered (some (substituteFrom resolve text cursor)) frames) := by
  have hround : ∀ (text : List Char) (cursor : Nat) (o : Occurrence) (after : Frame),
      nextOccurrence? text cursor = some o →
      Frame.resume ⟨site, text, cursor⟩ (resolve o.name) = after →
      Relation.ReflTransGen (Moment.LeadsAbove cache depth frames)
        (.rewriting ⟨site, text, cursor⟩ frames) (.rewriting after frames) := by
    intro text cursor o after hnext hresume
    -- the reference is found, its name is expanded, and the rewriting goes on
    have hask : Moment.LeadsAbove cache depth frames (.rewriting ⟨site, text, cursor⟩ frames)
        (.asking o.name site.file site.line (⟨site, text, cursor⟩ :: frames)) := by
      simp [Moment.LeadsAbove, Moment.Leads, Moment.next?, Moment.frames, hnext]
    have hcall := Moment.LeadsAbove.mono (List.suffix_cons _ frames)
      (hcalls ⟨site, text, cursor⟩ rfl o.name)
    have hback : Moment.LeadsAbove cache depth frames
        (.answered (resolve o.name) (⟨site, text, cursor⟩ :: frames))
        (.rewriting after frames) := by
      simp [Moment.LeadsAbove, Moment.Leads, Moment.next?, Moment.frames, hresume]
    exact ((Relation.ReflTransGen.single hask).trans hcall).tail hback
  fun_induction substituteFrom resolve text cursor with
  | case1 text cursor hnone =>
    apply Relation.ReflTransGen.single
    simp [Moment.LeadsAbove, Moment.Leads, Moment.next?, Moment.frames, hnone]
  | case2 text cursor o hnext replacement hresolve ih =>
    refine (hround text cursor o _ hnext ?_).trans ih
    simp [Frame.resume, hnext, hresolve]
  | case3 text cursor o hnext hresolve ih =>
    refine (hround text cursor o _ hnext ?_).trans ih
    simp [Frame.resume, hnext, hresolve]

/-- A call that does not enter a definition ends at once. -/
theorem steps_refused {name : String} {file : FilePath} {line : UInt32}
    (h : Moment.next? cache depth (.asking name file line frames) = some (.answered none frames)) :
    Relation.ReflTransGen (Moment.LeadsAbove cache depth frames) (.asking name file line frames)
      (.answered none frames) :=
  .single ⟨h, List.suffix_rfl⟩

/-- A call gives the expansion of its name and ends with the frames that it has started
    with, which stay on the stack all the time. The induction is on the room that is left: a
    call made inside finds one frame more on the stack. -/
theorem steps_asking (frames : List Frame) (name : String) (file : FilePath) (line : UInt32) :
    Relation.ReflTransGen (Moment.LeadsAbove cache depth frames) (.asking name file line frames)
      (.answered (cache.expandInside (depth - frames.length) (frames.map Frame.site) name file line)
        frames) := by
  induction hroom : depth - frames.length generalizing frames name file line with
  | zero =>
    have hfull : depth ≤ frames.length := by omega
    apply steps_refused
    cases hdef : cache.definition? name file line with
    | none => simp [Moment.next?, hdef]
    | some e => simp [Moment.next?, hdef, hfull]
  | succ room ih =>
    have hfree : ¬ depth ≤ frames.length := by omega
    cases hdef : cache.definition? name file line with
    | none =>
      rw [Cache.expandInside_of_definition?_none hdef]
      apply steps_refused
      simp [Moment.next?, hdef]
    | some e =>
      by_cases hsite : (⟨name, e.file, e.line⟩ : Site) ∈ frames.map Frame.site
      · rw [Cache.expandInside_of_mem hdef hsite]
        apply steps_refused
        simp only [Moment.next?, hdef, if_pos hsite]
      · have henter : Moment.LeadsAbove cache depth frames (.asking name file line frames)
            (.rewriting ⟨⟨name, e.file, e.line⟩, e.value.toList, 0⟩ frames) := by
          refine ⟨?_, List.suffix_cons _ frames⟩
          simp only [Moment.Leads, Moment.next?, hdef, if_neg hsite, if_neg hfree]
        refine (Relation.ReflTransGen.single henter).trans ?_
        unfold Cache.expandInside
        simp only [hdef, if_neg hsite]
        apply steps_rewriting
        intro frame hframe inner
        have hless : depth - (frame :: frames).length = room := by
          rw [List.length_cons]
          omega
        have hinner := ih (frame :: frames) inner e.file e.line hless
        rw [List.map_cons, hframe] at hinner
        exact hinner

/-- A machine that has come to a halt has made finitely many steps. -/
theorem acc_of_halt {m last : Moment} (h : Relation.ReflTransGen (Moment.Leads cache depth) m last)
    (hlast : last.next? cache depth = none) :
    Acc (fun after before => Moment.Leads cache depth before after) m := by
  induction h using Relation.ReflTransGen.head_induction_on with
  | refl =>
    constructor
    intro after hafter
    unfold Moment.Leads at hafter
    rw [hlast] at hafter
    cases hafter
  | head hstep _ ih =>
    constructor
    intro after hafter
    -- there is one next moment only
    unfold Moment.Leads at hstep hafter
    rw [hstep] at hafter
    cases hafter
    exact ih

end machine

/-! ## Section 3: The sites on the stack -/

/-- The sites on the stack differ, and the depth has room for them. -/
structure Moment.Bounded (depth : Nat) (m : Moment) : Prop where
  nodup : m.sites.Nodup
  length_le : m.sites.length ≤ depth

section sites

variable {cache : Cache} {depth : Nat} {m m' : Moment}

/-- The sites change in two ways only: one goes on the stack, which is not there yet and
    for which there is room, or the first one comes off. -/
theorem Moment.sites_of_leads (h : Moment.Leads cache depth m m') :
    m'.sites = m.sites ∨
    (∃ site, m'.sites = site :: m.sites ∧ site ∉ m.sites ∧ m.sites.length < depth) ∨
    ∃ site, m.sites = site :: m'.sites := by
  unfold Moment.Leads at h
  cases m with
  | asking name file line frames =>
    simp only [Moment.next?] at h
    split at h
    · cases h
      exact Or.inl rfl
    · next e _ =>
      split_ifs at h with hsite hfull
      · cases h
        exact Or.inl rfl
      · cases h
        exact Or.inl rfl
      · cases h
        refine Or.inr (Or.inl ⟨⟨name, e.file, e.line⟩, rfl, hsite, ?_⟩)
        rw [Moment.sites, List.length_map, Moment.frames]
        omega
  | rewriting frame frames =>
    simp only [Moment.next?] at h
    split at h
    · cases h
      exact Or.inr (Or.inr ⟨frame.site, rfl⟩)
    · cases h
      exact Or.inl rfl
  | answered result frames =>
    cases frames with
    | nil => cases h
    | cons frame frames =>
      cases h
      -- the frame goes on with the site that it has
      left
      simp [Moment.sites, Moment.frames]

/-- One step. -/
theorem Moment.Bounded.step (h : m.Bounded depth) (hleads : Moment.Leads cache depth m m') :
    m'.Bounded depth := by
  rcases Moment.sites_of_leads hleads with heq | ⟨site, heq, hnew, hroom⟩ | ⟨site, heq⟩
  · constructor
    · rw [heq]
      exact h.nodup
    · rw [heq]
      exact h.length_le
  · constructor
    · rw [heq]
      exact List.nodup_cons.2 ⟨hnew, h.nodup⟩
    · rw [heq]
      exact hroom
  · have hnodup := h.nodup
    have hlength := h.length_le
    rw [heq] at hnodup hlength
    exact ⟨hnodup.of_cons, Nat.le_of_succ_le hlength⟩

/-- All steps. -/
theorem Moment.Bounded.reached (h : m.Bounded depth)
    (hreached : Relation.ReflTransGen (Moment.Leads cache depth) m m') : m'.Bounded depth := by
  induction hreached with
  | refl => exact h
  | tail _ hleads ih => exact ih.step hleads

end sites

/-! ## Section 4: The sites of the definitions -/

/-- The groups of the index are those of its entities. -/
def FileIndex.Grouped (index : FileIndex) : Prop :=
  index.groups = groupByName index.entities

namespace Cache

/-- Every entry has the groups of its entities. -/
def Grouped (cache : Cache) : Prop :=
  ∀ file entry, cache.get? file = some entry → entry.Grouped

theorem grouped_empty : empty.Grouped := by
  intro file entry h
  cases h

theorem Grouped.insert {cache : Cache} (h : cache.Grouped) (path : FilePath)
    (entities : List Entity) (includes : List FilePath) :
    (cache.insert (.make path entities includes)).Grouped := by
  intro file entry hentry
  rw [get?_insert] at hentry
  split_ifs at hentry
  · cases hentry
    rfl
  · exact h file entry hentry

theorem Grouped.remove {cache : Cache} (h : cache.Grouped) (path : FilePath) :
    (cache.remove path).Grouped := by
  intro file entry hentry
  rw [get?_remove] at hentry
  split_ifs at hentry
  exact h file entry hentry

/-- The caches there are: from the empty one on, the index of some entities is stored or an
    entry is dropped. -/
inductive Made : Cache → Prop where
  | empty : Made empty
  | insert {cache : Cache} (path : FilePath) (entities : List Entity) (includes : List FilePath) :
      Made cache → Made (cache.insert (.make path entities includes))
  | remove {cache : Cache} (path : FilePath) : Made cache → Made (cache.remove path)

theorem Made.grouped {cache : Cache} (h : cache.Made) : cache.Grouped := by
  induction h with
  | empty => exact grouped_empty
  | insert path entities includes _ ih => exact ih.insert path entities includes
  | remove path _ ih => exact ih.remove path

/-- The sites of the definitions that the entries hold, each of them once. -/
def definitionSites (cache : Cache) : List Site :=
  (cache.entries.flatMap fun entry =>
    (entry.2.entities.filter Entity.isDefinition).map fun e => ⟨e.name, e.file, e.line⟩).dedup

variable {cache : Cache} {name : String} {file : FilePath} {line : UInt32} {e : Entity}

/-- A definition that takes effect somewhere has its site among them. -/
theorem Grouped.site_mem (h : cache.Grouped) (hdef : cache.definition? name file line = some e) :
    Resolved.site ⟨name, e⟩ ∈ cache.definitionSites := by
  obtain ⟨seen, -, entry, hentry, hmem⟩ := defines_of_definition? hdef
  have hmake : entry = .make entry.path entry.entities entry.includes := by
    have hgroups : entry.groups = FileIndex.groupByName entry.entities := h seen entry hentry
    rw [FileIndex.make, ← hgroups]
  rw [hmake, FileIndex.definitions_make, List.mem_filter, Bool.and_eq_true, beq_iff_eq] at hmem
  obtain ⟨hheld, hkind, rfl⟩ := hmem
  obtain ⟨⟨path, found⟩, hfound, rfl⟩ := Option.map_eq_some_iff.1 hentry
  rw [definitionSites, List.mem_dedup, List.mem_flatMap]
  refine ⟨⟨path, found⟩, List.mem_of_find?_eq_some hfound, ?_⟩
  exact List.mem_map.2 ⟨e, List.mem_filter.2 ⟨hheld, hkind⟩, rfl⟩

/-- Two rooms have to be compared only where the definition is entered. -/
theorem expandInside_eq_of_entered {room room' : Nat} {opened : List Site}
    (h : ∀ e, cache.definition? name file line = some e → Resolved.site ⟨name, e⟩ ∉ opened →
      cache.expandInside room opened name file line =
        cache.expandInside room' opened name file line) :
    cache.expandInside room opened name file line =
      cache.expandInside room' opened name file line := by
  cases hdef : cache.definition? name file line with
  | none => rw [expandInside_of_definition?_none hdef, expandInside_of_definition?_none hdef]
  | some e =>
    by_cases hsite : Resolved.site ⟨name, e⟩ ∈ opened
    · rw [expandInside_of_mem hdef hsite, expandInside_of_mem hdef hsite]
    · exact h e hdef hsite

/-- A definition that is not open yet takes one of the sites that are left. -/
theorem Grouped.length_lt (h : cache.Grouped) (hdef : cache.definition? name file line = some e)
    {opened : List Site} (hnodup : opened.Nodup) (hsites : opened ⊆ cache.definitionSites)
    (hnew : Resolved.site ⟨name, e⟩ ∉ opened) : opened.length < cache.definitionSites.length := by
  have hmore : (Resolved.site ⟨name, e⟩ :: opened).Nodup := List.nodup_cons.2 ⟨hnew, hnodup⟩
  have hwithin : Resolved.site ⟨name, e⟩ :: opened ⊆ cache.definitionSites :=
    List.cons_subset.2 ⟨h.site_mem hdef, hsites⟩
  exact (List.subperm_of_subset hmore hwithin).length_le

/-- If the open sites and the room together cover all sites of definitions, the room has no
    influence: where none is left, every site is open. The induction is on the room; inside a
    definition one site more is open, and there is room for one less. -/
theorem expandInside_eq_of_covers (hgrouped : cache.Grouped) {room room' : Nat}
    {opened : List Site} (hnodup : opened.Nodup) (hsites : opened ⊆ cache.definitionSites)
    (hroom : cache.definitionSites.length ≤ room + opened.length)
    (hroom' : cache.definitionSites.length ≤ room' + opened.length) (name : String)
    (file : FilePath) (line : UInt32) :
    cache.expandInside room opened name file line =
      cache.expandInside room' opened name file line := by
  induction room generalizing room' opened name file line with
  | zero =>
    apply expandInside_eq_of_entered
    intro e hdef hnew
    have hless := hgrouped.length_lt hdef hnodup hsites hnew
    omega
  | succ room ih =>
    apply expandInside_eq_of_entered
    intro e hdef hnew
    have hless := hgrouped.length_lt hdef hnodup hsites hnew
    obtain ⟨less, rfl⟩ : ∃ less, room' = less + 1 := Nat.exists_eq_add_one.2 (by omega)
    rw [expandInside_succ hdef hnew, expandInside_succ hdef hnew]
    congr 1
    apply replaceReferences_congr
    intro inner _
    apply ih
    · exact List.nodup_cons.2 ⟨hnew, hnodup⟩
    · exact List.cons_subset.2 ⟨hgrouped.site_mem hdef, hsites⟩
    · rw [List.length_cons]
      omega
    · rw [List.length_cons]
      omega

/-! ## Section 5: The expansion of a name -/

/-- The expansion of a name, in any cache, with circles in it or without.
    1. The machine halts, with the expansion as its answer.
    2. At every moment the sites on the stack differ and are no more than the depth, and a
       call that begins at this moment ends with the frames that it has found, which it
       leaves alone in between.
    3. At all depths that are no less than the number of different sites of definitions in
       the cache, every name has the same expansion everywhere. -/
theorem expand_bounded (cache : Cache) :
    (∀ depth name file line,
      Acc (fun after before => Moment.Leads cache depth before after)
        (.asking name file line []) ∧
      Relation.ReflTransGen (Moment.Leads cache depth) (.asking name file line [])
        (.answered (cache.expand depth name file line) []) ∧
      ∀ m, Relation.ReflTransGen (Moment.Leads cache depth) (.asking name file line []) m →
        m.sites.Nodup ∧ m.sites.length ≤ depth ∧
        ∀ name' file' line' frames, m = .asking name' file' line' frames →
          Relation.ReflTransGen (Moment.LeadsAbove cache depth frames) m
            (.answered (cache.expandInside (depth - frames.length) (frames.map Frame.site)
              name' file' line') frames)) ∧
    (cache.Made → ∀ depth depth', cache.definitionSites.length ≤ depth →
      cache.definitionSites.length ≤ depth' →
      ∀ name file line,
        cache.expand depth name file line = cache.expand depth' name file line) := by
  constructor
  · intro depth name file line
    have hends : Relation.ReflTransGen (Moment.Leads cache depth) (.asking name file line [])
        (.answered (cache.expand depth name file line) []) :=
      Moment.LeadsAbove.leads (steps_asking [] name file line)
    refine ⟨acc_of_halt hends rfl, hends, ?_⟩
    intro m hreached
    have hstart : (Moment.asking name file line []).Bounded depth :=
      ⟨List.nodup_nil, Nat.zero_le depth⟩
    have hbounded := hstart.reached hreached
    refine ⟨hbounded.nodup, hbounded.length_le, ?_⟩
    rintro name' file' line' frames rfl
    exact steps_asking frames name' file' line'
  · intro hmade depth depth' hdepth hdepth' name file line
    exact expandInside_eq_of_covers hmade.grouped List.nodup_nil (List.nil_subset _) hdepth hdepth'
      name file line

/-! ### Two files that refer to each other

    Each file includes the other one and has one definition, with a reference to the other
    file's name in its value. -/

/-- The file that defines `A`. -/
def firstOfTwo : FilePath := .ofString "/w/a.mk"

/-- The file that defines `B`. -/
def secondOfTwo : FilePath := .ofString "/w/b.mk"

/-- The definition of `A`. -/
def firstDefinition : Entity := .make "A" .assignment "$(B)" firstOfTwo 1 0

/-- The definition of `B`. -/
def secondDefinition : Entity := .make "B" .assignment "$(A)" secondOfTwo 1 0

/-- A cache that holds the two files. -/
def circularCache : Cache :=
  (empty.insert (.make firstOfTwo [firstDefinition] [secondOfTwo])).insert
    (.make secondOfTwo [secondDefinition] [firstOfTwo])

/-- From the first file `B` is found by its include, which leads back to the first file. -/
theorem definition?_circularCache :
    circularCache.definition? "B" firstOfTwo 1 = some secondDefinition := by
  have hclosure : circularCache.includeClosure firstOfTwo = [secondOfTwo] := by
    apply includeClosure_eq_singleton
    · decide +kernel
    · decide +kernel
    · -- the way back to the first file
      decide +kernel
  have hown : ((circularCache.get? firstOfTwo).bind
      fun index => index.nearestDefinition? "B" 1) = none := by
    decide +kernel
  unfold definition? includedDefinition?
  rw [hown, hclosure]
  decide +kernel

/-- The value of `A`, with the reference in it still to come. -/
def firstFrame : Frame := ⟨⟨"A", firstOfTwo, 1⟩, "$(B)".toList, 0⟩

/-- The value of `B`, with the reference in it still to come. -/
def secondFrame : Frame := ⟨⟨"B", secondOfTwo, 1⟩, "$(A)".toList, 0⟩

/-- The circle is closed with both sites on the stack. Depth 1 cuts it short; from depth 2 on
    the expansion stays the same. -/
theorem expand_circular :
    circularCache.Made ∧ circularCache.definitionSites.length = 2 ∧
    Relation.ReflTransGen (Moment.Leads circularCache 2) (.asking "A" firstOfTwo 1 [])
      (.asking "A" secondOfTwo 1 [secondFrame, firstFrame]) ∧
    (Moment.asking "A" secondOfTwo 1 [secondFrame, firstFrame]).sites.Nodup ∧
    Relation.ReflTransGen (Moment.LeadsAbove circularCache 2 [secondFrame, firstFrame])
      (.asking "A" secondOfTwo 1 [secondFrame, firstFrame])
      (.answered none [secondFrame, firstFrame]) ∧
    circularCache.expand 1 "A" firstOfTwo 1 = some "$(B)".toList ∧
    circularCache.expand 2 "A" firstOfTwo 1 = some "$(A)".toList ∧
    circularCache.expand 64 "A" firstOfTwo 1 = some "$(A)".toList := by
  obtain ⟨hrun, hdepths⟩ := expand_bounded circularCache
  have hmade : circularCache.Made := .insert _ _ _ (.insert _ _ _ .empty)
  have hsites : circularCache.definitionSites.length = 2 := by decide +kernel
  have hA : circularCache.definition? "A" firstOfTwo 1 = some firstDefinition := by decide +kernel
  have hB := definition?_circularCache
  have htwo : circularCache.expand 2 "A" firstOfTwo 1 = some "$(A)".toList := by
    have hinner : ∀ name ∈ references firstDefinition.value.toList,
        circularCache.expandInside 1 [Resolved.site ⟨"A", firstDefinition⟩] name
          firstDefinition.file firstDefinition.line = some "$(A)".toList := by
      intro name hname
      have hnames : references firstDefinition.value.toList = ["B"] := by decide +kernel
      rw [hnames, List.mem_singleton] at hname
      subst hname
      refine (expandInside_succ hB ?_).trans ?_
      · decide +kernel
      · decide +kernel
    show circularCache.expandInside 2 [] "A" firstOfTwo 1 = some "$(A)".toList
    rw [expandInside_succ hA List.not_mem_nil, replaceReferences_congr hinner]
    decide +kernel
  have hreached : Relation.ReflTransGen (Moment.Leads circularCache 2)
      (.asking "A" firstOfTwo 1 []) (.asking "A" secondOfTwo 1 [secondFrame, firstFrame]) := by
    have hfirst : Moment.next? circularCache 2 (.asking "A" firstOfTwo 1 []) =
        some (.rewriting firstFrame []) := by
      decide +kernel
    have hcall : Moment.next? circularCache 2 (.rewriting firstFrame []) =
        some (.asking "B" firstOfTwo 1 [firstFrame]) := by
      decide +kernel
    have hsecond : Moment.next? circularCache 2 (.asking "B" firstOfTwo 1 [firstFrame]) =
        some (.rewriting secondFrame [firstFrame]) := by
      rw [Moment.next?, hB]
      decide +kernel
    have hback : Moment.next? circularCache 2 (.rewriting secondFrame [firstFrame]) =
        some (.asking "A" secondOfTwo 1 [secondFrame, firstFrame]) := by
      decide +kernel
    exact .head hfirst (.head hcall (.head hsecond (.single hback)))
  obtain ⟨-, -, hmoments⟩ := hrun 2 "A" firstOfTwo 1
  obtain ⟨hnodup, -, hends⟩ := hmoments _ hreached
  refine ⟨hmade, hsites, hreached, hnodup, hends "A" secondOfTwo 1 _ rfl, ?_, htwo, ?_⟩
  · decide +kernel
  · rw [← hdepths hmade 2 64 (by omega) (by omega), htwo]

end Cache

end MakeLens
