import MakeLens.Proofs.LineCut
import MakeLens.Proofs.Noninterference
import MakeLens.Proofs.QueryAgreement
import MakeLens.Proofs.Rescan

/-! # Values depend on what stands above

    In a file that includes nothing, the value of a name at a line depends on the lines up
    to there alone. Whatever is changed below, it stays, through any chain of references:
    each reference is looked up where the definition that holds it stands, which is no
    further down than the line before it.

    The lines of the file are joined and scanned from the whole text, so first the scan has
    to be cut (`entities_scan_cut`): the entities of the upper lines come from these lines,
    and all others carry the number of a line below. Then the definition in effect at an
    upper line is found among the former.
-/

namespace MakeLens

/-! ## Section 1: The upper lines of a text -/

/-- Two texts have their first `k` lines in common, and the last of these, less its
    comment, is not continued. -/
structure AgreeAbove (k : Nat) (text other : List Char) : Prop where
  lines_eq : (physicalLines other).take k = (physicalLines text).take k
  uncontinued : EndsUncontinued (((physicalLines text).take k).map stripComment)

theorem AgreeAbove.symm {k : Nat} {text other : List Char} (h : AgreeAbove k text other) :
    AgreeAbove k other text where
  lines_eq := h.lines_eq.symm
  uncontinued := by
    rw [h.lines_eq]
    exact h.uncontinued

/-- The entities of the first `k` lines come first, and from these lines; those that
    follow stand below. -/
theorem entities_scan_cut {text : List Char} {k : Nat} (hlines : FewLines text)
    (hcut : EndsUncontinued (((physicalLines text).take k).map stripComment)) (file : FilePath) :
    ∃ below, (scan text file).entities =
        entitiesFrom file 0 ((physicalLines text).take k) ++ below ∧
      ∀ e ∈ below, k ≤ e.line.toNat := by
  have hsplit := entitiesFrom_append hcut file 0 ((physicalLines text).drop k)
  rw [List.take_append_drop, Nat.zero_add] at hsplit
  refine ⟨_, (entities_scan text file).trans hsplit, ?_⟩
  intro e hmem
  have hcount : (physicalLines text).length < UInt32.size := hlines
  have hline := le_line_of_mem_entitiesFrom
    (by rw [List.length_take, List.length_drop]; omega) hmem
  rw [List.length_take] at hline
  by_cases hk : k ≤ (physicalLines text).length
  · omega
  · -- there are no lines below
    rw [List.drop_eq_nil_of_le (by omega)] at hmem
    cases hmem

/-! ## Section 2: Definitions at the upper lines -/

/-- A search that stops at every member of `below` does not get there. -/
theorem takeWhile_append_of_forall {p : Entity → Bool} {above below : List Entity}
    (h : ∀ e ∈ below, p e = false) : (above ++ below).takeWhile p = above.takeWhile p := by
  induction above with
  | nil =>
    cases below with
    | nil => rfl
    | cons e rest => simp [h e List.mem_cons_self]
  | cons e rest ih =>
    rw [List.cons_append, List.takeWhile_cons, List.takeWhile_cons, ih]

theorem nearestDefinition?_cut {text : List Char} {k : Nat} (hlines : FewLines text)
    (hcut : EndsUncontinued (((physicalLines text).take k).map stripComment)) (file : FilePath)
    (name : String) {line : UInt32} (hline : line.toNat < k) :
    (FileIndex.ofText file text).nearestDefinition? name line =
      (((entitiesFrom file 0 ((physicalLines text).take k)).filter
        fun e => e.isDefinition && e.name == name).takeWhile fun e => e.line ≤ line).getLast? := by
  obtain ⟨below, hentities, hbelow⟩ := entities_scan_cut hlines hcut file
  unfold FileIndex.nearestDefinition?
  rw [FileIndex.ofText, FileIndex.definitions_make, hentities, List.filter_append]
  congr 1
  apply takeWhile_append_of_forall
  intro e hmem
  have hfar := hbelow e (List.mem_of_mem_filter hmem)
  simp only [decide_eq_false_iff_not, UInt32.le_iff_toNat_le]
  omega

/-- The same definitions are in effect at the upper lines of both texts. -/
theorem AgreeAbove.nearestDefinition?_eq {k : Nat} {text other : List Char}
    (h : AgreeAbove k text other) (hlines : FewLines text) (hlines' : FewLines other)
    (file : FilePath) (name : String) {line : UInt32} (hline : line.toNat < k) :
    (FileIndex.ofText file other).nearestDefinition? name line =
      (FileIndex.ofText file text).nearestDefinition? name line := by
  rw [nearestDefinition?_cut hlines h.uncontinued file name hline,
    nearestDefinition?_cut hlines' h.symm.uncontinued file name hline, h.lines_eq]

namespace Cache

variable {cache : Cache} {file : FilePath} {text : List Char} {name : String} {line : UInt32}

/-- A file that was indexed from a text without directives has only its own definitions. -/
theorem definition?_of_includeFree (hget : cache.get? file = some (.ofText file text))
    (hfree : (scan text file).includes = []) :
    cache.definition? name file line = (FileIndex.ofText file text).nearestDefinition? name line := by
  have hnone : (scan text file).includedFiles file = [] := by
    unfold Scan.includedFiles
    rw [hfree, List.filter_nil, List.map_nil]
  have hincludes : cache.includesOf file = [] := by
    unfold includesOf
    rw [hget]
    exact hnone
  rw [definition?_of_includesOf_eq_nil hincludes, hget, Option.bind_some]

theorem nearestDefinition?_ofText_place {e : Entity}
    (h : (FileIndex.ofText file text).nearestDefinition? name line = some e) :
    e.file = file ∧ e.line ≤ line := by
  obtain ⟨hmem, hline⟩ := FileIndex.mem_of_nearestDefinition? h
  have hlookup := (FileIndex.mem_definitions_iff.1 hmem).1
  have hentity : e ∈ (scan text file).entities := FileIndex.mem_entities_of_mem_lookup hlookup
  obtain ⟨name, kind, value, line, column, rfl⟩ := mem_entities_scan hentity
  exact ⟨rfl, hline⟩

end Cache

/-! ## Section 3: Values at the upper lines -/

/-- Expansions at the upper lines are the same, whatever the rest of the two caches is. An
    expansion never leaves the file and never goes down. -/
theorem AgreeAbove.expand_eq {k : Nat} {text other : List Char} (h : AgreeAbove k text other)
    (hlines : FewLines text) (hlines' : FewLines other) {file : FilePath}
    (hfree : (scan text file).includes = []) (hfree' : (scan other file).includes = [])
    {cache cache' : Cache} (hget : cache.get? file = some (.ofText file text))
    (hget' : cache'.get? file = some (.ofText file other)) (depth : Nat) (name : String)
    {line : UInt32} (hline : line.toNat < k) :
    cache'.expand depth name file line = cache.expand depth name file line := by
  -- the region is the upper part of the file
  refine Cache.expandInside_congr (fun place line => place = file ∧ line.toNat < k) ?_ ?_ depth []
    ⟨rfl, hline⟩
  · rintro name place line ⟨rfl, hline⟩
    rw [Cache.definition?_of_includeFree hget hfree, Cache.definition?_of_includeFree hget' hfree']
    exact h.nearestDefinition?_eq hlines hlines' place name hline
  · rintro name place line e ⟨rfl, hline⟩ hdef
    rw [Cache.definition?_of_includeFree hget hfree] at hdef
    obtain ⟨hfile, habove⟩ := Cache.nearestDefinition?_ofText_place hdef
    have hle := UInt32.le_iff_toNat_le.1 habove
    exact ⟨hfile, by omega⟩

namespace Index

/-- Two texts without include directives that agree on their first `k` lines, the last of
    which is not continued, give every name the same value at each of these lines: after
    the file was indexed from the one or the other, in whatever index, and in any two caches
    that hold the file as indexed from them, with any depth of expansion. -/
theorem hoverValue_causal (disk : Disk) (path : FilePath) {text other : List Char} {k : Nat}
    (hlines : FewLines text) (hlines' : FewLines other)
    (hfree : (scan text (disk.absolute path)).includes = [])
    (hfree' : (scan other (disk.absolute path)).includes = [])
    (hagree : AgreeAbove k text other) (name : String) (line : UInt32) (hline : line.toNat < k) :
    let file := disk.absolute path
    (∀ index : Index,
      ((index.reindex disk path other).1.hoverValue disk path name line).2 =
        ((index.reindex disk path text).1.hoverValue disk path name line).2) ∧
    ∀ cache cache' : Cache, cache.get? file = some (.ofText file text) →
      cache'.get? file = some (.ofText file other) →
      ∀ depth, cache'.expand depth name file line = cache.expand depth name file line := by
  intro file
  have hexpand : ∀ cache cache' : Cache, cache.get? file = some (.ofText file text) →
      cache'.get? file = some (.ofText file other) →
      ∀ depth, cache'.expand depth name file line = cache.expand depth name file line :=
    fun _ _ hget hget' depth =>
      hagree.expand_eq hlines hlines' hfree hfree' hget hget' depth name hline
  refine ⟨?_, hexpand⟩
  intro index
  have hget : ∀ content, (index.reindex disk path content).1.cache.get? file =
      some (.ofText file content) :=
    fun content => get?_takeText_self index disk content (disk.isNormal_absolute path)
  rw [hoverValue_of_contains (Cache.contains_of_get? (hget text)),
    hoverValue_of_contains (Cache.contains_of_get? (hget other))]
  -- a scan leaves the depth of expansion as it is
  exact hexpand _ _ (hget text) (hget other) index.depth

/-! ### A text that goes on in two ways -/

/-- Three lines, the second of them continued, and an end. -/
def endingIn (lower : String) : List Char :=
  ("A := 1\nB := $(A) \\ # one\n  two\n" ++ lower).toList

theorem agreeAbove_endingIn : AgreeAbove 3 (endingIn "A := 2") (endingIn "B := $(B)\r\nall: b \\") where
  lines_eq := by decide +kernel
  uncontinued := by
    have hlast : (((physicalLines (endingIn "A := 2")).take 3).map stripComment).getLast? =
        some "  two".toList := by
      decide +kernel
    intro last h
    rw [hlast] at h
    cases h
    decide +kernel

/-- Neither the second `A` nor the second `B` matters to the third line. -/
theorem hoverValue_endingIn :
    let disk := oneFileDisk ""
    let path := FilePath.ofString "Makefile"
    let text := endingIn "A := 2"
    let other := endingIn "B := $(B)\r\nall: b \\"
    AgreeAbove 3 text other ∧ (FewLines text ∧ FewLines other) ∧
    (scan text (disk.absolute path)).includes = [] ∧
    (scan other (disk.absolute path)).includes = [] ∧
    ((Index.empty.reindex disk path text).1.hoverValue disk path "B" 2).2 = some "1 two".toList ∧
    ((Index.empty.reindex disk path other).1.hoverValue disk path "B" 2).2 =
      some "1 two".toList := by
  intro disk path text other
  have hlines : FewLines text := by decide +kernel
  have hlines' : FewLines other := by decide +kernel
  have hfree : (scan text (disk.absolute path)).includes = [] := by decide +kernel
  have hfree' : (scan other (disk.absolute path)).includes = [] := by decide +kernel
  have hvalue : ((Index.empty.reindex disk path text).1.hoverValue disk path "B" 2).2 =
      some "1 two".toList := by
    decide +kernel
  have hsame := (hoverValue_causal disk path hlines hlines' hfree hfree' agreeAbove_endingIn "B" 2
    (by decide)).1 Index.empty
  exact ⟨agreeAbove_endingIn, ⟨hlines, hlines'⟩, hfree, hfree', hvalue, hsame.trans hvalue⟩

end Index

end MakeLens
