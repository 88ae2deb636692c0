import MakeLens.Proofs.DefinitionInEffect
import MakeLens.Proofs.ExpansionChains
import MakeLens.Proofs.Frame
import MakeLens.Proofs.Representation
import MakeLens.Proofs.Rescan
import MakeLens.Proofs.ScanLocality

/-! # Values and places agree

    An index answers two questions about a name: what is its value at a line, and where
    does it occur. The first looks for the last definition above the line or else for the
    last one among the included files; the second collects every entity of the file and of
    its included files, uses of the name as well. A value is always that of a definition
    that the second question lists, and there is no value exactly where there is nothing
    to take it from: any depth of expansion is enough to enter the definition itself.

    The second part is for files whose lines 32 bits can number. In a longer one the numbers
    start again, and a definition that has a low number far below is not found
    (`hoverValue_farDefinitions`).
-/

namespace MakeLens

theorem EntityKind.isDefinition_iff {kind : EntityKind} :
    kind.isDefinition = true ↔ kind = .target ∨ kind = .assignment ∨ kind = .function := by
  cases kind <;> simp [isDefinition]

namespace Cache

variable {cache : Cache} {name : String} {file : FilePath} {line : UInt32} {e : Entity}

/-! ## Section 1: Entries made from texts -/

/-- Every entry is the index of some text. -/
def FromTexts (cache : Cache) : Prop :=
  ∀ file entry, cache.get? file = some entry → ∃ text, entry = .ofText file text

/-- The entities of a file's entry, in line order; none without an entry. -/
def entitiesOf (cache : Cache) (file : FilePath) : List Entity :=
  ((cache.get? file).map FileIndex.entities).getD []

/-- 32 bits can number the lines of the text that the entry of `file` was made from. -/
def FewLinesAt (cache : Cache) (file : FilePath) : Prop :=
  ∀ entry, cache.get? file = some entry → ∃ text, FewLines text ∧ entry = .ofText file text

/-- `e` is an entity called `name` in the entry of `file`, of a kind that defines. -/
structure HoldsDefinition (cache : Cache) (file : FilePath) (name : String) (e : Entity) :
    Prop where
  held : ∃ entry, cache.get? file = some entry ∧ e ∈ entry.entities
  name_eq : e.name = name
  kind : e.kind = .target ∨ e.kind = .assignment ∨ e.kind = .function

/-- Looking a name up finds the definitions that the entry holds, and no other ones. -/
theorem FromTexts.defines_iff (h : cache.FromTexts) :
    cache.Defines file name e ↔ cache.HoldsDefinition file name e := by
  constructor
  · rintro ⟨entry, hentry, hmem⟩
    obtain ⟨text, rfl⟩ := h file entry hentry
    rw [FileIndex.ofText, FileIndex.definitions_make, List.mem_filter, Bool.and_eq_true,
      beq_iff_eq] at hmem
    obtain ⟨hheld, hkind, hname⟩ := hmem
    exact ⟨⟨_, hentry, hheld⟩, hname, EntityKind.isDefinition_iff.1 hkind⟩
  · rintro ⟨⟨entry, hentry, hheld⟩, hname, hkind⟩
    obtain ⟨text, rfl⟩ := h file entry hentry
    refine ⟨_, hentry, ?_⟩
    rw [FileIndex.ofText, FileIndex.definitions_make, List.mem_filter, Bool.and_eq_true,
      beq_iff_eq]
    exact ⟨hheld, EntityKind.isDefinition_iff.2 hkind, hname⟩

/-- The definitions of a name stand in the order of their lines. -/
theorem FewLinesAt.definitions_ascend (h : cache.FewLinesAt file) {entry : FileIndex}
    (hentry : cache.get? file = some entry) :
    (entry.definitions name).Pairwise fun a b => a.line ≤ b.line := by
  obtain ⟨text, hlines, rfl⟩ := h entry hentry
  rw [FileIndex.ofText, FileIndex.definitions_make]
  exact (pairwise_entities_scan hlines file).filter _

/-! ## Section 2: When there is a value -/

/-- The depth counts the definition itself, so with a depth of one or more a name that is
    defined has a value. -/
theorem expand_of_pos {depth : Nat} (hdepth : 0 < depth) :
    cache.expand depth name file line = (cache.definition? name file line).map fun e =>
      replaceReferences (fun inner => cache.expandInside (depth - 1)
        [⟨name, e.file, e.line⟩] inner e.file e.line) e.value.toList := by
  obtain ⟨less, rfl⟩ := Nat.exists_eq_add_one.2 hdepth
  unfold expand
  cases hdef : cache.definition? name file line with
  | none => exact expandInside_of_definition?_none hdef _ _
  | some e => exact expandInside_succ hdef List.not_mem_nil

/-- Without an entry a file sees no definition at all. -/
theorem contains_of_definition? (h : cache.definition? name file line = some e) :
    cache.contains file = true := by
  cases hget : cache.get? file with
  | some entry => exact contains_of_get? hget
  | none =>
    have hincludes : cache.includesOf file = [] := by
      unfold includesOf
      rw [hget]
      rfl
    rw [definition?_of_includesOf_eq_nil hincludes, hget] at h
    cases h

end Cache

/-! ## Section 3: The two questions -/

namespace Index

variable {cache : Cache} {name : String} {file : FilePath} {line : UInt32} {e : Entity}

/-- The places of a name include those of all its definitions that are seen. -/
theorem location_mem_locations {seen : FilePath} (hseen : cache.Sees file seen)
    (h : cache.Defines seen name e) : e.location ∈ locations cache file name := by
  obtain ⟨entry, hentry, hmem⟩ := h
  refine List.mem_flatMap.2 ⟨seen, List.mem_cons.2 hseen, ?_⟩
  rw [hentry]
  exact List.mem_map_of_mem (FileIndex.mem_definitions_iff.1 hmem).1

/-- With an entry in the cache the disk is not asked, for neither question. -/
theorem definitions_of_contains {index : Index} {disk : Disk} {path : FilePath}
    (h : index.cache.contains (disk.absolute path) = true) :
    index.definitions disk path name =
      (index, locations index.cache (disk.absolute path) name) := by
  unfold definitions
  simp only
  rw [provide_of_contains disk none h]

theorem hoverValue_of_contains {index : Index} {disk : Disk} {path : FilePath}
    (h : index.cache.contains (disk.absolute path) = true) :
    index.hoverValue disk path name line =
      (index, index.cache.expand index.depth name (disk.absolute path) line) := by
  unfold hoverValue
  simp only
  rw [provide_of_contains disk none h]

theorem run_fromTexts (steps : List (Disk × Operation)) :
    (Index.empty.run steps).cache.FromTexts := by
  have hstart : ∀ file entry, Index.empty.cache.get? file = some entry →
      ∃ text, entry = FileIndex.ofText file text := by
    intro file entry h
    cases h
  intro file entry h
  refine Index.run_invariant steps ?_ Index.empty hstart h
  rintro step - file built ⟨-, content, rfl, -⟩
  exact ⟨content, rfl⟩

theorem run_append (index : Index) (steps later : List (Disk × Operation)) :
    index.run (steps ++ later) = (index.run steps).run later :=
  List.foldl_append

/-- Asking for the value of a name after any run, at any depth of expansion:
    1. a value is that of a definition, with its references expanded where it stands, and
       the place of this very definition is among the places of the name, also when the
       disk has changed before these are asked for;
    2. there is no value exactly where the file itself has no definition of the name at or
       above the line and no included file has any. Line numbers have 32 bits; in a text
       with more lines the numbers start again, and a definition above the line can
       follow one below it. -/
theorem hoverValue_agrees (steps : List (Disk × Operation)) (disk : Disk) (path : FilePath)
    (name : String) (line : UInt32) :
    let hovered := (Index.empty.run steps).hoverValue disk path name line
    let cache := hovered.1.cache
    let file := disk.absolute path
    (∀ value, hovered.2 = some value → ∃ e,
      cache.definition? name file line = some e ∧
      value = replaceReferences (fun inner => cache.expandInside (hovered.1.depth - 1)
        [⟨name, e.file, e.line⟩] inner e.file e.line) e.value.toList ∧
      (∃ seen, cache.Sees file seen ∧ cache.HoldsDefinition seen name e) ∧
      ∀ later : Disk, later.absolute path = file →
        e.location ∈ (hovered.1.definitions later path name).2) ∧
    (cache.FewLinesAt file →
      (hovered.2 = none ↔
        (∀ e, cache.HoldsDefinition file name e → line < e.line) ∧
        ∀ included ∈ cache.includeClosure file, ∀ e,
          ¬ cache.HoldsDefinition included name e)) := by
  intro hovered cache file
  have hvalue : hovered.2 = cache.expand hovered.1.depth name file line := rfl
  rw [Cache.expand_of_pos hovered.1.depth_pos] at hvalue
  -- the question itself is the last step of a run
  have htexts : cache.FromTexts := by
    have hrun := run_fromTexts (steps ++ [(disk, .hoverValue path name line)])
    rw [run_append] at hrun
    exact hrun
  constructor
  · intro value hsome
    rw [hvalue] at hsome
    obtain ⟨e, hdef, rfl⟩ := Option.map_eq_some_iff.1 hsome
    obtain ⟨seen, hseen, hdefines⟩ := Cache.defines_of_definition? hdef
    refine ⟨e, hdef, rfl, ⟨seen, hseen, htexts.defines_iff.1 hdefines⟩, ?_⟩
    intro later habsolute
    have hcached : hovered.1.cache.contains (later.absolute path) = true := by
      rw [habsolute]
      exact Cache.contains_of_definition? hdef
    rw [definitions_of_contains hcached, habsolute]
    exact location_mem_locations hseen hdefines
  · intro hlines
    rw [hvalue, Option.map_eq_none_iff,
      Cache.definition?_eq_none_iff fun entry hentry => hlines.definitions_ascend hentry]
    simp only [htexts.defines_iff]

end Index

/-! ### A name that is defined below the line -/

/-- A text is opened, and the depth of expansion is set as low as it can be. -/
def lateRun : List (Disk × Operation) :=
  [(oneFileDisk "", .reindex (.ofString "Makefile") "B := $(A)\nA = 2\nuse $(B) now".toList),
   (oneFileDisk "", .setDepth 0)]

/-- In the first line `B` has a value and `A` has none yet. -/
theorem hoverValue_lateRun :
    let disk := oneFileDisk ""
    let path := FilePath.ofString "Makefile"
    let first := (Index.empty.run lateRun).hoverValue disk path "B" 0
    let second := (Index.empty.run lateRun).hoverValue disk path "A" 0
    first.2 = some "$(A)".toList ∧
    (∃ e, first.1.cache.definition? "B" (disk.absolute path) 0 = some e ∧
      e.location ∈ (first.1.definitions disk path "B").2) ∧
    second.1.cache.FewLinesAt (disk.absolute path) ∧ second.2 = none := by
  intro disk path first second
  have hvalue : first.2 = some "$(A)".toList := by decide +kernel
  obtain ⟨e, hdef, -, -, hlocation⟩ :=
    (Index.hoverValue_agrees lateRun disk path "B" 0).1 _ hvalue
  have hentry : second.1.cache.get? (disk.absolute path) =
      some (.ofText (disk.absolute path) "B := $(A)\nA = 2\nuse $(B) now".toList) := by
    decide +kernel
  have hlines : second.1.cache.FewLinesAt (disk.absolute path) := by
    intro entry hget
    rw [hentry] at hget
    cases hget
    exact ⟨_, by decide +kernel, rfl⟩
  have hbelow : ∀ e, second.1.cache.HoldsDefinition (disk.absolute path) "A" e → 0 < e.line := by
    rintro e ⟨⟨entry, hget, hmem⟩, hname, -⟩
    rw [hentry] at hget
    cases hget
    have hentities : ∀ e ∈ (FileIndex.ofText (disk.absolute path)
        "B := $(A)\nA = 2\nuse $(B) now".toList).entities, e.name = "A" → 0 < e.line := by
      decide +kernel
    exact hentities e hmem hname
  have hclosure : second.1.cache.includeClosure (disk.absolute path) = [] :=
    Cache.includeClosure_eq_nil (by decide +kernel)
  have hnone : second.2 = none := by
    apply ((Index.hoverValue_agrees lateRun disk path "A" 0).2 hlines).2
    refine ⟨hbelow, ?_⟩
    intro included hincluded
    rw [hclosure] at hincluded
    cases hincluded
  exact ⟨hvalue, ⟨e, hdef, hlocation disk rfl⟩, hlines, hnone⟩

/-! ### A text of 2 ^ 32 lines and one more -/

/-- Two definitions of a name, one in the second line and one below a number of empty
    lines. -/
def farDefinitions (empty : Nat) : List Char :=
  "\nA := 1".toList ++ '\n' :: (List.replicate empty '\n' ++ "A := 2".toList)

theorem scan_farDefinitions (empty : Nat) (file : FilePath) :
    scan (farDefinitions empty) file =
      ⟨[.make "A" .assignment "1" file 1 0,
        .make "A" .assignment "2" file (UInt32.ofNat (empty + 2)) 0], []⟩ := by
  have hend : EndsUncontinued ((physicalLines "\nA := 1".toList).map stripComment) := by
    intro last hlast
    have hlines : (physicalLines "\nA := 1".toList).map stripComment = [[], "A := 1".toList] := by
      decide +kernel
    rw [hlines] at hlast
    cases hlast
    decide +kernel
  have habove : numberedFacts "\nA := 1".toList = [(1, .assignment "A" 0 "1")] := by decide +kernel
  have hbelow : numberedFacts "A := 2".toList = [(0, .assignment "A" 0 "2")] := by decide +kernel
  have hcount : (physicalLines "\nA := 1".toList).length = 2 := by decide +kernel
  have hnumber : (0 : UInt32) + UInt32.ofNat empty + UInt32.ofNat 2 = UInt32.ofNat (empty + 2) := by
    rw [UInt32.zero_add, UInt32.ofNat_add]
  unfold scan farDefinitions
  rw [numberedFacts_append hend, numberedFacts_feeds, habove, hbelow, hcount, ← hnumber]
  rfl

/-- If the number of the last line wraps around to that of the first one, the search for a
    definition at the first line stops before it has come to the last one. -/
theorem hoverValue_farDefinitions {empty : Nat} (h : UInt32.ofNat (empty + 2) = 0) :
    let disk := oneFileDisk ""
    let path := FilePath.ofString "Makefile"
    let index := Index.empty.run [(disk, .reindex path (farDefinitions empty))]
    let hovered := index.hoverValue disk path "A" 0
    hovered.2 = none ∧
    ∃ e, hovered.1.cache.HoldsDefinition (disk.absolute path) "A" e ∧ e.line ≤ 0 := by
  intro disk path index hovered
  have hget : index.cache.get? (disk.absolute path) =
      some (.ofText (disk.absolute path) (farDefinitions empty)) :=
    Index.get?_takeText_self Index.empty disk (farDefinitions empty) (disk.isNormal_absolute path)
  have hentry : FileIndex.ofText (disk.absolute path) (farDefinitions empty) =
      .make (disk.absolute path) [.make "A" .assignment "1" (disk.absolute path) 1 0,
        .make "A" .assignment "2" (disk.absolute path) 0 0] [] := by
    unfold FileIndex.ofText
    rw [scan_farDefinitions, h]
    rfl
  rw [hentry] at hget
  have hincludes : index.cache.includesOf (disk.absolute path) = [] := by
    unfold Cache.includesOf
    rw [hget]
    rfl
  -- the file has an entry, so the question leaves the index as it is
  have hanswer : hovered =
      (index, index.cache.expand index.depth "A" (disk.absolute path) 0) :=
    Index.hoverValue_of_contains (Cache.contains_of_get? hget)
  rw [hanswer]
  refine ⟨?_, .make "A" .assignment "2" (disk.absolute path) 0 0, ⟨⟨_, hget, ?_⟩, rfl, ?_⟩, ?_⟩
  · rw [Cache.expand_of_pos index.depth_pos, Cache.definition?_of_includesOf_eq_nil hincludes, hget]
    unfold FileIndex.nearestDefinition?
    rw [Option.bind_some, FileIndex.definitions_make]
    rfl
  · exact List.mem_cons_of_mem _ List.mem_cons_self
  · exact Or.inr (Or.inl rfl)
  · exact UInt32.le_refl 0

/-- In the last line of 2 ^ 32 + 1 lines there is a definition with the number of the first
    line, and it is not found there. -/
theorem hoverValue_wraps :
    let disk := oneFileDisk ""
    let path := FilePath.ofString "Makefile"
    let index := Index.empty.run [(disk, .reindex path (farDefinitions (UInt32.size - 2)))]
    let hovered := index.hoverValue disk path "A" 0
    hovered.2 = none ∧
    ∃ e, hovered.1.cache.HoldsDefinition (disk.absolute path) "A" e ∧ e.line ≤ 0 := by
  have hwrap : UInt32.ofNat (UInt32.size - 2 + 2) = 0 := by decide
  exact hoverValue_farDefinitions hwrap

end MakeLens
