import MakeLens.Proofs.LineCut
import MakeLens.Proofs.PhysicalLines

/-! # Scanning is local

    A scan joins lines from the last one upwards, yet it can be done in parts: where the last
    line of the part above is not continued, the whole text has the entities and includes of
    the part above and then those of the part below. The latter are what a scan of the part
    below alone gives, moved down by the lines that stand above it; nothing else about them
    changes.

    So whole lines inserted above a block only shift it.
-/

namespace MakeLens

/-! ## Section 1: Moving down -/

/-- The entity on a line further down. -/
def Entity.moveDown (count : Nat) (e : Entity) : Entity :=
  { e with line := e.line + UInt32.ofNat count }

/-- The include directive on a line further down. -/
def moveIncludeDown (count : Nat) (directive : UInt32 × String) : UInt32 × String :=
  (directive.1 + UInt32.ofNat count, directive.2)

/-- The line of a fact has no part in the entity apart from the entity's own line. -/
theorem Entity.ofFact?_add (file : FilePath) (line : UInt32) (count : Nat) (fact : Fact) :
    ofFact? file (line + UInt32.ofNat count) fact =
      (ofFact? file line fact).map (moveDown count) := by
  cases fact <;> rfl

/-- Numbers that 32 bits can hold do not wrap. -/
theorem toNat_add_ofNat {line : UInt32} {count : Nat} (h : line.toNat + count < UInt32.size) :
    (line + UInt32.ofNat count).toNat = line.toNat + count := by
  rw [UInt32.toNat_add, UInt32.toNat_ofNat_of_lt' (by omega)]
  exact Nat.mod_eq_of_lt h

/-! ## Section 2: Facts, entities and includes -/

/-- The facts of lines that are numbered from further down on. -/
theorem factsFrom_add (count first : Nat) (lines : List (List Char)) :
    factsFrom (count + first) lines =
      (factsFrom first lines).map fun x => (x.1 + UInt32.ofNat count, x.2) := by
  unfold factsFrom
  rw [← List.map_snd_add_zipIdx_eq_zipIdx, List.flatMap_map, List.map_flatMap]
  congr 1
  funext ⟨line, number⟩
  -- adding comes to the same before and after a number is cut to 32 bits
  by_cases hblank : line.all isBlank <;> simp [hblank, UInt32.ofNat_add]

/-- The numbers of facts stay below the number of lines. -/
theorem number_lt_of_mem_numberedFacts {text : List Char} {x : UInt32 × Fact}
    (hfew : (physicalLines text).length < UInt32.size) (h : x ∈ numberedFacts text) :
    x.1.toNat < (physicalLines text).length := by
  obtain ⟨⟨line, number⟩, hmem, hx⟩ := List.mem_flatMap.1 h
  have hnumber : number < (physicalLines text).length := by
    rw [← length_logicalLines]
    exact List.snd_lt_of_mem_zipIdx hmem
  rw [number_of_mem_line hx, UInt32.toNat_ofNat_of_lt' (by omega)]
  exact hnumber

/-- The facts of a text that is put together from two. -/
theorem numberedFacts_append {above : List Char}
    (h : EndsUncontinued ((physicalLines above).map stripComment)) (below : List Char) :
    numberedFacts (above ++ '\n' :: below) =
      numberedFacts above ++ (numberedFacts below).map fun x =>
        (x.1 + UInt32.ofNat (physicalLines above).length, x.2) := by
  have hfacts : ∀ text, numberedFacts text = factsFrom 0 (logicalLines text) := fun _ => rfl
  -- no line of `above` takes in a line of `below`
  have hlines :
      logicalLines (above ++ '\n' :: below) = logicalLines above ++ logicalLines below := by
    unfold logicalLines
    rw [physicalLines_append, List.map_append, joinContinued_append h]
  rw [hfacts, hfacts, hfacts, hlines, factsFrom_append, ← factsFrom_add, length_logicalLines,
    Nat.zero_add, Nat.add_zero]

/-- Empty lines above a text move its facts down. -/
theorem numberedFacts_feeds (count : Nat) (below : List Char) :
    numberedFacts (List.replicate count '\n' ++ below) =
      (numberedFacts below).map fun x => (x.1 + UInt32.ofNat count, x.2) := by
  have hend : EndsUncontinued ((physicalLines []).map stripComment) := by
    intro last hlast
    cases hlast
    rfl
  induction count with
  | zero => simp
  | succ count ih =>
    have hone := numberedFacts_append hend (List.replicate count '\n' ++ below)
    rw [ih, List.map_map] at hone
    rw [List.replicate_succ, List.cons_append]
    refine hone.trans ?_
    show [] ++ _ = _
    rw [List.nil_append]
    congr 1
    funext x
    show (x.1 + UInt32.ofNat count + UInt32.ofNat 1, x.2) = _
    rw [UInt32.add_assoc, ← UInt32.ofNat_add]

/-- Entities are made of facts one by one, and so are includes. -/
theorem entities_moved (file : FilePath) (count : Nat) (facts : List (UInt32 × Fact)) :
    ((facts.map fun x => (x.1 + UInt32.ofNat count, x.2)).filterMap fun (line, fact) =>
        Entity.ofFact? file line fact) =
      (facts.filterMap fun (line, fact) => Entity.ofFact? file line fact).map
        (Entity.moveDown count) := by
  rw [List.filterMap_map, List.map_filterMap]
  congr 1
  funext ⟨line, fact⟩
  exact Entity.ofFact?_add file line count fact

theorem includes_moved (count : Nat) (facts : List (UInt32 × Fact)) :
    ((facts.map fun x => (x.1 + UInt32.ofNat count, x.2)).flatMap fun (line, fact) =>
        fact.includedPaths.map fun path => (line, path)) =
      (facts.flatMap fun (line, fact) => fact.includedPaths.map fun path => (line, path)).map
        (moveIncludeDown count) := by
  rw [List.flatMap_map, List.map_flatMap]
  congr 1
  funext ⟨line, fact⟩
  rw [List.map_map]
  rfl

theorem line_lt_of_mem_entities {text : List Char} {file : FilePath} {e : Entity}
    (hfew : (physicalLines text).length < UInt32.size) (h : e ∈ (scan text file).entities) :
    e.line.toNat < (physicalLines text).length := by
  obtain ⟨⟨line, fact⟩, hmem, hfact⟩ := List.mem_filterMap.1 h
  obtain ⟨name, kind, value, column, rfl⟩ := Entity.ofFact?_eq_make hfact
  exact number_lt_of_mem_numberedFacts hfew hmem

theorem line_lt_of_mem_includes {text : List Char} {file : FilePath} {directive : UInt32 × String}
    (hfew : (physicalLines text).length < UInt32.size)
    (h : directive ∈ (scan text file).includes) :
    directive.1.toNat < (physicalLines text).length := by
  obtain ⟨⟨line, fact⟩, hmem, hpath⟩ := List.mem_flatMap.1 h
  obtain ⟨path, -, rfl⟩ := List.mem_map.1 hpath
  exact number_lt_of_mem_numberedFacts hfew hmem

/-! ## Section 3: The scan of two texts -/

/-- A text `above` whose last line is not continued, and a text `below` behind a line feed,
    with fewer than 2 ^ 32 lines together.
    1. The entities are those of `above` and then those of `below`, moved down by the number
       of lines of `above`.
    2. The same holds of the includes.
    3. No number wraps when it is moved: it is increased by the number of lines. -/
theorem scan_append {above below : List Char}
    (hend : EndsUncontinued ((physicalLines above).map stripComment))
    (hfew : (physicalLines above).length + (physicalLines below).length < UInt32.size)
    (file : FilePath) :
    let count := (physicalLines above).length
    let whole := scan (above ++ '\n' :: below) file
    whole.entities = (scan above file).entities ++
      (scan below file).entities.map (Entity.moveDown count) ∧
    whole.includes = (scan above file).includes ++
      (scan below file).includes.map (moveIncludeDown count) ∧
    (∀ e ∈ (scan below file).entities, (e.moveDown count).line.toNat = e.line.toNat + count) ∧
    ∀ directive ∈ (scan below file).includes,
      (moveIncludeDown count directive).1.toNat = directive.1.toNat + count := by
  intro count whole
  have hfacts := numberedFacts_append hend below
  refine ⟨?_, ?_, ?_, ?_⟩
  · show (numberedFacts (above ++ '\n' :: below)).filterMap _ = _
    rw [hfacts, List.filterMap_append, entities_moved]
    rfl
  · show (numberedFacts (above ++ '\n' :: below)).flatMap _ = _
    rw [hfacts, List.flatMap_append, includes_moved]
    rfl
  · intro e he
    have hline := line_lt_of_mem_entities (by omega) he
    exact toNat_add_ofNat (by omega)
  · intro directive hdirective
    have hline := line_lt_of_mem_includes (by omega) hdirective
    exact toNat_add_ofNat (by omega)

/-! ### A chain that ends at the cut

    The last line above the cut is taken in by the line before it and ends with a carriage
    return. -/

/-- Two lines, the first of them continued. -/
def chainAbove : List Char := "A = 1 \\ # one\r\n  2\r".toList

/-- A block with a chain of its own. -/
def blockBelow : List Char := "include x.mk\n\nB = $(A) \\\n  3\nall: b".toList

theorem endsUncontinued_chainAbove :
    EndsUncontinued ((physicalLines chainAbove).map stripComment) := by
  have hlast : ((physicalLines chainAbove).map stripComment).getLast? = some "  2".toList := by
    decide +kernel
  intro last h
  rw [hlast] at h
  cases h
  decide +kernel

/-- The block is found two lines further down. -/
theorem scan_chainAbove_blockBelow :
    let file := FilePath.ofString "/w/Makefile"
    let whole := scan (chainAbove ++ '\n' :: blockBelow) file
    (EndsUncontinued ((physicalLines chainAbove).map stripComment) ∧
      (physicalLines chainAbove).length + (physicalLines blockBelow).length < UInt32.size) ∧
    whole.entities = (scan chainAbove file).entities ++
      (scan blockBelow file).entities.map (Entity.moveDown 2) ∧
    whole.includes = (scan chainAbove file).includes ++
      (scan blockBelow file).includes.map (moveIncludeDown 2) ∧
    whole.entities.map (fun e => (e.name, e.value, e.line.toNat)) =
      [("A", "1 2", 0), ("B", "$(A) 3", 4), ("all", "", 6)] ∧
    whole.includes = [(2, "x.mk")] := by
  intro file whole
  have hfew : (physicalLines chainAbove).length + (physicalLines blockBelow).length <
      UInt32.size := by
    decide +kernel
  have hcount : (physicalLines chainAbove).length = 2 := by decide +kernel
  obtain ⟨hentities, hincludes, -, -⟩ := scan_append endsUncontinued_chainAbove hfew file
  rw [hcount] at hentities hincludes
  refine ⟨⟨endsUncontinued_chainAbove, hfew⟩, hentities, hincludes, ?_, ?_⟩
  · decide +kernel
  · decide +kernel

end MakeLens
