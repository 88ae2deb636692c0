import MakeLens.Proofs.ScanEntities

/-! # Cutting a text between two lines

    Continued lines are joined from the last line of a text upwards, so every line has to
    do with what stands below it. But what stands below reaches a line only through an
    unbroken row of continued lines: where a line is not continued, the text can be cut
    behind it, and both parts can be scanned on their own, the second with its line
    numbers moved.
-/

namespace MakeLens

/-! ## Section 1: Joining on both sides of a cut -/

/-- The last line is not continued. -/
def EndsUncontinued (lines : List (List Char)) : Prop :=
  ∀ last, lines.getLast? = some last → continuationHead? last = none

theorem joinContinued_cons_of_continued {line head next : List Char} {rest after : List (List Char)}
    (hhead : continuationHead? line = some head) (hrest : joinContinued rest = next :: after) :
    joinContinued (line :: rest) = (head ++ trimStart next) :: [] :: after := by
  rw [joinContinued, hhead, hrest]

theorem joinContinued_cons_of_uncontinued {line : List Char} (rest : List (List Char))
    (hhead : continuationHead? line = none) :
    joinContinued (line :: rest) = line :: joinContinued rest := by
  rw [joinContinued, hhead]

theorem EndsUncontinued.tail {line : List Char} {rest : List (List Char)}
    (h : EndsUncontinued (line :: rest)) : EndsUncontinued rest := by
  intro last hlast
  apply h last
  rw [List.getLast?_cons, hlast]
  rfl

/-- Nothing is joined across the cut. -/
theorem joinContinued_append {above : List (List Char)} (h : EndsUncontinued above)
    (below : List (List Char)) :
    joinContinued (above ++ below) = joinContinued above ++ joinContinued below := by
  induction above with
  | nil => rfl
  | cons line rest ih =>
    have hbelow := ih h.tail
    rw [List.cons_append]
    cases hhead : continuationHead? line with
    | none =>
      rw [joinContinued_cons_of_uncontinued _ hhead, joinContinued_cons_of_uncontinued _ hhead,
        hbelow, List.cons_append]
    | some head =>
      cases hjoined : joinContinued rest with
      | nil =>
        -- the line would be the last one above the cut, and continued
        have hlength := length_joinContinued rest
        rw [hjoined] at hlength
        rw [List.eq_nil_of_length_eq_zero hlength.symm] at h
        rw [h line rfl] at hhead
        cases hhead
      | cons next after =>
        rw [hjoined, List.cons_append] at hbelow
        rw [joinContinued_cons_of_continued hhead hbelow,
          joinContinued_cons_of_continued hhead hjoined]
        rfl

/-! ## Section 2: Scanning on both sides of a cut -/

/-- The facts of logical lines that are numbered from `first` on. -/
def factsFrom (first : Nat) (lines : List (List Char)) : List (UInt32 × Fact) :=
  (lines.zipIdx first).flatMap fun (line, number) =>
    if line.all isBlank then []
    else (classify line).map fun fact => (UInt32.ofNat number, fact)

theorem factsFrom_append (first : Nat) (above below : List (List Char)) :
    factsFrom first (above ++ below) =
      factsFrom first above ++ factsFrom (first + above.length) below := by
  unfold factsFrom
  rw [List.zipIdx_append, List.flatMap_append]

/-- Numbers that 32 bits can hold are at least that of the first line. -/
theorem le_number_of_mem_factsFrom {first : Nat} {lines : List (List Char)} {x : UInt32 × Fact}
    (hfew : first + lines.length ≤ UInt32.size) (h : x ∈ factsFrom first lines) :
    first ≤ x.1.toNat := by
  obtain ⟨⟨line, number⟩, hmem, hx⟩ := List.mem_flatMap.1 h
  have hlower : first ≤ number := List.le_snd_of_mem_zipIdx hmem
  have hupper : number < first + lines.length := List.snd_lt_add_of_mem_zipIdx hmem
  rw [number_of_mem_line hx, UInt32.toNat_ofNat_of_lt' (by omega)]
  exact hlower

/-- The entities of physical lines that are numbered from `first` on. -/
def entitiesFrom (file : FilePath) (first : Nat) (lines : List (List Char)) : List Entity :=
  (factsFrom first (joinContinued (lines.map stripComment))).filterMap fun (line, fact) =>
    Entity.ofFact? file line fact

theorem entities_scan (text : List Char) (file : FilePath) :
    (scan text file).entities = entitiesFrom file 0 (physicalLines text) :=
  rfl

theorem entitiesFrom_append {above : List (List Char)}
    (h : EndsUncontinued (above.map stripComment)) (file : FilePath) (first : Nat)
    (below : List (List Char)) :
    entitiesFrom file first (above ++ below) =
      entitiesFrom file first above ++ entitiesFrom file (first + above.length) below := by
  unfold entitiesFrom
  rw [List.map_append, joinContinued_append h, factsFrom_append, List.filterMap_append,
    length_joinContinued, List.length_map]

theorem le_line_of_mem_entitiesFrom {file : FilePath} {first : Nat} {lines : List (List Char)}
    {e : Entity} (hfew : first + lines.length ≤ UInt32.size)
    (h : e ∈ entitiesFrom file first lines) : first ≤ e.line.toNat := by
  obtain ⟨⟨line, fact⟩, hmem, hfact⟩ := List.mem_filterMap.1 h
  obtain ⟨name, kind, value, column, rfl⟩ := Entity.ofFact?_eq_make hfact
  refine le_number_of_mem_factsFrom ?_ hmem
  rw [length_joinContinued, List.length_map]
  exact hfew

end MakeLens
