import MakeLens.Index.File

/-! # The entities of a scan

    Every entity of a scan belongs to the scanned file, only assignments have a
    value, no value starts with a blank, and the entities stand in the order of
    their lines.

    Lines are numbered with 32 bits, so the order holds for texts with fewer than
    2 ^ 32 lines: in a longer one the numbers start again from zero.
-/

namespace MakeLens

/-! ## Section 1: One entity -/

namespace Entity

theorem value_make_of_ne {name value : String} {kind : EntityKind} {file : FilePath}
    {line column : UInt32} (h : kind ≠ .assignment) :
    (make name kind value file line column).value = "" := by
  cases kind with
  | assignment => exact absurd rfl h
  | _ => rfl

theorem head?_value_make {name value : String} {kind : EntityKind} {file : FilePath}
    {line column : UInt32} {c : Char}
    (h : (make name kind value file line column).value.toList.head? = some c) :
    isBlank c = false := by
  by_cases hkind : kind = .assignment
  · subst hkind
    have hvalue : (make name .assignment value file line column).value =
        String.ofList (trimStart value.toList) := rfl
    rw [hvalue, String.toList_ofList] at h
    have hfirst := List.head?_dropWhile_not isBlank value.toList
    unfold trimStart at h
    rw [h] at hfirst
    simpa using hfirst
  · rw [value_make_of_ne hkind] at h
    simp at h

/-- What every entity has from the fact and the line it stems from. -/
theorem ofFact?_eq_make {file : FilePath} {line : UInt32} {fact : Fact} {e : Entity}
    (h : ofFact? file line fact = some e) :
    ∃ name kind value column, e = make name kind value file line column := by
  cases fact with
  | target name column => exact ⟨_, _, _, _, (Option.some.inj h).symm⟩
  | assignment name column value => exact ⟨_, _, _, _, (Option.some.inj h).symm⟩
  | reference name column => exact ⟨_, _, _, _, (Option.some.inj h).symm⟩
  | function name column => exact ⟨_, _, _, _, (Option.some.inj h).symm⟩
  | call name column => exact ⟨_, _, _, _, (Option.some.inj h).symm⟩
  | specialTarget name => cases h
  | inclusion paths => cases h

end Entity

theorem mem_entities_scan {text : List Char} {file : FilePath} {e : Entity}
    (h : e ∈ (scan text file).entities) :
    ∃ name kind value line column, e = .make name kind value file line column := by
  obtain ⟨⟨line, fact⟩, -, hfact⟩ := List.mem_filterMap.1 h
  obtain ⟨name, kind, value, column, rfl⟩ := Entity.ofFact?_eq_make hfact
  exact ⟨name, kind, value, line, column, rfl⟩

/-! ## Section 2: The order of lines -/

/-- The lines of a text can be told apart by 32 bits. -/
def FewLines (text : List Char) : Prop :=
  (physicalLines text).length < UInt32.size

instance (text : List Char) : Decidable (FewLines text) :=
  inferInstanceAs (Decidable (_ < _))

theorem length_joinContinued (lines : List (List Char)) :
    (joinContinued lines).length = lines.length := by
  induction lines with
  | nil => rfl
  | cons line rest ih =>
    unfold joinContinued
    split
    · next head next after _ hjoined =>
      rw [hjoined] at ih
      rw [List.length_cons, List.length_cons, List.length_cons, ← ih, List.length_cons]
    · rw [List.length_cons, List.length_cons, ih]

theorem length_logicalLines (text : List Char) :
    (logicalLines text).length = (physicalLines text).length := by
  unfold logicalLines
  rw [length_joinContinued, List.length_map]

/-- The numbers of a numbered list ascend. -/
theorem pairwise_zipIdx {α : Type} (xs : List α) :
    xs.zipIdx.Pairwise fun a b => a.2 < b.2 := by
  have hnumbers : (xs.zipIdx.map Prod.snd).Pairwise (· < ·) := by
    rw [List.zipIdx_map_snd]
    exact List.pairwise_lt_range'
  exact List.pairwise_map.1 hnumbers

theorem ofNat_le_ofNat {m n : Nat} (h : m ≤ n) (hn : n < UInt32.size) :
    UInt32.ofNat m ≤ UInt32.ofNat n := by
  have hm : m < UInt32.size := Nat.lt_of_le_of_lt h hn
  rw [UInt32.le_iff_toNat_le, UInt32.toNat_ofNat_of_lt' hm, UInt32.toNat_ofNat_of_lt' hn]
  exact h

/-- The facts of one line share its number. -/
theorem number_of_mem_line {line : List Char} {number : Nat} {x : UInt32 × Fact}
    (h : x ∈ if line.all isBlank then []
      else (classify line).map fun fact => (UInt32.ofNat number, fact)) :
    x.1 = UInt32.ofNat number := by
  split at h
  · cases h
  · obtain ⟨fact, -, rfl⟩ := List.mem_map.1 h
    rfl

/-- Where a fact of a text comes from. -/
theorem exists_line_of_mem_numberedFacts {text : List Char} {x : UInt32 × Fact}
    (h : x ∈ numberedFacts text) :
    ∃ number logical, (logicalLines text)[number]? = some logical ∧
      x.1 = UInt32.ofNat number ∧ x.2 ∈ classify logical := by
  obtain ⟨⟨logical, number⟩, hnumber, hmem⟩ := List.mem_flatMap.1 h
  rw [List.mem_zipIdx_iff_getElem?] at hnumber
  refine ⟨number, logical, hnumber, number_of_mem_line hmem, ?_⟩
  simp only at hmem
  split at hmem
  · cases hmem
  · obtain ⟨fact, hclass, rfl⟩ := List.mem_map.1 hmem
    exact hclass

/-- Facts come in the order of their lines. -/
theorem pairwise_numberedFacts {text : List Char} (h : FewLines text) :
    (numberedFacts text).Pairwise fun a b => a.1 ≤ b.1 := by
  unfold numberedFacts
  rw [List.pairwise_flatMap]
  constructor
  · rintro ⟨line, number⟩ -
    refine List.pairwise_of_forall_mem_list ?_
    intro x hx y hy
    rw [number_of_mem_line hx, number_of_mem_line hy]
    exact UInt32.le_refl _
  · refine (pairwise_zipIdx (logicalLines text)).imp_of_mem ?_
    rintro ⟨line, number⟩ ⟨line', number'⟩ - hmem' hlt x hx y hy
    have hbound : number' < UInt32.size := by
      have hlines := List.snd_lt_of_mem_zipIdx hmem'
      rw [length_logicalLines] at hlines
      exact Nat.lt_trans hlines h
    rw [number_of_mem_line hx, number_of_mem_line hy]
    exact ofNat_le_ofNat (Nat.le_of_lt hlt) hbound

/-- Entities come in the order of their lines. -/
theorem pairwise_entities_scan {text : List Char} (h : FewLines text) (file : FilePath) :
    (scan text file).entities.Pairwise fun a b => a.line ≤ b.line := by
  refine (pairwise_numberedFacts h).filterMap _ ?_
  rintro ⟨line, fact⟩ ⟨line', fact'⟩ hle e he e' he'
  obtain ⟨name, kind, value, column, rfl⟩ := Entity.ofFact?_eq_make he
  obtain ⟨name', kind', value', column', rfl⟩ := Entity.ofFact?_eq_make he'
  exact hle

end MakeLens
