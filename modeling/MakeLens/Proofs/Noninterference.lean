import MakeLens.Index
import MakeLens.Proofs.DefinitionInEffect
import MakeLens.Proofs.IncludeClosure
import MakeLens.Proofs.ScanEntities

/-! # What a query can see

    A query about a file looks at the entries of the file and of its include closure, and
    at no other ones: two caches that agree there give the same answers, whatever else
    they hold.

    An expansion does not stay with the file of the query. It goes on from the file of the
    definition that it has found and looks at the closure of that file. Still it never
    leaves what the first file sees, since the closure of a file that is seen lies in
    what is seen (`Sees.trans`).
-/

namespace MakeLens.Cache

/-! ## Section 1: The files that a file sees -/

theorem Sees.trans {cache : Cache} {start between file : FilePath}
    (h₁ : cache.Sees start between) (h₂ : cache.Sees between file) : cache.Sees start file := by
  rcases h₁ with rfl | h₁
  · exact h₂
  · rcases h₂ with rfl | h₂
    · exact Or.inr h₁
    · -- the way goes on, and may come back to `start`
      have hreached := (reached_of_mem_includeClosure h₁).trans (reached_of_mem_includeClosure h₂)
      exact mem_includeClosure_of_reached hreached

/-- Both caches have the same entries, or none, where `start` looks. -/
def AgreesFrom (cache other : Cache) (start : FilePath) : Prop :=
  ∀ file, cache.Sees start file → other.get? file = cache.get? file

/-- Entities carry the path that their entry stands under. -/
def EntitiesOwned (cache : Cache) : Prop :=
  ∀ file entry, cache.get? file = some entry → ∀ e ∈ entry.entities, e.file = file

section agreement

variable {cache other : Cache} {start file : FilePath} {name : String} {line : UInt32} {e : Entity}

theorem AgreesFrom.of_sees (h : cache.AgreesFrom other start) (hsees : cache.Sees start file) :
    cache.AgreesFrom other file :=
  fun _ hfurther => h _ (hsees.trans hfurther)

/-- A search that finds files with the same entries goes the same way. -/
theorem explore_congr (seen stack : List FilePath)
    (h : ∀ file ∈ cache.explore seen stack, other.get? file = cache.get? file) :
    other.explore seen stack = cache.explore seen stack := by
  fun_induction explore cache seen stack with
  | case1 seen => rw [explore]
  | case2 seen next rest hseen ih =>
    rw [explore, if_pos hseen]
    exact ih h
  | case3 seen next rest hnew ih =>
    have hnext : other.includesOf next = cache.includesOf next := by
      unfold includesOf
      rw [h next List.mem_cons_self]
    rw [explore, if_neg hnew, hnext, ih fun file hfile => h file (List.mem_cons_of_mem _ hfile)]

theorem AgreesFrom.includeClosure_eq (h : cache.AgreesFrom other start) :
    other.includeClosure start = cache.includeClosure start := by
  have hstart : other.includesOf start = cache.includesOf start := by
    unfold includesOf
    rw [h start (Or.inl rfl)]
  unfold includeClosure
  rw [hstart]
  exact explore_congr _ _ fun file hfile => h file (Or.inr hfile)

theorem AgreesFrom.definition?_eq (h : cache.AgreesFrom other start) :
    other.definition? name start line = cache.definition? name start line := by
  have hincluded : other.includedDefinition? name start = cache.includedDefinition? name start := by
    unfold includedDefinition?
    rw [h.includeClosure_eq]
    congr 1
    apply List.filterMap_congr
    intro file hfile
    rw [h file (Or.inr hfile)]
  unfold definition?
  rw [h start (Or.inl rfl), hincluded]

theorem AgreesFrom.locations_eq (h : cache.AgreesFrom other start) :
    Index.locations other start name = Index.locations cache start name := by
  unfold Index.locations
  rw [h.includeClosure_eq]
  apply List.flatMap_congr
  intro file hfile
  rw [h file (List.mem_cons.1 hfile)]

theorem Defines.file_eq (howned : cache.EntitiesOwned) (h : cache.Defines file name e) :
    e.file = file := by
  obtain ⟨entry, hentry, hmem⟩ := h
  have hlookup := (FileIndex.mem_definitions_iff.1 hmem).1
  exact howned file entry hentry e (FileIndex.mem_entities_of_mem_lookup hlookup)

/-- A definition stands in a file that is seen from where it is in effect. -/
theorem sees_of_definition? (howned : cache.EntitiesOwned)
    (h : cache.definition? name file line = some e) : cache.Sees file e.file := by
  obtain ⟨seen, hseen, hdefines⟩ := defines_of_definition? h
  rw [hdefines.file_eq howned]
  exact hseen

end agreement

/-! ## Section 2: Two expansions side by side -/

/-- Two caches with the same definitions in effect all over a region give the same
    expansions there, as long as no definition leads out of the region. -/
theorem expandInside_congr {cache other : Cache} (Region : FilePath → UInt32 → Prop)
    (hsame : ∀ name file line, Region file line →
      other.definition? name file line = cache.definition? name file line)
    (hinside : ∀ name file line e, Region file line →
      cache.definition? name file line = some e → Region e.file e.line)
    (room : Nat) (opened : List Site) {name : String} {file : FilePath} {line : UInt32}
    (hplace : Region file line) :
    other.expandInside room opened name file line =
      cache.expandInside room opened name file line := by
  induction room generalizing opened name file line with
  | zero => rfl
  | succ room ih =>
    unfold expandInside
    rw [hsame name file line hplace]
    cases hdef : cache.definition? name file line with
    | none => rfl
    | some e =>
      have hnext : Region e.file e.line := hinside name file line e hplace hdef
      simp only
      -- the references of the value are expanded at the place of the definition
      have hinner : (fun inner => other.expandInside room (⟨name, e.file, e.line⟩ :: opened)
            inner e.file e.line) =
          fun inner => cache.expandInside room (⟨name, e.file, e.line⟩ :: opened)
            inner e.file e.line := by
        funext inner
        exact ih _ hnext
      rw [hinner]

/-- Files that a file does not see have no part in what a query about it answers, be it the
    include closure, the places of a name, the definition in effect or an expansion. -/
theorem queries_eq_of_agreesFrom (cache other : Cache) (start : FilePath)
    (howned : cache.EntitiesOwned) (hagree : cache.AgreesFrom other start) :
    other.includeClosure start = cache.includeClosure start ∧
    (∀ name, Index.locations other start name = Index.locations cache start name) ∧
    (∀ name line, other.definition? name start line = cache.definition? name start line) ∧
    ∀ depth name line, other.expand depth name start line = cache.expand depth name start line := by
  refine ⟨hagree.includeClosure_eq, fun _ => hagree.locations_eq,
    fun _ _ => hagree.definition?_eq, ?_⟩
  intro depth name line
  refine expandInside_congr (fun file _ => cache.Sees start file) ?_ ?_ depth [] (Or.inl rfl)
  · intro name file line hsees
    exact (hagree.of_sees hsees).definition?_eq
  · intro name file line e hsees hdef
    exact hsees.trans (sees_of_definition? howned hdef)

/-! ### Two caches that differ in a third file -/

theorem EntitiesOwned.empty : Cache.empty.EntitiesOwned := by
  intro file entry h
  cases h

theorem EntitiesOwned.insert {cache : Cache} (h : cache.EntitiesOwned) (path : FilePath)
    (text : List Char) : (cache.insert (.ofText path text)).EntitiesOwned := by
  intro file entry hget e hmem
  rw [get?_insert] at hget
  split at hget
  · next hfile =>
    cases hget
    obtain ⟨name, kind, value, line, column, rfl⟩ := mem_entities_scan hmem
    exact hfile.symm
  · exact h file entry hget e hmem

/-- The main file and a file that includes it back, with the index of a third file. -/
def circleBeside (aside : String) : Cache :=
  ((Cache.empty.insert (.ofText (.ofString "/w/main.mk") "include lib.mk\nB := $(A)".toList)).insert
    (.ofText (.ofString "/w/lib.mk") "include gone.mk main.mk\nA := $(C)-$(B)".toList)).insert
    (.ofText (.ofString "/w/aside.mk") aside.toList)

theorem includeClosure_circleBeside :
    (circleBeside "").includeClosure (.ofString "/w/main.mk") =
      [.ofString "/w/lib.mk", .ofString "/w/gone.mk"] := by
  have hmain : (circleBeside "").includesOf (.ofString "/w/main.mk") =
      [.ofString "/w/lib.mk"] := by
    decide +kernel
  have hlib : (circleBeside "").includesOf (.ofString "/w/lib.mk") =
      [.ofString "/w/gone.mk", .ofString "/w/main.mk"] := by
    decide +kernel
  have hgone : (circleBeside "").includesOf (.ofString "/w/gone.mk") = [] := by
    decide +kernel
  unfold includeClosure
  rw [hmain, explore, if_neg (by decide +kernel), hlib, List.append_nil]
  rw [explore, if_neg (by decide +kernel), hgone, List.nil_append]
  -- the way back to the main file
  rw [explore, if_pos (by decide +kernel), explore]

/-- The third file defines the name that is missing, but neither of the others sees it. -/
theorem queries_circleBeside :
    let without := circleBeside ""
    let beside := circleBeside "C = 1\ninclude main.mk"
    let main := FilePath.ofString "/w/main.mk"
    without.EntitiesOwned ∧ without.AgreesFrom beside main ∧
    beside.get? (.ofString "/w/aside.mk") ≠ without.get? (.ofString "/w/aside.mk") ∧
    beside.includeClosure main = [.ofString "/w/lib.mk", .ofString "/w/gone.mk"] ∧
    beside.expand 9 "B" main 1 = without.expand 9 "B" main 1 := by
  intro without beside main
  have howned : without.EntitiesOwned :=
    ((EntitiesOwned.empty.insert _ _).insert _ _).insert _ _
  have hagree : without.AgreesFrom beside main := by
    intro file hsees
    unfold Sees at hsees
    rw [includeClosure_circleBeside] at hsees
    simp only [List.mem_cons, List.not_mem_nil, or_false] at hsees
    rcases hsees with rfl | rfl | rfl
    · decide +kernel
    · decide +kernel
    · decide +kernel
  obtain ⟨hclosure, -, -, hexpand⟩ := queries_eq_of_agreesFrom without beside main howned hagree
  exact ⟨howned, hagree, by decide +kernel, hclosure.trans includeClosure_circleBeside,
    hexpand 9 "B" 1⟩

end MakeLens.Cache
