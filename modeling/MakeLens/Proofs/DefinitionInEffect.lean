import Mathlib.Data.List.TakeWhile
import MakeLens.Index.Definition
import MakeLens.Proofs.NameGroups

/-! # Where the definition in effect comes from

    The definition of a name in effect at a line is one of the file's own definitions at
    or above the line or, where there is none, one of an included file. The search
    through the file's own definitions stops at the first one below the line, which is
    no loss as long as they stand in the order of their lines.
-/

namespace MakeLens

/-! ## Section 1: The definitions of one file -/

namespace FileIndex

variable {index : FileIndex} {name : String} {line : UInt32} {e : Entity}

theorem mem_definitions_iff : e ∈ index.definitions name ↔
    e ∈ index.lookup name ∧ e.isDefinition = true :=
  List.mem_filter

theorem mem_of_nearestDefinition? (h : index.nearestDefinition? name line = some e) :
    e ∈ index.definitions name ∧ e.line ≤ line := by
  have hmem : e ∈ (index.definitions name).takeWhile fun e => e.line ≤ line :=
    List.mem_of_getLast? h
  have hline := List.mem_takeWhile_imp hmem
  exact ⟨(List.takeWhile_prefix _).subset hmem, of_decide_eq_true hline⟩

theorem mem_of_lastDefinition? (h : index.lastDefinition? name = some e) :
    e ∈ index.definitions name :=
  List.mem_of_getLast? h

/-- In the order of lines the search stops where nothing is left to find. -/
theorem nearestDefinition?_eq_none_iff
    (hascend : (index.definitions name).Pairwise fun a b => a.line ≤ b.line) :
    index.nearestDefinition? name line = none ↔ ∀ e ∈ index.definitions name, line < e.line := by
  unfold nearestDefinition?
  rw [List.getLast?_eq_none_iff]
  cases hdefs : index.definitions name with
  | nil => simp
  | cons first rest =>
    rw [hdefs] at hascend
    have hfirst := (List.pairwise_cons.1 hascend).1
    rw [List.takeWhile_cons]
    by_cases hline : first.line ≤ line
    · simp only [hline, decide_true, if_true]
      constructor
      · intro h
        cases h
      · intro h
        exact absurd (h first List.mem_cons_self) (UInt32.not_lt.2 hline)
    · simp only [hline, decide_false, Bool.false_eq_true, if_false, true_iff]
      intro e he
      -- the others stand at or below the first one
      rcases List.mem_cons.1 he with rfl | he
      · exact UInt32.not_le.1 hline
      · exact UInt32.lt_of_lt_of_le (UInt32.not_le.1 hline) (hfirst e he)

theorem lastDefinition?_eq_none_iff :
    index.lastDefinition? name = none ↔ ∀ e, e ∉ index.definitions name := by
  unfold lastDefinition?
  rw [List.getLast?_eq_none_iff, List.eq_nil_iff_forall_not_mem]

end FileIndex

/-! ## Section 2: The definition in effect -/

namespace Cache

variable {cache : Cache} {name : String} {file : FilePath} {line : UInt32} {e : Entity}

/-- `start` sees itself and the files of its include closure. -/
def Sees (cache : Cache) (start file : FilePath) : Prop :=
  file = start ∨ file ∈ cache.includeClosure start

/-- The entry of `file` has `e` among its definitions of `name`. -/
def Defines (cache : Cache) (file : FilePath) (name : String) (e : Entity) : Prop :=
  ∃ entry, cache.get? file = some entry ∧ e ∈ entry.definitions name

theorem mem_of_includedDefinition? (h : cache.includedDefinition? name file = some e) :
    ∃ included ∈ cache.includeClosure file, cache.Defines included name e := by
  obtain ⟨included, hincluded, hbind⟩ := List.mem_filterMap.1 (List.mem_of_getLast? h)
  obtain ⟨entry, hentry, hlast⟩ := Option.bind_eq_some_iff.1 hbind
  exact ⟨included, hincluded, entry, hentry, FileIndex.mem_of_lastDefinition? hlast⟩

theorem includedDefinition?_eq_none_iff : cache.includedDefinition? name file = none ↔
    ∀ included ∈ cache.includeClosure file, ∀ e, ¬ cache.Defines included name e := by
  unfold includedDefinition?
  rw [List.getLast?_eq_none_iff, List.filterMap_eq_nil_iff]
  constructor
  · rintro h included hincluded e ⟨entry, hentry, hmem⟩
    have hnone := h included hincluded
    rw [hentry] at hnone
    exact FileIndex.lastDefinition?_eq_none_iff.1 hnone e hmem
  · intro h included hincluded
    cases hentry : cache.get? included with
    | none => rfl
    | some entry =>
      apply FileIndex.lastDefinition?_eq_none_iff.2
      intro e hmem
      exact h included hincluded e ⟨entry, hentry, hmem⟩

/-- The definition in effect stands in a file that is seen. -/
theorem defines_of_definition? (h : cache.definition? name file line = some e) :
    ∃ seen, cache.Sees file seen ∧ cache.Defines seen name e := by
  unfold definition? at h
  split at h
  · next found hfound =>
    cases h
    obtain ⟨entry, hentry, hnearest⟩ := Option.bind_eq_some_iff.1 hfound
    exact ⟨file, Or.inl rfl, entry, hentry, (FileIndex.mem_of_nearestDefinition? hnearest).1⟩
  · obtain ⟨included, hincluded, hdefines⟩ := mem_of_includedDefinition? h
    exact ⟨included, Or.inr hincluded, hdefines⟩

/-- There is no definition in effect exactly where neither the file at or above the line
    nor an included file has one. -/
theorem definition?_eq_none_iff
    (hascend : ∀ entry, cache.get? file = some entry →
      (entry.definitions name).Pairwise fun a b => a.line ≤ b.line) :
    cache.definition? name file line = none ↔
      (∀ e, cache.Defines file name e → line < e.line) ∧
      ∀ included ∈ cache.includeClosure file, ∀ e, ¬ cache.Defines included name e := by
  rw [← includedDefinition?_eq_none_iff]
  unfold definition?
  cases hentry : cache.get? file with
  | none =>
    have hown : ∀ e, cache.Defines file name e → line < e.line := by
      rintro e ⟨entry, hget, -⟩
      rw [hentry] at hget
      cases hget
    exact ⟨fun h => ⟨hown, h⟩, fun h => h.2⟩
  | some entry =>
    have hown : (∀ e, cache.Defines file name e → line < e.line) ↔
        entry.nearestDefinition? name line = none := by
      rw [FileIndex.nearestDefinition?_eq_none_iff (hascend entry hentry)]
      simp [Defines, hentry]
    rw [hown]
    cases hnearest : entry.nearestDefinition? name line with
    | none => simp [hnearest]
    | some found => simp [hnearest]

/-! ## Section 3: Files with few includes -/

/-- Nothing is found on a stack of paths that were all seen before. -/
theorem explore_eq_nil {seen stack : List FilePath} (h : ∀ path ∈ stack, path ∈ seen) :
    cache.explore seen stack = [] := by
  induction stack with
  | nil => rw [explore]
  | cons next rest ih =>
    rw [explore, if_pos (h next List.mem_cons_self)]
    exact ih fun path hpath => h path (List.mem_cons_of_mem next hpath)

/-- A file that includes one other file, from where no includes lead further. -/
theorem includeClosure_eq_singleton {target : FilePath} (hfile : cache.includesOf file = [target])
    (hne : target ≠ file) (htarget : ∀ path ∈ cache.includesOf target, path = target ∨ path = file) :
    cache.includeClosure file = [target] := by
  have hnew : target ∉ [file] := fun hmem => hne (List.mem_singleton.1 hmem)
  have hseen : ∀ path ∈ cache.includesOf target, path ∈ [target, file] := by
    intro path hpath
    simpa using htarget path hpath
  unfold includeClosure
  rw [hfile, explore, if_neg hnew, List.append_nil, explore_eq_nil hseen]

theorem includeClosure_eq_nil (h : cache.includesOf file = []) : cache.includeClosure file = [] := by
  unfold includeClosure
  rw [h, explore]

/-- Without includes the file's own definitions are all there is. -/
theorem definition?_of_includesOf_eq_nil (h : cache.includesOf file = []) :
    cache.definition? name file line =
      (cache.get? file).bind fun index => index.nearestDefinition? name line := by
  unfold definition? includedDefinition?
  rw [includeClosure_eq_nil h]
  split
  · next e he => exact he.symm
  · next hnone => exact hnone.symm

end Cache

end MakeLens
