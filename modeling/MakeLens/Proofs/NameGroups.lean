import Mathlib.Data.List.Basic
import MakeLens.Index.File

/-! # Looking up a name

    An index keeps its entities twice: in line order, and as groups of positions, one
    group for each name. The groups are built by adding one position after the other.
    At every moment the group of a name holds the positions of the entities read so far
    that have the name, so looking a name up is the same as going through all entities
    and keeping those with the name (`lookup_make`).
-/

namespace MakeLens.FileIndex

/-! ## Section 1: The group of a name -/

/-- The positions that the group of a name holds; none without a group. -/
def groupOf (groups : List (String × List Nat)) (name : String) : List Nat :=
  ((groups.find? fun g => g.1 == name).map Prod.snd).getD []

/-- A position that is added is the last of its own group and of no other one. -/
theorem groupOf_addPosition (groups : List (String × List Nat)) (added name : String)
    (position : Nat) :
    groupOf (addPosition added position groups) name =
      groupOf groups name ++ if added = name then [position] else [] := by
  induction groups with
  | nil => by_cases h : added = name <;> simp [addPosition, groupOf, h]
  | cons group rest ih =>
    obtain ⟨own, positions⟩ := group
    unfold addPosition
    by_cases hadded : own = added
    · -- the group is there already
      subst hadded
      by_cases hname : own = name <;> simp [groupOf, hname]
    · rw [if_neg hadded]
      unfold groupOf at ih ⊢
      by_cases hname : own = name
      · subst hname
        simp [Ne.symm hadded]
      · simpa [List.find?_cons, hname] using ih

/-- Adding the positions of a row of entities, whatever groups there are before. -/
theorem groupOf_foldl_addPosition (numbered : List (Entity × Nat))
    (groups : List (String × List Nat)) (name : String) :
    groupOf (numbered.foldl (fun groups x => addPosition x.1.name x.2 groups) groups) name =
      groupOf groups name ++ (numbered.filter fun x => x.1.name == name).map Prod.snd := by
  induction numbered generalizing groups with
  | nil => simp
  | cons x rest ih =>
    rw [List.foldl_cons, ih, groupOf_addPosition]
    by_cases hname : x.1.name = name <;> simp [hname]

/-- The group of a name holds the positions of the entities with the name. -/
theorem groupOf_groupByName (entities : List Entity) (name : String) :
    groupOf (groupByName entities) name =
      (entities.zipIdx.filter fun x => x.1.name == name).map Prod.snd := by
  unfold groupByName
  rw [groupOf_foldl_addPosition]
  rfl

/-! ## Section 2: The entities of a name -/

/-- A position leads back to the entity it was taken from. -/
theorem filterMap_getElem?_zipIdx (entities : List Entity) (p : Entity × Nat → Bool) :
    ((entities.zipIdx.filter p).map Prod.snd).filterMap (fun position => entities[position]?) =
      (entities.zipIdx.filter p).map Prod.fst := by
  rw [List.filterMap_map, ← List.filterMap_eq_map]
  apply List.filterMap_congr
  rintro ⟨e, position⟩ hmem
  exact List.mem_zipIdx_iff_getElem?.1 (List.mem_of_mem_filter hmem)

/-- The entities with a name are those among the numbered ones. -/
theorem map_fst_filter_zipIdx (entities : List Entity) (name : String) :
    (entities.zipIdx.filter fun x => x.1.name == name).map Prod.fst =
      entities.filter fun e => e.name == name := by
  have hfilter : (entities.zipIdx.filter fun x => x.1.name == name).map Prod.fst =
      (entities.zipIdx.map Prod.fst).filter fun e => e.name == name := by
    rw [List.filter_map]
    rfl
  rw [hfilter, List.zipIdx_map_fst]

/-- Looking up a name gives the entities with the name, in line order. -/
theorem lookup_make (path : FilePath) (entities : List Entity) (includes : List FilePath)
    (name : String) :
    (make path entities includes).lookup name = entities.filter fun e => e.name == name := by
  show (groupOf (groupByName entities) name).filterMap _ = _
  rw [groupOf_groupByName]
  show List.filterMap (fun position => entities[position]?) _ = _
  rw [filterMap_getElem?_zipIdx, map_fst_filter_zipIdx]

theorem definitions_make (path : FilePath) (entities : List Entity) (includes : List FilePath)
    (name : String) :
    (make path entities includes).definitions name =
      entities.filter fun e => e.isDefinition && e.name == name := by
  unfold definitions
  rw [lookup_make, List.filter_filter]

/-- Whatever its groups are, an index finds no entity that it does not hold. -/
theorem mem_entities_of_mem_lookup {index : FileIndex} {name : String} {e : Entity}
    (h : e ∈ index.lookup name) : e ∈ index.entities := by
  obtain ⟨position, -, hget⟩ := List.mem_filterMap.1 h
  exact List.mem_of_getElem? hget

end MakeLens.FileIndex
