import Mathlib.Data.Finset.Card
import MakeLens.Proofs.NameGroups

/-! # Names as a partition

    The groups of an index hold positions, not entities, and every look-up follows the
    positions into the list of entities. Adding one position opens a group or makes one
    longer. It leaves the names of the groups distinct, and all positions together are those
    that were added, each of them once.

    * `SharesOut.addPosition`, `SharesOut.foldl`: this is so at every moment of the building;
    * `map_getElem?_groupOf`: no position of a group leads to nothing;
    * `groups_partition`: whatever names repeat and in whatever order, the groups are a
      partition of the list, and looking up a name gives one part.
-/

namespace MakeLens.FileIndex

/-! ## Section 1: Adding a position -/

/-- A name that has no group yet gets the last one. -/
theorem map_fst_addPosition (groups : List (String × List Nat)) (added : String)
    (position : Nat) :
    (addPosition added position groups).map Prod.fst =
      groups.map Prod.fst ++ if added ∈ groups.map Prod.fst then [] else [added] := by
  induction groups with
  | nil => simp [addPosition]
  | cons group rest ih =>
    obtain ⟨own, positions⟩ := group
    unfold addPosition
    by_cases hadded : own = added
    · simp [hadded]
    · by_cases hrest : added ∈ rest.map Prod.fst
      · simp [hadded, hrest, ih]
      · simp [hadded, Ne.symm hadded, hrest, ih]

/-- A position that is added joins those that the groups hold. -/
theorem flatMap_snd_addPosition (groups : List (String × List Nat)) (added : String)
    (position : Nat) :
    ((addPosition added position groups).flatMap Prod.snd).Perm
      (groups.flatMap Prod.snd ++ [position]) := by
  induction groups with
  | nil => simp [addPosition]
  | cons group rest ih =>
    obtain ⟨own, positions⟩ := group
    unfold addPosition
    by_cases hadded : own = added
    · rw [if_pos hadded, List.flatMap_cons, List.flatMap_cons, List.append_assoc,
        List.append_assoc]
      exact List.perm_append_comm.append_left positions
    · rw [if_neg hadded, List.flatMap_cons, List.flatMap_cons, List.append_assoc]
      exact ih.append_left positions

/-! ## Section 2: The groups of a row of entities -/

/-- The groups share out a row of numbered entities: there is one group for each name, and
    every number is in one group. -/
structure SharesOut (groups : List (String × List Nat)) (numbered : List (Entity × Nat)) :
    Prop where
  names_nodup : (groups.map Prod.fst).Nodup
  mem_names : ∀ name, name ∈ groups.map Prod.fst ↔ name ∈ numbered.map fun x => x.1.name
  positions_perm : (groups.flatMap Prod.snd).Perm (numbered.map Prod.snd)

namespace SharesOut

variable {groups : List (String × List Nat)} {numbered : List (Entity × Nat)}

theorem nil : SharesOut [] [] :=
  ⟨List.nodup_nil, by simp, List.Perm.nil⟩

/-- One more entity. -/
theorem addPosition (h : SharesOut groups numbered) (x : Entity × Nat) :
    SharesOut (FileIndex.addPosition x.1.name x.2 groups) (numbered ++ [x]) where
  names_nodup := by
    rw [map_fst_addPosition]
    by_cases hname : x.1.name ∈ groups.map Prod.fst
    · rw [if_pos hname, List.append_nil]
      exact h.names_nodup
    · rw [if_neg hname]
      refine List.nodup_append.2 ⟨h.names_nodup, List.nodup_singleton _, ?_⟩
      intro name hmem other hother heq
      rw [heq, List.mem_singleton.1 hother] at hmem
      exact hname hmem
  mem_names := by
    intro name
    rw [map_fst_addPosition, List.map_append, List.mem_append, List.mem_append, h.mem_names]
    by_cases hname : x.1.name ∈ groups.map Prod.fst
    · -- the name is one of those that were there before
      have hbefore := (h.mem_names x.1.name).1 hname
      rw [if_pos hname]
      simp only [List.not_mem_nil, or_false, List.map_cons, List.map_nil, List.mem_singleton]
      exact ⟨Or.inl, fun hmem => hmem.elim id fun heq => heq ▸ hbefore⟩
    · rw [if_neg hname]
      rfl
  positions_perm := by
    rw [List.map_append]
    exact (flatMap_snd_addPosition groups x.1.name x.2).trans (h.positions_perm.append_right _)

/-- A row of entities, one after the other. -/
theorem foldl (h : SharesOut groups numbered) (more : List (Entity × Nat)) :
    SharesOut (more.foldl (fun groups x => FileIndex.addPosition x.1.name x.2 groups) groups)
      (numbered ++ more) := by
  induction more generalizing groups numbered with
  | nil => simpa using h
  | cons x rest ih => simpa using ih (h.addPosition x)

/-- A group is what is looked up under its name. -/
theorem groupOf_of_mem (h : SharesOut groups numbered) {group : String × List Nat}
    (hgroup : group ∈ groups) : groupOf groups group.1 = group.2 := by
  unfold groupOf
  cases hfound : groups.find? fun g => g.1 == group.1 with
  | none =>
    have hnone := List.find?_eq_none.1 hfound group hgroup
    simp at hnone
  | some found =>
    have hname : found.1 = group.1 := by simpa using List.find?_some hfound
    have hmem : found ∈ groups := List.mem_of_find?_eq_some hfound
    have hsame : found = group := List.inj_on_of_nodup_map h.names_nodup hmem hgroup hname
    simp [hsame]

end SharesOut

theorem sharesOut_groupByName (entities : List Entity) :
    SharesOut (groupByName entities) entities.zipIdx :=
  SharesOut.nil.foldl entities.zipIdx

/-! ## Section 3: The groups of an index -/

section index

variable (entities : List Entity)

/-- The names of the groups are those of the entities. -/
theorem mem_map_fst_groupByName (name : String) :
    name ∈ (groupByName entities).map Prod.fst ↔ name ∈ entities.map Entity.name := by
  have hnames : (entities.zipIdx.map fun x => x.1.name) = entities.map Entity.name := by
    rw [← List.zipIdx_map_fst 0 entities, List.map_map]
    simp
  rw [(sharesOut_groupByName entities).mem_names, hnames]

/-- There are as many groups as different names. -/
theorem length_groupByName :
    (groupByName entities).length = (entities.map Entity.name).toFinset.card := by
  have hnodup := (sharesOut_groupByName entities).names_nodup
  have hsame : ((groupByName entities).map Prod.fst).toFinset =
      (entities.map Entity.name).toFinset := by
    ext name
    rw [List.mem_toFinset, List.mem_toFinset, mem_map_fst_groupByName]
  rw [← hsame, List.toFinset_card_of_nodup hnodup, List.length_map]

/-- The positions of all groups together are those of the list. -/
theorem flatMap_snd_groupByName :
    ((groupByName entities).flatMap Prod.snd).Perm (List.range entities.length) := by
  have hperm := (sharesOut_groupByName entities).positions_perm
  rw [List.zipIdx_map_snd, ← List.range_eq_range'] at hperm
  exact hperm

theorem pairwise_groupOf_groupByName (name : String) :
    (groupOf (groupByName entities) name).Pairwise (· < ·) := by
  rw [groupOf_groupByName]
  have hsub : ((entities.zipIdx.filter fun x => x.1.name == name).map Prod.snd).Sublist
      (entities.zipIdx.map Prod.snd) := List.filter_sublist.map Prod.snd
  rw [List.zipIdx_map_snd, ← List.range_eq_range'] at hsub
  exact List.pairwise_lt_range.sublist hsub

/-- Every position of a group leads to an entity with the name, and to all of them in turn. -/
theorem map_getElem?_groupOf (name : String) :
    (groupOf (groupByName entities) name).map (fun position => entities[position]?) =
      (entities.filter fun e => e.name == name).map some := by
  rw [groupOf_groupByName, ← map_fst_filter_zipIdx, List.map_map, List.map_map]
  apply List.map_congr_left
  rintro ⟨e, position⟩ hmem
  exact List.mem_zipIdx_iff_getElem?.1 (List.mem_of_mem_filter hmem)

theorem exists_entity_of_mem_groupOf {name : String} {position : Nat}
    (h : position ∈ groupOf (groupByName entities) name) :
    ∃ inRange : position < entities.length, entities[position].name = name := by
  have hread : entities[position]? ∈ (entities.filter fun e => e.name == name).map some := by
    rw [← map_getElem?_groupOf]
    exact List.mem_map_of_mem h
  obtain ⟨e, he, hget⟩ := List.mem_map.1 hread
  obtain ⟨inRange, rfl⟩ := List.getElem?_eq_some_iff.1 hget.symm
  exact ⟨inRange, by simpa using (List.mem_filter.1 he).2⟩

/-- A name has a group exactly if some entity has the name. -/
theorem mem_map_fst_iff_filter_ne_nil (name : String) :
    name ∈ (groupByName entities).map Prod.fst ↔
      (entities.filter fun e => e.name == name) ≠ [] := by
  rw [mem_map_fst_groupByName, ne_eq, List.filter_eq_nil_iff]
  simp

theorem groupOf_groupByName_ne_nil {name : String}
    (h : name ∈ (groupByName entities).map Prod.fst) :
    groupOf (groupByName entities) name ≠ [] := by
  intro hnil
  have hread := map_getElem?_groupOf entities name
  rw [hnil, List.map_nil] at hread
  exact (mem_map_fst_iff_filter_ne_nil entities name).1 h (List.map_eq_nil_iff.1 hread.symm)

theorem contains_make (path : FilePath) (includes : List FilePath) (name : String) :
    (make path entities includes).contains name = true ↔
      name ∈ (groupByName entities).map Prod.fst := by
  unfold contains
  simp [make]

/-- Read one group after the other, the entities are all there. -/
theorem flatMap_lookup_perm (path : FilePath) (includes : List FilePath) :
    ((groupByName entities).flatMap fun group =>
      (make path entities includes).lookup group.1).Perm entities := by
  have hgroups : ((groupByName entities).flatMap fun group =>
      (make path entities includes).lookup group.1) =
      ((groupByName entities).flatMap Prod.snd).filterMap fun position => entities[position]? := by
    rw [List.filterMap_flatMap]
    apply List.flatMap_congr
    intro group hgroup
    rw [← (sharesOut_groupByName entities).groupOf_of_mem hgroup]
    rfl
  have hall : (List.range entities.length).filterMap (fun position => entities[position]?) =
      entities := by
    have hnumbered := filterMap_getElem?_zipIdx entities fun _ => true
    rw [List.filter_true, List.zipIdx_map_snd, List.zipIdx_map_fst,
      ← List.range_eq_range'] at hnumbered
    exact hnumbered
  rw [hgroups]
  exact ((flatMap_snd_groupByName entities).filterMap _).trans (List.Perm.of_eq hall)

end index

/-- The index of a list of entities, whatever names repeat in it and in whatever order.
    1. Looking up a name gives the entities with the name, in the order of the list. The
       positions behind it ascend, and each of them leads to one of these entities. A name is
       contained exactly if there is something to look up.
    2. There are as many symbols as different names.
    3. The groups are a partition of the list: no two have the same name, none is empty, every
       position is in range and leads to an entity with the name of its group, and all
       positions together are those of the list, each of them once. So the entities of all
       groups together are those of the list, with their repetitions. -/
theorem groups_partition (path : FilePath) (entities : List Entity) (includes : List FilePath) :
    let index := make path entities includes
    (∀ name, index.lookup name = entities.filter (fun e => e.name == name) ∧
      (index.positions name).Pairwise (· < ·) ∧
      (index.positions name).map (fun position => entities[position]?) =
        (index.lookup name).map some ∧
      (index.contains name = true ↔ index.lookup name ≠ [])) ∧
    index.symbolCount = (entities.map Entity.name).toFinset.card ∧
    ((index.groups.map Prod.fst).Nodup ∧
      (∀ group ∈ index.groups, group.2 ≠ [] ∧ ∀ position ∈ group.2,
        ∃ inRange : position < entities.length, entities[position].name = group.1) ∧
      (index.groups.flatMap Prod.snd).Perm (List.range entities.length) ∧
      (index.groups.flatMap fun group => index.lookup group.1).Perm entities) := by
  intro index
  have hshares := sharesOut_groupByName entities
  have hlookup : ∀ name, index.lookup name = entities.filter fun e => e.name == name :=
    lookup_make path entities includes
  refine ⟨fun name => ⟨hlookup name, pairwise_groupOf_groupByName entities name, ?_, ?_⟩,
    length_groupByName entities, hshares.names_nodup, ?_, flatMap_snd_groupByName entities,
    flatMap_lookup_perm entities path includes⟩
  · rw [hlookup]
    exact map_getElem?_groupOf entities name
  · rw [hlookup, contains_make]
    exact mem_map_fst_iff_filter_ne_nil entities name
  · intro group hgroup
    rw [← hshares.groupOf_of_mem hgroup]
    refine ⟨groupOf_groupByName_ne_nil entities (List.mem_map_of_mem hgroup), ?_⟩
    intro position hposition
    exact exists_entity_of_mem_groupOf entities hposition

-- a name that comes back belongs to the group it opened
example : groupByName (["CC", "all", "CC"].map fun name =>
    Entity.make name .target "" (FilePath.ofString "/w/Makefile") 0 0) =
    [("CC", [0, 2]), ("all", [1])] := by
  decide

end MakeLens.FileIndex
