import MakeLens.Index.File

/-! # The cache of file indices

  The cache holds one entry per path. An entry is replaced as a whole when its file
  is scanned again, and every scan that is stored counts.

  Paths are compared as they are spelled. The index stores normalised paths, which are
  plain, so that equal paths have one spelling; `MakeLens.Index.Lookup` is for all others.
-/

namespace MakeLens

/-- The stored file indices, one per path, and how many scans were stored. -/
structure Cache where
  entries : List (FilePath × FileIndex)
  scans : Nat
  /-- Each path has one entry. -/
  nodup : (entries.map Prod.fst).Nodup

namespace Cache

/-- The cache that holds nothing. -/
def empty : Cache where
  entries := []
  scans := 0
  nodup := by simp

/-- The paths that have an entry. -/
def paths (cache : Cache) : List FilePath :=
  cache.entries.map Prod.fst

/-- The entry of a path. -/
def get? (cache : Cache) (path : FilePath) : Option FileIndex :=
  (cache.entries.find? fun e => e.1 == path).map Prod.snd

/-- Whether a path has an entry. -/
def contains (cache : Cache) (path : FilePath) : Bool :=
  (cache.get? path).isSome

/-- How many entries there are. -/
def size (cache : Cache) : Nat :=
  cache.entries.length

/-- Without a path's entry the other paths still differ. -/
theorem nodup_filter (cache : Cache) (path : FilePath) :
    ((cache.entries.filter fun e => e.1 != path).map Prod.fst).Nodup :=
  cache.nodup.sublist (List.filter_sublist.map Prod.fst)

/-- Stores a fresh scan under its path, in the place of the entry before it. -/
def insert (cache : Cache) (index : FileIndex) : Cache where
  entries := (index.path, index) :: cache.entries.filter fun e => e.1 != index.path
  scans := cache.scans + 1
  nodup := by
    simp only [List.map_cons, List.nodup_cons]
    exact ⟨by simp, cache.nodup_filter index.path⟩

/-- Drops the entry of a path. -/
def remove (cache : Cache) (path : FilePath) : Cache where
  entries := cache.entries.filter fun e => e.1 != path
  scans := cache.scans
  nodup := cache.nodup_filter path

/-- The files that a path's entry includes; none without an entry. -/
def includesOf (cache : Cache) (path : FilePath) : List FilePath :=
  ((cache.get? path).map FileIndex.includes).getD []

/-! ### What the operations do to the entries -/

@[simp] theorem get?_empty (path : FilePath) : empty.get? path = none := rfl

/-- Dropping a path's entry takes nothing from another path. -/
theorem find?_filter_ne (entries : List (FilePath × FileIndex)) {path other : FilePath}
    (h : other ≠ path) :
    (entries.filter fun e => e.1 != path).find? (fun e => e.1 == other) =
      entries.find? fun e => e.1 == other := by
  induction entries with
  | nil => rfl
  | cons e rest ih =>
    by_cases hp : e.1 = path
    · -- the entry that is dropped is not the one looked for
      have hne : (e.1 == other) = false := by
        rw [hp]
        exact beq_false_of_ne (Ne.symm h)
      rw [List.filter_cons_of_neg (by simp [hp]), ih, List.find?_cons, hne]
    · rw [List.filter_cons_of_pos (by simp [hp]), List.find?_cons, List.find?_cons, ih]

theorem get?_insert (cache : Cache) (index : FileIndex) (path : FilePath) :
    (cache.insert index).get? path = if path = index.path then some index else cache.get? path := by
  by_cases h : path = index.path
  · simp [get?, insert, h]
  · have hne : (index.path == path) = false := beq_false_of_ne (Ne.symm h)
    simp only [get?, insert, List.find?_cons, hne, if_neg h]
    rw [find?_filter_ne cache.entries h]

theorem get?_remove (cache : Cache) (path other : FilePath) :
    (cache.remove path).get? other = if other = path then none else cache.get? other := by
  by_cases h : other = path
  · have hnone :
        (cache.entries.filter fun e => e.1 != path).find? (fun e => e.1 == path) = none := by
      rw [List.find?_eq_none]
      intro e he heq
      have := (List.mem_filter.1 he).2
      simp_all
    simp [get?, remove, h, hnone]
  · simp only [get?, remove, if_neg h]
    rw [find?_filter_ne cache.entries h]

end Cache

end MakeLens
