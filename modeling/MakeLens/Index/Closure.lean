import MakeLens.Index.Cache

/-! # The include closure

  The files that a file pulls in, directly or through others, in the order in which
  they are discovered: depth first, each file's directives from first to last.
-/

namespace MakeLens.Cache

/-- The cached paths that a search has not seen. -/
def unseen (cache : Cache) (seen : List FilePath) : List FilePath :=
  cache.paths.filter fun p => !seen.contains p

theorem unseen_cons (cache : Cache) (seen : List FilePath) (path : FilePath) :
    cache.unseen (path :: seen) = (cache.unseen seen).filter fun p => p != path := by
  simp only [unseen, List.filter_filter]
  congr 1
  funext p
  by_cases h : p = path <;> simp [h]

theorem length_unseen_cons_le (cache : Cache) (seen : List FilePath) (path : FilePath) :
    (cache.unseen (path :: seen)).length ≤ (cache.unseen seen).length := by
  rw [unseen_cons]
  exact List.length_filter_le _ _

theorem includesOf_eq_nil_of_not_mem {cache : Cache} {path : FilePath} (h : path ∉ cache.paths) :
    cache.includesOf path = [] := by
  have hnone : cache.entries.find? (fun e => e.1 == path) = none := by
    rw [List.find?_eq_none]
    intro e he heq
    exact h (List.mem_map.2 ⟨e, he, by simpa using heq⟩)
  simp [includesOf, get?, hnone]

theorem length_unseen_cons_lt {cache : Cache} {seen : List FilePath} {path : FilePath}
    (hcached : path ∈ cache.paths) (hnew : path ∉ seen) :
    (cache.unseen (path :: seen)).length < (cache.unseen seen).length := by
  rw [unseen_cons]
  refine List.length_filter_lt_length_iff_exists.2 ⟨path, ?_, by simp⟩
  simpa [unseen] using ⟨hcached, hnew⟩

/-- The paths found from a stack of paths still to look at, without those seen
    before. The includes of a new path are looked at before the rest. -/
def explore (cache : Cache) (seen : List FilePath) (stack : List FilePath) : List FilePath :=
  match stack with
  | [] => []
  | next :: rest =>
    if next ∈ seen then cache.explore seen rest
    else next :: cache.explore (next :: seen) (cache.includesOf next ++ rest)
termination_by ((cache.unseen seen).length, stack.length)
decreasing_by
  · exact Prod.Lex.right _ (by simp)
  · next hnew =>
    by_cases hcached : next ∈ cache.paths
    · exact Prod.Lex.left _ _ (length_unseen_cons_lt hcached hnew)
    · rw [includesOf_eq_nil_of_not_mem hcached]
      rcases Nat.lt_or_eq_of_le (cache.length_unseen_cons_le seen next) with hlt | heq
      · exact Prod.Lex.left _ _ hlt
      · rw [heq]
        exact Prod.Lex.right _ (by simp)

/-- The files that `path` includes, directly or not, in discovery order, without
    `path` itself. -/
def includeClosure (cache : Cache) (path : FilePath) : List FilePath :=
  cache.explore [path] (cache.includesOf path)

end MakeLens.Cache
