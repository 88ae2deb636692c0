import MakeLens.Index.Closure

/-! # The include closure is reachability

    The search for the include closure keeps a stack of paths still to look at,
    with repetitions, and passes over those seen before. Whatever the include graph
    looks like, what it finds is each path once that can be reached from the start
    in one step or more, the start itself left out.

    Completeness rests on one fact: a path that was found has its includes found or
    seen before. Includes of a path seen before are not looked at again, and the
    start is such a path, so its own includes have to be on the stack at first.
-/

namespace MakeLens.Cache

/-- The entry of `path` includes `other`. A path without an entry includes
    nothing. -/
def Links (cache : Cache) (path other : FilePath) : Prop :=
  ∃ index, cache.get? path = some index ∧ other ∈ index.includes

theorem mem_includesOf_iff {cache : Cache} {path other : FilePath} :
    other ∈ cache.includesOf path ↔ cache.Links path other := by
  unfold includesOf Links
  cases cache.get? path with
  | none => simp
  | some index => simp

/-! ## Section 1: What the search finds -/

section explore

variable (cache : Cache) (seen stack : List FilePath)

/-- Nothing is found that was seen before. -/
theorem not_mem_seen_of_mem_explore {path : FilePath} (h : path ∈ cache.explore seen stack) :
    path ∉ seen := by
  fun_induction explore cache seen stack with
  | case1 seen => cases h
  | case2 seen next rest hseen ih => exact ih h
  | case3 seen next rest hnew ih =>
    rcases List.mem_cons.1 h with rfl | h
    · exact hnew
    · exact fun hmem => ih h (List.mem_cons_of_mem _ hmem)

theorem nodup_explore : (cache.explore seen stack).Nodup := by
  fun_induction explore cache seen stack with
  | case1 seen => exact List.nodup_nil
  | case2 seen next rest hseen ih => exact ih
  | case3 seen next rest hnew ih =>
    rw [List.nodup_cons]
    refine ⟨?_, ih⟩
    intro hmem
    exact not_mem_seen_of_mem_explore cache _ _ hmem List.mem_cons_self

/-- Marking a path as seen and finding it come to the same. -/
theorem mem_cons_shift {path next : FilePath} {seen found : List FilePath}
    (h : path ∈ next :: seen ∨ path ∈ found) : path ∈ seen ∨ path ∈ next :: found := by
  rcases h with hseen | hfound
  · rcases List.mem_cons.1 hseen with rfl | hseen
    · exact Or.inr List.mem_cons_self
    · exact Or.inl hseen
  · exact Or.inr (List.mem_cons_of_mem _ hfound)

/-- Each path of the stack is found, unless it was seen before. -/
theorem mem_explore_of_mem_stack {path : FilePath} (h : path ∈ stack) :
    path ∈ seen ∨ path ∈ cache.explore seen stack := by
  fun_induction explore cache seen stack with
  | case1 seen => cases h
  | case2 seen next rest hseen ih =>
    rcases List.mem_cons.1 h with rfl | h
    · exact Or.inl hseen
    · exact ih h
  | case3 seen next rest hnew ih =>
    rcases List.mem_cons.1 h with rfl | h
    · exact Or.inr List.mem_cons_self
    · exact mem_cons_shift (ih (List.mem_append_right _ h))

/-- What is found has its includes found or seen before. -/
theorem mem_explore_of_links {path other : FilePath} (h : path ∈ cache.explore seen stack)
    (hlinks : cache.Links path other) : other ∈ seen ∨ other ∈ cache.explore seen stack := by
  fun_induction explore cache seen stack with
  | case1 seen => cases h
  | case2 seen next rest hseen ih => exact ih h
  | case3 seen next rest hnew ih =>
    apply mem_cons_shift
    rcases List.mem_cons.1 h with rfl | h
    · -- its includes went on the stack when it was found
      apply mem_explore_of_mem_stack
      exact List.mem_append_left _ (mem_includesOf_iff.2 hlinks)
    · exact ih h

/-- A search from paths reached from `start` finds only such paths. -/
theorem reached_of_mem_explore {start path : FilePath}
    (hstack : ∀ p ∈ stack, Relation.TransGen cache.Links start p)
    (h : path ∈ cache.explore seen stack) : Relation.TransGen cache.Links start path := by
  fun_induction explore cache seen stack with
  | case1 seen => cases h
  | case2 seen next rest hseen ih =>
    exact ih (fun p hp => hstack p (List.mem_cons_of_mem _ hp)) h
  | case3 seen next rest hnew ih =>
    have hnext := hstack next List.mem_cons_self
    rcases List.mem_cons.1 h with rfl | h
    · exact hnext
    · apply ih _ h
      intro p hp
      rcases List.mem_append.1 hp with hp | hp
      · exact .tail hnext (mem_includesOf_iff.1 hp)
      · exact hstack p (List.mem_cons_of_mem _ hp)

end explore

/-! ## Section 2: The closure of a path -/

theorem reached_of_mem_includeClosure {cache : Cache} {path other : FilePath}
    (h : other ∈ cache.includeClosure path) : Relation.TransGen cache.Links path other := by
  refine reached_of_mem_explore cache [path] (cache.includesOf path) ?_ h
  intro p hp
  exact .single (mem_includesOf_iff.1 hp)

/-- The includes of the start are on the stack at first. -/
theorem mem_includeClosure_of_links_start {cache : Cache} {path other : FilePath}
    (h : cache.Links path other) : other = path ∨ other ∈ cache.includeClosure path := by
  rcases mem_explore_of_mem_stack cache [path] _ (mem_includesOf_iff.2 h) with hseen | hfound
  · exact Or.inl (List.mem_singleton.1 hseen)
  · exact Or.inr hfound

theorem mem_includeClosure_of_reached {cache : Cache} {path other : FilePath}
    (h : Relation.TransGen cache.Links path other) :
    other = path ∨ other ∈ cache.includeClosure path := by
  induction h with
  | single hlinks => exact mem_includeClosure_of_links_start hlinks
  | tail _ hlinks ih =>
    rcases ih with rfl | hfound
    · -- the way came back to the start
      exact mem_includeClosure_of_links_start hlinks
    · rcases mem_explore_of_links cache [path] _ hfound hlinks with hseen | hnext
      · exact Or.inl (List.mem_singleton.1 hseen)
      · exact Or.inr hnext

/-- The include closure holds, each once, exactly the paths other than the start
    that the start reaches by one include or more. -/
theorem includeClosure_exact (cache : Cache) (path : FilePath) :
    (cache.includeClosure path).Nodup ∧ path ∉ cache.includeClosure path ∧
    ∀ other, other ∈ cache.includeClosure path ↔
      other ≠ path ∧ Relation.TransGen cache.Links path other := by
  have hstart : path ∉ cache.includeClosure path := by
    intro hmem
    exact not_mem_seen_of_mem_explore cache [path] _ hmem List.mem_cons_self
  refine ⟨nodup_explore cache [path] _, hstart, ?_⟩
  intro other
  constructor
  · intro hmem
    exact ⟨fun heq => hstart (heq ▸ hmem), reached_of_mem_includeClosure hmem⟩
  · rintro ⟨hne, hreached⟩
    exact (mem_includeClosure_of_reached hreached).resolve_left hne

end MakeLens.Cache
