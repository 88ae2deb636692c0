import MakeLens.Index.Definition
import MakeLens.Proofs.DepthFirst

/-! # The order of discovery

    The include closure is searched with a stack. A path is marked when it comes off the
    stack, not when it goes on it, so a path that was included several times stands on the
    stack several times, between paths that were put there at other moments. The order in
    which paths are found is that of the plain recursive search nevertheless: a path, all
    that is found through it, and only then the next directive.

    * `explore_append`: what stands deeper on the stack waits until the search from what
      stands above it has ended, and then finds marked what that search has emitted;
    * `includeClosure_preorder`: the order of discovery is the one of the recursive search,
      and the only one that the rules of depth-first order allow.
-/

namespace MakeLens.Cache

/-! ## Section 1: The recursive search -/

theorem length_unseen_append_le (cache : Cache) (more seen : List FilePath) :
    (cache.unseen (more ++ seen)).length ≤ (cache.unseen seen).length := by
  induction more with
  | nil => exact Nat.le_refl _
  | cons path rest ih => exact Nat.le_trans (cache.length_unseen_cons_le _ path) ih

/-- The paths that a recursive search emits which visits the paths `todo` one after the
    other. A path that is not in `visited` is marked and emitted, and its includes are
    visited before the rest of `todo`; what was emitted on the way has been marked by then. -/
def preorder (cache : Cache) (visited todo : List FilePath) : List FilePath :=
  match todo with
  | [] => []
  | path :: rest =>
    if path ∈ visited then cache.preorder visited rest
    else
      let below := cache.preorder (path :: visited) (cache.includesOf path)
      path :: (below ++ cache.preorder (below ++ path :: visited) rest)
termination_by ((cache.unseen visited).length, todo.length)
decreasing_by
  · exact Prod.Lex.right _ (by simp)
  · next hnew =>
    by_cases hcached : path ∈ cache.paths
    · exact Prod.Lex.left _ _ (length_unseen_cons_lt hcached hnew)
    · -- a path without an entry has no includes
      rw [includesOf_eq_nil_of_not_mem hcached]
      exact Prod.Lex.right' _ (cache.length_unseen_cons_le visited path) (by simp)
  · -- more is marked for the rest than before it, and the rest is shorter
    have hle := Nat.le_trans (cache.length_unseen_append_le below (path :: visited))
      (cache.length_unseen_cons_le visited path)
    exact Prod.Lex.right' _ hle (by simp)

/-- The recursive search discovers in depth-first order. -/
theorem depthFirst_preorder (cache : Cache) (visited todo : List FilePath) :
    DepthFirst cache.includesOf visited todo (cache.preorder visited todo) := by
  fun_induction preorder cache visited todo with
  | case1 visited => exact .done
  | case2 visited path rest hseen ih => exact .again hseen ih
  | case3 visited path rest hnew below ihbelow ihrest => exact .first hnew ihbelow ihrest

/-! ## Section 2: The stack -/

/-- In which order the paths were marked has no part in the search. -/
theorem explore_eq_of_mem_iff (cache : Cache) {seen seen' : List FilePath}
    (h : ∀ path, path ∈ seen ↔ path ∈ seen') (stack : List FilePath) :
    cache.explore seen stack = cache.explore seen' stack := by
  fun_induction explore cache seen stack generalizing seen' with
  | case1 seen => rw [explore]
  | case2 seen next rest hseen ih =>
    rw [ih h]
    conv => rhs; rw [explore, if_pos ((h next).1 hseen)]
  | case3 seen next rest hnew ih =>
    have hnew' : next ∉ seen' := fun hmem => hnew ((h next).2 hmem)
    have hmore : ∀ path, path ∈ next :: seen ↔ path ∈ next :: seen' := by
      intro path
      rw [List.mem_cons, List.mem_cons, h path]
    rw [ih hmore]
    conv => rhs; rw [explore, if_neg hnew']

/-- The search from the top part of the stack is the recursive one. The rest of the stack
    is looked at when this has ended, with all that it has emitted marked. The induction is
    on the recursive search, for every rest: a path that comes off the stack leaves its
    includes there on top of the rest. -/
theorem explore_append (cache : Cache) (seen todo pending : List FilePath) :
    cache.explore seen (todo ++ pending) =
      cache.preorder seen todo ++ cache.explore (cache.preorder seen todo ++ seen) pending := by
  fun_induction preorder cache seen todo generalizing pending with
  | case1 seen => rfl
  | case2 seen path rest hseen ih =>
    rw [List.cons_append, explore, if_pos hseen]
    exact ih pending
  | case3 seen path rest hnew below ihbelow ihrest =>
    let after := cache.preorder (below ++ path :: seen) rest
    have hmarked : cache.explore (after ++ (below ++ path :: seen)) pending =
        cache.explore (path :: (below ++ after) ++ seen) pending :=
      cache.explore_eq_of_mem_iff (fun _ => DepthFirst.mem_shift_iff.symm) pending
    calc
      cache.explore seen (path :: rest ++ pending)
        = path :: cache.explore (path :: seen) (cache.includesOf path ++ (rest ++ pending)) := by
          rw [List.cons_append, explore, if_neg hnew]
      -- below the includes stands all that was there before
      _ = path :: (below ++ cache.explore (below ++ path :: seen) (rest ++ pending)) := by
          rw [ihbelow (rest ++ pending)]
      _ = path :: (below ++ (after ++
            cache.explore (after ++ (below ++ path :: seen)) pending)) := by
          rw [ihrest pending]
      _ = path :: (below ++ after) ++ cache.explore (path :: (below ++ after) ++ seen) pending := by
          rw [hmarked]
          simp

theorem explore_eq_preorder (cache : Cache) (seen todo : List FilePath) :
    cache.explore seen todo = cache.preorder seen todo := by
  have h := cache.explore_append seen todo []
  rw [List.append_nil] at h
  rw [h, explore, List.append_nil]

/-! ## Section 3: The closure of a path -/

/-- The order in which the include closure lists paths.
    1. It is that of the recursive search that begins with `path` marked and visits the
       includes of `path` in the order of the directives.
    2. The rules of depth-first order allow this order and no other.
    3. The definition that included files provide is the last one in this order. -/
theorem includeClosure_preorder (cache : Cache) (path : FilePath) :
    cache.includeClosure path = cache.preorder [path] (cache.includesOf path) ∧
    (∀ order, DepthFirst cache.includesOf [path] (cache.includesOf path) order ↔
      order = cache.includeClosure path) ∧
    ∀ name, cache.includedDefinition? name path =
      ((cache.preorder [path] (cache.includesOf path)).filterMap fun file =>
        (cache.get? file).bind fun index => index.lastDefinition? name).getLast? := by
  have heq : cache.includeClosure path = cache.preorder [path] (cache.includesOf path) :=
    cache.explore_eq_preorder [path] (cache.includesOf path)
  have hdepth := cache.depthFirst_preorder [path] (cache.includesOf path)
  refine ⟨heq, ?_, ?_⟩
  · intro order
    rw [heq]
    constructor
    · intro horder
      exact horder.unique hdepth
    · rintro rfl
      exact hdepth
  · intro name
    rw [← heq]
    rfl

end MakeLens.Cache
