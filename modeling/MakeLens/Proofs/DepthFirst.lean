/-! # Depth-first order

    The order in which a depth-first search discovers the nodes of a graph, given by
    the list of successors of each node. A node is discovered once: it stands before
    all that is discovered through it, and what was discovered through an earlier
    successor is not looked at again through a later one.

    The relation knows neither stacks nor fuel. It also holds of infinite graphs,
    wherever the search ends.
-/

namespace MakeLens

/-- Searching from the nodes `todo`, one after the other, discovers the nodes `order`,
    where those in `seen` were discovered before. -/
inductive DepthFirst {α : Type} (next : α → List α) :
    (seen todo order : List α) → Prop where
  | done {seen : List α} : DepthFirst next seen [] []
  | again {seen rest order : List α} {node : α} :
      node ∈ seen → DepthFirst next seen rest order → DepthFirst next seen (node :: rest) order
  | first {seen rest below order : List α} {node : α} :
      node ∉ seen → DepthFirst next (node :: seen) (next node) below →
      DepthFirst next (below ++ node :: seen) rest order →
      DepthFirst next seen (node :: rest) (node :: (below ++ order))

namespace DepthFirst

variable {α : Type} {next : α → List α} {seen todo order : List α}

/-- A node without successors is discovered alone. -/
theorem leaf {rest : List α} {node : α} (hnew : node ∉ seen) (hnext : next node = [])
    (h : DepthFirst next (node :: seen) rest order) :
    DepthFirst next seen (node :: rest) (node :: order) := by
  have hbelow : DepthFirst next (node :: seen) (next node) [] := by
    rw [hnext]
    exact .done
  exact .first hnew hbelow h

/-- The rules leave no choice: whether a node was seen says which of them has to be used. -/
theorem unique {other : List α} (h : DepthFirst next seen todo order)
    (h' : DepthFirst next seen todo other) : order = other := by
  induction h generalizing other with
  | done =>
    cases h'
    rfl
  | again hseen _ ih =>
    cases h' with
    | again _ hrest => exact ih hrest
    | first hnew _ _ => exact absurd hseen hnew
  | first hnew _ _ ihbelow ihrest =>
    cases h' with
    | again hseen _ => exact absurd hseen hnew
    | first _ hbelow hrest =>
      -- the same nodes are found below, so the rest begins with the same nodes seen
      cases ihbelow hbelow
      rw [ihrest hrest]

/-- Nothing is discovered twice. -/
theorem not_mem_seen (h : DepthFirst next seen todo order) {node : α} (hmem : node ∈ order) :
    node ∉ seen := by
  induction h with
  | done => cases hmem
  | again _ _ ih => exact ih hmem
  | first hnew _ _ ihbelow ihrest =>
    rcases List.mem_cons.1 hmem with rfl | hmem
    · exact hnew
    · intro hseen
      rcases List.mem_append.1 hmem with hbelow | hrest
      · exact ihbelow hbelow (List.mem_cons_of_mem _ hseen)
      · exact ihrest hrest (List.mem_append_right _ (List.mem_cons_of_mem _ hseen))

/-- It comes to the same whether a node and what is below it count as discovered or as
    seen before. -/
theorem mem_shift_iff {below : List α} {node other : α} :
    other ∈ (node :: (below ++ order)) ++ seen ↔ other ∈ order ++ (below ++ node :: seen) := by
  simp only [List.mem_append, List.mem_cons]
  grind

/-- Every node of `todo` is discovered, unless it was seen before. -/
theorem mem_of_mem_todo (h : DepthFirst next seen todo order) {node : α} (hmem : node ∈ todo) :
    node ∈ order ++ seen := by
  induction h with
  | done => cases hmem
  | again hseen _ ih =>
    rcases List.mem_cons.1 hmem with rfl | hmem
    · exact List.mem_append_right _ hseen
    · exact ih hmem
  | first _ _ _ _ ihrest =>
    rcases List.mem_cons.1 hmem with rfl | hmem
    · exact List.mem_append_left _ List.mem_cons_self
    · exact mem_shift_iff.2 (ihrest hmem)

/-- The successors of what is discovered are discovered too, or were seen before. -/
theorem mem_of_mem_next (h : DepthFirst next seen todo order) {node other : α}
    (hmem : node ∈ order) (hnext : other ∈ next node) : other ∈ order ++ seen := by
  induction h with
  | done => cases hmem
  | again _ _ ih => exact ih hmem
  | @first seen rest below order node _ hbelow _ ihbelow ihrest =>
    -- what the search below finds or has seen, the whole search finds or has seen
    have hlift : other ∈ below ++ node :: seen → other ∈ (node :: (below ++ order)) ++ seen :=
      fun hother => mem_shift_iff.2 (List.mem_append_right _ hother)
    rcases List.mem_cons.1 hmem with rfl | hmem
    · exact hlift (hbelow.mem_of_mem_todo hnext)
    · rcases List.mem_append.1 hmem with hfound | hfound
      · exact hlift (ihbelow hfound)
      · exact mem_shift_iff.2 (ihrest hfound)

/-- What holds of `todo` and goes over to successors holds of all that is
    discovered. -/
theorem forall_mem {P : α → Prop} (h : DepthFirst next seen todo order)
    (htodo : ∀ node ∈ todo, P node)
    (hnext : ∀ node, node ∉ seen → P node → ∀ other ∈ next node, P other) :
    ∀ node ∈ order, P node := by
  induction h with
  | done => simp
  | again _ _ ih => exact ih (fun n hn => htodo n (List.mem_cons_of_mem _ hn)) hnext
  | first hnew _ _ ihbelow ihrest =>
    have hnode := htodo _ List.mem_cons_self
    intro n hn
    rcases List.mem_cons.1 hn with rfl | hn
    · exact hnode
    · rcases List.mem_append.1 hn with hn | hn
      · refine ihbelow (hnext _ hnew hnode) ?_ n hn
        exact fun m hm => hnext m fun hseen => hm (List.mem_cons_of_mem _ hseen)
      · refine ihrest (fun m hm => htodo m (List.mem_cons_of_mem _ hm)) ?_ n hn
        intro m hm
        exact hnext m fun hseen =>
          hm (List.mem_append_right _ (List.mem_cons_of_mem _ hseen))

end DepthFirst

end MakeLens
