import Mathlib.Algebra.BigOperators.Group.List.Basic
import Mathlib.Algebra.GroupWithZero.Nat
import Mathlib.Data.List.Infix

/-!
# Finite trees visited with a stack

The nodes of a forest are taken from the end of a stack, and the children of a node are
put on it in its place.  Every path from a root down is visited in its order.
-/

namespace DiagnosticAdapter.Lookup

/-- Nodes with finitely many nodes below each. -/
structure Forest (Node : Type) where
  children : Node → List Node
  size : Node → Nat
  size_children : ∀ node, ((children node).map size).sum < size node

namespace Forest

variable {Node : Type} {forest : Forest Node} {roots stack below above : List Node}
  {node : Node} {path : List Node}

def weight (forest : Forest Node) (nodes : List Node) : Nat :=
  (nodes.map forest.size).sum

@[simp]
theorem weight_append (forest : Forest Node) (below above : List Node) :
    forest.weight (below ++ above) = forest.weight below + forest.weight above := by
  simp [weight]

@[simp]
theorem weight_singleton (forest : Forest Node) (node : Node) :
    forest.weight [node] = forest.size node := by
  simp [weight]

theorem weight_children (forest : Forest Node) (node : Node) :
    forest.weight (forest.children node) < forest.size node :=
  forest.size_children node

/-- The nodes in the order in which they are taken from the stack. -/
def visits (forest : Forest Node) (stack : List Node) : List Node :=
  match _top : stack.getLast? with
  | none => []
  | some node => node :: visits forest (stack.dropLast ++ forest.children node)
termination_by forest.weight stack
decreasing_by
  have split := List.dropLast_append_getLast? node _top
  rw [← split]
  simp only [weight_append, weight_singleton, List.dropLast_concat]
  have := forest.weight_children node
  omega

@[simp]
theorem visits_nil : forest.visits [] = [] := by
  rw [visits]
  rfl

theorem visits_concat : forest.visits (stack ++ [node]) =
    node :: forest.visits (stack ++ forest.children node) := by
  rw [visits]
  split
  · rename_i empty
    simp at empty
  · rename_i top isTop
    rw [List.getLast?_concat] at isTop
    cases isTop
    rw [List.dropLast_concat]

theorem visits_append (below above : List Node) :
    forest.visits (below ++ above) = forest.visits above ++ forest.visits below := by
  induction size : forest.weight above using Nat.strong_induction_on generalizing above with
  | _ size ih =>
    obtain rfl | ⟨rest, node, rfl⟩ := above.eq_nil_or_concat
    · simp
    · rw [List.concat_eq_append] at size ⊢
      subst size
      have smaller : forest.weight (rest ++ forest.children node) <
          forest.weight (rest ++ [node]) := by
        have := forest.weight_children node
        simp only [weight_append, weight_singleton]
        omega
      rw [← List.append_assoc, visits_concat, visits_concat, List.append_assoc,
        ih _ smaller _ rfl, List.cons_append]

theorem visits_singleton : forest.visits [node] = node :: forest.visits (forest.children node) := by
  rw [← List.nil_append [node], visits_concat, List.nil_append]

theorem visits_sublist_of_mem (mem : node ∈ roots) :
    (forest.visits [node]).Sublist (forest.visits roots) := by
  obtain ⟨before, after, rfl⟩ := List.append_of_mem mem
  have split : before ++ node :: after = before ++ [node] ++ after := by simp
  rw [split, visits_append, visits_append]
  exact (List.sublist_append_left _ _).trans (List.sublist_append_right _ _)

inductive Path (forest : Forest Node) : List Node → List Node → Prop
  | root {roots : List Node} {node : Node} : node ∈ roots → Path forest roots [node]
  | step {roots : List Node} {node : Node} {path : List Node} : node ∈ roots →
      Path forest (forest.children node) path → Path forest roots (node :: path)

theorem Path.mono (isPath : Path forest stack path) (within : stack ⊆ roots) :
    Path forest roots path := by
  cases isPath with
  | root mem => exact .root (within mem)
  | step mem isPath => exact .step (within mem) isPath

theorem Path.exists_root (isPath : Path forest roots path) : ∃ node ∈ roots, node ∈ path := by
  cases isPath with
  | root mem => exact ⟨_, mem, List.mem_singleton_self _⟩
  | step mem isPath => exact ⟨_, mem, List.mem_cons_self⟩

theorem Path.sublist_visits (isPath : Path forest roots path) :
    path.Sublist (forest.visits roots) := by
  induction isPath with
  | root mem =>
    apply List.Sublist.trans _ (visits_sublist_of_mem mem)
    rw [visits_singleton]
    exact (List.nil_sublist _).cons_cons _
  | step mem _ ih =>
    apply List.Sublist.trans _ (visits_sublist_of_mem mem)
    rw [visits_singleton]
    exact ih.cons_cons _

theorem mem_visits_iff :
    node ∈ forest.visits roots ↔ ∃ path, Path forest roots (path ++ [node]) := by
  constructor
  · intro visited
    induction weighs : forest.weight roots using Nat.strong_induction_on generalizing roots with
    | _ size ih =>
      obtain rfl | ⟨rest, last, rfl⟩ := roots.eq_nil_or_concat
      · simp at visited
      · rw [List.concat_eq_append] at weighs visited ⊢
        have isRoot : last ∈ rest ++ [last] := by simp
        have weights : forest.weight rest + forest.size last = size := by
          simpa using weighs
        have smaller := forest.weight_children last
        rw [visits_append, visits_singleton, List.mem_append, List.mem_cons] at visited
        obtain (rfl | below) | before := visited
        · exact ⟨[], .root isRoot⟩
        · obtain ⟨path, isPath⟩ := ih _ (by omega) below rfl
          exact ⟨last :: path, .step isRoot isPath⟩
        · have positive : 0 < forest.size last := by omega
          obtain ⟨path, isPath⟩ := ih _ (by omega) before rfl
          exact ⟨path, isPath.mono (List.subset_append_left _ _)⟩
  · rintro ⟨path, isPath⟩
    exact isPath.sublist_visits.subset (List.mem_append_right _ (List.mem_singleton_self node))

end Forest

end DiagnosticAdapter.Lookup
