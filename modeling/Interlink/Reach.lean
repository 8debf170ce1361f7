/-!
# Reachability

What a search finds that goes on from everything it finds.
-/

namespace Interlink

variable {α : Type} [DecidableEq α]

/-- The nodes met by a search that goes through a queue, in their order. It meets only nodes that are
`unmet`, and each once. -/
def met (steps : α → List α) : (unmet queue : List α) → List α
  | _, [] => []
  | unmet, a :: queue =>
    if a ∈ unmet then a :: met steps (unmet.erase a) (queue ++ steps a) else met steps unmet queue
termination_by unmet queue => (unmet.length, queue.length)
decreasing_by
  · exact Prod.Lex.left _ _ (by grind [List.length_erase_of_mem, List.length_pos_of_mem])
  · exact Prod.Lex.right _ (by simp)

/-- The nodes that a path leads to from one of the `starts`, which are reached themselves. -/
def reachedFrom (nodes : List α) (steps : α → List α) (starts : List α) : List α := met steps nodes starts

/-- Nodes that all reach each other, in groups. A node alone is a group if it has a step to itself. -/
def cycleGroups (nodes : List α) (steps : α → List α) : List (List α) :=
  let after := nodes.map fun a => (a, reachedFrom nodes steps (steps a))
  let group (a : α) (reached : List α) := (after.filter fun (b, back) => b ∈ reached ∧ a ∈ back).map (·.1)
  ((after.map fun (a, reached) => group a reached).filter (· ≠ [])).eraseDups

end Interlink
