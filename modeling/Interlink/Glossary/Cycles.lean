/-!
# Cycles in depth-first order

The cycles that a depth-first search closes: a step from the node it stands at back to a node that is
still open. A node that is finished closes nothing, so paths that only meet again are no cycle.
-/

namespace Interlink.Glossary

variable {α : Type} [DecidableEq α]

/-- An open node and the steps from it that were not taken yet. -/
abbrev Frame (α : Type) := α × List α

/-- The open nodes from `a` on, where the innermost frame comes first. -/
def openFrom (a : α) (frames : List (Frame α)) : List α := ((frames.map (·.1)).reverse).dropWhile (· ≠ a)

def cyclesFrom (steps : α → List α) : (unvisited : List α) → (frames : List (Frame α)) → List (List α)
  | [], [] => []
  | start :: rest, [] => cyclesFrom steps rest [(start, steps start)]
  | unvisited, (_, []) :: outer => cyclesFrom steps unvisited outer
  | unvisited, (node, next :: later) :: outer =>
    if next ∈ unvisited then cyclesFrom steps (unvisited.erase next) ((next, steps next) :: (node, later) :: outer)
    else match openFrom next ((node, later) :: outer) with
      | [] => cyclesFrom steps unvisited ((node, later) :: outer)
      | cycle => cycle :: cyclesFrom steps unvisited ((node, later) :: outer)
termination_by unvisited frames => (unvisited.length, (frames.flatMap (·.2)).length + frames.length)
decreasing_by
  · exact Prod.Lex.left _ _ (by simp)
  · exact Prod.Lex.right _ (by simp)
  · exact Prod.Lex.left _ _ (by grind [List.length_erase_of_mem, List.length_pos_of_mem])
  · exact Prod.Lex.right _ (by simp)
  · exact Prod.Lex.right _ (by simp)

def closedCycles (nodes : List α) (steps : α → List α) : List (List α) := cyclesFrom steps nodes []

end Interlink.Glossary
