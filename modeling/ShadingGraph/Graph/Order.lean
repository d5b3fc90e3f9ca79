import ShadingGraph.Graph.Reach

/-!
# Order of computation

`linearise arrows members` lists the members so that, where the arrows among them form no cycle, the
tail of every arrow stands before its head. It walks depth first from each member in turn and puts a
member in front of the result when the walk leaves it. Arrows that lead outside the members are
ignored; in a cycle the walk stops at members it has entered before.

The walk works off an agenda. Entering a member shrinks the list of those not yet entered, and every
other step shortens the agenda.
-/

namespace ShadingGraph

variable {α : Type} [DecidableEq α]

/-- Step of a depth-first walk. -/
inductive Visit (α : Type) where
  | enter (a : α)
  | leave (a : α)

/-- The walk, with the members still to be entered, what is left to do, and the result so far. -/
def lineariseLoop (arrows : List (α × α)) (todo : List α) : List (Visit α) → List α → List α
  | [], order => order
  | .enter a :: agenda, order =>
    if a ∈ todo then
      lineariseLoop arrows (todo.erase a)
        ((heads arrows a).map .enter ++ .leave a :: agenda) order
    else lineariseLoop arrows todo agenda order
  | .leave a :: agenda, order => lineariseLoop arrows todo agenda (a :: order)
termination_by agenda => (todo.length, agenda.length)
decreasing_by
  · next h =>
    have := List.length_pos_of_mem h
    rw [List.length_erase_of_mem h]
    exact Prod.Lex.left _ _ (by omega)
  · exact Prod.Lex.right _ (by simp)
  · exact Prod.Lex.right _ (by simp)

/-- The members, the tail of an arrow before its head. -/
def linearise (arrows : List (α × α)) (members : List α) : List α :=
  let members := distinct members
  lineariseLoop arrows members (members.map .enter) []

namespace Graph

/-- The nodes in an order in which producers come before consumers. -/
def topologicalOrder (g : Graph) (nodes : List NodeId) : List NodeId := linearise g.arrows nodes

/-- What can influence a node, producers before consumers. -/
def schedule (g : Graph) (id : NodeId) : List NodeId := g.topologicalOrder (g.ancestors id)

end Graph

end ShadingGraph
