import ShadingGraph.Proofs.Graph.Schedule
import ShadingGraph.Proofs.OrderedMap

/-!
# Pruning

What can influence a node is found by a walk along the edges backwards (`Graph.ancestors`). `Gathers` is
the walk turn by turn, without a measure: a turn takes one node from the stack and meets the sources of
its edges. A walk gives every node that it meets one turn, so it ends (`gathers_closureLoop`), and it ends
in one way (`Gathers.unique`).

Main statement: `ancestors_exact`, the walk lists the node and whatever a path of edges leads from to
it. The edges may form cycles, begin nowhere or end nowhere.
-/

namespace ShadingGraph

open Relation

variable {α : Type} [DecidableEq α] {arrows : List (α × α)}

/-! ## Turns of a walk -/

/-- A walk that has met `met` and still has `stack` before it ends after so many turns with `result`. -/
inductive Gathers (arrows : List (α × α)) : Nat → List α → List α → List α → Prop
  | done (met : List α) : Gathers arrows 0 met [] met
  | turn {turns : Nat} {met stack result : List α} {a : α}
    (rest : Gathers arrows turns (met ++ distinctFrom met (heads arrows a))
      ((distinctFrom met (heads arrows a)).reverse ++ stack) result) :
    Gathers arrows (turns + 1) met (a :: stack) result

/-- A walk ends in one way. -/
theorem Gathers.unique {turns turns' : Nat} {met stack result result' : List α}
    (h : Gathers arrows turns met stack result) (h' : Gathers arrows turns' met stack result') :
    turns' = turns ∧ result' = result := by
  induction h generalizing turns' with
  | done => cases h'; exact ⟨rfl, rfl⟩
  | turn _ ih =>
    cases h' with
    | turn rest =>
      obtain ⟨rfl, rfl⟩ := ih rest
      exact ⟨rfl, rfl⟩

/-- **A walk ends: what is on the stack and what it still meets have one turn each.** -/
theorem gathers_closureLoop (arrows : List (α × α)) (met stack : List α) :
    ∃ turns, turns + met.length = (closureLoop arrows met stack).length + stack.length ∧
      Gathers arrows turns met stack (closureLoop arrows met stack) := by
  fun_induction closureLoop arrows met stack with
  | case1 met => exact ⟨0, by simp, .done met⟩
  | case2 met a stack new ih =>
    obtain ⟨turns, hturns, hwalk⟩ := ih
    refine ⟨turns + 1, ?_, .turn hwalk⟩
    simp only [List.length_append, List.length_reverse, List.length_cons] at hturns ⊢
    omega

theorem gathers_closure (start : α) :
    Gathers arrows (closure arrows start).length [start] [start] (closure arrows start) := by
  obtain ⟨turns, hturns, hwalk⟩ := gathers_closureLoop arrows [start] [start]
  obtain rfl : turns = (closure arrows start).length := Nat.add_right_cancel hturns
  exact hwalk

/-! ## Ancestors -/

/-- What looking for the ancestors of a node of a graph comes to. -/
structure Graph.Pruned (g : Graph) (id : NodeId) (kept : List NodeId) : Prop where
  /-- The walk ends after one turn for every node that is kept, with these nodes and no others. -/
  ends : ∀ turns result,
    Gathers g.reverseArrows turns [id] [id] result ↔ turns = kept.length ∧ result = kept
  nodup : kept.Nodup
  /-- The node and the beginnings of paths of one edge or more that lead to it. -/
  mem_iff : ∀ key, key ∈ kept ↔ key = id ∨ TransGen (Arrow g.arrows) key id

namespace Graph

/--
**Pruning keeps a node and what paths of edges lead from to it.** Nothing is kept for a node that the
graph does not have.
-/
theorem ancestors_exact (g : Graph) (id : NodeId) :
    (g.node? id = none → g.ancestors id = []) ∧
    (g.node? id ≠ none → g.Pruned id (g.ancestors id)) := by
  have hcontains : g.nodes.contains id = (g.node? id).isSome :=
    OrderedMap.contains_eq_isSome g.nodes id
  constructor
  · intro hnone
    rw [hnone] at hcontains
    simp [ancestors, hcontains]
  · intro hsome
    have hid : g.nodes.contains id = true := hcontains.trans (Option.isSome_iff_ne_none.2 hsome)
    have hwalk : Gathers g.reverseArrows (g.ancestors id).length [id] [id] (g.ancestors id) := by
      rw [ancestors, if_pos hid]
      exact gathers_closure id
    refine ⟨fun turns result => ⟨fun h => hwalk.unique h, ?_⟩, ?_, fun key => ?_⟩
    · rintro ⟨rfl, rfl⟩
      exact hwalk
    · rw [ancestors, if_pos hid]
      exact nodup_closure id
    · rw [mem_ancestors, Reaches, reflTransGen_iff_eq_or_transGen, eq_comm (a := id)]
      exact and_iff_right hid

/-- Two mixes that feed each other keep each other; an edge from nowhere keeps what is no node. -/
theorem ancestors_exact_tangled :
    tangled.node? 9 = none ∧ tangled.ancestors 9 = [] ∧
    tangled.node? 1 ≠ none ∧ 2 ∈ tangled.ancestors 1 ∧ 3 ∉ tangled.ancestors 1 ∧
    tangled.node? 4 ≠ none ∧ tangled.ancestors 4 = [4, 3, 9] ∧
    TransGen (Arrow tangled.arrows) 1 1 ∧ TransGen (Arrow tangled.arrows) 9 4 ∧
    ¬TransGen (Arrow tangled.arrows) 3 1 := by
  have hnowhere : tangled.node? 9 = none := by decide +kernel
  have hmix : tangled.node? 1 ≠ none := by decide +kernel
  have hlast : tangled.node? 4 ≠ none := by decide +kernel
  have hthere : Arrow tangled.arrows 1 2 := arrow_iff.2 (by decide +kernel)
  have hback : Arrow tangled.arrows 2 1 := arrow_iff.2 (by decide +kernel)
  have hkept : tangled.ancestors 4 = [4, 3, 9] := by decide +kernel
  have hmixes := ((ancestors_exact tangled 1).2 hmix).mem_iff
  have hfourth := ((ancestors_exact tangled 4).2 hlast).mem_iff
  have hbeside : (3 : NodeId) ∉ tangled.ancestors 1 := by decide +kernel
  refine ⟨hnowhere, (ancestors_exact tangled 9).1 hnowhere, hmix, ?_, hbeside, hlast, hkept,
    .head hthere (.single hback), ?_, fun h => hbeside ((hmixes 3).2 (.inr h))⟩
  · exact (hmixes 2).2 (.inr (.single hback))
  · have hmem : (9 : NodeId) ∈ tangled.ancestors 4 := by rw [hkept]; decide
    exact ((hfourth 9).1 hmem).resolve_left (by decide)

end Graph

end ShadingGraph
