import ShadingGraph.Distinct
import ShadingGraph.Graph.Basic

/-!
# Reachability

`closure arrows start` lists what is reachable from `start` along arrows, every member once, in the
order in which a walk with a stack meets them. `Graph.ancestors` is the closure of a node along the
edges backwards. The walk has a measure: a node enters the stack only when it is met for the first
time, and then the arrows to it no longer count as leading to unmet nodes.

`searchLoop` looks for one goal and stops when it sees an arrow to it. What it finds on the way goes
on the stack each time, and is passed over if it has been visited when its turn comes. An edge closes
a cycle if it is a loop or this search finds its source from its target (`Graph.wouldCloseCycle`). The
measure counts the stack and the arrows that start at what has not been visited.
-/

namespace ShadingGraph

variable {α : Type} [DecidableEq α]

/-- The heads of the arrows from `a`, in order. -/
def heads (arrows : List (α × α)) (a : α) : List α :=
  (arrows.filter fun p => p.1 = a).map Prod.snd

/-- How many arrows lead to what has not been met. -/
def unmetCount (arrows : List (α × α)) (met : List α) : Nat :=
  (arrows.filter fun p => p.2 ∉ met).length

/-- Meeting the head of an arrow lowers the count. -/
theorem unmetCount_lt {arrows : List (α × α)} {met : List α} {b : α}
    (hb : b ∈ arrows.map Prod.snd) (hmet : b ∉ met) :
    unmetCount arrows (met ++ [b]) < unmetCount arrows met := by
  induction arrows with
  | nil => simp at hb
  | cons p ps ih =>
    have hle : ∀ qs : List (α × α), unmetCount qs (met ++ [b]) ≤ unmetCount qs met := by
      intro qs
      induction qs with
      | nil => simp [unmetCount]
      | cons q qs ih => simp only [unmetCount, List.filter_cons] at ih ⊢; grind
    have h := hle ps
    simp only [unmetCount, List.filter_cons] at ih h ⊢
    grind

/-- Every new head lowers the count by at least one. -/
theorem unmetCount_distinctFrom {arrows : List (α × α)} (met : List α) {bs : List α}
    (hbs : ∀ b ∈ bs, b ∈ arrows.map Prod.snd) :
    unmetCount arrows (met ++ distinctFrom met bs) + (distinctFrom met bs).length
      ≤ unmetCount arrows met := by
  induction bs generalizing met with
  | nil => simp [distinctFrom]
  | cons b bs ih =>
    unfold distinctFrom
    split
    · exact ih met fun c hc => hbs c (List.mem_cons_of_mem _ hc)
    · next hb =>
      have h := ih (met ++ [b]) fun c hc => hbs c (List.mem_cons_of_mem _ hc)
      have hlt := unmetCount_lt (hbs b List.mem_cons_self) hb
      simp only [List.length_cons, List.append_assoc, List.singleton_append] at h ⊢
      omega

theorem heads_subset (arrows : List (α × α)) (a : α) :
    ∀ b ∈ heads arrows a, b ∈ arrows.map Prod.snd := by
  intro b hb
  obtain ⟨p, hp, rfl⟩ := List.mem_map.1 hb
  exact List.mem_map.2 ⟨p, (List.mem_filter.1 hp).1, rfl⟩

/--
The walk: take the top of the stack, meet the heads of its arrows, and push those that are new, so
that the last one is on top.
-/
def closureLoop (arrows : List (α × α)) (met : List α) : List α → List α
  | [] => met
  | a :: stack =>
    let new := distinctFrom met (heads arrows a)
    closureLoop arrows (met ++ new) (new.reverse ++ stack)
termination_by stack => unmetCount arrows met + stack.length
decreasing_by
  have := unmetCount_distinctFrom met (heads_subset arrows a)
  simp only [List.length_append, List.length_reverse, List.length_cons]
  omega

/-- What is reachable from `start` along arrows, `start` first. -/
def closure (arrows : List (α × α)) (start : α) : List α := closureLoop arrows [start] [start]

/-- How many arrows start at what has not been visited. -/
def unvisitedCount (arrows : List (α × α)) (visited : List α) : Nat :=
  (arrows.filter fun p => p.1 ∉ visited).length

/-- Visiting a point takes the arrows from it off the count. -/
theorem unvisitedCount_cons (arrows : List (α × α)) {visited : List α} {a : α} (h : a ∉ visited) :
    unvisitedCount arrows (a :: visited) + (heads arrows a).length
      = unvisitedCount arrows visited := by
  induction arrows with
  | nil => rfl
  | cons p ps ih =>
    simp only [unvisitedCount, heads, List.filter_cons, List.length_map, List.mem_cons] at ih ⊢
    by_cases hp : p.1 = a <;> grind

/--
The search: take the top of the stack and pass it over if it has been visited. Otherwise stop if an
arrow leads from it to the goal, and push the heads of its arrows if none does, so that the last one
is on top.
-/
def searchLoop (arrows : List (α × α)) (goal : α) (visited : List α) : List α → Bool
  | [] => false
  | a :: stack =>
    if a ∈ visited then searchLoop arrows goal visited stack
    else if goal ∈ heads arrows a then true
    else searchLoop arrows goal (a :: visited) ((heads arrows a).reverse ++ stack)
termination_by stack => unvisitedCount arrows visited + stack.length
decreasing_by
  · simp
  · next hnew _ =>
    have := unvisitedCount_cons arrows hnew
    simp only [List.length_append, List.length_reverse, List.length_cons]
    omega

namespace Graph

/-- The edges as arrows from source to target. -/
def arrows (g : Graph) : List (NodeId × NodeId) := g.edgeList.map fun e => (e.source, e.target)

/-- The edges as arrows from target to source. -/
def reverseArrows (g : Graph) : List (NodeId × NodeId) :=
  g.edgeList.map fun e => (e.target, e.source)

/-- The node and what can influence it, in the order of the walk; nothing if the node is unknown. -/
def ancestors (g : Graph) (id : NodeId) : List NodeId :=
  if g.nodes.contains id then closure g.reverseArrows id else []

/-- Whether an edge from `source` to `target` would close a cycle. -/
def wouldCloseCycle (g : Graph) (source target : NodeId) : Bool :=
  source = target || searchLoop g.arrows source [] [target]

end Graph

end ShadingGraph
