import Mathlib.Logic.Relation
import ShadingGraph.Graph.Reach

/-!
# Paths along arrows

`closure` lists exactly what a path leads to (`mem_closure`), and `searchLoop` finds its goal exactly
if a path leads there (`searchLoop_iff`), so that the checks made with them are statements about
paths: `mem_ancestors`, `wouldCloseCycle_iff`. Arrows without cycles stay so when arrows are taken
away (`Acyclic.subset`) or when an arrow is added that no path leads back over (`Acyclic.cons`).

On arrows without cycles, `rank` counts the arrows still ahead. It falls along every arrow
(`rank_lt`), hence recursion along the arrows ends in either direction, and `pathWeight` bounds the
number of paths that start at a point (`pathWeights_lt`).
-/

namespace ShadingGraph

open Relation

variable {α : Type} {arrows : List (α × α)}

/-- There is an arrow from `a` to `b`. -/
def Arrow (arrows : List (α × α)) (a b : α) : Prop := (a, b) ∈ arrows

/-- A path of arrows, possibly of none, leads from `a` to `b`. -/
abbrev Reaches (arrows : List (α × α)) : α → α → Prop := ReflTransGen (Arrow arrows)

/-- No path of one arrow or more leads from a point to itself. -/
def Acyclic (arrows : List (α × α)) : Prop := ∀ a, ¬TransGen (Arrow arrows) a a

/-! ## Arrows without cycles -/

theorem acyclic_nil : Acyclic ([] : List (α × α)) := by
  intro a h
  obtain ⟨b, hb, -⟩ := TransGen.head'_iff.1 h
  exact absurd hb List.not_mem_nil

theorem Acyclic.subset {less : List (α × α)} (h : Acyclic arrows)
    (hsub : ∀ a b, Arrow less a b → Arrow arrows a b) : Acyclic less :=
  fun a ha => h a (TransGen.mono hsub a a ha)

/-- Where a number rises with every step, no row of steps leads back to its start. -/
theorem not_transGen_self {r : α → α → Prop} (f : α → Nat) (h : ∀ a b, r a b → f a < f b) (a : α) :
    ¬TransGen r a a := by
  have hrises : ∀ b, TransGen r a b → f a < f b := by
    intro b hab
    induction hab with
    | single hab => exact h _ _ hab
    | tail _ hbc ih => exact Nat.lt_trans ih (h _ _ hbc)
  exact fun haa => Nat.lt_irrefl _ (hrises a haa)

theorem Acyclic.ne (h : Acyclic arrows) {a b : α} (hab : Arrow arrows a b) : a ≠ b := by
  rintro rfl
  exact h a (.single hab)

/-- A path over one more arrow either avoids it or passes it. -/
theorem transGen_cons {s t a b : α} (h : TransGen (Arrow ((s, t) :: arrows)) a b) :
    TransGen (Arrow arrows) a b ∨ (Reaches arrows a s ∧ Reaches arrows t b) ∨
      Reaches arrows t s := by
  have arrow_cases : ∀ {x y : α}, Arrow ((s, t) :: arrows) x y →
      (x = s ∧ y = t) ∨ Arrow arrows x y := by
    intro x y hxy
    rcases List.mem_cons.1 hxy with h | h
    · exact Or.inl (Prod.mk.inj h)
    · exact Or.inr h
  induction h with
  | single hab =>
    rcases arrow_cases hab with ⟨rfl, rfl⟩ | hab
    · exact Or.inr (Or.inl ⟨.refl, .refl⟩)
    · exact Or.inl (.single hab)
  | tail _ hbc ih =>
    rcases arrow_cases hbc with ⟨rfl, rfl⟩ | hbc
    · rcases ih with hab | ⟨-, htb⟩ | hts
      · exact Or.inr (Or.inl ⟨hab.to_reflTransGen, .refl⟩)
      · exact Or.inr (Or.inr htb)
      · exact Or.inr (Or.inr hts)
    · rcases ih with hab | ⟨has, htb⟩ | hts
      · exact Or.inl (hab.tail hbc)
      · exact Or.inr (Or.inl ⟨has, htb.tail hbc⟩)
      · exact Or.inr (Or.inr hts)

/-- An arrow closes no cycle unless a path leads from its head to its tail. -/
theorem Acyclic.cons {s t : α} (h : Acyclic arrows) (hts : ¬Reaches arrows t s) :
    Acyclic ((s, t) :: arrows) := by
  intro a ha
  rcases transGen_cons ha with hold | ⟨has, hta⟩ | hback
  · exact h a hold
  · exact hts (hta.trans has)
  · exact hts hback

/-! ## The walk meets what paths lead to -/

variable [DecidableEq α]

theorem mem_heads {a b : α} : b ∈ heads arrows a ↔ Arrow arrows a b := by
  simp only [heads, List.mem_map, List.mem_filter, decide_eq_true_eq]
  constructor
  · rintro ⟨⟨x, y⟩, ⟨hmem, rfl⟩, rfl⟩
    exact hmem
  · intro h
    exact ⟨(a, b), ⟨h, rfl⟩, rfl⟩

theorem subset_closureLoop (met stack : List α) {x : α} (h : x ∈ met) :
    x ∈ closureLoop arrows met stack := by
  fun_induction closureLoop arrows met stack with
  | case1 => exact h
  | case2 met a stack new ih => exact ih (List.mem_append_left _ h)

theorem reaches_of_mem_closureLoop (met stack : List α) {x : α}
    (h : x ∈ closureLoop arrows met stack) : x ∈ met ∨ ∃ a ∈ stack, Reaches arrows a x := by
  fun_induction closureLoop arrows met stack with
  | case1 met => exact Or.inl h
  | case2 met a stack new ih =>
    have hnew : ∀ b ∈ new, Arrow arrows a b := fun b hb => mem_heads.1 (mem_distinctFrom.1 hb).1
    rcases ih h with hx | ⟨b, hb, hbx⟩
    · rcases List.mem_append.1 hx with hx | hx
      · exact Or.inl hx
      · exact Or.inr ⟨a, List.mem_cons_self, .single (hnew x hx)⟩
    · rcases List.mem_append.1 hb with hb | hb
      · exact Or.inr ⟨a, List.mem_cons_self, .head (hnew b (List.mem_reverse.1 hb)) hbx⟩
      · exact Or.inr ⟨b, List.mem_cons_of_mem _ hb, hbx⟩

/-- What is met but not on the stack has all its heads met; in the end this holds of everything. -/
theorem closureLoop_closed (arrows : List (α × α)) (met stack : List α)
    (h : ∀ a ∈ met, a ∈ stack ∨ ∀ b, Arrow arrows a b → b ∈ met) :
    ∀ a ∈ closureLoop arrows met stack, ∀ b, Arrow arrows a b → b ∈ closureLoop arrows met stack := by
  fun_induction closureLoop arrows met stack with
  | case1 met =>
    intro a ha
    exact (h a ha).resolve_left List.not_mem_nil
  | case2 met a stack new ih =>
    -- taking `a` from the stack is sound because all its heads are met with this
    have hheads : ∀ b, Arrow arrows a b → b ∈ met ++ new := by
      intro b hb
      by_cases hmet : b ∈ met
      · exact List.mem_append_left _ hmet
      · exact List.mem_append_right _ (mem_distinctFrom.2 ⟨mem_heads.2 hb, hmet⟩)
    refine ih fun c hc => ?_
    rcases List.mem_append.1 hc with hc | hc
    · rcases h c hc with hstack | hclosed
      · rcases List.mem_cons.1 hstack with rfl | hstack
        · exact Or.inr hheads
        · exact Or.inl (List.mem_append_right _ hstack)
      · exact Or.inr fun b hb => List.mem_append_left _ (hclosed b hb)
    · exact Or.inl (List.mem_append_left _ (List.mem_reverse.2 hc))

theorem nodup_closureLoop (met stack : List α) (h : met.Nodup) :
    (closureLoop arrows met stack).Nodup := by
  fun_induction closureLoop arrows met stack with
  | case1 => exact h
  | case2 met a stack new ih =>
    refine ih (List.nodup_append.2 ⟨h, nodup_distinctFrom _ _, ?_⟩)
    rintro x hx y hy rfl
    exact (mem_distinctFrom.1 hy).2 hx

theorem mem_closure {start x : α} : x ∈ closure arrows start ↔ Reaches arrows start x := by
  constructor
  · intro h
    rcases reaches_of_mem_closureLoop [start] [start] h with hx | ⟨a, ha, hax⟩
    · rw [List.mem_singleton.1 hx]
    · rwa [List.mem_singleton.1 ha] at hax
  · intro h
    have hclosed := closureLoop_closed arrows [start] [start] fun a ha => Or.inl ha
    induction h with
    | refl => exact subset_closureLoop _ _ List.mem_cons_self
    | tail _ hbc ih => exact hclosed _ ih _ hbc

theorem nodup_closure (start : α) : (closure arrows start).Nodup :=
  nodup_closureLoop _ _ (List.nodup_cons.2 ⟨List.not_mem_nil, List.nodup_nil⟩)

/-- The walk depends on the heads of what it meets only. -/
theorem closureLoop_congr {other : List (α × α)} (met stack : List α)
    (hstack : ∀ a ∈ stack, a ∈ met)
    (h : ∀ a ∈ closureLoop arrows met stack, heads other a = heads arrows a) :
    closureLoop other met stack = closureLoop arrows met stack := by
  fun_induction closureLoop arrows met stack with
  | case1 => rw [closureLoop]
  | case2 met a stack new ih =>
    have ha : a ∈ met ++ new := List.mem_append_left _ (hstack a List.mem_cons_self)
    rw [closureLoop, h a (subset_closureLoop _ _ ha)]
    refine ih (fun b hb => ?_) h
    rcases List.mem_append.1 hb with hb | hb
    · exact List.mem_append_right _ (List.mem_reverse.1 hb)
    · exact List.mem_append_left _ (hstack b (List.mem_cons_of_mem _ hb))

theorem closure_congr {other : List (α × α)} {start : α}
    (h : ∀ a ∈ closure arrows start, heads other a = heads arrows a) :
    closure other start = closure arrows start :=
  closureLoop_congr [start] [start] (fun _ ha => ha) h

/-! ## The search finds its goal where a path leads to it -/

theorem transGen_of_searchLoop {goal : α} (visited stack : List α)
    (h : searchLoop arrows goal visited stack = true) :
    ∃ a ∈ stack, TransGen (Arrow arrows) a goal := by
  fun_induction searchLoop arrows goal visited stack with
  | case1 => cases h
  | case2 visited a stack hvisited ih =>
    obtain ⟨b, hb, hpath⟩ := ih h
    exact ⟨b, List.mem_cons_of_mem _ hb, hpath⟩
  | case3 visited a stack hnew hgoal => exact ⟨a, List.mem_cons_self, .single (mem_heads.1 hgoal)⟩
  | case4 visited a stack hnew hgoal ih =>
    obtain ⟨b, hb, hpath⟩ := ih h
    rcases List.mem_append.1 hb with hb | hb
    · exact ⟨a, List.mem_cons_self, .head (mem_heads.1 (List.mem_reverse.1 hb)) hpath⟩
    · exact ⟨b, List.mem_cons_of_mem _ hb, hpath⟩

/--
What has been visited has no arrow to the goal, and its heads are visited or on the stack. A search
that ends without the goal has visited all that it met, so that no path leads from there to the goal.
-/
theorem not_transGen_of_searchLoop {goal : α} (visited stack : List α)
    (h : ∀ a ∈ visited, ∀ b, Arrow arrows a b → b ≠ goal ∧ (b ∈ visited ∨ b ∈ stack))
    (hsearch : searchLoop arrows goal visited stack = false) :
    ∀ a, a ∈ visited ∨ a ∈ stack → ¬TransGen (Arrow arrows) a goal := by
  fun_induction searchLoop arrows goal visited stack with
  | case1 visited =>
    intro a ha hpath
    induction hpath using TransGen.head_induction_on with
    | single hab => exact (h _ (ha.resolve_right List.not_mem_nil) _ hab).1 rfl
    | head hab _ ih => exact ih (h _ (ha.resolve_right List.not_mem_nil) _ hab).2
  | case2 visited a stack hvisited ih =>
    -- `a` is visited, so nothing is lost when it leaves the stack
    have hmove : ∀ b, b ∈ visited ∨ b ∈ a :: stack → b ∈ visited ∨ b ∈ stack := by
      rintro b (hb | hb)
      · exact Or.inl hb
      · rcases List.mem_cons.1 hb with rfl | hb
        · exact Or.inl hvisited
        · exact Or.inr hb
    exact fun b hb => ih (fun c hc d hcd => ⟨(h c hc d hcd).1, hmove d (h c hc d hcd).2⟩) hsearch b
      (hmove b hb)
  | case3 => cases hsearch
  | case4 visited a stack hnew hgoal ih =>
    have hmove : ∀ b, b ∈ visited ∨ b ∈ a :: stack →
        b ∈ a :: visited ∨ b ∈ (heads arrows a).reverse ++ stack := by
      rintro b (hb | hb)
      · exact Or.inl (List.mem_cons_of_mem _ hb)
      · rcases List.mem_cons.1 hb with rfl | hb
        · exact Or.inl List.mem_cons_self
        · exact Or.inr (List.mem_append_right _ hb)
    refine fun b hb => ih (fun c hc d hcd => ?_) hsearch b (hmove b hb)
    rcases List.mem_cons.1 hc with rfl | hc
    · have hd : d ∈ heads arrows c := mem_heads.2 hcd
      refine ⟨fun heq => hgoal (heq ▸ hd), Or.inr ?_⟩
      exact List.mem_append_left _ (List.mem_reverse.2 hd)
    · exact ⟨(h c hc d hcd).1, hmove d (h c hc d hcd).2⟩

/-- **The search finds its goal exactly if a path of one arrow or more leads there.** -/
theorem searchLoop_iff {start goal : α} :
    searchLoop arrows goal [] [start] = true ↔ TransGen (Arrow arrows) start goal := by
  constructor
  · intro h
    obtain ⟨a, ha, hpath⟩ := transGen_of_searchLoop [] [start] h
    rwa [List.mem_singleton.1 ha] at hpath
  · intro hpath
    cases hsearch : searchLoop arrows goal [] [start] with
    | true => rfl
    | false =>
      refine absurd hpath (not_transGen_of_searchLoop [] [start] ?_ hsearch start ?_)
      · exact fun a ha => absurd ha List.not_mem_nil
      · exact Or.inr List.mem_cons_self

/-! ## Ranks -/

/-- How many arrows start at what a path from `a` leads to. -/
def rank (arrows : List (α × α)) (a : α) : Nat :=
  (arrows.filter fun p => p.1 ∈ closure arrows a).length

theorem rank_le (arrows : List (α × α)) (a : α) : rank arrows a ≤ arrows.length :=
  List.length_filter_le _ _

/-- The arrow from `a` itself lies behind `b`. -/
theorem rank_lt (h : Acyclic arrows) {a b : α} (hab : Arrow arrows a b) :
    rank arrows b < rank arrows a := by
  have hsub : ∀ p ∈ arrows, p.1 ∈ closure arrows b → p.1 ∈ closure arrows a := by
    intro p _ hp
    exact mem_closure.2 (.head hab (mem_closure.1 hp))
  have hfilter : arrows.filter (fun p => p.1 ∈ closure arrows b)
      = (arrows.filter fun p => p.1 ∈ closure arrows a).filter fun p => p.1 ∈ closure arrows b := by
    rw [List.filter_filter]
    refine List.filter_congr fun p hp => ?_
    by_cases hpb : p.1 ∈ closure arrows b
    · simp [hpb, hsub p hp hpb]
    · simp [hpb]
  unfold rank
  rw [hfilter, List.length_filter_lt_length_iff_exists]
  refine ⟨(a, b), List.mem_filter.2 ⟨hab, decide_eq_true (mem_closure.2 .refl)⟩, ?_⟩
  -- the arrow starts at `a`, which no path from `b` leads back to
  have hback : ¬a ∈ closure arrows b := fun hba => h a (.head' hab (mem_closure.1 hba))
  simpa using hback

/-- Recursion from heads to tails ends. -/
theorem Acyclic.wellFounded (h : Acyclic arrows) : WellFounded (Arrow arrows) := by
  refine Subrelation.wf ?_ (measure fun a => arrows.length - rank arrows a).wf
  intro a b hab
  have hlt := rank_lt h hab
  have hle := rank_le arrows a
  show arrows.length - rank arrows a < arrows.length - rank arrows b
  omega

/-- Bound of the number of paths that start at `a`. -/
def pathWeight (arrows : List (α × α)) (a : α) : Nat := Nat.pow (arrows.length + 1) (rank arrows a)

/-- Bound of the number of paths that start at any of several points. -/
def pathWeights (arrows : List (α × α)) : List α → Nat
  | [] => 0
  | a :: as => pathWeight arrows a + pathWeights arrows as

theorem pathWeight_pos (arrows : List (α × α)) (a : α) : 0 < pathWeight arrows a :=
  Nat.pow_pos (Nat.succ_pos _)

theorem pathWeight_le (arrows : List (α × α)) (a : α) :
    pathWeight arrows a ≤ Nat.pow (arrows.length + 1) arrows.length :=
  Nat.pow_le_pow_right (Nat.succ_pos _) (rank_le arrows a)

theorem pathWeights_append (as bs : List α) :
    pathWeights arrows (as ++ bs) = pathWeights arrows as + pathWeights arrows bs := by
  induction as with
  | nil => rw [List.nil_append, pathWeights, Nat.zero_add]
  | cons a as ih => rw [List.cons_append, pathWeights, pathWeights, ih, Nat.add_assoc]

theorem pathWeights_reverse (as : List α) :
    pathWeights arrows as.reverse = pathWeights arrows as := by
  induction as with
  | nil => rfl
  | cons a as ih =>
    rw [List.reverse_cons, pathWeights_append, ih, pathWeights, pathWeights, pathWeights]
    omega

theorem pathWeights_le {bs : List α} {bound : Nat} (h : ∀ b ∈ bs, pathWeight arrows b ≤ bound) :
    pathWeights arrows bs ≤ bs.length * bound := by
  induction bs with
  | nil => exact Nat.zero_le _
  | cons b bs ih =>
    have hb := h b List.mem_cons_self
    have hbs := ih fun c hc => h c (List.mem_cons_of_mem _ hc)
    rw [pathWeights, List.length_cons, Nat.succ_mul]
    omega

/-- The paths from the heads of arrows from `a` are fewer than those from `a`. -/
theorem pathWeights_lt (h : Acyclic arrows) {a : α} {bs : List α}
    (hbs : ∀ b ∈ bs, Arrow arrows a b) (hlen : bs.length ≤ arrows.length) :
    pathWeights arrows bs < pathWeight arrows a := by
  cases hr : rank arrows a with
  | zero =>
    cases bs with
    | nil => exact pathWeight_pos arrows a
    | cons b bs =>
      have hlt := rank_lt h (hbs b List.mem_cons_self)
      omega
  | succ r =>
    have hle : ∀ b ∈ bs, pathWeight arrows b ≤ Nat.pow (arrows.length + 1) r := by
      intro b hb
      have hlt := rank_lt h (hbs b hb)
      exact Nat.pow_le_pow_right (Nat.succ_pos _) (by omega)
    have hpos : 0 < Nat.pow (arrows.length + 1) r := Nat.pow_pos (Nat.succ_pos _)
    calc pathWeights arrows bs
        ≤ bs.length * Nat.pow (arrows.length + 1) r := pathWeights_le hle
      _ ≤ arrows.length * Nat.pow (arrows.length + 1) r := Nat.mul_le_mul_right _ hlen
      _ < arrows.length * Nat.pow (arrows.length + 1) r + Nat.pow (arrows.length + 1) r :=
          Nat.lt_add_of_pos_right hpos
      _ = pathWeight arrows a := by
          rw [pathWeight, hr, ← Nat.succ_mul, Nat.mul_comm]
          rfl

/-! ## Graphs -/

namespace Graph

theorem arrow_iff {g : Graph} {a b : NodeId} :
    Arrow g.arrows a b ↔ ∃ e ∈ g.edgeList, e.source = a ∧ e.target = b := by
  simp [Arrow, arrows]

/-- Edges along which a number rises form no cycle. -/
theorem acyclic_of_rises {g : Graph} (f : NodeId → Nat)
    (h : ∀ e ∈ g.edgeList, f e.source < f e.target) : Acyclic g.arrows := by
  refine not_transGen_self f fun a b hab => ?_
  obtain ⟨e, he, rfl, rfl⟩ := arrow_iff.1 hab
  exact h e he

theorem arrow_reverse {g : Graph} {a b : NodeId} :
    Arrow g.reverseArrows a b ↔ Arrow g.arrows b a := by
  simp only [Arrow, arrows, reverseArrows, List.mem_map, Prod.mk.injEq]
  refine exists_congr fun e => ?_
  rw [and_comm (a := e.target = a)]

theorem reaches_reverse {g : Graph} {a b : NodeId} :
    Reaches g.reverseArrows a b ↔ Reaches g.arrows b a := by
  have h : Arrow g.reverseArrows = Function.swap (Arrow g.arrows) := by
    funext x y
    exact propext arrow_reverse
  rw [Reaches, h, reflTransGen_swap]

/-- The ancestors of a node of the graph are what paths lead from to it. -/
theorem mem_ancestors {g : Graph} {id a : NodeId} :
    a ∈ g.ancestors id ↔ g.nodes.contains id = true ∧ Reaches g.arrows a id := by
  unfold ancestors
  split
  · next h => rw [mem_closure, reaches_reverse]; simp [h]
  · next h => simp [h]

/--
**An edge would close a cycle exactly if it is a loop or a path of edges leads from its target to its
source.** This holds of any two identifiers, whatever edges there are.
-/
theorem wouldCloseCycle_eq_true_iff (g : Graph) (source target : NodeId) :
    g.wouldCloseCycle source target = true ↔
      source = target ∨ TransGen (Arrow g.arrows) target source := by
  rw [wouldCloseCycle, Bool.or_eq_true, decide_eq_true_eq, searchLoop_iff]

/-- The check for cycles is reachability. -/
theorem wouldCloseCycle_iff {g : Graph} {source target : NodeId} :
    g.wouldCloseCycle source target = true ↔ Reaches g.arrows target source := by
  rw [wouldCloseCycle, Bool.or_eq_true, decide_eq_true_eq, searchLoop_iff, Reaches,
    reflTransGen_iff_eq_or_transGen]

end Graph

end ShadingGraph
