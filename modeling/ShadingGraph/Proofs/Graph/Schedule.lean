import Mathlib.Data.List.Basic
import ShadingGraph.Graph.Order
import ShadingGraph.Proofs.Graph.Paths

/-!
# Producers before consumers

`linearise` lists every member once (`perm_linearise`), and where the arrows between members form no
cycle, the head of every such arrow stands behind its tail (`headsBehind_linearise`). For graphs this
is `topologicalOrder_linearises`, whatever their edges are.

The invariant of the walk is `Walk`: a path leads from every member in progress to whatever stands
above it on the agenda, so a head that has been entered and is neither finished nor above its tail
would close a cycle.
-/

namespace ShadingGraph

open Relation

variable {α : Type}

/-- An arrow between members. -/
def Within (arrows : List (α × α)) (members : List α) (a b : α) : Prop :=
  Arrow arrows a b ∧ a ∈ members ∧ b ∈ members

/-- The heads of arrows between members stand behind the tails. -/
def HeadsBehind (arrows : List (α × α)) (members : List α) : List α → Prop
  | [] => True
  | a :: rest => (∀ b, Within arrows members a b → b ∈ rest) ∧ HeadsBehind arrows members rest

theorem headsBehind_append {arrows : List (α × α)} {members : List α} (pre : List α) {rest : List α}
    (h : HeadsBehind arrows members (pre ++ rest)) : HeadsBehind arrows members rest := by
  induction pre with
  | nil => exact h
  | cons a pre ih => exact ih h.2

/-- The tail of an arrow into a listed point stands before it. -/
theorem HeadsBehind.mem_before {arrows : List (α × α)} {members pre post : List α} {a b : α}
    (h : HeadsBehind arrows members (pre ++ b :: post)) (hnd : (pre ++ b :: post).Nodup)
    (hab : Within arrows members a b) (ha : a ∈ pre ++ b :: post) : a ∈ pre := by
  have hb := List.nodup_cons.1 (List.nodup_append.1 hnd).2.1
  rcases List.mem_append.1 ha with hpre | hpost
  · exact hpre
  · have hbehind := headsBehind_append _ h
    rcases List.mem_cons.1 hpost with rfl | hpost
    · exact absurd (hbehind.1 _ hab) hb.1
    · obtain ⟨mid, last, rfl⟩ := List.append_of_mem hpost
      have hlast := (headsBehind_append mid hbehind.2).1 b hab
      exact absurd (List.mem_append_right _ (List.mem_cons_of_mem _ hlast)) hb.1

/-- The tail of an arrow has the lower place in the list. -/
theorem HeadsBehind.idxOf_lt [DecidableEq α] {arrows : List (α × α)} {members order : List α}
    {a b : α} (h : HeadsBehind arrows members order) (hnd : order.Nodup)
    (hab : Within arrows members a b) (ha : a ∈ order) : order.idxOf a < order.idxOf b := by
  obtain ⟨pre, rest, rfl⟩ := List.append_of_mem ha
  have hb : b ∈ rest := (headsBehind_append pre h).1 b hab
  obtain ⟨-, hnd', hapart⟩ := List.nodup_append.1 hnd
  have hapre : a ∉ pre := fun hmem => hapart a hmem a List.mem_cons_self rfl
  have hbpre : b ∉ pre := fun hmem => hapart b hmem b (List.mem_cons_of_mem _ hb) rfl
  have hne : a ≠ b := fun heq => (List.nodup_cons.1 hnd').1 (heq ▸ hb)
  rw [List.idxOf_append_of_notMem hapre, List.idxOf_append_of_notMem hbpre, List.idxOf_cons_self,
    List.idxOf_cons_ne _ hne]
  omega

namespace Visit

/-- The point of a step. -/
def point : Visit α → α
  | enter a => a
  | leave a => a

/-- The point that is in progress until the step. -/
def leaving? : Visit α → Option α
  | enter _ => none
  | leave a => some a

end Visit

/-! ## The invariant of the walk -/

variable {arrows : List (α × α)}

/-- What holds throughout the walk. -/
structure Walk (arrows : List (α × α)) (members todo : List α) (agenda : List (Visit α))
    (order : List α) : Prop where
  todo_subset : ∀ a ∈ todo, a ∈ members
  /-- A member is yet to be entered, in progress, or finished. -/
  place : ∀ a ∈ members, a ∈ todo ∨ .leave a ∈ agenda ∨ a ∈ order
  leaving : ∀ a, .leave a ∈ agenda → a ∈ members
  /-- A path leads from a member in progress to the members above it. -/
  paths : agenda.Pairwise fun v w =>
    ∀ c, w = .leave c → v.point ∈ members → TransGen (Within arrows members) c v.point
  /-- The heads of a member in progress are finished or stand above it. -/
  above : ∀ pre a post, agenda = pre ++ .leave a :: post → ∀ b, Within arrows members a b →
    b ∈ order ∨ .enter b ∈ pre ∨ .leave b ∈ pre
  behind : HeadsBehind arrows members order

namespace Walk

variable {members todo : List α} {agenda : List (Visit α)} {order : List α} {a : α}

theorem init (members : List α) : Walk arrows members members (members.map .enter) [] where
  todo_subset _ ha := ha
  place _ ha := Or.inl ha
  leaving a ha := by simp at ha
  paths := by
    refine List.pairwise_map.2 (List.pairwise_of_forall fun _ _ => ?_)
    intro c hc
    cases hc
  above pre a post h := by
    have hmem : Visit.leave a ∈ members.map Visit.enter :=
      h ▸ List.mem_append_right _ List.mem_cons_self
    simp at hmem
  behind := trivial

/-- A member entered before is finished or in progress above whatever has an arrow to it. -/
theorem skip (hacyclic : ∀ b, ¬TransGen (Within arrows members) b b)
    (h : Walk arrows members todo (.enter a :: agenda) order) (ha : a ∉ todo) :
    Walk arrows members todo agenda order where
  todo_subset := h.todo_subset
  place b hb := by
    rcases h.place b hb with htodo | hleave | horder
    · exact Or.inl htodo
    · exact Or.inr (Or.inl (by simpa using hleave))
    · exact Or.inr (Or.inr horder)
  leaving b hb := h.leaving b (List.mem_cons_of_mem _ hb)
  paths := (List.pairwise_cons.1 h.paths).2
  above pre c post heq b hcb := by
    subst heq
    rcases h.above (.enter a :: pre) c post rfl b hcb with horder | hpre | hpre
    · exact Or.inl horder
    · rcases List.mem_cons.1 hpre with hba | hpre
      · obtain rfl := Visit.enter.inj hba
        rcases h.place b hcb.2.2 with htodo | hleave | horder
        · exact absurd htodo ha
        · have hrest : Visit.leave b ∈ pre ++ .leave c :: post := by simpa using hleave
          rcases List.mem_append.1 hrest with hpre | hpost
          · exact Or.inr (Or.inr hpre)
          -- in progress below `c`: the path to `c` and the arrow back form a cycle
          · have hbelow := (List.pairwise_cons.1
              (List.pairwise_append.1 (List.pairwise_cons.1 h.paths).2).2.1).1
            rcases List.mem_cons.1 hpost with hbc | hpost
            · rw [Visit.leave.inj hbc] at hcb
              exact absurd (.single hcb) (hacyclic c)
            · exact absurd ((hbelow _ hpost b rfl hcb.2.1).tail hcb) (hacyclic b)
        · exact Or.inl horder
      · exact Or.inr (Or.inl hpre)
    · exact Or.inr (Or.inr (by simpa using hpre))
  behind := h.behind

/-- When the walk leaves a member, the heads of the member are finished. -/
theorem leave (h : Walk arrows members todo (.leave a :: agenda) order) :
    Walk arrows members todo agenda (a :: order) where
  todo_subset := h.todo_subset
  place b hb := by
    rcases h.place b hb with htodo | hleave | horder
    · exact Or.inl htodo
    · rcases List.mem_cons.1 hleave with hba | hrest
      · exact Or.inr (Or.inr (Visit.leave.inj hba ▸ List.mem_cons_self))
      · exact Or.inr (Or.inl hrest)
    · exact Or.inr (Or.inr (List.mem_cons_of_mem _ horder))
  leaving b hb := h.leaving b (List.mem_cons_of_mem _ hb)
  paths := (List.pairwise_cons.1 h.paths).2
  above pre c post heq b hcb := by
    subst heq
    rcases h.above (.leave a :: pre) c post rfl b hcb with horder | hpre | hpre
    · exact Or.inl (List.mem_cons_of_mem _ horder)
    · exact Or.inr (Or.inl (by simpa using hpre))
    · rcases List.mem_cons.1 hpre with hba | hpre
      · exact Or.inl (Visit.leave.inj hba ▸ List.mem_cons_self)
      · exact Or.inr (Or.inr hpre)
  behind := by
    refine ⟨fun b hab => ?_, h.behind⟩
    rcases h.above [] a agenda rfl b hab with horder | hpre | hpre
    · exact horder
    · cases hpre
    · cases hpre

variable [DecidableEq α]

/-- Entering a member puts its heads above it. -/
theorem enter (h : Walk arrows members todo (.enter a :: agenda) order) (ha : a ∈ todo) :
    Walk arrows members (todo.erase a) ((heads arrows a).map .enter ++ .leave a :: agenda)
      order where
  todo_subset b hb := h.todo_subset b (List.mem_of_mem_erase hb)
  place b hb := by
    by_cases hba : b = a
    · exact Or.inr (Or.inl (hba ▸ List.mem_append_right _ List.mem_cons_self))
    · rcases h.place b hb with htodo | hleave | horder
      · exact Or.inl ((List.mem_erase_of_ne hba).2 htodo)
      · have hrest : Visit.leave b ∈ agenda := by simpa using hleave
        exact Or.inr (Or.inl (List.mem_append_right _ (List.mem_cons_of_mem _ hrest)))
      · exact Or.inr (Or.inr horder)
  leaving b hb := by
    rcases List.mem_append.1 hb with hb | hb
    · simp at hb
    · rcases List.mem_cons.1 hb with hb | hb
      · rw [Visit.leave.inj hb]
        exact h.todo_subset a ha
      · exact h.leaving b (List.mem_cons_of_mem _ hb)
  paths := by
    have ham := h.todo_subset a ha
    obtain ⟨htop, hrest⟩ := List.pairwise_cons.1 h.paths
    refine List.pairwise_append.2 ⟨?_, List.pairwise_cons.2 ⟨htop, hrest⟩, ?_⟩
    · refine List.pairwise_map.2 (List.pairwise_of_forall fun _ _ => ?_)
      intro c hc
      cases hc
    · intro v hv w hw c hc hvm
      obtain ⟨b, hb, rfl⟩ := List.mem_map.1 hv
      have hab : Within arrows members a b := ⟨mem_heads.1 hb, ham, hvm⟩
      rcases List.mem_cons.1 hw with rfl | hw
      · rw [← Visit.leave.inj hc]
        exact .single hab
      · exact (htop w hw c hc ham).tail hab
  above pre c post heq b hcb := by
    rcases List.append_eq_append_iff.1 heq with ⟨mid, rfl, hmid⟩ | ⟨mid, hmap, -⟩
    · cases mid with
      -- `c` is the member that is entered, and its heads stand right above it
      | nil =>
        have hca : a = c := Visit.leave.inj (List.cons.inj hmid).1
        have hb : b ∈ heads arrows a := mem_heads.2 (hca ▸ hcb.1)
        exact Or.inr (Or.inl (List.mem_append_left _ (List.mem_map_of_mem hb)))
      | cons v mid =>
        obtain ⟨rfl, rfl⟩ := List.cons.inj hmid
        rcases h.above (.enter a :: mid) c post rfl b hcb with horder | hpre | hpre
        · exact Or.inl horder
        · rcases List.mem_cons.1 hpre with hba | hpre
          · rw [Visit.enter.inj hba]
            exact Or.inr (Or.inr (List.mem_append_right _ List.mem_cons_self))
          · exact Or.inr (Or.inl (List.mem_append_right _ (List.mem_cons_of_mem _ hpre)))
        · have hrest : Visit.leave b ∈ mid := by simpa using hpre
          exact Or.inr (Or.inr (List.mem_append_right _ (List.mem_cons_of_mem _ hrest)))
    · cases mid with
      | nil =>
        have hca : a = c := by simp_all
        have hb : b ∈ heads arrows a := mem_heads.2 (hca ▸ hcb.1)
        have hpre : pre = (heads arrows a).map Visit.enter := by simpa using hmap.symm
        exact Or.inr (Or.inl (hpre ▸ List.mem_map_of_mem hb))
      -- above the member that is entered there is nothing to leave
      | cons v mid =>
        have hv : v = .leave c := by simp_all
        have hmem : Visit.leave c ∈ (heads arrows a).map Visit.enter := by
          rw [hmap, hv]
          exact List.mem_append_right _ List.mem_cons_self
        simp at hmem
  behind := h.behind

theorem headsBehind (hacyclic : ∀ b, ¬TransGen (Within arrows members) b b)
    (h : Walk arrows members todo agenda order) :
    HeadsBehind arrows members (lineariseLoop arrows todo agenda order) := by
  fun_induction lineariseLoop arrows todo agenda order with
  | case1 => exact h.behind
  | case2 todo a agenda order hmem ih => exact ih (h.enter hmem)
  | case3 todo a agenda order hmem ih => exact ih (h.skip hacyclic hmem)
  | case4 todo a agenda order ih => exact ih h.leave

end Walk

variable [DecidableEq α]

/-- **Where the arrows between members form no cycle, heads stand behind tails.** -/
theorem headsBehind_linearise {members : List α}
    (h : ∀ a, ¬TransGen (Within arrows (distinct members)) a a) :
    HeadsBehind arrows (distinct members) (linearise arrows members) :=
  (Walk.init (distinct members)).headsBehind h

/-! ## Every member once -/

theorem perm_lineariseLoop (arrows : List (α × α)) (todo : List α) (agenda : List (Visit α))
    (order : List α) (hnd : todo.Nodup) (htodo : ∀ a ∈ todo, Visit.enter a ∈ agenda) :
    (lineariseLoop arrows todo agenda order).Perm
      (todo ++ (agenda.filterMap Visit.leaving? ++ order)) := by
  fun_induction lineariseLoop arrows todo agenda order with
  | case1 todo order =>
    have hnil : todo = [] := List.eq_nil_iff_forall_not_mem.2 fun a ha => by simpa using htodo a ha
    simp [hnil]
  | case2 todo a agenda order hmem ih =>
    have hstill : ∀ b ∈ todo.erase a,
        Visit.enter b ∈ (heads arrows a).map Visit.enter ++ Visit.leave a :: agenda := by
      intro b hb
      have hba : b ≠ a := fun h => (List.Nodup.mem_erase_iff hnd).1 (h ▸ hb) |>.1 rfl
      rcases List.mem_cons.1 (htodo b (List.mem_of_mem_erase hb)) with h | h
      · exact absurd (Visit.enter.inj h) hba
      · exact List.mem_append_right _ (List.mem_cons_of_mem _ h)
    have hleaving : ((heads arrows a).map Visit.enter ++ Visit.leave a :: agenda).filterMap
        Visit.leaving? = a :: agenda.filterMap Visit.leaving? := by
      simp [List.filterMap_append, List.filterMap_map, Visit.leaving?, Function.comp_def]
    have hih := ih (hnd.erase a) hstill
    rw [hleaving] at hih
    refine hih.trans ?_
    have hperm : (todo.erase a ++ a :: (agenda.filterMap Visit.leaving? ++ order)).Perm
        (a :: todo.erase a ++ (agenda.filterMap Visit.leaving? ++ order)) :=
      List.perm_middle
    exact hperm.trans ((List.perm_cons_erase hmem).symm.append_right _)
  | case3 todo a agenda order hmem ih =>
    refine ih hnd fun b hb => ?_
    rcases List.mem_cons.1 (htodo b hb) with h | h
    · exact absurd (Visit.enter.inj h ▸ hb) hmem
    · exact h
  | case4 todo a agenda order ih =>
    have hih := ih hnd fun b hb => by simpa using htodo b hb
    refine hih.trans (List.Perm.append_left _ ?_)
    simp [Visit.leaving?]

/-- **The order lists the members, each once.** -/
theorem perm_linearise (members : List α) :
    (linearise arrows members).Perm (distinct members) := by
  have h := perm_lineariseLoop arrows (distinct members)
    ((distinct members).map Visit.enter) [] (nodup_distinct members)
    fun a ha => List.mem_map_of_mem ha
  have hnone : ((distinct members).map Visit.enter).filterMap Visit.leaving? = ([] : List α) := by
    simp [List.filterMap_map, Visit.leaving?, Function.comp_def]
  rwa [hnone, List.append_nil, List.append_nil] at h

theorem mem_linearise {members : List α} {a : α} : a ∈ linearise arrows members ↔ a ∈ members := by
  rw [(perm_linearise members).mem_iff, mem_distinct]

theorem nodup_linearise (members : List α) : (linearise arrows members).Nodup :=
  (perm_linearise members).nodup_iff.2 (nodup_distinct members)

/-! ## Arrows that lead outside -/

/-- Whether a step has a part in the walk: to enter what is no member has none. -/
def Visit.concerns (members : List α) : Visit α → Bool
  | enter a => a ∈ members
  | leave _ => true

theorem heads_filter (members : List α) (a : α) :
    heads (arrows.filter fun p => p.2 ∈ members) a = (heads arrows a).filter (· ∈ members) := by
  simp only [heads, List.filter_map, List.filter_filter, Function.comp_def]
  congr 1
  exact List.filter_congr fun p _ => Bool.and_comm _ _

theorem lineariseLoop_filter {members : List α} (todo : List α) (agenda : List (Visit α))
    (order : List α) (htodo : ∀ a ∈ todo, a ∈ members) :
    lineariseLoop (arrows.filter fun p => p.2 ∈ members) todo
        (agenda.filter (Visit.concerns members)) order
      = lineariseLoop arrows todo agenda order := by
  fun_induction lineariseLoop arrows todo agenda order with
  | case1 todo order => rw [List.filter_nil, lineariseLoop]
  | case2 todo a agenda order hmem ih =>
    have hagenda : ((heads arrows a).map Visit.enter ++ .leave a :: agenda).filter
          (Visit.concerns members)
        = ((heads arrows a).filter (· ∈ members)).map .enter
          ++ .leave a :: agenda.filter (Visit.concerns members) := by
      rw [List.filter_append, List.filter_map, List.filter_cons_of_pos rfl]
      rfl
    have hkeep : Visit.concerns members (.enter a) = true := decide_eq_true (htodo a hmem)
    rw [List.filter_cons_of_pos hkeep, lineariseLoop, if_pos hmem, heads_filter, ← hagenda]
    exact ih fun b hb => htodo b (List.mem_of_mem_erase hb)
  | case3 todo a agenda order hmem ih =>
    by_cases ha : a ∈ members
    · have hkeep : Visit.concerns members (.enter a) = true := decide_eq_true ha
      rw [List.filter_cons_of_pos hkeep, lineariseLoop, if_neg hmem]
      exact ih htodo
    · have hskip : ¬Visit.concerns members (.enter a) = true := by simpa [Visit.concerns] using ha
      rw [List.filter_cons_of_neg hskip]
      exact ih htodo
  | case4 todo a agenda order ih =>
    rw [List.filter_cons_of_pos rfl, lineariseLoop]
    exact ih htodo

/-- **Arrows that lead outside the members are ignored.** -/
theorem linearise_filter (arrows : List (α × α)) (members : List α) :
    linearise (arrows.filter fun p => p.2 ∈ members) members = linearise arrows members := by
  have hall : ((distinct members).map Visit.enter).filter (Visit.concerns members)
      = (distinct members).map .enter := by
    rw [List.filter_eq_self]
    intro v hv
    obtain ⟨a, ha, rfl⟩ := List.mem_map.1 hv
    exact decide_eq_true (mem_distinct.1 ha)
  rw [linearise, ← hall]
  exact lineariseLoop_filter _ _ _ fun a ha => mem_distinct.1 ha

/-! ## The schedule of a graph -/

/--
A list has the members of a set of identifiers, each once, and nothing else. Unless the edges between
members form a cycle, the source of every such edge stands before its target.
-/
structure Graph.Linearises (g : Graph) (nodes order : List NodeId) : Prop where
  nodup : order.Nodup
  mem_iff : ∀ key, key ∈ order ↔ key ∈ nodes
  before : (∀ key, ¬TransGen (Within g.arrows nodes) key key) → ∀ e ∈ g.edgeList,
    e.source ∈ nodes → e.target ∈ nodes → order.idxOf e.source < order.idxOf e.target

namespace Graph

variable {g : Graph} {id : NodeId}

theorem nodup_schedule (g : Graph) (id : NodeId) : (g.schedule id).Nodup := nodup_linearise _

theorem mem_schedule {key : NodeId} :
    key ∈ g.schedule id ↔ g.nodes.contains id = true ∧ Reaches g.arrows key id := by
  rw [schedule, topologicalOrder, mem_linearise, mem_ancestors]

theorem mem_members_of_mem_schedule {key : NodeId} (h : key ∈ g.schedule id) :
    key ∈ distinct (g.ancestors id) := by
  rw [mem_distinct, mem_ancestors]
  exact mem_schedule.1 h

theorem headsBehind_topologicalOrder (hacyclic : Acyclic g.arrows) (nodes : List NodeId) :
    HeadsBehind g.arrows (distinct nodes) (g.topologicalOrder nodes) :=
  headsBehind_linearise fun a ha => hacyclic a (TransGen.mono (fun _ _ h => h.1) a a ha)

/-- The source of an edge into a scheduled node is scheduled before it. -/
theorem source_mem_before (hacyclic : Acyclic g.arrows) {pre post : List NodeId} {key : NodeId}
    (hsplit : g.schedule id = pre ++ key :: post) {e : Edge} (he : e ∈ g.edgeList)
    (htarget : e.target = key) : e.source ∈ pre := by
  have harrow : Arrow g.arrows e.source key := arrow_iff.2 ⟨e, he, rfl, htarget⟩
  have hkey : key ∈ g.schedule id := hsplit ▸ List.mem_append_right _ List.mem_cons_self
  have hsource : e.source ∈ g.schedule id :=
    mem_schedule.2 ⟨(mem_schedule.1 hkey).1, .head harrow (mem_schedule.1 hkey).2⟩
  have hbehind := headsBehind_topologicalOrder hacyclic (g.ancestors id)
  have hnd := nodup_schedule g id
  rw [← schedule, hsplit] at hbehind
  rw [hsplit] at hnd hsource
  exact hbehind.mem_before hnd
    ⟨harrow, mem_members_of_mem_schedule (hsplit ▸ hsource), mem_members_of_mem_schedule hkey⟩ hsource

/-- Of what can influence a node, in whatever order it is given, the node comes last. -/
theorem topologicalOrder_eq_append (hacyclic : Acyclic g.arrows) {nodes : List NodeId}
    (hnodes : ∀ key, key ∈ nodes ↔ key ∈ g.ancestors id) (hid : g.nodes.contains id = true) :
    ∃ pre, g.topologicalOrder nodes = pre ++ [id] := by
  have hmem : ∀ key, key ∈ g.topologicalOrder nodes ↔ Reaches g.arrows key id := by
    intro key
    rw [topologicalOrder, mem_linearise, hnodes, mem_ancestors]
    exact and_iff_right hid
  have hself : id ∈ g.topologicalOrder nodes := (hmem id).2 .refl
  rcases List.eq_nil_or_concat (g.topologicalOrder nodes) with hnil | ⟨pre, last, hsplit⟩
  · rw [hnil] at hself
    cases hself
  rw [List.concat_eq_append] at hsplit
  refine ⟨pre, ?_⟩
  have hlast : last ∈ g.topologicalOrder nodes :=
    hsplit ▸ List.mem_append_right _ List.mem_cons_self
  rcases ReflTransGen.cases_head ((hmem last).1 hlast) with heq | ⟨next, harrow, hnext⟩
  · rw [hsplit, heq]
  -- another last node would have a consumer behind it
  · have hmember : ∀ key, key ∈ g.topologicalOrder nodes → key ∈ distinct nodes := by
      intro key hkey
      exact mem_distinct.2 (mem_linearise.1 hkey)
    have hbehind := headsBehind_topologicalOrder hacyclic nodes
    rw [hsplit] at hbehind
    have hnone := (headsBehind_append _ hbehind).1 next
      ⟨harrow, hmember last hlast, hmember next ((hmem next).2 hnext)⟩
    cases hnone

/-- The node that is computed comes last. -/
theorem schedule_eq_append (hacyclic : Acyclic g.arrows) (hid : g.nodes.contains id = true) :
    ∃ pre, g.schedule id = pre ++ [id] :=
  topologicalOrder_eq_append hacyclic (fun _ => Iff.rfl) hid

/-! ## Any set of nodes of any graph -/

theorem within_distinct {arrows : List (NodeId × NodeId)} {nodes : List NodeId} {a b : NodeId} :
    Within arrows (distinct nodes) a b ↔ Within arrows nodes a b := by
  rw [Within, Within, mem_distinct, mem_distinct]

/--
**The topological order of a set of nodes lists its members, and sources before targets unless there
is a cycle between them.** Other edges of the graph may form cycles or lead nowhere. What can influence
a node of a graph without cycles has this node in the last place.
-/
theorem topologicalOrder_linearises (g : Graph) (nodes : List NodeId) :
    g.Linearises nodes (g.topologicalOrder nodes) ∧
    ∀ id, (∀ key, key ∈ nodes ↔ key ∈ g.ancestors id) → Acyclic g.arrows →
      g.nodes.contains id = true → (g.topologicalOrder nodes).getLast? = some id := by
  refine ⟨⟨nodup_linearise nodes, fun key => mem_linearise, fun hnone e he hsource htarget => ?_⟩, ?_⟩
  · have hbehind : HeadsBehind g.arrows (distinct nodes) (linearise g.arrows nodes) := by
      refine headsBehind_linearise fun key hcycle => hnone key ?_
      exact TransGen.mono (fun _ _ h => within_distinct.1 h) key key hcycle
    have harrow : Within g.arrows (distinct nodes) e.source e.target :=
      within_distinct.2 ⟨arrow_iff.2 ⟨e, he, rfl, rfl⟩, hsource, htarget⟩
    exact hbehind.idxOf_lt (nodup_linearise nodes) harrow (mem_linearise.2 hsource)
  · intro id hnodes hacyclic hid
    obtain ⟨pre, hlast⟩ := topologicalOrder_eq_append hacyclic hnodes hid
    rw [hlast, List.getLast?_concat]

/-- Two mixes feed each other, and an edge from nowhere ends at a third, which feeds a fourth. -/
def tangled : Graph where
  name := "Tangled"
  nextId := 5
  nodes := .ofList ([1, 2, 3, 4].map fun key => (key, .new key .mix))
  edges := .ofList ([
    ⟨⟨1⟩, 1, "out", 2, "a"⟩, ⟨⟨2⟩, 2, "out", 1, "a"⟩, ⟨⟨3⟩, 9, "out", 3, "a"⟩,
    ⟨⟨4⟩, 3, "out", 4, "b"⟩].map fun e => (e.id, e))

/-- The same without the two mixes that feed each other. -/
def untangled : Graph :=
  { tangled with edges := tangled.edges.filter fun _ e => e.source ∈ [3, 9] }

/-- Beside a cycle the order is right, also for what is no node; without it, what is made is last. -/
theorem topologicalOrder_tangled :
    ¬Acyclic tangled.arrows ∧
    (tangled.topologicalOrder [4, 3, 9]).idxOf 9 < (tangled.topologicalOrder [4, 3, 9]).idxOf 3 ∧
    (tangled.topologicalOrder [4, 3, 9]).idxOf 3 < (tangled.topologicalOrder [4, 3, 9]).idxOf 4 ∧
    [9, 4, 3].Perm (untangled.ancestors 4) ∧ Acyclic untangled.arrows ∧
    (untangled.topologicalOrder [9, 4, 3]).getLast? = some 4 := by
  have hcycle : ¬Acyclic tangled.arrows := by
    intro hacyclic
    have hthere : Arrow tangled.arrows 1 2 := arrow_iff.2 (by decide +kernel)
    have hback : Arrow tangled.arrows 2 1 := arrow_iff.2 (by decide +kernel)
    exact hacyclic 1 (.head hthere (.single hback))
  -- the edges beside the cycle lead from nowhere to 3 and on to 4
  have hnone : ∀ key, ¬TransGen (Within tangled.arrows [4, 3, 9]) key key := by
    refine not_transGen_self (fun key => if key = 9 then 0 else key.toNat) ?_
    rintro a b ⟨hab, ha, hb⟩
    obtain ⟨e, he, rfl, rfl⟩ := arrow_iff.1 hab
    have hrises : ∀ e ∈ tangled.edgeList, e.source ∈ [4, 3, 9] → e.target ∈ [4, 3, 9] →
        (if e.source = 9 then 0 else e.source.toNat)
          < if e.target = 9 then 0 else e.target.toNat := by decide +kernel
    exact hrises e he ha hb
  have hacyclic : Acyclic untangled.arrows :=
    acyclic_of_rises (fun key => if key = 9 then 0 else key.toNat) (by decide +kernel)
  have hfirst : (⟨⟨3⟩, 9, "out", 3, "a"⟩ : Edge) ∈ tangled.edgeList := by decide +kernel
  have hsecond : (⟨⟨4⟩, 3, "out", 4, "b"⟩ : Edge) ∈ tangled.edgeList := by decide +kernel
  obtain ⟨⟨-, -, hbefore⟩, -⟩ := topologicalOrder_linearises tangled [4, 3, 9]
  have hperm : [9, 4, 3].Perm (untangled.ancestors 4) := by decide +kernel
  obtain ⟨-, hlast⟩ := topologicalOrder_linearises untangled [9, 4, 3]
  exact ⟨hcycle, hbefore hnone _ hfirst (by decide) (by decide),
    hbefore hnone _ hsecond (by decide) (by decide), hperm, hacyclic,
    hlast 4 (fun _ => hperm.mem_iff) hacyclic (by decide +kernel)⟩

end Graph

end ShadingGraph
