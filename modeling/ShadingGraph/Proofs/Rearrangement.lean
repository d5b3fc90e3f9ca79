import Mathlib.Data.List.Permutation
import ShadingGraph.Proofs.Source
import ShadingGraph.Proofs.Structure

/-!
# Rearranged graphs

A graph is a rearrangement of another one (`Graph.Rearranged`) if it holds the same nodes, and its
edges lead from and to the same ports. The edges may be stored in another order and under other
identifiers. The order matters to the walk that schedules the nodes, and that is all it matters to:
the source declares the same, and its entry routine consists of the same blocks, one for each node
(`generate_rearranged`). In which order the blocks may come is part of `Graph.LaidOut`, which says how
the source is made up.
-/

namespace ShadingGraph

open Glsl Relation

/-- The first occurrences in lists with the same members. -/
theorem perm_distinct {α : Type} [DecidableEq α] {xs ys : List α} (h : ∀ a, a ∈ xs ↔ a ∈ ys) :
    (distinct xs).Perm (distinct ys) := by
  refine (List.perm_ext_iff_of_nodup (nodup_distinct xs) (nodup_distinct ys)).2 fun a => ?_
  rw [mem_distinct, mem_distinct, h]

/-- The order in which varyings are listed does not matter to the vertex stage. -/
theorem vertexSource_congr {vs ws : List Varying} (h : ∀ v, v ∈ vs ↔ v ∈ ws) :
    vertexSource vs = vertexSource ws := by
  have hused : usedVaryings vs = usedVaryings ws := by
    refine List.filter_congr fun v _ => ?_
    rw [Bool.eq_iff_iff, List.contains_iff_mem, List.contains_iff_mem, h]
  rw [vertexSource, vertexSource, vertexLines, vertexLines, hused]

namespace Graph

variable {g g' : Graph} {key sink : NodeId} {n : Node}

/-! ## How the source is made up -/

/-- The lines of the block of a node. -/
def blockLines (g : Graph) (key : NodeId) : List String :=
  match g.code? key with
  | some c => c.block.statements.map indented
  | none => []

/-- A block declares the outputs of its node, and has one more line, an assignment or a call. -/
theorem blockLines_of_node? (hn : g.node? key = some n) :
    g.blockLines key =
      (n.spec.outputs.map fun o => indented (.declare (n.outType o.id) (outputName key o.id)))
        ++ [indented (n.statement (g.portExpr n key))] := by
  rw [blockLines, code?_of_node? hn]
  dsimp only
  rw [block_nodeCode]
  simp [Block.statements, Function.comp_def]

/--
The fragment source of a graph with a sink: the declarations, the shared functions, an empty line, and
the entry routine, in which the blocks of the scheduled nodes follow each other.
-/
structure LaidOut (g : Graph) (sink : NodeId) : Prop where
  source : sourceLines g.generate.fragment =
    (g.program sink).varyings.map Varying.declaration ++
      (g.program sink).uniforms.map Uniform.text ++ (g.program sink).functionLines ++
      "" :: entryLines g.generate.fragment
  entry : entryLines g.generate.fragment =
    mainHeader :: (g.schedule sink).flatMap g.blockLines ++ ["\x7d"]
  once : (g.schedule sink).Nodup
  block : ∀ key ∈ g.schedule sink, ∃ n, g.node? key = some n ∧
    g.blockLines key =
      (n.spec.outputs.map fun o => indented (.declare (n.outType o.id) (outputName key o.id)))
        ++ [indented (n.statement (g.portExpr n key))]
  /-- The blocks that an edge comes from stand before the one that it leads to. -/
  producersFirst : ∀ pre key post, g.schedule sink = pre ++ key :: post →
    ∀ e ∈ g.edgeList, e.target = key → e.source ∈ pre

theorem map_indented_statements (g : Graph) (sink : NodeId) :
    (g.program sink).statements.map indented = (g.schedule sink).flatMap g.blockLines := by
  have hblock : ∀ key, g.blockLines key
      = ((g.code? key).toList.map NodeCode.block).flatMap fun b => b.statements.map indented := by
    intro key
    unfold blockLines
    cases g.code? key <;> simp
  have hcodes : g.codes sink = (g.schedule sink).flatMap fun key => (g.code? key).toList :=
    List.filterMap_eq_flatMap_toList ..
  rw [Program.statements, blocks_program, hcodes, List.map_flatMap, List.map_flatMap,
    List.flatMap_assoc, ← funext hblock]

/-- **The source of a graph is laid out by its schedule.** -/
theorem WellFormed.laidOut (h : g.WellFormed) (hsink : g.sink? = some sink) : g.LaidOut sink := by
  have hlegible := h.legible_program sink
  have hentry : entryLines g.generate.fragment = (g.program sink).mainLines := by
    rw [generate_fragment hsink, hlegible.entryLines_source]
  constructor
  · rw [hentry, generate_fragment hsink, hlegible.sourceLines_source]
    rfl
  · rw [hentry, Program.mainLines, map_indented_statements]
  · exact nodup_schedule g sink
  · intro key hkey
    obtain ⟨n, hn⟩ := h.exists_node hkey
    exact ⟨n, hn, blockLines_of_node? hn⟩
  · intro pre key post hsplit e he htarget
    exact source_mem_before h.acyclic hsplit he htarget

/-! ## Rearrangements -/

/-- The same nodes, and edges with the same ends, in any order and under any identifiers. -/
structure Rearranged (g g' : Graph) : Prop where
  nodes : ∀ key, g'.node? key = g.node? key
  edges : ∀ source out target port, g.Wired source out target port ↔ g'.Wired source out target port

namespace Rearranged

variable (hsame : g.Rearranged g')

include hsame

theorem sameShape : g.SameShape g' where
  kinds key := by rw [hsame.nodes]
  controls key port := by rw [control?, control?, hsame.nodes]
  edges := hsame.edges

theorem reaches_iff (a b : NodeId) : Reaches g'.arrows a b ↔ Reaches g.arrows a b := by
  have hwired : ∀ (g : Graph) a b, Arrow g.arrows a b ↔ ∃ out port, g.Wired a out b port := by
    intro g a b
    rw [arrow_iff]
    constructor
    · rintro ⟨e, he, hsource, htarget⟩
      exact ⟨e.sourcePort, e.targetPort, e, he, hsource, rfl, htarget, rfl⟩
    · rintro ⟨out, port, e, he, hsource, -, htarget, -⟩
      exact ⟨e, he, hsource, htarget⟩
  have harrow : Arrow g'.arrows = Arrow g.arrows := by
    funext a b
    rw [hwired, hwired]
    simp only [hsame.edges]
  rw [Reaches, harrow]

/-- The same nodes are scheduled, in whatever order. -/
theorem perm_schedule (sink : NodeId) : (g'.schedule sink).Perm (g.schedule sink) := by
  have hcontains := hsame.sameShape.contains_eq sink
  refine (List.perm_ext_iff_of_nodup (nodup_schedule g' sink) (nodup_schedule g sink)).2 fun key => ?_
  rw [mem_schedule, mem_schedule, hcontains, hsame.reaches_iff]

variable (h : g.Reachable) (h' : g'.Reachable)

include h h'

/-- **The code of a node is the same.** -/
theorem code?_eq (key : NodeId) : g'.code? key = g.code? key := by
  rw [code?, code?, hsame.nodes]
  refine Option.map_congr fun n _ => ?_
  exact nodeCode_congr fun i _ => hsame.sameShape.supply?_eq h h' key i

theorem blockLines_eq (key : NodeId) : g'.blockLines key = g.blockLines key := by
  rw [blockLines, blockLines, hsame.code?_eq h h']

theorem perm_codes (sink : NodeId) : (g'.codes sink).Perm (g.codes sink) := by
  have hcode : g'.code? = g.code? := funext (hsame.code?_eq h h')
  show ((g'.schedule sink).filterMap g'.code?).Perm ((g.schedule sink).filterMap g.code?)
  rw [hcode]
  exact (hsame.perm_schedule sink).filterMap g.code?

theorem perm_varyings (sink : NodeId) :
    (g'.program sink).varyings.Perm (g.program sink).varyings :=
  perm_distinct fun _ => ((hsame.perm_codes h h' sink).flatMap_right NodeCode.varyings).mem_iff

theorem perm_uniforms (sink : NodeId) :
    (g'.program sink).uniforms.Perm (g.program sink).uniforms :=
  ((hsame.perm_codes h h' sink).flatMap_right NodeCode.parameters).map _

omit h h' in
/-- The functions are those of the same nodes, and each is there once. -/
theorem perm_functions (sink : NodeId) :
    (g'.program sink).functions.Perm (g.program sink).functions := by
  have hnd : ∀ g : Graph, (g.program sink).functions.Nodup :=
    fun g => List.Pairwise.of_map Prod.fst (fun _ _ hne heq => hne (congrArg Prod.fst heq))
      (OrderedMap.nodup _)
  refine (List.perm_ext_iff_of_nodup (hnd g') (hnd g)).2 fun p => ?_
  constructor
  · intro hp
    obtain ⟨key, hkey, n, f, hn, hf, rfl⟩ := of_mem_functions hp
    rw [hsame.nodes] at hn
    exact mem_functions_of_node? ((hsame.perm_schedule sink).mem_iff.1 hkey) hn hf
  · intro hp
    obtain ⟨key, hkey, n, f, hn, hf, rfl⟩ := of_mem_functions hp
    rw [← hsame.nodes] at hn
    exact mem_functions_of_node? ((hsame.perm_schedule sink).mem_iff.2 hkey) hn hf

/-- The tables have the same entries. -/
theorem get?_parameters (hsink : g.sink? = some sink) (name : String) :
    g'.generate.parameters.get? name = g.generate.parameters.get? name := by
  have hsink' : g'.sink? = some sink := (hsame.sameShape.sink?_eq h h').trans hsink
  apply Option.ext
  intro p
  rw [← OrderedMap.mem_entries, ← OrderedMap.mem_entries, entries_parameters hsink,
    entries_parameters hsink']
  exact ((hsame.perm_codes h h' sink).flatMap_right NodeCode.parameters).mem_iff

end Rearranged

/--
**The order of the edges decides in which order blocks come, and nothing else.** A rearranged graph
has the same vertex source and the same sink. Its tables agree as maps, its source makes the same
declarations and has the same functions, and its entry routine consists of the same blocks; in both
sources a block stands behind those that it takes values from.
-/
theorem generate_rearranged (h : g.Reachable) (h' : g'.Reachable) (hsame : g.Rearranged g') :
    g'.generate.vertex = g.generate.vertex ∧
    g'.generate.hasOutput = g.generate.hasOutput ∧
    (∀ name, g'.generate.parameters.get? name = g.generate.parameters.get? name) ∧
    (g.sink? = none → g'.generate = g.generate) ∧
    ∀ sink, g.sink? = some sink → g'.sink? = some sink ∧
      (g'.program sink).varyings.Perm (g.program sink).varyings ∧
      (g'.program sink).uniforms.Perm (g.program sink).uniforms ∧
      (g'.program sink).functions.Perm (g.program sink).functions ∧
      (g'.schedule sink).Perm (g.schedule sink) ∧
      (∀ key ∈ g.schedule sink, g'.blockLines key = g.blockLines key) ∧
      g.LaidOut sink ∧ g'.LaidOut sink := by
  have hsink := hsame.sameShape.sink?_eq h h'
  cases hs : g.sink? with
  | none =>
    have heq : g'.generate = g.generate := by rw [generate, generate, hsink, hs]
    rw [heq]
    exact ⟨rfl, rfl, fun _ => rfl, fun _ => rfl, fun sink hsink => by cases hsink⟩
  | some sink =>
    have hs' : g'.sink? = some sink := hsink.trans hs
    refine ⟨?_, ?_, hsame.get?_parameters h h' hs, (fun hnone => by cases hnone), ?_⟩
    · rw [generate_of_sink? hs, generate_of_sink? hs']
      exact vertexSource_congr fun _ => (hsame.perm_varyings h h' sink).mem_iff
    · rw [generate_of_sink? hs, generate_of_sink? hs']
      rfl
    · rintro _ ⟨⟩
      exact ⟨hs', hsame.perm_varyings h h' sink, hsame.perm_uniforms h h' sink,
        hsame.perm_functions sink, hsame.perm_schedule sink,
        fun key _ => hsame.blockLines_eq h h' key, h.wellFormed.laidOut hs,
        h'.wellFormed.laidOut hs'⟩

/-- The sample graph with its edges added in the opposite order, and before the values. -/
def reordered : Graph :=
  (Graph.new "Reordered").applyAll
    (Sample.nodes ++ Sample.edges.reverse ++ Sample.values ++ Sample.positions)

/-- Nodes are the same if all that is stored in them is. -/
theorem nodes_eq_of_parts {m m' : OrderedMap NodeId Node}
    (hlabels : m.entries.map (fun e => (e.1, e.2.id, e.2.kind, e.2.name, e.2.position))
      = m'.entries.map fun e => (e.1, e.2.id, e.2.kind, e.2.name, e.2.position))
    (hstored : m.entries.map (fun e => (e.2.values, e.2.markerTypes, e.2.outputTypes))
      = m'.entries.map fun e => (e.2.values, e.2.markerTypes, e.2.outputTypes)) : m = m' := by
  have hinj : Function.Injective fun e : NodeId × Node =>
      ((e.1, e.2.id, e.2.kind, e.2.name, e.2.position),
        (e.2.values, e.2.markerTypes, e.2.outputTypes)) := by
    rintro ⟨key, n⟩ ⟨key', n'⟩ h
    cases n
    cases n'
    simp_all
  have hzip := congrArg₂ List.zip hlabels hstored
  rw [List.zip_map', List.zip_map'] at hzip
  exact OrderedMap.ext (List.map_injective_iff.2 hinj hzip)

theorem rearranged_reordered : Sample.tintedNormals.Rearranged reordered := by
  have hnodes : reordered.nodes = Sample.tintedNormals.nodes :=
    nodes_eq_of_parts (by decide +kernel) (by decide +kernel)
  have hends : (Sample.tintedNormals.edgeList.map Edge.ends).Perm
      (reordered.edgeList.map Edge.ends) := by decide +kernel
  refine ⟨fun key => congrArg (fun m => m.get? key) hnodes, fun source out target port => ?_⟩
  rw [wired_iff, wired_iff, hends.mem_iff]

theorem schedule_tintedNormals : Sample.tintedNormals.schedule 6 = [2, 1, 4, 3, 5, 6] := by
  have hcontains : Sample.tintedNormals.nodes.contains 6 = true := by decide +kernel
  have harrows : Sample.tintedNormals.arrows = [(1, 3), (2, 3), (3, 5), (4, 5), (5, 6)] := by
    decide +kernel
  have hreverse : Sample.tintedNormals.reverseArrows = [(3, 1), (3, 2), (5, 3), (5, 4), (6, 5)] := by
    decide +kernel
  rw [schedule, topologicalOrder, ancestors, harrows, hreverse, hcontains]
  cbv

theorem schedule_reordered : reordered.schedule 6 = [1, 2, 3, 4, 5, 6] := by
  have hcontains : reordered.nodes.contains 6 = true := by decide +kernel
  have harrows : reordered.arrows = [(5, 6), (4, 5), (3, 5), (2, 3), (1, 3)] := by decide +kernel
  have hreverse : reordered.reverseArrows = [(6, 5), (5, 4), (5, 3), (3, 2), (3, 1)] := by
    decide +kernel
  rw [schedule, topologicalOrder, ancestors, harrows, hreverse, hcontains]
  cbv

/-- The blocks of the reordered sample graph come in another order. -/
theorem generate_rearranged_reordered :
    Sample.tintedNormals.Reachable ∧ reordered.Reachable ∧
    Sample.tintedNormals.Rearranged reordered ∧ Sample.tintedNormals.sink? = some 6 ∧
    (reordered.program 6).functions.Perm (Sample.tintedNormals.program 6).functions ∧
    entryLines Sample.tintedNormals.generate.fragment =
      mainHeader :: [2, 1, 4, 3, 5, 6].flatMap Sample.tintedNormals.blockLines ++ ["\x7d"] ∧
    entryLines reordered.generate.fragment =
      mainHeader :: [1, 2, 3, 4, 5, 6].flatMap reordered.blockLines ++ ["\x7d"] := by
  have hreachable : reordered.Reachable :=
    reachable_applyAll _ _ (by decide +kernel) (by decide +kernel)
  have hsink : Sample.tintedNormals.sink? = some 6 := by decide +kernel
  have hrearranged :=
    generate_rearranged Sample.reachable_tintedNormals hreachable rearranged_reordered
  obtain ⟨-, -, -, hfunctions, -, -, hlaid, hlaid'⟩ := hrearranged.2.2.2.2 6 hsink
  refine ⟨Sample.reachable_tintedNormals, hreachable, rearranged_reordered, hsink, hfunctions, ?_, ?_⟩
  · rw [← schedule_tintedNormals]
    exact hlaid.entry
  · rw [← schedule_reordered]
    exact hlaid'.entry

end Graph

end ShadingGraph
