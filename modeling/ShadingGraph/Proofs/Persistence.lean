import Mathlib.Logic.Equiv.Basic
import ShadingGraph.Proofs.Document.Graph
import ShadingGraph.Proofs.Graph.Reordering
import ShadingGraph.Sample

/-!
# Saved and loaded graphs

A graph may be saved with its maps in any order and with any blanks (`Graph.SavedAs`). Loading the text
gives a graph that holds the same, and that no later row of edits can tell from the first, whatever
identifiers the new edges get there (`Graph.loaded_alike`).
-/

namespace ShadingGraph

namespace Graph

variable {g g' : Graph}

/-- A text in which the graph may be saved. -/
def SavedAs (g : Graph) (s : String) : Prop :=
  ∃ stored : Graph, g.Alike (Equiv.refl _) stored ∧ stored.toJson.IsText s

theorem Alike.refl (g : Graph) : g.Alike (Equiv.refl _) g where
  name := rfl
  nextId := rfl
  nodes key := rel_refl Node.Alike.refl _
  edges id := by
    cases h : g.edge? id with
    | none => exact h
    | some e => exact h

theorem savedAs_compact (g : Graph) : g.SavedAs g.toJson.compact :=
  ⟨g, .refl g, Json.isText_compact _⟩

theorem savedAs_pretty (g : Graph) : g.SavedAs g.toJson.pretty :=
  ⟨g, .refl g, Json.isText_pretty _⟩

theorem Survives.load {s : String} (h : g.Survives) (hs : g.toJson.IsText s) :
    (Json.read? s).bind Graph.ofJson? = some g := by
  rw [hs.read?, Option.bind_some, ofJson?_toJson h]

/-- Identifiers that no edge has may be renamed. -/
theorem Alike.rename (h : g.Alike (Equiv.refl _) g') (hwf : g.WellFormed) {ρ : Equiv.Perm EdgeId}
    (hfixed : ∀ id, (g.edge? id).isSome → ρ id = id) : g.Alike ρ g' where
  name := h.name
  nextId := h.nextId
  nodes := h.nodes
  edges id := by
    cases hid : g.edge? id with
    | some e =>
      have hsame : ρ id = id := hfixed id (by rw [hid]; rfl)
      have he : e.rename ρ = e := by
        rw [Edge.rename, hwf.edge_id id e hid, hsame, ← hwf.edge_id id e hid]
      have hedge := h.edges id
      rw [hid] at hedge
      rw [hsame, Option.map_some, he]
      exact hedge
    | none =>
      -- an edge under the new identifier would keep it, so that two identifiers became one
      have hfree : g.edge? (ρ id) = none := by
        by_contra hne
        have hsome := Option.isSome_iff_ne_none.2 hne
        rw [ρ.injective (hfixed (ρ id) hsome), hid] at hsome
        exact absurd hsome (by decide)
      have hedge := h.edges (ρ id)
      rw [hfree] at hedge
      exact hedge

/--
**Saving and loading a graph loses nothing.** If its scalars survive as numbers, the texts that are
written for a graph load as the graph itself, and every text in which it may be saved loads as a graph
that holds the same in some order. Both graphs answer every later row of edits alike and hold the same
afterwards, where edges may be added to the loaded one under other identifiers.
-/
theorem loaded_alike (hg : g.Reachable) (hscalars : g.Survives) :
    (∀ s ∈ [g.toJson.compact, g.toJson.pretty], (Json.read? s).bind Graph.ofJson? = some g) ∧
    ∀ s, g.SavedAs s → ∃ loaded, (Json.read? s).bind Graph.ofJson? = some loaded ∧
      g.Alike (Equiv.refl _) loaded ∧
      ∀ (ρ : Equiv.Perm EdgeId) (edits : List Edit),
        (∀ id, (g.edge? id).isSome → ρ id = id) → g.AdmissibleAll edits →
        List.Forall₂ (Answer.Alike ρ) (g.answers edits) (loaded.answers (edits.map (Edit.rename ρ))) ∧
        (g.applyAll edits).Alike ρ (loaded.applyAll (edits.map (Edit.rename ρ))) := by
  constructor
  · intro s hs
    simp only [List.mem_cons, List.not_mem_nil, or_false] at hs
    rcases hs with rfl | rfl
    · exact hscalars.load (Json.isText_compact _)
    · exact hscalars.load (Json.isText_pretty _)
  · rintro s ⟨stored, halike, hs⟩
    have hstored : stored.Survives := fun x hx => hscalars x (halike.mem_scalars hx)
    refine ⟨stored, hstored.load hs, halike, ?_⟩
    intro ρ edits hfixed hedits
    exact (halike.rename hg.wellFormed hfixed).run hg hedits

/-- Two edits: an edge from the color of the sample graph to its end, and the end of the mixture. -/
def recoloring (id : EdgeId) : List Edit := [.addEdge id 2 "out" 6 "color", .removeNode 3]

/-- The new edge of the sample graph gets one identifier before saving and another after loading. -/
theorem loaded_alike_tintedNormals :
    ∃ loaded, (Json.read? Sample.tintedNormals.toJson.pretty).bind Graph.ofJson? = some loaded ∧
      List.Forall₂ (Answer.Alike (Equiv.swap ⟨7⟩ ⟨8⟩)) (Sample.tintedNormals.answers (recoloring ⟨7⟩))
        (loaded.answers (recoloring ⟨8⟩)) := by
  have hscalars : Sample.tintedNormals.Survives := by
    intro x hx
    rw [Binary32.survives_iff]
    revert x
    decide +kernel
  have hfree : ∀ id ∈ [(⟨7⟩ : EdgeId), ⟨8⟩], Sample.tintedNormals.edge? id = none := by
    decide +kernel
  have hfixed : ∀ id, (Sample.tintedNormals.edge? id).isSome →
      Equiv.swap (⟨7⟩ : EdgeId) ⟨8⟩ id = id := by
    intro id hid
    refine Equiv.swap_apply_of_ne_of_ne ?_ ?_
    · rintro rfl
      rw [hfree _ (by decide)] at hid
      exact absurd hid (by decide)
    · rintro rfl
      rw [hfree _ (by decide)] at hid
      exact absurd hid (by decide)
  have hedits : Sample.tintedNormals.AdmissibleAll (recoloring ⟨7⟩) :=
    ⟨hfree _ (by decide), trivial, trivial⟩
  have hrename : (recoloring ⟨7⟩).map (Edit.rename (Equiv.swap ⟨7⟩ ⟨8⟩)) = recoloring ⟨8⟩ := by
    simp [recoloring, Edit.rename]
  obtain ⟨loaded, hload, -, hlater⟩ :=
    (loaded_alike Sample.reachable_tintedNormals hscalars).2 _ (savedAs_pretty _)
  have hanswers := (hlater _ _ hfixed hedits).1
  rw [hrename] at hanswers
  exact ⟨loaded, hload, hanswers⟩

end Graph

end ShadingGraph
