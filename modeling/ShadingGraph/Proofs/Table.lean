import ShadingGraph.Proofs.Program

/-!
# The parameter table

What stands in the parameter table of a well-formed graph: the inputs of scheduled nodes that the code
uses and no edge feeds (`WellFormed.get?_parameters`), in the order in which the codes of the nodes
declare them (`entries_parameters`). An entry says the type that its input has and the value that its
node holds, and these fit each other (`WellFormed.type?_of_parameter`).
-/

namespace ShadingGraph

open Glsl

namespace Graph

variable {g : Graph} {key sink : NodeId} {n : Node} {i : InputSpec} {name : String} {p : Parameter}

/-- The inputs that are no controls and that no edge feeds are parameters. -/
theorem WellFormed.parameter?_bindInput (h : g.WellFormed) (hn : g.node? key = some n)
    (hi : i ∈ n.spec.inputs) (hrole : i.role ≠ .control) :
    (g.bindInput n key i).parameter? = some (name, p) ↔
      g.incoming? key i.id = none ∧ name = parameterName key i.id ∧ p.node = key ∧
        p.port = i.id ∧ n.inputType? i.id = some p.type ∧ n.value? i.id = some p.value := by
  obtain ⟨v, hv, -⟩ := (h.fits key n hn).exists_value hi
  obtain ⟨ty, hty⟩ := Option.isSome_iff_exists.1
    (Node.isSome_inputType? hi (InputRole.parameterBacked_iff.2 hrole))
  cases he : g.incoming? key i.id with
  | some e => simp [bindInput, h.feed?_eq hn hi, he]
  | none =>
    obtain ⟨-, hparameter⟩ := bindInput_of_unfed he hv
    rw [hparameter, Node.inType, hty, hv]
    obtain ⟨node, port, type, value⟩ := p
    simp only [Option.getD_some, Option.some.injEq, Prod.mk.injEq, Parameter.mk.injEq, true_and]
    constructor
    · rintro ⟨rfl, rfl, rfl, rfl, rfl⟩
      exact ⟨rfl, rfl, rfl, rfl, rfl⟩
    · rintro ⟨rfl, rfl, rfl, rfl, rfl⟩
      exact ⟨rfl, rfl, rfl, rfl, rfl⟩

/-! ## Entries -/

theorem generate_of_sink? (hsink : g.sink? = some sink) :
    g.generate = .ofCodes (g.codes sink) := by
  rw [generate, hsink]

/-- The table lists the parameters as the codes of the nodes declare them. -/
theorem entries_parameters (hsink : g.sink? = some sink) :
    g.generate.parameters.entries = (g.codes sink).flatMap NodeCode.parameters := by
  rw [generate_of_sink? hsink]
  exact OrderedMap.entries_ofList (nodup_parameters g sink)

/-- **The entries of the table are the inputs that the code uses and no edge feeds.** -/
theorem WellFormed.get?_parameters (h : g.WellFormed) (hsink : g.sink? = some sink) :
    g.generate.parameters.get? name = some p ↔
      name = parameterName p.node p.port ∧ p.node ∈ g.schedule sink ∧
      g.incoming? p.node p.port = none ∧
      ∃ n, g.node? p.node = some n ∧ n.inputType? p.port = some p.type ∧
        n.value? p.port = some p.value ∧
        ∃ i ∈ n.spec.inputs, i.id = p.port ∧ i.role ≠ .control ∧ i.id ∈ n.usedInputs := by
  rw [← OrderedMap.mem_entries, entries_parameters hsink, List.mem_flatMap]
  constructor
  · rintro ⟨c, hc, hp⟩
    obtain ⟨key, hkey, n, hn, rfl⟩ := mem_codes.1 hc
    obtain ⟨i, hi, hbacked, hused, hp⟩ := mem_parameters_nodeCode.1 hp
    have hrole := InputRole.parameterBacked_iff.1 hbacked
    obtain ⟨hnone, rfl, hnode, hport, hty, hv⟩ := (h.parameter?_bindInput hn hi hrole).1 hp
    subst hnode
    rw [← hport] at hnone hty hv
    exact ⟨by rw [hport], hkey, hnone, n, hn, hty, hv, i, hi, hport.symm, hrole, hused⟩
  · rintro ⟨rfl, hkey, hnone, n, hn, hty, hv, i, hi, hport, hrole, hused⟩
    refine ⟨g.nodeCode n p.node, mem_codes.2 ⟨p.node, hkey, n, hn, rfl⟩, ?_⟩
    refine mem_parameters_nodeCode.2 ⟨i, hi, InputRole.parameterBacked_iff.2 hrole, hused, ?_⟩
    refine (h.parameter?_bindInput hn hi hrole).2 ?_
    rw [hport]
    exact ⟨hnone, rfl, rfl, rfl, hty, hv⟩

/-- The value of an entry has the type of the entry. -/
theorem WellFormed.type?_of_parameter (h : g.WellFormed)
    (hp : g.generate.parameters.get? name = some p) : p.value.type? = some p.type := by
  cases hsink : g.sink? with
  | none =>
    rw [generate, hsink] at hp
    cases hp
  | some sink =>
    obtain ⟨-, -, -, n, hn, hty, hv, i, hi, hport, hrole, -⟩ := (h.get?_parameters hsink).1 hp
    rw [← hport] at hty hv
    have hadmits := (h.fits p.node n hn).held i hi p.value hv
    rw [Node.admits_iff_of_ne_control hi hrole, hty, Option.getD_some] at hadmits
    exact hadmits

end Graph

end ShadingGraph
