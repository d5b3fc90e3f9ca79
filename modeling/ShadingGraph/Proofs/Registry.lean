import ShadingGraph.Proofs.Emission
import ShadingGraph.Registry

/-!
# Checked registries

What `Registry.validate` answers for a registry made by registering any declarations one after the
other. `Registry.Holds` says which declarations it then holds, `Registry.Valid` what is asked of them,
and `Registry.FirstMistake` which mistake is reported if they are not valid. All three speak of ports,
outputs and lookups only, and not of the searches for mistakes.

The code of a declaration is tried once, for a new node of its kind. `Declaration.lookups` are the ports
that it then looks up, in order.

Main statement: `validate_registered`.
-/

namespace ShadingGraph

open Glsl

/-! ## What a registry holds -/

/-- What is left of declarations that were registered one after the other. -/
structure Registry.Holds (r : Registry) (ds : List Declaration) : Prop where
  /-- Kinds stand in the order in which they came first. -/
  kinds : r.toList.map Declaration.kind = distinct (ds.map Declaration.kind)
  /-- Of every kind the last declaration is there. -/
  latest : ∀ d ∈ r.toList, ∃ earlier later, ds = earlier ++ d :: later ∧
    ∀ d' ∈ later, d'.kind ≠ d.kind

namespace Registry

/-- The registry made by registering declarations one after the other. -/
def registered (ds : List Declaration) : Registry := ds.foldl register empty

theorem declarations_registered (ds : List Declaration) :
    (registered ds).declarations = .ofList (ds.map fun d => (d.kind, d)) := by
  have key : ∀ r : Registry, (ds.foldl register r).declarations
      = r.declarations.insertAll (ds.map fun d => (d.kind, d)) := by
    induction ds with
    | nil => exact fun _ => rfl
    | cons d ds ih => exact fun r => ih (r.register d)
  exact key empty

/-- **A registry holds the last declaration of every kind, in the place of the first one.** -/
theorem holds_registered (ds : List Declaration) : (registered ds).Holds ds := by
  have hfound : ∀ {k d}, (registered ds).declarations.get? k = some d →
      d.kind = k ∧ ∃ earlier later, ds = earlier ++ d :: later ∧ ∀ d' ∈ later, d'.kind ≠ k := by
    intro k d h
    rw [declarations_registered] at h
    rcases OrderedMap.get?_insertAll_cases h with ⟨earlier, later, hsplit, hlast⟩ | ⟨-, h⟩
    · obtain ⟨before, rest, rfl, rfl, hrest⟩ := List.map_eq_append_iff.1 hsplit
      obtain ⟨d', after, rfl, hd, rfl⟩ := List.map_eq_cons_iff.1 hrest
      obtain ⟨rfl, rfl⟩ := Prod.mk.inj hd
      refine ⟨rfl, before, after, rfl, fun d'' hd'' heq => hlast ?_⟩
      simpa using ⟨d'', hd'', heq⟩
    · cases h
  constructor
  · have hkind : ∀ e ∈ (registered ds).declarations.entries, e.2.kind = e.1 :=
      fun e he => (hfound (OrderedMap.mem_entries.1 he)).1
    have hkeys : (registered ds).toList.map Declaration.kind = (registered ds).declarations.keys := by
      rw [toList, OrderedMap.values, List.map_map]
      exact List.map_congr_left hkind
    rw [hkeys, declarations_registered, OrderedMap.ofList, OrderedMap.keys_insertAll, List.map_map]
    rfl
  · intro d hd
    obtain ⟨k, hk⟩ := OrderedMap.mem_values.1 hd
    obtain ⟨rfl, hsplit⟩ := hfound hk
    exact hsplit

end Registry

/-! ## The trial run -/

theorem Emit.missing_run_eq {α : Type} (m : Emit α) (s : Scope) :
    (m.run s).2.missing
      = s.missing ++ (m.reads s.expr).filter fun port => (s.bound.get? port).isNone := by
  induction m generalizing s with
  | done a => simp [run, reads]
  | lookup port next ih =>
    rw [run, ih, Scope.expr_lookup, Scope.bound_lookup, Scope.lookup_fst, reads, List.filter_cons,
      Scope.lookup]
    cases h : s.bound.get? port <;> simp

namespace Declaration

variable {d : Declaration} {e : RegistryError}

/-- Whether the code may look up a port: an input that is no control, or an output. -/
def Offers (d : Declaration) (port : PortId) : Prop :=
  (∃ i ∈ d.spec.inputs, i.role ≠ .control ∧ i.id = port) ∨ ∃ o ∈ d.spec.outputs, o.id = port

/-- What stands for a port in the trial run; nothing stands for a port that is not offered. -/
def trialExpr (d : Declaration) (port : PortId) : Expr :=
  if d.spec.outputs.any (·.id = port) then .name ("o_" ++ port)
  else if d.spec.inputs.any fun i => i.role ≠ .control ∧ i.id = port then .name ("i_" ++ port)
  else .name ""

/-- The ports that the code looks up in the trial run, in order. -/
def lookups (d : Declaration) : List PortId := (d.emit (.new 0 d.kind)).reads d.trialExpr

theorem isSome_bound_trial (d : Declaration) (port : PortId) :
    ((Scope.ofList d.trialBindings).bound.get? port).isSome = true ↔ d.Offers port := by
  rw [Scope.bound_ofList, ← OrderedMap.contains_eq_isSome, OrderedMap.contains_iff,
    OrderedMap.ofList, OrderedMap.keys_insertAll]
  simp [OrderedMap.keys, OrderedMap.empty, mem_distinctFrom, trialBindings, Offers, and_assoc]

theorem expr_trial (d : Declaration) : (Scope.ofList d.trialBindings).expr = d.trialExpr := by
  funext port
  have hbound : OrderedMap.ofList d.trialBindings
      = (OrderedMap.empty.insertAll <| ((d.spec.inputs.filter fun i => i.role ≠ .control).map
          InputSpec.id).map fun id => (id, Expr.name ("i_" ++ id))).insertAll
        ((d.spec.outputs.map OutputSpec.id).map fun id => (id, .name ("o_" ++ id))) := by
    rw [List.map_map, List.map_map]
    exact List.foldl_append
  have hout : port ∈ d.spec.outputs.map OutputSpec.id ↔ d.spec.outputs.any (·.id = port) = true := by
    simp
  have hin : port ∈ (d.spec.inputs.filter fun i => i.role ≠ .control).map InputSpec.id ↔
      (d.spec.inputs.any fun i => i.role ≠ .control ∧ i.id = port) = true := by
    simp [and_assoc]
  rw [Scope.expr, Scope.bound_ofList, hbound, OrderedMap.get?_insertAll_map,
    OrderedMap.get?_insertAll_map, trialExpr]
  simp only [hout, hin]
  split
  · rfl
  split <;> rfl

theorem isNone_bound_trial (d : Declaration) (port : PortId) :
    ((Scope.ofList d.trialBindings).bound.get? port).isNone = true ↔ ¬d.Offers port := by
  rw [← isSome_bound_trial, Option.isNone_iff_eq_none, Bool.not_eq_true, Option.isSome_eq_false_iff,
    Option.isNone_iff_eq_none]

theorem undeclared_eq (d : Declaration) : d.undeclared = d.lookups.filter fun port =>
    ((Scope.ofList d.trialBindings).bound.get? port).isNone := by
  rw [undeclared, Emit.missing_run_eq, Scope.missing_ofList, expr_trial, List.nil_append, lookups]

end Declaration

/-! ## Mistakes in a declaration -/

/-- Whether the type of an output can be found: it is fixed, or a marker or control says it. -/
def KindSpec.Determines (s : KindSpec) (o : OutputSpec) : Prop :=
  match o.rule with
  | .fixed _ => True
  | .dynamic m => ∃ i ∈ s.inputs, i.role = .dynamic m
  | .selected control =>
    ∃ i ∈ s.inputs, i.id = control ∧ i.role = .control ∧ ∃ ty, i.initial = .type ty

/-- What is asked of a declaration. -/
structure Declaration.Valid (d : Declaration) : Prop where
  ports : d.spec.portIds.Nodup
  outputs : ∀ o ∈ d.spec.outputs, d.spec.Determines o
  lookups : ∀ port ∈ d.lookups, d.Offers port

/-- The mistake in a declaration that is reported. -/
inductive Declaration.FirstMistake (d : Declaration) : RegistryError → Prop
  /-- A port that repeats an earlier one, where the ports before it are distinct. -/
  | port {before after : List PortId} {port : PortId}
    (split : d.spec.portIds = before ++ port :: after)
    (distinct : before.Nodup) (repeated : port ∈ before) :
    FirstMistake d (.duplicatePort d.kind port)
  /-- The first output without a type, which follows a marker. -/
  | marker {before after : List OutputSpec} {o : OutputSpec} {m : Marker}
    (ports : d.spec.portIds.Nodup)
    (split : d.spec.outputs = before ++ o :: after)
    (determined : ∀ o' ∈ before, d.spec.Determines o') (rule : o.rule = .dynamic m)
    (unknown : ¬d.spec.Determines o) : FirstMistake d (.unknownMarker d.kind o.id)
  /-- The first output without a type, which a control selects. -/
  | control {before after : List OutputSpec} {o : OutputSpec} {control : PortId}
    (ports : d.spec.portIds.Nodup)
    (split : d.spec.outputs = before ++ o :: after)
    (determined : ∀ o' ∈ before, d.spec.Determines o') (rule : o.rule = .selected control)
    (unknown : ¬d.spec.Determines o) : FirstMistake d (.unknownControl d.kind o.id)
  /-- The first lookup of a port that is not offered. -/
  | lookup {before after : List PortId} {port : PortId}
    (ports : d.spec.portIds.Nodup)
    (outputs : ∀ o ∈ d.spec.outputs, d.spec.Determines o)
    (split : d.lookups = before ++ port :: after) (offered : ∀ p ∈ before, d.Offers p)
    (undeclared : ¬d.Offers port) : FirstMistake d (.undeclaredPort d.kind port)

section FirstRepeated

variable {α : Type} [DecidableEq α]

theorem firstRepeated?_eq_none_iff {seen xs : List α} :
    firstRepeated? seen xs = none ↔ xs.Nodup ∧ ∀ x ∈ xs, x ∉ seen := by
  induction xs generalizing seen with
  | nil => simp [firstRepeated?]
  | cons x xs ih =>
    rw [firstRepeated?]
    split
    · next hx => simp [hx]
    · next hx =>
      rw [ih, List.nodup_cons, List.forall_mem_cons]
      grind

theorem firstRepeated?_eq_some_iff {seen xs : List α} {a : α} :
    firstRepeated? seen xs = some a ↔
      ∃ before after, xs = before ++ a :: after ∧ before.Nodup ∧ (∀ x ∈ before, x ∉ seen) ∧
        (a ∈ seen ∨ a ∈ before) := by
  induction xs generalizing seen with
  | nil => simp [firstRepeated?]
  | cons x xs ih =>
    rw [firstRepeated?]
    split
    · next hx =>
      constructor
      · rintro ⟨⟩
        exact ⟨[], xs, rfl, List.nodup_nil, by simp, Or.inl hx⟩
      · rintro ⟨_ | ⟨y, before⟩, after, hsplit, -, hnew, -⟩
        · rw [(List.cons.inj hsplit).1]
        · rw [(List.cons.inj hsplit).1] at hx
          exact absurd hx (hnew y List.mem_cons_self)
    · next hx =>
      rw [ih]
      constructor
      · rintro ⟨before, after, rfl, hnodup, hnew, hrep⟩
        refine ⟨x :: before, after, rfl, List.nodup_cons.2 ⟨fun h => ?_, hnodup⟩, ?_, ?_⟩
        · exact hnew x h List.mem_cons_self
        · grind
        · grind
      · rintro ⟨_ | ⟨y, before⟩, after, hsplit, hnodup, hnew, hrep⟩
        · obtain ⟨rfl, rfl⟩ := List.cons.inj hsplit
          exact absurd (hrep.resolve_right List.not_mem_nil) hx
        · obtain ⟨rfl, rfl⟩ := List.cons.inj hsplit
          rw [List.nodup_cons] at hnodup
          exact ⟨before, after, rfl, hnodup.2, by grind, by grind⟩

end FirstRepeated

namespace KindSpec

variable {s : KindSpec}

/-- Where inputs have names of their own, it is clear what a control holds. -/
theorem isTypeControl_iff (h : (s.inputs.map InputSpec.id).Nodup) (control : PortId) :
    s.isTypeControl control = true ↔
      ∃ i ∈ s.inputs, i.id = control ∧ i.role = .control ∧ ∃ ty, i.initial = .type ty := by
  have hchosen : ∀ v : Value, v.chosenType?.isSome = true ↔ ∃ ty, v = .type ty := by
    intro v
    cases v <;> simp [Value.chosenType?]
  simp only [isTypeControl, Option.any_eq_true, Bool.and_eq_true, decide_eq_true_eq, hchosen]
  constructor
  · rintro ⟨i, hi, hrole, hty⟩
    obtain ⟨hmem, hid⟩ := mem_of_input? hi
    exact ⟨i, hmem, hid, hrole, hty⟩
  · rintro ⟨i, hmem, rfl, hrole, hty⟩
    exact ⟨i, find?_of_nodup h hmem, hrole, hty⟩

end KindSpec

namespace Declaration

variable {d : Declaration} {e : RegistryError}

theorem outputError?_eq_none_iff (h : (d.spec.inputs.map InputSpec.id).Nodup) (o : OutputSpec) :
    d.outputError? o = none ↔ d.spec.Determines o := by
  unfold outputError? KindSpec.Determines
  cases o.rule with
  | fixed ty => simp
  | dynamic m =>
    have hmarker : ∀ i : InputSpec, i.marker? = some m ↔ i.role = .dynamic m := by
      intro i
      unfold InputSpec.marker?
      split <;> simp_all
    simp [hmarker]
  | selected control => simp [← KindSpec.isTypeControl_iff h]

theorem outputError?_eq_some_iff (h : (d.spec.inputs.map InputSpec.id).Nodup) (o : OutputSpec) :
    d.outputError? o = some e ↔ ¬d.spec.Determines o ∧
      ((∃ m, o.rule = .dynamic m ∧ e = .unknownMarker d.kind o.id) ∨
        ∃ control, o.rule = .selected control ∧ e = .unknownControl d.kind o.id) := by
  rw [← outputError?_eq_none_iff h]
  unfold outputError?
  cases o.rule with
  | fixed ty => simp
  | dynamic m =>
    by_cases hm : m ∈ d.spec.inputs.filterMap InputSpec.marker?
    · simp only [if_pos hm]
      simp
    · simp only [if_neg hm]
      simp [eq_comm (a := e)]
  | selected control =>
    by_cases hcontrol : d.spec.isTypeControl control = true
    · simp only [if_pos hcontrol]
      simp
    · simp only [if_neg hcontrol]
      simp [eq_comm (a := e)]

theorem firstRepeated?_portIds {port : PortId} :
    firstRepeated? [] d.spec.portIds = some port ↔
      ∃ before after, d.spec.portIds = before ++ port :: after ∧ before.Nodup ∧ port ∈ before := by
  simp [firstRepeated?_eq_some_iff]

theorem firstRepeated?_portIds_eq_none :
    firstRepeated? [] d.spec.portIds = none ↔ d.spec.portIds.Nodup := by
  simp [firstRepeated?_eq_none_iff]

theorem head?_undeclared {port : PortId} :
    d.undeclared.head? = some port ↔
      ∃ before after, d.lookups = before ++ port :: after ∧ (∀ p ∈ before, d.Offers p) ∧
        ¬d.Offers port := by
  simp only [undeclared_eq, List.head?_filter, List.find?_eq_some_iff_append, isNone_bound_trial,
    Bool.not_eq_true', ← Bool.not_eq_true]
  grind

theorem head?_undeclared_eq_none :
    d.undeclared.head? = none ↔ ∀ port ∈ d.lookups, d.Offers port := by
  simp [undeclared_eq, List.head?_filter, ← isSome_bound_trial, Option.isSome_iff_ne_none]

theorem findSome?_outputs_eq_none (h : d.spec.portIds.Nodup) :
    d.spec.outputs.findSome? d.outputError? = none ↔ ∀ o ∈ d.spec.outputs, d.spec.Determines o := by
  rw [List.findSome?_eq_none_iff]
  exact forall₂_congr fun o _ => outputError?_eq_none_iff (List.nodup_append.1 h).1 o

/-- **A declaration without a mistake is valid.** -/
theorem error?_eq_none_iff : d.error? = none ↔ d.Valid := by
  rw [error?, Option.or_eq_none_iff, Option.or_eq_none_iff, Option.map_eq_none_iff,
    Option.map_eq_none_iff, firstRepeated?_portIds_eq_none, head?_undeclared_eq_none]
  constructor
  · rintro ⟨hports, houtputs, hlookups⟩
    exact ⟨hports, (findSome?_outputs_eq_none hports).1 houtputs, hlookups⟩
  · rintro ⟨hports, houtputs, hlookups⟩
    exact ⟨hports, (findSome?_outputs_eq_none hports).2 houtputs, hlookups⟩

theorem firstMistake_of_error? (h : d.error? = some e) : d.FirstMistake e := by
  rw [error?, Option.or_eq_some_iff, Option.or_eq_some_iff] at h
  rcases h with h | ⟨hnone, h⟩
  · obtain ⟨port, hport, rfl⟩ := Option.map_eq_some_iff.1 h
    obtain ⟨before, after, hsplit, hdistinct, hrepeated⟩ := firstRepeated?_portIds.1 hport
    exact .port hsplit hdistinct hrepeated
  have hports : d.spec.portIds.Nodup :=
    firstRepeated?_portIds_eq_none.1 (Option.map_eq_none_iff.1 hnone)
  have hinputs := (List.nodup_append.1 hports).1
  rcases h with h | ⟨hnone, h⟩
  · obtain ⟨before, o, after, hsplit, ho, hbefore⟩ := List.findSome?_eq_some_iff.1 h
    have hdetermined : ∀ o' ∈ before, d.spec.Determines o' :=
      fun o' ho' => (outputError?_eq_none_iff hinputs o').1 (hbefore o' ho')
    obtain ⟨hunknown, ⟨m, hrule, rfl⟩ | ⟨control, hrule, rfl⟩⟩ :=
      (outputError?_eq_some_iff hinputs o).1 ho
    · exact .marker hports hsplit hdetermined hrule hunknown
    · exact .control hports hsplit hdetermined hrule hunknown
  · obtain ⟨port, hport, rfl⟩ := Option.map_eq_some_iff.1 h
    obtain ⟨before, after, hsplit, hoffered, hundeclared⟩ := head?_undeclared.1 hport
    exact .lookup hports ((findSome?_outputs_eq_none hports).1 hnone) hsplit hoffered hundeclared

theorem error?_of_firstMistake (h : d.FirstMistake e) : d.error? = some e := by
  -- an output without a type, before which every output has one
  have houtput : ∀ {before after : List OutputSpec} {o : OutputSpec}, d.spec.portIds.Nodup →
      d.spec.outputs = before ++ o :: after → (∀ o' ∈ before, d.spec.Determines o') →
      d.outputError? o = some e → d.error? = some e := by
    intro before after o hports hsplit hdetermined ho
    have hfirst : d.spec.outputs.findSome? d.outputError? = some e :=
      List.findSome?_eq_some_iff.2 ⟨before, o, after, hsplit, ho, fun o' ho' =>
        (outputError?_eq_none_iff (List.nodup_append.1 hports).1 o').2 (hdetermined o' ho')⟩
    simp [error?, firstRepeated?_portIds_eq_none.2 hports, hfirst]
  cases h with
  | port split distinct repeated =>
    simp [error?, firstRepeated?_portIds.2 ⟨_, _, split, distinct, repeated⟩]
  | marker ports split determined rule unknown =>
    exact houtput ports split determined <| (outputError?_eq_some_iff (List.nodup_append.1 ports).1 _).2
      ⟨unknown, Or.inl ⟨_, rule, rfl⟩⟩
  | control ports split determined rule unknown =>
    exact houtput ports split determined <| (outputError?_eq_some_iff (List.nodup_append.1 ports).1 _).2
      ⟨unknown, Or.inr ⟨_, rule, rfl⟩⟩
  | lookup ports outputs split offered undeclared =>
    simp [error?, firstRepeated?_portIds_eq_none.2 ports, (findSome?_outputs_eq_none ports).2 outputs,
      head?_undeclared.2 ⟨_, _, split, offered, undeclared⟩]

/-- **What is reported of a declaration is its first mistake.** -/
theorem error?_eq_some_iff : d.error? = some e ↔ d.FirstMistake e :=
  ⟨firstMistake_of_error?, error?_of_firstMistake⟩

end Declaration

/-! ## Mistakes in a registry -/

namespace Registry

/-- How many kinds there are at which shaders end. -/
def sinkCount (r : Registry) : Nat := r.toList.countP fun d => d.spec.category = .output

/-- What is asked of a registry. -/
structure Valid (r : Registry) : Prop where
  sink : r.sinkCount = 1
  declarations : ∀ d ∈ r.toList, d.Valid

/-- The mistake in a registry that is reported. -/
inductive FirstMistake (r : Registry) : RegistryError → Prop
  | sinks (sinks : r.sinkCount ≠ 1) : FirstMistake r (.sinkCount r.sinkCount)
  /-- The first mistake of the first declaration that is not valid. -/
  | declaration {before after : List Declaration} {d : Declaration} {e : RegistryError}
    (sink : r.sinkCount = 1) (split : r.toList = before ++ d :: after)
    (valid : ∀ d' ∈ before, d'.Valid) (mistake : d.FirstMistake e) : FirstMistake r e

variable {r : Registry} {e : RegistryError}

theorem validate_eq (r : Registry) : r.validate =
    if r.sinkCount ≠ 1 then .error (.sinkCount r.sinkCount)
    else match r.toList.findSome? Declaration.error? with
      | some e => .error e
      | none => .ok () := by
  simp only [validate, KindSpec.isSink, sinkCount, List.countP_eq_length_filter]
  rfl

theorem validate_eq_ok_iff_valid : r.validate = .ok () ↔ r.Valid := by
  have hdeclarations : r.toList.findSome? Declaration.error? = none ↔ ∀ d ∈ r.toList, d.Valid := by
    rw [List.findSome?_eq_none_iff]
    exact forall₂_congr fun d _ => Declaration.error?_eq_none_iff
  rw [validate_eq]
  constructor
  · intro h
    split at h
    · cases h
    next hsink =>
    split at h
    · cases h
    · next hnone => exact ⟨Decidable.not_not.1 hsink, hdeclarations.1 hnone⟩
  · rintro ⟨hsink, hvalid⟩
    simp [hsink, hdeclarations.2 hvalid]

theorem validate_eq_error_iff : r.validate = .error e ↔ r.FirstMistake e := by
  rw [validate_eq]
  constructor
  · intro h
    split at h
    · next hsink =>
      cases h
      exact .sinks hsink
    next hsink =>
    split at h
    · next hsome =>
      cases h
      obtain ⟨before, d, after, hsplit, hd, hbefore⟩ := List.findSome?_eq_some_iff.1 hsome
      exact .declaration (Decidable.not_not.1 hsink) hsplit
        (fun d' hd' => Declaration.error?_eq_none_iff.1 (hbefore d' hd'))
        (Declaration.firstMistake_of_error? hd)
    · cases h
  · intro h
    cases h with
    | sinks hsink => rw [if_pos hsink]
    | @declaration before after d _ hsink hsplit hvalid hmistake =>
      have hfirst : r.toList.findSome? Declaration.error? = some e :=
        List.findSome?_eq_some_iff.2 ⟨before, d, after, hsplit,
          Declaration.error?_of_firstMistake hmistake,
          fun d' hd' => Declaration.error?_eq_none_iff.2 (hvalid d' hd')⟩
      simp [hsink, hfirst]

/--
**Whatever is registered, validation passes exactly what is valid, and else reports the first
mistake.** The number of kinds at which shaders end goes before any mistake in a declaration.
-/
theorem validate_registered (ds : List Declaration) :
    (registered ds).Holds ds ∧ ((registered ds).validate = .ok () ↔ (registered ds).Valid) ∧
    ∀ e, (registered ds).validate = .error e ↔ (registered ds).FirstMistake e :=
  ⟨holds_registered ds, validate_eq_ok_iff_valid, fun _ => validate_eq_error_iff⟩

/-- A declaration that replaces an earlier one is tried with its own ports. -/
example : (registered [⟨.value, Kind.color.spec, Kind.color.emit⟩, Kind.fragmentOutput.declaration,
    ⟨.value, Kind.math.spec, Kind.combine.emit⟩]).validate = .error (.undeclaredPort .value "x") := by
  decide +kernel

end Registry

end ShadingGraph
