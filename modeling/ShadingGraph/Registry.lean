import ShadingGraph.Emission.Kinds

/-!
# Registries of kinds

A registry holds declarations of kinds, each with its rule for code, in the order in which they were
registered; registering a kind again replaces it in its place. `Registry.validate` finds mistakes in
the declarations: it wants exactly one kind at which shaders end, and for every kind distinct ports,
outputs whose marker or control exists, and code that looks up declared ports only. Of several
mistakes the first one in this order is reported, kind by kind.
-/

namespace ShadingGraph

open Glsl

/-- A declaration of a kind with its rule for code. -/
structure Declaration where
  kind : Kind
  spec : KindSpec
  emit : Node → Emit Emission

/-- The built-in declaration of a kind. -/
def Kind.declaration (k : Kind) : Declaration := ⟨k, k.spec, k.emit⟩

/-- A mistake in a registry. -/
inductive RegistryError where
  | duplicatePort (kind : Kind) (port : PortId)
  /-- An output follows a marker that no input has. -/
  | unknownMarker (kind : Kind) (port : PortId)
  /-- An output is selected by something that is no control of types. -/
  | unknownControl (kind : Kind) (port : PortId)
  /-- The code looks up a port that is not declared. -/
  | undeclaredPort (kind : Kind) (port : PortId)
  /-- There is not exactly one kind at which shaders end. -/
  | sinkCount (count : Nat)
deriving DecidableEq, Repr

def RegistryError.message : RegistryError → String
  | duplicatePort kind port =>
    "Duplicate port `" ++ port ++ "` on node kind `" ++ kind.key ++ "`"
  | unknownMarker kind port =>
    "Output `" ++ port ++ "` of node kind `" ++ kind.key ++
      "` follows a marker with no dynamic input"
  | unknownControl kind port =>
    "Output `" ++ port ++ "` of node kind `" ++ kind.key ++
      "` is selected by a missing type control"
  | undeclaredPort kind port =>
    "Node kind `" ++ kind.key ++ "` emits code for undeclared port `" ++ port ++ "`"
  | sinkCount count => "Expected exactly one output node kind, found " ++ toString count

namespace KindSpec

/-- The ports, inputs first. -/
def portIds (k : KindSpec) : List PortId := k.inputs.map InputSpec.id ++ k.outputs.map OutputSpec.id

/-- Whether a port names a control of types. -/
def isTypeControl (k : KindSpec) (id : PortId) : Bool :=
  (k.input? id).any fun i => i.role = .control && i.initial.chosenType?.isSome

end KindSpec

/-- The first member of a list that repeats an earlier one. -/
def firstRepeated? {α : Type} [DecidableEq α] (seen : List α) : List α → Option α
  | [] => none
  | a :: rest => if a ∈ seen then some a else firstRepeated? (a :: seen) rest

namespace Declaration

/-- A mistake in how the type of an output is found. -/
def outputError? (d : Declaration) (o : OutputSpec) : Option RegistryError :=
  match o.rule with
  | .fixed _ => none
  | .dynamic m =>
    if m ∈ d.spec.inputs.filterMap InputSpec.marker? then none
    else some (.unknownMarker d.kind o.id)
  | .selected control =>
    if d.spec.isTypeControl control then none else some (.unknownControl d.kind o.id)

/-- The bindings for a trial run: every input but the controls, and every output. -/
def trialBindings (d : Declaration) : List (PortId × Expr) :=
  ((d.spec.inputs.filter fun i => i.role ≠ .control).map fun i => (i.id, .name ("i_" ++ i.id))) ++
  d.spec.outputs.map fun o => (o.id, .name ("o_" ++ o.id))

/-- What the code looks up in vain when it is run for a new node. -/
def undeclared (d : Declaration) : List PortId :=
  ((d.emit (.new 0 d.kind)).run (.ofList d.trialBindings)).2.missing

/-- The first mistake in a declaration. -/
def error? (d : Declaration) : Option RegistryError :=
  ((firstRepeated? [] d.spec.portIds).map (.duplicatePort d.kind)).or <|
  (d.spec.outputs.findSome? d.outputError?).or <|
  d.undeclared.head?.map (.undeclaredPort d.kind)

end Declaration

/-- Declarations by kind. -/
structure Registry where
  declarations : OrderedMap Kind Declaration

namespace Registry

def empty : Registry := ⟨.empty⟩

/-- Register a declaration, in the place of an earlier one of the same kind. -/
def register (r : Registry) (d : Declaration) : Registry := ⟨r.declarations.insert d.kind d⟩

def get? (r : Registry) (k : Kind) : Option Declaration := r.declarations.get? k

/-- The declarations in order. -/
def toList (r : Registry) : List Declaration := r.declarations.values

def inCategory (r : Registry) (c : Category) : List Declaration :=
  r.toList.filter fun d => d.spec.category = c

/-- Look for a mistake: the number of kinds at which shaders end first, then kind by kind. -/
def validate (r : Registry) : Except RegistryError Unit :=
  let sinks := (r.toList.filter fun d => d.spec.isSink).length
  if sinks ≠ 1 then .error (.sinkCount sinks)
  else match r.toList.findSome? Declaration.error? with
    | some e => .error e
    | none => .ok ()

/-- The built-in kinds. -/
def builtin : Registry := Kind.all.foldl (fun r k => r.register k.declaration) empty

end Registry

end ShadingGraph
