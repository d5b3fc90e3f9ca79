import ShadingGraph.Binary32
import ShadingGraph.Command
import ShadingGraph.Compiler
import ShadingGraph.Distinct
import ShadingGraph.Document.Basic
import ShadingGraph.Document.Graph
import ShadingGraph.Document.Shader
import ShadingGraph.Document.Value
import ShadingGraph.Edge
import ShadingGraph.Emission.Basic
import ShadingGraph.Emission.Kinds
import ShadingGraph.Emission.Scope
import ShadingGraph.Export
import ShadingGraph.Generate
import ShadingGraph.Glsl.Constant
import ShadingGraph.Glsl.Conversion
import ShadingGraph.Glsl.Expr
import ShadingGraph.Glsl.Program
import ShadingGraph.Glsl.Varying
import ShadingGraph.Graph.Basic
import ShadingGraph.Graph.Edit
import ShadingGraph.Graph.History
import ShadingGraph.Graph.Order
import ShadingGraph.Graph.Reach
import ShadingGraph.Graph.Resolve
import ShadingGraph.Json.Basic
import ShadingGraph.Json.Printer
import ShadingGraph.Json.Reader
import ShadingGraph.Kind
import ShadingGraph.Main
import ShadingGraph.Node
import ShadingGraph.Number.Decimal
import ShadingGraph.Number.Format
import ShadingGraph.Number.Shortest
import ShadingGraph.Number.Staged
import ShadingGraph.Operator
import ShadingGraph.Optimizer
import ShadingGraph.OrderedMap
import ShadingGraph.Parameter
import ShadingGraph.Port
import ShadingGraph.Proofs.Acceptance
import ShadingGraph.Proofs.Document.Graph
import ShadingGraph.Proofs.Document.Key
import ShadingGraph.Proofs.Emission
import ShadingGraph.Proofs.Execution
import ShadingGraph.Proofs.Export
import ShadingGraph.Proofs.Glsl.Grouping
import ShadingGraph.Proofs.Glsl.Literal
import ShadingGraph.Proofs.Glsl.Readback
import ShadingGraph.Proofs.Glsl.Scope
import ShadingGraph.Proofs.Glsl.Soundness
import ShadingGraph.Proofs.Glsl.Source
import ShadingGraph.Proofs.Glsl.Typing
import ShadingGraph.Proofs.Glsl.Unambiguous
import ShadingGraph.Proofs.Glsl.Value
import ShadingGraph.Proofs.Glsl.Walk
import ShadingGraph.Proofs.Graph.Commuting
import ShadingGraph.Proofs.Graph.Connecting
import ShadingGraph.Proofs.Graph.Direction
import ShadingGraph.Proofs.Graph.Lockstep
import ShadingGraph.Proofs.Graph.Paths
import ShadingGraph.Proofs.Graph.Pruning
import ShadingGraph.Proofs.Graph.Reachable
import ShadingGraph.Proofs.Graph.Reordering
import ShadingGraph.Proofs.Graph.Repair
import ShadingGraph.Proofs.Graph.Resetting
import ShadingGraph.Proofs.Graph.Resolution
import ShadingGraph.Proofs.Graph.Runs
import ShadingGraph.Proofs.Graph.Schedule
import ShadingGraph.Proofs.Graph.Step
import ShadingGraph.Proofs.Graph.Types
import ShadingGraph.Proofs.Graph.WellFormed
import ShadingGraph.Proofs.Interface
import ShadingGraph.Proofs.Json.Layout
import ShadingGraph.Proofs.Json.Numeral
import ShadingGraph.Proofs.Json.Quoted
import ShadingGraph.Proofs.Kind
import ShadingGraph.Proofs.Liveness
import ShadingGraph.Proofs.Meaning
import ShadingGraph.Proofs.Names
import ShadingGraph.Proofs.Node
import ShadingGraph.Proofs.Number.Nearest
import ShadingGraph.Proofs.Number.Shortest
import ShadingGraph.Proofs.OrderedMap
import ShadingGraph.Proofs.Parameter
import ShadingGraph.Proofs.Persistence
import ShadingGraph.Proofs.Program
import ShadingGraph.Proofs.Rearrangement
import ShadingGraph.Proofs.Reexport
import ShadingGraph.Proofs.Refusal
import ShadingGraph.Proofs.Registry
import ShadingGraph.Proofs.Scoping
import ShadingGraph.Proofs.Session
import ShadingGraph.Proofs.Settings.Layout
import ShadingGraph.Proofs.Settings.Number
import ShadingGraph.Proofs.Settings.Readback
import ShadingGraph.Proofs.Settings.Record
import ShadingGraph.Proofs.Slots
import ShadingGraph.Proofs.Source
import ShadingGraph.Proofs.Structure
import ShadingGraph.Proofs.Table
import ShadingGraph.Proofs.Text
import ShadingGraph.Proofs.Upstream
import ShadingGraph.Registry
import ShadingGraph.Sample
import ShadingGraph.Session
import ShadingGraph.Settings
import ShadingGraph.Settings.Extensions
import ShadingGraph.Settings.Number
import ShadingGraph.Settings.Printer
import ShadingGraph.Settings.Quoted
import ShadingGraph.Settings.Reader
import ShadingGraph.Settings.Skip
import ShadingGraph.Settings.Token
import ShadingGraph.Text.Basic
import ShadingGraph.Text.Identifier
import ShadingGraph.Text.Reader
import ShadingGraph.Text.Visible
import ShadingGraph.Value
import ShadingGraph.VecType
