import ShadingGraph.Distinct
import ShadingGraph.Glsl.Expr
import ShadingGraph.OrderedMap
import ShadingGraph.Port

/-!
# Looking up ports

The code of a node is made from expressions that stand for its ports. A `Scope` binds ports to
expressions and records what is looked up: a parameter that no code reads is not part of the shader,
and a lookup without a binding is a mistake in the declaration of a kind.

`Emit α` is a computation of an `α` that can do nothing but look up ports one after the other.
-/

namespace ShadingGraph

open Glsl

/-- Ports bound to expressions, and what has been looked up. -/
structure Scope where
  bound : OrderedMap PortId Expr
  /-- Bound ports that were looked up. -/
  read : List PortId
  /-- Lookups that found nothing, in order. -/
  missing : List PortId

namespace Scope

def empty : Scope := ⟨.empty, [], []⟩

/-- Bind a port. Binding it again keeps its place and whether it was read. -/
def bind (s : Scope) (port : PortId) (e : Expr) : Scope :=
  { s with bound := s.bound.insert port e }

/-- The scope in which the ports are bound one after the other. -/
def ofList (ports : List (PortId × Expr)) : Scope := ports.foldl (fun s p => s.bind p.1 p.2) empty

/-- Look up a port. Without a binding it stands for the empty text. -/
def lookup (s : Scope) (port : PortId) : Expr × Scope :=
  match s.bound.get? port with
  | some e => (e, { s with read := distinct (s.read ++ [port]) })
  | none => (.name "", { s with missing := s.missing ++ [port] })

/-- Whether a port was looked up while it was bound. -/
def wasRead (s : Scope) (port : PortId) : Bool := s.read.contains port

end Scope

/-- A computation that looks up ports. -/
inductive Emit (α : Type) where
  | done (result : α)
  | lookup (port : PortId) (next : Expr → Emit α)

namespace Emit

variable {α β : Type}

/-- First one computation, then the one that its result gives. -/
def andThen : Emit α → (α → Emit β) → Emit β
  | done a, f => f a
  | lookup port next, f => .lookup port fun e => (next e).andThen f

instance : Monad Emit where
  pure := done
  bind := andThen

/-- The expression bound to a port. -/
def port (id : PortId) : Emit Expr := .lookup id .done

/-- The expressions bound to several ports, looked up in order. -/
def ports : List PortId → Emit (List Expr)
  | [] => .done []
  | id :: ids => .lookup id fun e => (ports ids).andThen fun es => .done (e :: es)

/-- Run in a scope; gives the result and the scope with its record. -/
def run : Emit α → Scope → α × Scope
  | done a, s => (a, s)
  | lookup port next, s => (next (s.lookup port).1).run (s.lookup port).2

end Emit

end ShadingGraph
