import ShadingGraph.Emission.Scope
import ShadingGraph.Glsl.Program

/-!
# Code for a node

What a node adds to a shader: one statement, or a shared function with a call of it, and the varyings
that this code reads. A function may come with its own call; without one it is called with the inputs
of the node and then its outputs.
-/

namespace ShadingGraph

open Glsl

/-- Code for one node. -/
inductive Code where
  | statement (s : Stmt)
  /-- A shared function, told apart from others by its name. -/
  | function (name : String) (definition : Definition) (call? : Option Stmt)
deriving Repr

/-- Code for one node and the varyings that it reads. -/
structure Emission where
  code : Code
  varyings : List Varying
deriving Repr

namespace Emission

def statement (s : Stmt) : Emission := ⟨.statement s, []⟩

/-- The statement that assigns an expression. -/
def assignment (target value : Expr) : Emission := statement (.assign target value)

/-- A function that is called with all inputs and outputs of the node. -/
def function (name : String) (definition : Definition) : Emission :=
  ⟨.function name definition none, []⟩

/-- Give a function a call of its own. A statement stays as it is. -/
def withCall (e : Emission) (call : Stmt) : Emission :=
  match e.code with
  | .statement _ => e
  | .function name definition _ => { e with code := .function name definition (some call) }

/-- Note one more varying that the code reads. -/
def withVarying (e : Emission) (v : Varying) : Emission := { e with varyings := e.varyings ++ [v] }

/-- Whether the call passes every input, read or not. -/
def passesAll (e : Emission) : Bool :=
  match e.code with
  | .function _ _ none => true
  | _ => false

end Emission

end ShadingGraph
