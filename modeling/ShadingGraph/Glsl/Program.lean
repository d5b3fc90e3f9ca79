import ShadingGraph.Glsl.Expr
import ShadingGraph.Glsl.Varying

/-!
# Fragment programs

The fragment stage as data: declarations, shared functions, and the body of the entry routine in
blocks, one per node. `Program.source` is its text. A statement or a function may also be given as
text that stands as it is; the built-in kinds of nodes never do that.
-/

namespace ShadingGraph.Glsl

/-- Statement of the entry routine. -/
inductive Stmt where
  /-- Declare a local. -/
  | declare (ty : VecType) (name : String)
  | assign (target value : Expr)
  /-- Call a function that returns nothing. -/
  | call (function : String) (args : List Expr)
  | verbatim (text : String)
deriving Repr

def Stmt.text : Stmt → String
  | declare ty name => ty.spelling ++ " " ++ name ++ ";"
  | assign target value => target.text ++ " = " ++ value.text ++ ";"
  | call function args => function ++ argumentList (Expr.texts args) ++ ";"
  | verbatim text => text

/-- Parameter of a function. -/
structure FormalParameter where
  ty : VecType
  name : String
  /-- Whether the function writes it. -/
  isOut : Bool
deriving DecidableEq, Repr

def FormalParameter.text (p : FormalParameter) : String :=
  (if p.isOut then "out " else "") ++ p.ty.spelling ++ " " ++ p.name

/-- A function that returns nothing and assigns its out parameters. -/
structure Function where
  name : String
  formals : List FormalParameter
  /-- Assigned parameters and their values, in order. -/
  body : List (String × Expr)
deriving Repr

def Function.text (f : Function) : String :=
  "void " ++ f.name ++ argumentList (f.formals.map FormalParameter.text) ++ " \x7b\n" ++
  unlines (f.body.map fun a => "  " ++ (Stmt.assign (.name a.1) a.2).text) ++
  "\x7d"

/-- Definition of a shared function. -/
inductive Definition where
  | function (f : Function)
  | verbatim (source : String)
deriving Repr

def Definition.text : Definition → String
  | function f => f.text
  | verbatim source => source

/-- A uniform: a value that the renderer supplies. -/
structure Uniform where
  ty : VecType
  name : String
deriving DecidableEq, Repr

/-- The declaration of a uniform. -/
def Uniform.text (u : Uniform) : String := "uniform " ++ u.ty.spelling ++ " " ++ u.name ++ ";"

/-- The code of one node: its locals, and the statement that assigns them. -/
structure Block where
  locals : List (VecType × String)
  action : Stmt
deriving Repr

def Block.statements (b : Block) : List Stmt :=
  b.locals.map (fun l => .declare l.1 l.2) ++ [b.action]

/-- A fragment program. -/
structure Program where
  varyings : List Varying
  uniforms : List Uniform
  /-- Shared functions, with the names by which they are told apart. -/
  functions : List (String × Definition)
  blocks : List Block
deriving Repr

/-- The statements of the entry routine. -/
def Program.statements (p : Program) : List Stmt := p.blocks.flatMap Block.statements

/-- The text of a fragment program. -/
def Program.source (p : Program) : String :=
  unlines (p.varyings.map Varying.declaration) ++
  unlines (p.uniforms.map Uniform.text) ++
  String.join (p.functions.map fun f => "\n" ++ f.2.text ++ "\n") ++
  "\nvoid main() \x7b\n" ++
  unlines (p.statements.map fun s => "  " ++ s.text) ++
  "\x7d\n"

/-- The fragment stage of a graph without a sink: magenta everywhere. -/
def placeholderFragment : String :=
  unlines ["void main() \x7b", "  gl_FragColor = vec4(1.0, 0.0, 1.0, 1.0);", "\x7d"]

end ShadingGraph.Glsl
