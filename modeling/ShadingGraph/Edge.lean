import ShadingGraph.Node
import ShadingGraph.Text.Reader

/-!
# Edges

An edge leads from an output of one node to an input of another. Its identifier has 128 bits and is
chosen by whoever adds the edge. In text it has 32 hexadecimal digits in groups of 8, 4, 4, 4 and 12;
reading also takes upper case, digits without hyphens, and grouped digits in braces or behind
`urn:uuid:` in either case.
-/

namespace ShadingGraph

/-- Identifier of an edge. -/
structure EdgeId where
  bits : BitVec 128
deriving DecidableEq, Repr

/-- An edge between two nodes. -/
structure Edge where
  id : EdgeId
  source : NodeId
  sourcePort : PortId
  target : NodeId
  targetPort : PortId
deriving DecidableEq, Repr

namespace Edge

/-- Whether the edge starts or ends at a node. -/
def involves (e : Edge) (node : NodeId) : Bool := e.source = node || e.target = node

/-- Whether the edge ends at an input. -/
def targets (e : Edge) (node : NodeId) (port : PortId) : Bool :=
  e.target = node && e.targetPort = port

end Edge

namespace EdgeId

/-- The last `count` hexadecimal digits of `n`. -/
def hexDigits : Nat → Nat → List Char
  | 0, _ => []
  | count + 1, n => hexDigits count (n / 16) ++ [Nat.digitChar (n % 16)]

/-- Lengths of the groups of digits. -/
def groups : List Nat := [8, 4, 4, 4, 12]

/-- Cut a text into groups, with hyphens between them. -/
def hyphenate : List Nat → List Char → List Char
  | [], _ => []
  | [n], cs => cs.take n
  | n :: ns, cs => cs.take n ++ '-' :: hyphenate ns (cs.drop n)

/-- The written form. -/
def text (id : EdgeId) : String := String.ofList (hyphenate groups (hexDigits 32 id.bits.toNat))

/-- The identifier with the given 32 digits. -/
def ofDigits? (cs : List Char) : Option EdgeId := do
  guard (cs.length = 32)
  return ⟨BitVec.ofNat 128 (← Text.hexNumber? cs)⟩

/-- Take the hyphens out of a grouped text; `none` if one is missing or out of place. -/
def ungroup? : List Nat → List Char → Option (List Char)
  | [], cs => if cs.isEmpty then some [] else none
  | [n], cs => if cs.length = n then some cs else none
  | n :: ns, cs =>
    match cs.drop n with
    | '-' :: rest => (ungroup? ns rest).map (cs.take n ++ ·)
    | _ => none

/-- What may stand before a grouped identifier, with what then has to follow it. -/
def wrappings : List (List Char × List Char) :=
  [([], []), (['\x7b'], ['\x7d']), ("urn:uuid:".toList, [])]

/-- Take a wrapping off a text. -/
def unwrap? (w : List Char × List Char) (cs : List Char) : Option (List Char) := do
  guard (w.1.isPrefixOf (cs.map Char.toLower))
  let rest := cs.drop w.1.length
  guard (w.2.isSuffixOf rest)
  return rest.take (rest.length - w.2.length)

/-- Read an identifier. -/
def ofText? (s : String) : Option EdgeId :=
  let cs := s.toList
  (ofDigits? cs).or <|
    wrappings.findSome? fun w => (unwrap? w cs).bind fun inner => (ungroup? groups inner).bind ofDigits?

end EdgeId

end ShadingGraph
