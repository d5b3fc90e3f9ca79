import ShadingGraph.Json.Reader
import ShadingGraph.OrderedMap

/-!
# Parts of documents

Building blocks for reading stored documents. A record is an object with named fields, of which those
that are not asked for are ignored, or an array of the fields in their order. A choice without content
is its key, or an object with the key as its only field and null as its value; a choice with content
is an object with one field.
-/

namespace ShadingGraph.Document

/-- The fields of a record whose fields have the given names, in order. -/
def record? (names : List String) : Json → Option (List (String × Json))
  | .object fields => some fields
  | .array items => if items.length ≤ names.length then some (names.zip items) else none
  | _ => none

/-- A field that has to be there. -/
def field? {α : Type} (fields : List (String × Json)) (name : String) (read? : Json → Option α) :
    Option α := (Json.field? fields name).bind read?

/-- A field that may be left out. -/
def fieldOr? {α : Type} (default : α) (fields : List (String × Json)) (name : String)
    (read? : Json → Option α) : Option α :=
  match Json.field? fields name with
  | none => some default
  | some j => read? j

/-- The member of a list with a key. -/
def ofKey? {α : Type} (all : List α) (key : α → String) (s : String) : Option α :=
  all.find? fun a => key a = s

/-- A choice without content. -/
def choice? {α : Type} (all : List α) (key : α → String) : Json → Option α
  | .string s => ofKey? all key s
  | .object [(s, .null)] => ofKey? all key s
  | _ => none

def string? : Json → Option String
  | .string s => some s
  | _ => none

def bool? : Json → Option Bool
  | .bool b => some b
  | _ => none

/-- A number as a scalar. -/
def scalar? : Json → Option Binary32
  | .number n => some n.toScalar
  | _ => none

/-- A natural number of 64 bits. -/
def word64? : Json → Option UInt64
  | .number n => (n.nat? UInt64.size).map UInt64.ofNat
  | _ => none

/-- A natural number of 32 bits. -/
def word32? : Json → Option UInt32
  | .number n => (n.nat? UInt32.size).map UInt32.ofNat
  | _ => none

/-- The scalars of an array. -/
def scalars? : Json → Option (List Binary32)
  | .array items => items.mapM scalar?
  | _ => none

/-- A map, as an object from the texts of its keys. -/
def map? {κ α : Type} [DecidableEq κ] (key? : String → Option κ) (read? : Json → Option α) :
    Json → Option (OrderedMap κ α)
  | .object fields =>
    (fields.mapM fun (f : String × Json) => do return (← key? f.1, ← read? f.2)).map OrderedMap.ofList
  | _ => none

/-- The object for a map. -/
def ofMap {κ α : Type} (text : κ → String) (write : α → Json) (m : OrderedMap κ α) : Json :=
  .object (m.entries.map fun e => (text e.1, write e.2))

/-- A map with names as its keys. -/
def named? {α : Type} (read? : Json → Option α) : Json → Option (OrderedMap String α) :=
  map? some read?

/-- The object for a map with names as its keys. -/
def ofNamed {α : Type} (write : α → Json) (m : OrderedMap String α) : Json :=
  ofMap (fun name => name) write m

end ShadingGraph.Document
