import ShadingGraph.Settings.Token

/-!
# Extensions

A settings text may begin with headers `#![enable(name, ...)]`, each of which switches on one or more
extensions of the written form. Four extensions have a name. Two of them change what a settings text
may look like: records then need their names, or `Some( )` may hold the fields of a record or several
values. The other two are about values that settings do not have.
-/

namespace ShadingGraph.Settings

open Text

/-- The extensions that a text has switched on. -/
structure Extensions where
  /-- Records need their names. -/
  explicitNames : Bool := false
  /-- What stands in `Some( )` needs no parentheses of its own. -/
  unwrappedVariants : Bool := false
deriving DecidableEq, Repr

namespace Extensions

/-- Switch on the extension with the given name. -/
def enable? (x : Extensions) (name : String) : Option Extensions :=
  if name = "explicit_struct_names" then some { x with explicitNames := true }
  else if name = "unwrap_variant_newtypes" then some { x with unwrappedVariants := true }
  else if name = "implicit_some" || name = "unwrap_newtypes" then some x
  else none

/-- The names of extensions with commas between them, and the parenthesis that closes them. -/
def names? (x : Extensions) (ts : List Token) : Option (Extensions × Rest ts) :=
  match ts with
  | [] => none
  | t :: rest =>
    match t.name?.bind x.enable? with
    | none => none
    | some x =>
      match mark? ')' rest with
      | some e => some (x, e.push t)
      | none =>
        match mark? ',' rest with
        | none => none
        | some c =>
          match mark? ')' c.list with
          | some e => some (x, (c.trans e).push t)
          | none => (names? x c.list).map fun p => (p.1, (c.trans p.2).push t)
termination_by ts.length
decreasing_by exact (c.push t).shorter

/-- A header, behind the `#` that it starts with. -/
def header? (x : Extensions) : (ts : List Token) → Option (Extensions × Rest ts)
  | .mark '!' :: .mark '[' :: .word "enable" :: .mark '(' :: ts =>
    match names? x ts with
    | none => none
    | some (x, n) =>
      (mark? ']' n.list).map fun e => (x, ((((n.trans e).push _).push _).push _).push _)
  | _ => none

/-- The headers at the start of a text, and what follows them. -/
def read? (x : Extensions) (ts : List Token) : Option (Extensions × List Token) :=
  match ts with
  | .mark '#' :: rest =>
    match header? x rest with
    | none => none
    | some (x, a) => read? x a.list
  | ts => some (x, ts)
termination_by ts.length
decreasing_by exact (a.push _).shorter

end Extensions

end ShadingGraph.Settings
