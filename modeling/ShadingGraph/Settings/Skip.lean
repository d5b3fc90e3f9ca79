import ShadingGraph.Settings.Extensions
import ShadingGraph.Settings.Number

/-!
# Values of any form

The value of a field that is not known is skipped, but it has to be well formed: a number, a quoted
text, a word, a list in brackets, a map in braces, or a group in parentheses, with or without a name
before it. A group holds values or named fields. After every value but the last stands a comma, and
one may stand after the last.

Values nest to a limited depth: `room` says how many levels may follow. A list, a map and a group take
one, everything that stands in them takes one more, and so does what stands in `Some( )`. Parentheses
with nothing between them take none where they are a value of their own.

The readers call each other on what is left of the tokens; where one passes the same tokens on, it
goes down in the order group, items, value.
-/

namespace ShadingGraph.Settings

open Text

/-! ## Single tokens -/

/-- Identifiers that are values by themselves. -/
def plainWords : List String := ["true", "false", "None"] ++ floatWords

/-- The parenthesis that closes a single value, which a comma may follow. -/
def closing? (ts : List Token) : Option (Rest ts) :=
  match mark? ')' ts with
  | some r => some r
  | none =>
    match mark? ',' ts with
    | none => none
    | some c => (mark? ')' c.list).map c.trans

/--
Whether more than one value stands before the bracket that closes them: a comma does, and is not the
last token before it. `depth` counts the brackets that were opened on the way.
-/
def hasMore (depth : Nat) : List Token → Bool
  | [] => false
  | .mark c :: ts =>
    if "([\x7b".toList.contains c then hasMore (depth + 1) ts
    else if ")]\x7d".toList.contains c then
      match depth with
      | 0 => false
      | depth + 1 => hasMore depth ts
    else if c = ',' && depth = 0 then (mark? ')' ts).isNone
    else hasMore depth ts
  | _ :: ts => hasMore depth ts

/-! ## Values -/

mutual

/-- Take a value of any form off the front. -/
def skipValue? (x : Extensions) (room : Nat) (ts : List Token) : Option (Rest ts) :=
  match ts with
  | .quoted :: rest => some (.behind _ rest)
  | .unit :: rest => some (.behind _ rest)
  | .number cs :: rest => if isNumber cs then some (.behind _ rest) else none
  | .mark '(' :: rest => (skipGroup? x room rest).map (.push _)
  | .mark '[' :: rest =>
    match room with
    | 0 => none
    | room + 1 => (skipItems? x room ']' rest).map (.push _)
  | .mark '\x7b' :: rest =>
    match room with
    | 0 => none
    | room + 1 => (skipEntries? x room '\x7d' rest).map (.push _)
  | .word name :: rest =>
    if plainWords.contains name then some (.behind _ rest)
    else if name = "Some" then (skipSome? x room rest).map (.push _)
    else skipNamed? x room (.word name) rest
  | .rawWord name :: rest => skipNamed? x room (.rawWord name) rest
  | _ => none
termination_by (ts.length, 0)
decreasing_by all_goals exact Prod.Lex.left _ _ (Nat.lt_succ_self _)

/-- Take a name off the front, and the group behind it if there is one. -/
def skipNamed? (x : Extensions) (room : Nat) (name : Token) (ts : List Token) :
    Option (Rest (name :: ts)) :=
  match ts with
  | .mark '(' :: rest => (skipGroup? x room rest).map fun r => (r.push _).push name
  | .unit :: rest => if room = 0 then none else some ((Rest.behind _ rest).push name)
  | ts => some (.behind name ts)
termination_by (ts.length, 0)
decreasing_by exact Prod.Lex.left _ _ (Nat.lt_succ_self _)

/-- Take what stands behind `Some` off the front: a value in parentheses, or none if that is allowed. -/
def skipSome? (x : Extensions) (room : Nat) (ts : List Token) : Option (Rest ts) :=
  match room, ts with
  | _ + 1, .unit :: rest => if x.unwrappedVariants then some (.behind _ rest) else none
  | room + 1, .mark '(' :: rest =>
    if x.unwrappedVariants && ((mark? ')' rest).isSome) then (mark? ')' rest).map (.push _)
    else if x.unwrappedVariants && ((fieldName? rest).isSome || hasMore 0 rest) then
      (skipGroup? x room rest).map (.push _)
    else
      match skipValue? x room rest with
      | none => none
      | some v => (closing? v.list).map fun e => (v.trans e).push _
  | _, _ => none
termination_by (ts.length, 0)
decreasing_by all_goals exact Prod.Lex.left _ _ (Nat.lt_succ_self _)

/-- Take what is inside parentheses off the front: named fields or values, or nothing. -/
def skipGroup? (x : Extensions) (room : Nat) (ts : List Token) : Option (Rest ts) :=
  match room with
  | 0 => none
  | room + 1 =>
    if (fieldName? ts).isSome then skipEntries? x room ')' ts else skipItems? x room ')' ts
termination_by (ts.length, 2)
decreasing_by all_goals exact Prod.Lex.right _ (Nat.lt_succ_self _)

/-- Take values with commas between them off the front, and what closes them. -/
def skipItems? (x : Extensions) (room : Nat) (closing : Char) (ts : List Token) :
    Option (Rest ts) :=
  match mark? closing ts, room with
  | some e, _ => some e
  | none, 0 => none
  | none, inner + 1 =>
    match skipValue? x inner ts with
    | none => none
    | some v =>
      match mark? closing v.list with
      | some e => some (v.trans e)
      | none =>
        match mark? ',' v.list with
        | none => none
        | some c => (skipItems? x (inner + 1) closing c.list).map (v.trans c).trans
termination_by (ts.length, 1)
decreasing_by
  · exact Prod.Lex.right _ (Nat.lt_succ_self _)
  · exact Prod.Lex.left _ _ (v.trans c).shorter

/--
Take pairs with a colon in them and commas between them off the front, and what closes them: the
entries of a map, or the fields of a group, of which only the first needs a name in place of a value.
-/
def skipEntries? (x : Extensions) (room : Nat) (closing : Char) (ts : List Token) :
    Option (Rest ts) :=
  match mark? closing ts, room with
  | some e, _ => some e
  | none, 0 => none
  | none, inner + 1 =>
    match skipValue? x inner ts with
    | none => none
    | some k =>
      match mark? ':' k.list with
      | none => none
      | some m =>
        match skipValue? x inner m.list with
        | none => none
        | some v =>
          match mark? closing v.list with
          | some e => some ((k.trans m).trans (v.trans e))
          | none =>
            match mark? ',' v.list with
            | none => none
            | some c =>
              (skipEntries? x (inner + 1) closing c.list).map ((k.trans m).trans (v.trans c)).trans
termination_by (ts.length, 1)
decreasing_by
  · exact Prod.Lex.right _ (Nat.lt_succ_self _)
  · exact Prod.Lex.left _ _ (k.trans m).shorter
  · exact Prod.Lex.left _ _ ((k.trans m).trans (v.trans c)).shorter

end

end ShadingGraph.Settings
