import ShadingGraph.Json.Basic
import ShadingGraph.Text.Reader

/-!
# Reading JSON

`Json.read?` reads a text that holds one value, with blanks around it and between its parts. Every
reader gives what it read and what is left to read.

Objects may repeat a name; `Json.sorted` orders the fields by name, and of fields with one name keeps
the last.
-/

namespace ShadingGraph

namespace Json

open Text

/-! ## Blanks -/

/-- Whether a character may stand between the parts of a value. -/
def isSpace (c : Char) : Bool := c = ' ' || c = '\t' || c = '\n' || c = '\r'

/-- The first character that is no blank. -/
def next? : (cs : List Char) → Option (Char × Rest cs)
  | [] => none
  | c :: cs =>
    if isSpace c then (next? cs).map fun p => (p.1, p.2.push c) else some (c, .behind c cs)

/-- What is behind `c`, if that is the first character that is no blank. -/
def expect? (c : Char) (cs : List Char) : Option (Rest cs) :=
  match next? cs with
  | some (d, r) => if d = c then some r else none
  | none => none

/-! ## Strings -/

/-- Four hexadecimal digits. -/
def hexUnit? : (cs : List Char) → Option (Nat × Rest cs)
  | a :: b :: c :: d :: rest =>
    (hexNumber? [a, b, c, d]).map fun n => (n, .drop a 3 (b :: c :: d :: rest))
  | _ => none

/-- The second half of a surrogate pair. -/
def lowSurrogate? : (cs : List Char) → Option (Nat × Rest cs)
  | '\x5c' :: 'u' :: rest =>
    match hexUnit? rest with
    | some (low, r) =>
      if 0xDC00 ≤ low && low < 0xE000 then some (low, (r.push 'u').push '\x5c') else none
    | none => none
  | _ => none

/-- The character that the two halves of a surrogate pair stand for. -/
def ofSurrogates (high low : Nat) : Char :=
  Char.ofNat (0x10000 + (high - 0xD800) * 0x400 + (low - 0xDC00))

/-- The character behind `\u`: one unit, or two that form a surrogate pair. -/
def unicodeChar? (cs : List Char) : Option (Char × Rest cs) :=
  match hexUnit? cs with
  | none => none
  | some (unit, r) =>
    if 0xD800 ≤ unit && unit < 0xDC00 then
      (lowSurrogate? r.list).map fun p => (ofSurrogates unit p.1, r.trans p.2)
    else if 0xDC00 ≤ unit && unit < 0xE000 then none
    else some (Char.ofNat unit, r)

/-- The character behind a backslash. -/
def escaped? : (cs : List Char) → Option (Char × Rest cs)
  | '"' :: rest => some ('"', .behind _ rest)
  | '\x5c' :: rest => some ('\x5c', .behind _ rest)
  | '/' :: rest => some ('/', .behind _ rest)
  | 'b' :: rest => some ('\x08', .behind _ rest)
  | 'f' :: rest => some ('\x0c', .behind _ rest)
  | 'n' :: rest => some ('\n', .behind _ rest)
  | 'r' :: rest => some ('\r', .behind _ rest)
  | 't' :: rest => some ('\t', .behind _ rest)
  | 'u' :: rest => (unicodeChar? rest).map fun p => (p.1, p.2.push 'u')
  | _ => none

/-- A character of a string, behind a backslash if it is escaped. -/
def stringChar? : (cs : List Char) → Option (Char × Rest cs)
  | [] => none
  | '\x5c' :: rest => (escaped? rest).map fun p => (p.1, p.2.push '\x5c')
  | c :: rest => if c.toNat < 0x20 then none else some (c, .behind c rest)

/-- The characters of a string up to the closing quote. -/
def stringRest? (cs : List Char) : Option (List Char × Rest cs) :=
  match cs with
  | '"' :: rest => some ([], .behind _ rest)
  | cs =>
    match stringChar? cs with
    | none => none
    | some (c, r) => (stringRest? r.list).map fun p => (c :: p.1, r.trans p.2)
termination_by cs.length
decreasing_by exact r.shorter

/-! ## Numbers -/

/-- The value of a row of decimal digits. -/
def digitsValue (cs : List Char) : Nat := cs.foldl (fun acc c => acc * 10 + (c.toNat - '0'.toNat)) 0

/-- Digits without a superfluous zero in front, and the rest. -/
def wholeDigits? (cs : List Char) : Option (List Char × List Char) :=
  match cs.span Char.isDigit with
  | ([], _) => none
  | ('0' :: _ :: _, _) => none
  | (digits, rest) => some (digits, rest)

/-- The digits behind a point, if there is one. -/
def fractionDigits? : List Char → Option (List Char × List Char)
  | '.' :: cs =>
    match cs.span Char.isDigit with
    | ([], _) => none
    | (digits, rest) => some (digits, rest)
  | cs => some ([], cs)

/-- A sign, if there is one; true for minus. -/
def exponentSign : List Char → Bool × List Char
  | '-' :: cs => (true, cs)
  | '+' :: cs => (false, cs)
  | cs => (false, cs)

/-- The exponent behind a number, if there is one. -/
def exponentPart? : List Char → Option (Option Int × List Char)
  | c :: cs =>
    if c = 'e' || c = 'E' then
      let (negative, cs) := exponentSign cs
      match cs.span Char.isDigit with
      | ([], _) => none
      | (digits, rest) =>
        let value : Int := digitsValue digits
        some (some (if negative then -value else value), rest)
    else some (none, c :: cs)
  | [] => some (none, [])

/-- A number without its sign. -/
def unsigned? (negative : Bool) (cs : List Char) : Option (Numeral × List Char) := do
  let (whole, cs) ← wholeDigits? cs
  let (fraction, cs) ← fractionDigits? cs
  let (exponent?, cs) ← exponentPart? cs
  return (⟨negative, digitsValue (whole ++ fraction), fraction.length, exponent?⟩, cs)

/-- A number at the start of a text. -/
def numeral? : List Char → Option (Numeral × List Char)
  | '-' :: cs => unsigned? true cs
  | cs => unsigned? false cs

/-- The number that a whole text is. -/
def wholeNumeral? (s : String) : Option Numeral :=
  match numeral? s.toList with
  | some (n, []) => some n
  | _ => none

/-! ## Values -/

/-- What a reader of numbers left, if it is shorter. -/
def ofNumeral? (cs : List Char) (p : Numeral × List Char) : Option (Json × Rest cs) :=
  if h : p.2.length < cs.length then some (.number p.1, ⟨p.2, h⟩) else none

/-- The rest of a word whose first character has been read. -/
def word? (word : List Char) (j : Json) {cs : List Char} (r : Rest cs) : Option (Json × Rest cs) :=
  if word.isPrefixOf r.list then
    some (j, ⟨r.list.drop word.length,
      Nat.lt_of_le_of_lt (List.drop_sublist _ _).length_le r.shorter⟩)
  else none

/-- The name of a field and the colon behind it. -/
def fieldName? (cs : List Char) : Option (String × Rest cs) :=
  match expect? '"' cs with
  | none => none
  | some q =>
    match stringRest? q.list with
    | none => none
    | some (name, n) =>
      (expect? ':' n.list).map fun c => (String.ofList name, q.trans (n.trans c))

mutual

/-- A value at the start of a text, behind blanks. -/
def value? (cs : List Char) : Option (Json × Rest cs) :=
  match next? cs with
  | none => none
  | some ('"', r) => (stringRest? r.list).map fun p => (.string (String.ofList p.1), r.trans p.2)
  | some ('[', r) =>
    match expect? ']' r.list with
    | some e => some (.array [], r.trans e)
    | none => (items? r.list).map fun p => (.array p.1, r.trans p.2)
  | some ('\x7b', r) =>
    match expect? '\x7d' r.list with
    | some e => some (.object [], r.trans e)
    | none => (fields? r.list).map fun p => (.object p.1, r.trans p.2)
  | some ('t', r) => word? "rue".toList (.bool true) r
  | some ('f', r) => word? "alse".toList (.bool false) r
  | some ('n', r) => word? "ull".toList .null r
  | some (c, r) => (numeral? (c :: r.list)).bind (ofNumeral? cs)
termination_by (cs.length, 0)
decreasing_by all_goals exact Prod.Lex.left _ _ r.shorter

/-- The items of an array up to its closing bracket, at least one. -/
def items? (cs : List Char) : Option (List Json × Rest cs) :=
  match value? cs with
  | none => none
  | some (j, r) =>
    match expect? ']' r.list with
    | some e => some ([j], r.trans e)
    | none =>
      match expect? ',' r.list with
      | none => none
      | some c => (items? c.list).map fun p => (j :: p.1, (r.trans c).trans p.2)
termination_by (cs.length, 1)
decreasing_by
  · exact Prod.Lex.right _ Nat.zero_lt_one
  · exact Prod.Lex.left _ _ (r.trans c).shorter

/-- The fields of an object up to its closing brace, at least one. -/
def fields? (cs : List Char) : Option (List (String × Json) × Rest cs) :=
  match fieldName? cs with
  | none => none
  | some (name, n) =>
    match value? n.list with
    | none => none
    | some (j, v) =>
      match expect? '\x7d' v.list with
      | some e => some ([(name, j)], n.trans (v.trans e))
      | none =>
        match expect? ',' v.list with
        | none => none
        | some c =>
          (fields? c.list).map fun p => ((name, j) :: p.1, (n.trans (v.trans c)).trans p.2)
termination_by (cs.length, 1)
decreasing_by
  · exact Prod.Lex.left _ _ n.shorter
  · exact Prod.Lex.left _ _ (n.trans (v.trans c)).shorter

end

/-- The value that a text holds. -/
def read? (s : String) : Option Json :=
  match value? s.toList with
  | some (j, r) => if r.list.all isSpace then some j else none
  | none => none

/-! ## Order of fields -/

/-- Put a field among fields ordered by name, in the place of one with the same name. -/
def insertField (name : String) (j : Json) : List (String × Json) → List (String × Json)
  | [] => [(name, j)]
  | (name', j') :: fs =>
    if name < name' then (name, j) :: (name', j') :: fs
    else if name = name' then (name, j) :: fs
    else (name', j') :: insertField name j fs

mutual

/-- The value with the fields of every object ordered by name. -/
def sorted : Json → Json
  | array items => .array (sortedItems items)
  | object fields => .object (sortedFields [] fields)
  | null => .null
  | bool b => .bool b
  | number n => .number n
  | string s => .string s

def sortedItems : List Json → List Json
  | [] => []
  | j :: js => sorted j :: sortedItems js

def sortedFields (done : List (String × Json)) : List (String × Json) → List (String × Json)
  | [] => done
  | (name, j) :: fs => sortedFields (insertField name (sorted j) done) fs

end

end Json

end ShadingGraph
