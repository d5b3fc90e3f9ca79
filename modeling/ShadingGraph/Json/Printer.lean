import ShadingGraph.Json.Basic
import ShadingGraph.Text.Visible

/-!
# Writing JSON

`Json.compact` writes a value without blanks; `Json.pretty` writes every item and field on a line of
its own, two blanks deeper than what holds it, and empty arrays and objects without blanks. A quote, a
backslash and the control characters below the blank are escaped, all else stands as it is.
-/

namespace ShadingGraph

open Number

/-- An exponent, which always has a sign. -/
def exponentText (e : Int) : List Char := 'e' :: (if 0 ≤ e then '+' :: intDigits e else intDigits e)

/-- The written form of a number. -/
def Numeral.text (n : Numeral) : List Char :=
  (if n.negative then ['-'] else []) ++
  (Decimal.mk n.digits (-(n.scale : Int))).positional ++
  match n.exponent? with
  | none => []
  | some e => exponentText e

namespace Json

/-- A character inside a string. -/
def escape (c : Char) : List Char :=
  match c with
  | '"' => ['\x5c', '"']
  | '\x5c' => ['\x5c', '\x5c']
  | '\x08' => ['\x5c', 'b']
  | '\t' => ['\x5c', 't']
  | '\n' => ['\x5c', 'n']
  | '\x0c' => ['\x5c', 'f']
  | '\r' => ['\x5c', 'r']
  | c =>
    if c.toNat < 0x20 then
      ['\x5c', 'u', '0', '0', Nat.digitChar (c.toNat / 16), Nat.digitChar (c.toNat % 16)]
    else [c]

/-- A string in quotes. -/
def quoted (s : String) : List Char := '"' :: s.toList.flatMap escape ++ ['"']

/-- Texts with a separator between them. -/
def separated (separator : List Char) : List (List Char) → List Char
  | [] => []
  | [t] => t
  | t :: ts => t ++ separator ++ separated separator ts

mutual

/-- A value without blanks. -/
def compactChars : Json → List Char
  | null => "null".toList
  | bool true => "true".toList
  | bool false => "false".toList
  | number n => n.text
  | string s => quoted s
  | array items => '[' :: separated [','] (compactItems items) ++ [']']
  | object fields => '\x7b' :: separated [','] (compactFields fields) ++ ['\x7d']

def compactItems : List Json → List (List Char)
  | [] => []
  | j :: js => compactChars j :: compactItems js

def compactFields : List (String × Json) → List (List Char)
  | [] => []
  | (name, j) :: fs => (quoted name ++ ':' :: compactChars j) :: compactFields fs

end

/-- A line end and the blanks at the start of a line at a depth. -/
def newline (depth : Nat) : List Char := '\n' :: List.replicate (2 * depth) ' '

/-- Items on lines of their own, between an opening and a closing character. -/
def block (opening closing : Char) (depth : Nat) (items : List (List Char)) : List Char :=
  if items.isEmpty then [opening, closing]
  else opening :: newline (depth + 1) ++ separated (',' :: newline (depth + 1)) items ++
    newline depth ++ [closing]

mutual

/-- A value over several lines, for a place at a depth. -/
def prettyChars (depth : Nat) : Json → List Char
  | array items => block '[' ']' depth (prettyItems (depth + 1) items)
  | object fields => block '\x7b' '\x7d' depth (prettyFields (depth + 1) fields)
  | null => compactChars .null
  | bool b => compactChars (.bool b)
  | number n => compactChars (.number n)
  | string s => compactChars (.string s)

def prettyItems (depth : Nat) : List Json → List (List Char)
  | [] => []
  | j :: js => prettyChars depth j :: prettyItems depth js

def prettyFields (depth : Nat) : List (String × Json) → List (List Char)
  | [] => []
  | (name, j) :: fs => (quoted name ++ ':' :: ' ' :: prettyChars depth j) :: prettyFields depth fs

end

/-- The value without blanks. -/
def compact (j : Json) : String := String.ofList (compactChars j)

/-- The value over several lines. -/
def pretty (j : Json) : String := String.ofList (prettyChars 0 j)

end Json

end ShadingGraph
