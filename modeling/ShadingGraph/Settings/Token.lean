import ShadingGraph.Settings.Quoted
import ShadingGraph.Text.Identifier

/-!
# Tokens of a settings text

A settings text is a row of tokens with blanks and comments anywhere between them. A comment runs
from `//` to the end of the line, or from `/*` to the `*/` that closes it; comments of the second form
nest. `Token.scan?` takes blanks, comments (`blank?`) and tokens (`Token.next?`) off the front of a text
until nothing is left.
-/

namespace ShadingGraph.Settings

open Text

/-- A token of a settings text. -/
inductive Token where
  /-- A bracket, or another of the characters `marks`. -/
  | mark (c : Char)
  /-- Parentheses with nothing at all between them. -/
  | unit
  /-- An identifier. -/
  | word (name : String)
  /-- An identifier behind `r#`, which may also have points and signs in it. -/
  | rawWord (name : String)
  /-- A row of characters that starts like a number. -/
  | number (cs : List Char)
  /-- A string or a character in quotes. -/
  | quoted
deriving DecidableEq, Repr

/-- The name that an identifier gives. -/
def Token.name? : Token → Option String
  | word name => some name
  | rawWord name => some name
  | _ => none

/-! ## Blanks and comments -/

/-- Whether a character can stand between tokens. -/
def isBlank (c : Char) : Bool :=
  c = ' ' || (0x09 ≤ c.toNat && c.toNat ≤ 0x0D) || c.toNat = 0x85 ||
    c.toNat = 0x200E || c.toNat = 0x200F || c.toNat = 0x2028 || c.toNat = 0x2029

/-- What follows a comment that is nested `depth` deep in others of its form. -/
def afterComment? (depth : Nat) : (cs : List Char) → Option (Rest cs)
  | '/' :: '*' :: cs => (afterComment? (depth + 1) cs).map fun r => (r.push '*').push '/'
  | '*' :: '/' :: cs =>
    match depth with
    | 0 => some (.push '*' (.behind '/' cs))
    | depth + 1 => (afterComment? depth cs).map fun r => (r.push '/').push '*'
  | c :: cs => (afterComment? depth cs).map (.push c)
  | [] => none

/--
What follows a blank or a comment at the start of a text. The outer `none` says that there is no such
start, the inner one that the comment does not end.
-/
def blank? : (cs : List Char) → Option (Option (Rest cs))
  | '/' :: '/' :: cs => some (some (.push '/' (.dropWhile '/' (fun c => c ≠ '\n') cs)))
  | '/' :: '*' :: cs => some ((afterComment? 0 cs).map fun r => (r.push '*').push '/')
  | c :: cs => if isBlank c then some (some (.behind c cs)) else none
  | [] => none

/-! ## Tokens -/

/-- Brackets, colon, comma, and the two characters that a header begins with. -/
def marks : List Char := "()[]\x7b\x7d:,#!".toList

/-- Whether a number can start with a character. -/
def isNumberStart (c : Char) : Bool := c.isDigit || c = '+' || c = '-' || c = '.'

/-- Whether a number can go on with a character. -/
def isNumberRest (c : Char) : Bool := c.isAlphanum || c = '_' || c = '+' || c = '-' || c = '.'

/-- Whether an identifier behind `r#` can have a character in it. -/
def isRawWordChar (c : Char) : Bool := isIdentifierRest c || c = '.' || c = '+' || c = '-'

namespace Token

/-- An identifier behind `r#`. -/
def rawWord? : (cs : List Char) → Option (Token × Rest cs)
  | 'r' :: '#' :: c :: cs =>
    if isRawWordChar c then
      some (.rawWord (String.ofList (c :: cs.takeWhile isRawWordChar)),
        ((Rest.dropWhile c isRawWordChar cs).push '#').push 'r')
    else none
  | _ => none

/-- Parentheses with nothing between them. -/
def unit? : (cs : List Char) → Option (Token × Rest cs)
  | '(' :: ')' :: cs => some (.unit, .push '(' (.behind ')' cs))
  | _ => none

/-- The token that starts with a character, if it is a mark, a number or an identifier. -/
def plain? (c : Char) (cs : List Char) : Option (Token × Rest (c :: cs)) :=
  if marks.contains c then some (.mark c, .behind c cs)
  else if isNumberStart c then
    some (.number (c :: cs.takeWhile isNumberRest), .dropWhile c isNumberRest cs)
  else if isIdentifierStart c then
    some (.word (String.ofList (c :: cs.takeWhile isIdentifierRest)),
      .dropWhile c isIdentifierRest cs)
  else none

/-- The token at the start of a text. -/
def next? : (cs : List Char) → Option (Token × Rest cs)
  | [] => none
  | c :: cs =>
    match afterQuoted? (c :: cs) with
    | some rest? => rest?.map fun r => (.quoted, r)
    | none => ((rawWord? (c :: cs)).or (unit? (c :: cs))).or (plain? c cs)

/-- The tokens of a text; `none` if something is no token or a comment does not end. -/
def scan? (cs : List Char) : Option (List Token) :=
  if cs.isEmpty then some []
  else match blank? cs with
    | some none => none
    | some (some r) => scan? r.list
    | none =>
      match next? cs with
      | none => none
      | some (t, r) => (scan? r.list).map (t :: ·)
termination_by cs.length
decreasing_by all_goals exact r.shorter

end Token

/-! ## Single tokens -/

/-- A given mark at the front. -/
def mark? (c : Char) : (ts : List Token) → Option (Rest ts)
  | .mark d :: rest => if d = c then some (.behind _ rest) else none
  | _ => none

/-- The name of a field and the colon behind it. -/
def fieldName? : (ts : List Token) → Option (String × Rest ts)
  | t :: rest =>
    match t.name? with
    | none => none
    | some name => (mark? ':' rest).map fun r => (name, r.push t)
  | [] => none

end ShadingGraph.Settings
