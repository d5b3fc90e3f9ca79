import ShadingGraph.Text.Reader

/-!
# Quoted texts

A settings text can have strings and characters in quotes, and behind a `b` strings of bytes and single
bytes. A backslash begins an escape: for a few characters a letter, for any byte `\xHH`, for any
character `\u` and its code in braces. Behind an `r` a string has no escapes. Each may stand only where a
field is skipped, so `afterQuoted?` gives what follows it and not what it says.
-/

namespace ShadingGraph.Settings

open Text

/-! ## Escapes -/

/-- What can stand between quotes. -/
inductive Quoting where
  /-- Characters. -/
  | string
  /-- One character. -/
  | character
  /-- Bytes; characters stand for the bytes of their UTF-8 form. -/
  | bytes
  /-- One byte, as an ASCII character or by its code. -/
  | byte
deriving DecidableEq, Repr

/-- The bytes that up to `count` escapes `\xHH` in a row give, behind the backslash of the first. -/
def escapedBytes : (count : Nat) → List Char → List UInt8
  | count + 1, 'x' :: a :: b :: cs =>
    match hexNumber? [a, b] with
    | none => []
    | some n => UInt8.ofNat n :: match cs with
      | '\x5c' :: cs => escapedBytes count cs
      | _ => []
  | _, _ => []

/--
How many escapes `\xHH` in a row make up one character or byte, behind the backslash of the first:
within a string the one to four that hold the UTF-8 form of a character, else one.
-/
def byteEscapes? (q : Quoting) (cs : List Char) : Option Nat :=
  match q with
  | .string => (ByteArray.utf8DecodeChar? ⟨(escapedBytes 4 cs).toArray⟩ 0).map Char.utf8Size
  | .character => match escapedBytes 1 cs with
    | [b] => if b < 0x80 then some 1 else none
    | _ => none
  | .bytes | .byte => if (escapedBytes 1 cs).isEmpty then none else some 1

/-- What follows the code of a character and the brace that closes it. -/
def afterCode? : (cs : List Char) → Option (Rest cs)
  | [] => none
  | c :: cs =>
    let digits := (c :: cs).takeWhile isHexDigit
    match hexNumber? digits with
    | none => none
    | some n =>
      if digits.isEmpty || 6 < digits.length || !decide n.isValidChar then none
      else if ((c :: cs).drop digits.length).head? = some '\x7d' then some (.drop c digits.length cs)
      else none

/-- What follows the escape behind a backslash. -/
def afterEscape? (q : Quoting) : (cs : List Char) → Option (Rest cs)
  | 'x' :: cs => (byteEscapes? q ('x' :: cs)).map fun n => .drop 'x' (4 * n - 2) cs
  | 'u' :: '\x7b' :: cs =>
    if q = .byte then none else (afterCode? cs).map fun r => (r.push '\x7b').push 'u'
  | c :: cs => if "\x27\"\\nrt0".toList.contains c then some (.behind c cs) else none
  | [] => none

/-! ## Strings and characters -/

/-- What follows a character of a quoted text. -/
def afterQuotedChar? (q : Quoting) : (cs : List Char) → Option (Rest cs)
  | '\x5c' :: cs => (afterEscape? q cs).map (.push '\x5c')
  | c :: cs => if q = .byte && 0x80 ≤ c.toNat then none else some (.behind c cs)
  | [] => none

/-- What follows a quoted text of any length, behind its opening quote. -/
def afterString? (q : Quoting) (cs : List Char) : Option (Rest cs) :=
  match cs with
  | '"' :: rest => some (.behind '"' rest)
  | cs =>
    match afterQuotedChar? q cs with
    | none => none
    | some r => (afterString? q r.list).map r.trans
termination_by cs.length
decreasing_by exact r.shorter

/-- What follows a string without escapes, which ends at a quote and as many `#` as it began with. -/
def afterRawString? (hashes : Nat) : (cs : List Char) → Option (Rest cs)
  | '"' :: cs =>
    if (List.replicate hashes '#').isPrefixOf cs then some (.drop '"' hashes cs)
    else (afterRawString? hashes cs).map (.push '"')
  | c :: cs => (afterRawString? hashes cs).map (.push c)
  | [] => none

/-- What follows a string without escapes, at the quote or at the first of `hashes` characters `#`. -/
def afterRaw? (hashes : Nat) : (cs : List Char) → Option (Rest cs)
  | '#' :: cs => (afterRaw? (hashes + 1) cs).map (.push '#')
  | '"' :: cs => (afterRawString? hashes cs).map (.push '"')
  | _ => none

/-- What follows a single character, behind its opening quote. -/
def afterChar? (q : Quoting) (cs : List Char) : Option (Rest cs) :=
  match afterQuotedChar? q cs with
  | none => none
  | some r =>
    match r.list, r.shorter with
    | '\x27' :: rest, h => some ⟨rest, Nat.lt_of_succ_lt h⟩
    | _, _ => none

/-- Whether what stands behind an `r` is a string without escapes: a quote, or `#` and no identifier. -/
def startsRaw : List Char → Bool
  | '"' :: _ => true
  | '#' :: c :: _ => c = '"' || c = '#'
  | _ => false

/-- What follows a quoted text, if the text begins with one. -/
def afterQuoted? : (cs : List Char) → Option (Option (Rest cs))
  | '"' :: cs => some ((afterString? .string cs).map (.push '"'))
  | '\x27' :: cs => some ((afterChar? .character cs).map (.push '\x27'))
  | 'b' :: '"' :: cs => some ((afterString? .bytes cs).map fun r => (r.push '"').push 'b')
  | 'b' :: '\x27' :: cs => some ((afterChar? .byte cs).map fun r => (r.push '\x27').push 'b')
  | 'r' :: cs => if startsRaw cs then some ((afterRaw? 0 cs).map (.push 'r')) else none
  | 'b' :: 'r' :: cs =>
    if startsRaw cs then some ((afterRaw? 0 cs).map fun r => (r.push 'r').push 'b') else none
  | _ => none

end ShadingGraph.Settings
