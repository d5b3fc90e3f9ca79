import ShadingGraph.Number.Decimal
import ShadingGraph.Text.Reader

/-!
# Numbers in a settings text

A whole number has an optional sign, an optional mark for base 16, 2 or 8, and digits with underscores
anywhere but in front. Behind the digits may stand the name of the type that the number is to have.
Numbers with a point or an exponent, infinity and the number that is none have no place in settings,
but may stand in fields that are skipped.
-/

namespace ShadingGraph.Settings

open Text

/-- A sign off the front of a number; true for minus. -/
def sign : List Char → Bool × List Char
  | '-' :: cs => (true, cs)
  | '+' :: cs => (false, cs)
  | cs => (false, cs)

/-! ## Whole numbers -/

/-- A type of whole numbers. -/
structure IntegerType where
  signed : Bool
  bits : Nat
deriving DecidableEq, Repr

namespace IntegerType

/-- The types that the text of a number can name. -/
def all : List IntegerType := [8, 16, 32, 64].flatMap fun bits => [⟨true, bits⟩, ⟨false, bits⟩]

/-- The name of the type. -/
def name (t : IntegerType) : List Char :=
  (if t.signed then 'i' else 'u') :: Number.Decimal.natDigits t.bits

/-- The type with the given name. -/
def ofName? (cs : List Char) : Option IntegerType := all.find? fun t => t.name = cs

/-- Whether a number is one of the type. -/
def contains (t : IntegerType) (n : Int) : Bool :=
  if t.signed then -Nat.pow 2 (t.bits - 1) ≤ n && n < Nat.pow 2 (t.bits - 1)
  else 0 ≤ n && n < Nat.pow 2 t.bits

/-- Numbers of 32 bits without a sign. -/
def word : IntegerType := ⟨false, 32⟩

/-- Numbers of 64 bits with a sign. -/
def long : IntegerType := ⟨true, 64⟩

/-- Numbers of 64 bits without a sign. -/
def longWord : IntegerType := ⟨false, 64⟩

end IntegerType

/-- The base that a number names, ten if it names none. -/
def base : List Char → Nat × List Char
  | '0' :: 'x' :: cs => (16, cs)
  | '0' :: 'b' :: cs => (2, cs)
  | '0' :: 'o' :: cs => (8, cs)
  | cs => (10, cs)

/-- A digit of a base. -/
def digit? (base : Nat) (c : Char) : Option Nat := (hexValue? c).filter (· < base)

/-- A row of digits of a base, with underscores anywhere but in front. -/
def digits? (base : Nat) (cs : List Char) : Option Nat := do
  guard (!cs.isEmpty && cs.head? ≠ some '_')
  let digits ← (cs.filter fun c => c ≠ '_').mapM (digit? base)
  return valueInBase base digits

/-- A number without its sign: what stands before the name of a type, and the type. -/
def splitType (cs : List Char) : List Char × Option IntegerType :=
  let isDigit := fun c => isHexDigit c || c = '_'
  match IntegerType.ofName? (cs.dropWhile isDigit) with
  | some t => (cs.takeWhile isDigit, some t)
  | none => (cs, none)

/-- A whole number: its value and the type that it names. -/
def integer? (cs : List Char) : Option (Int × Option IntegerType) := do
  let (negative, cs) := sign cs
  let (cs, type?) := splitType cs
  let (b, cs) := base cs
  let n ← digits? b cs
  return (if negative then -n else n, type?)

/-- A whole number of 32 bits, which names that type or none. -/
def word32? (cs : List Char) : Option UInt32 := do
  let (n, type?) ← integer? cs
  guard (type?.getD .word = .word && IntegerType.word.contains n)
  return UInt32.ofNat n.toNat

/-- Whether a row of characters is a whole number of its type; without one, a number of 64 bits. -/
def isInteger (cs : List Char) : Bool :=
  match integer? cs with
  | some (n, some t) => t.contains n
  | some (n, none) => IntegerType.long.contains n || IntegerType.longWord.contains n
  | none => false

/-! ## Other numbers -/

/-- Whether a character can stand in a number with a point or an exponent. -/
def isFloatChar (c : Char) : Bool := c.isDigit || "eE.+-_".toList.contains c

/--
Whether every underscore has a digit or the letter of an exponent before it, with nothing but signs
and underscores between them. `allowed` says so of the characters that went before.
-/
def hasProperUnderscores (allowed : Bool) : List Char → Bool
  | [] => true
  | c :: cs =>
    if c = '_' then allowed && hasProperUnderscores allowed cs
    else if c = '.' then hasProperUnderscores false cs
    else hasProperUnderscores (allowed || c.isDigit || c = 'e' || c = 'E') cs

/-- Whether a number may end like this: not at all, or with an exponent. -/
def isExponent : List Char → Bool
  | [] => true
  | c :: cs => (c = 'e' || c = 'E') && !(sign cs).2.isEmpty && (sign cs).2.all Char.isDigit

/-- Whether a row of characters is a decimal, with at least one digit beside the point. -/
def isDecimal (cs : List Char) : Bool :=
  let cs := (sign cs).2
  let rest := cs.dropWhile Char.isDigit
  match cs.takeWhile Char.isDigit, rest with
  | whole, '.' :: rest =>
    !(whole ++ rest.takeWhile Char.isDigit).isEmpty && isExponent (rest.dropWhile Char.isDigit)
  | whole, rest => !whole.isEmpty && isExponent rest

/-- What may stand behind a number with a point or an exponent: the name of its type, or nothing. -/
def floatTypes : List String := ["", "f32", "f64"]

/-- The numbers that are written as words. -/
def floatWords : List String := ["inf", "NaN"].flatMap fun word => floatTypes.map (word ++ ·)

/-- Whether a row of characters is a number with a point or an exponent, or a word for a number. -/
def isFloat (cs : List Char) : Bool :=
  let number := cs.takeWhile isFloatChar
  floatWords.contains (String.ofList (sign cs).2) ||
    (floatTypes.contains (String.ofList (cs.drop number.length)) &&
      hasProperUnderscores false number && isDecimal (number.filter fun c => c ≠ '_'))

/-- Whether a row of characters is a number of any form. -/
def isNumber (cs : List Char) : Bool := isInteger cs || isFloat cs

end ShadingGraph.Settings
