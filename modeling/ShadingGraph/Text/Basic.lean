/-!
# Blanks, lines and parts of texts

The characters with the property White_Space, and texts with the blanks at their ends taken off; the
lines of a text; the first place where one text stands in another (`cut?`).

A line ends at a line feed; a carriage return just before the line feed belongs to the line end. What
follows the last line feed is a line of its own unless it is empty.
-/

namespace ShadingGraph.Text

/-! ## Blanks -/

/-- Whether a character is white space in any script. -/
def isBlank (c : Char) : Bool :=
  let n := c.toNat
  (0x09 ≤ n && n ≤ 0x0D) || n = 0x20 || n = 0x85 || n = 0xA0 || n = 0x1680 ||
    (0x2000 ≤ n && n ≤ 0x200A) || n = 0x2028 || n = 0x2029 || n = 0x202F || n = 0x205F || n = 0x3000

/-- A text without the blanks at its end. -/
def trimEnd (cs : List Char) : List Char := (cs.reverse.dropWhile isBlank).reverse

/-- A text without the blanks at its ends. -/
def trim (cs : List Char) : List Char := trimEnd (cs.dropWhile isBlank)

/-! ## Lines -/

/-- A line without the carriage return that ends it. -/
def chomp (line : List Char) : List Char :=
  if line.getLast? = some '\r' then line.dropLast else line

/-- The lines of a text, where `current` holds the line begun so far in reverse. -/
def linesFrom (current : List Char) : List Char → List (List Char)
  | [] => if current.isEmpty then [] else [current.reverse]
  | c :: cs =>
    if c = '\n' then chomp current.reverse :: linesFrom [] cs else linesFrom (c :: current) cs

/-- The lines of a text. -/
def lines (cs : List Char) : List (List Char) := linesFrom [] cs

/-! ## Parts -/

/-- What stands before the first `needle` and what stands behind it. -/
def cut? (needle : List Char) : List Char → Option (List Char × List Char)
  | [] => if needle.isEmpty then some ([], []) else none
  | c :: cs =>
    if needle.isPrefixOf (c :: cs) then some ([], (c :: cs).drop needle.length)
    else (cut? needle cs).map fun p => (c :: p.1, p.2)

/-- The text without something it begins with. -/
def stripPrefix? (begin_ cs : List Char) : Option (List Char) :=
  if begin_.isPrefixOf cs then some (cs.drop begin_.length) else none

/-- The text without something it ends with. -/
def stripSuffix? (end_ cs : List Char) : Option (List Char) :=
  if end_.isSuffixOf cs then some (cs.take (cs.length - end_.length)) else none

end ShadingGraph.Text
