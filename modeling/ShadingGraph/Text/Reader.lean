/-!
# What readers of texts share

A reader takes something off the front of a list and passes on what is left. `Rest xs` is what can be
left of `xs` once at least one member is gone; that it is shorter is the measure by which readers that
call each other come to an end. Rests are put together from the constructions below, so readers need
no arithmetic of their own. `hexNumber?` reads hexadecimal digits of either case.
-/

namespace ShadingGraph.Text

/-! ## What is left to read -/

/-- What is left of a list after something was taken off its front. -/
structure Rest {α : Type} (xs : List α) where
  list : List α
  shorter : list.length < xs.length

namespace Rest

variable {α : Type} {xs : List α}

/-- All but the first member. -/
def behind (x : α) (xs : List α) : Rest (x :: xs) := ⟨xs, Nat.lt_succ_self _⟩

/-- What is left of the tail, as a rest of the whole. -/
def push (x : α) (r : Rest xs) : Rest (x :: xs) := ⟨r.list, Nat.lt_succ_of_lt r.shorter⟩

/-- What is left of a rest, as a rest of the whole. -/
def trans (r : Rest xs) (s : Rest r.list) : Rest xs := ⟨s.list, Nat.lt_trans s.shorter r.shorter⟩

/-- All but the first member and the `n` members behind it. -/
def drop (x : α) (n : Nat) (xs : List α) : Rest (x :: xs) :=
  ⟨xs.drop n, Nat.lt_succ_of_le (List.drop_sublist n xs).length_le⟩

/-- All but the first member and the members behind it that pass the test. -/
def dropWhile (x : α) (p : α → Bool) (xs : List α) : Rest (x :: xs) :=
  ⟨xs.dropWhile p, Nat.lt_succ_of_le (List.dropWhile_sublist p).length_le⟩

end Rest

/-! ## Hexadecimal digits -/

/-- Value of a hexadecimal digit of either case. -/
def hexValue? (c : Char) : Option Nat :=
  if '0' ≤ c && c ≤ '9' then some (c.toNat - '0'.toNat)
  else if 'a' ≤ c && c ≤ 'f' then some (c.toNat - 'a'.toNat + 10)
  else if 'A' ≤ c && c ≤ 'F' then some (c.toNat - 'A'.toNat + 10)
  else none

def isHexDigit (c : Char) : Bool := (hexValue? c).isSome

/-- The number that a row of digits in a base stands for. -/
def valueInBase (base : Nat) (digits : List Nat) : Nat := digits.foldl (fun acc d => acc * base + d) 0

/-- The number that a row of hexadecimal digits stands for. -/
def hexNumber? (cs : List Char) : Option Nat := (cs.mapM hexValue?).map (valueInBase 16)

end ShadingGraph.Text
