import ShadingGraph.Number.Format
import ShadingGraph.Number.Decimal

/-!
# The shortest decimal that reads back

A decimal reads back as a magnitude of a format if the magnitude is the nearest one to it. The
shortest decimal of a magnitude lies on the coarsest grid of powers of ten that has a point which
reads back; if a grid has such a point, then one of the two neighbours of the value is one. Of two
neighbours that both read back the nearer is taken, and `Tie` says what becomes of a tie.

`scan` goes from coarse grids to fine ones, structurally on the number of grids that are left. It ends
at the latest on the grid `finestGrid`, where the value itself is a point.
-/

namespace ShadingGraph.Number

/-- What becomes of a value halfway between two candidates. -/
inductive Tie where
  | up
  | even
deriving DecidableEq, Repr

/-- Whether the nearest magnitude to `d` is `pattern`. -/
def Format.readsBack (f : Format) (pattern : Nat) (d : Decimal) : Bool :=
  f.roundRatio d.numerator d.denominator = pattern

/-- Of the two neighbours `q` and `q + 1` of `num / den`, with `r` its remainder, the nearer. -/
def nearer (tie : Tie) (den q r : Nat) : Nat :=
  if 2 * r < den then q
  else if den < 2 * r then q + 1
  else match tie with
    | .up => q + 1
    | .even => if q % 2 = 0 then q else q + 1

/--
The point of the grid `10 ^ exponent` that stands for `pattern`: a neighbour of its value that reads
back, the nearer one if both do.
-/
def Format.onGrid? (f : Format) (tie : Tie) (pattern : Nat) (exponent : Int) : Option Decimal :=
  let num := f.numerator pattern * Nat.pow 10 (-exponent).toNat
  let den := f.denominator pattern * Nat.pow 10 exponent.toNat
  let q := num / den
  let below := f.readsBack pattern ⟨q, exponent⟩
  let above := f.readsBack pattern ⟨q + 1, exponent⟩
  if below && above then some ⟨nearer tie den q (num % den), exponent⟩
  else if below then some ⟨q, exponent⟩
  else if above then some ⟨q + 1, exponent⟩
  else none

/-- The first hit among `grids + 1` grids, from `10 ^ (low + grids)` down to `10 ^ low`. -/
def Format.scan (f : Format) (tie : Tie) (pattern : Nat) (low : Int) : Nat → Decimal
  | 0 => (f.onGrid? tie pattern low).getD ⟨0, 0⟩
  | grids + 1 =>
    match f.onGrid? tie pattern (low + (grids + 1 : Nat)) with
    | some d => d
    | none => f.scan tie pattern low grids

/-- A grid on which the value is a point: its last binary place, or the units. -/
def Format.finestGrid (f : Format) (pattern : Nat) : Int := min 0 (f.lastExponent pattern)

/--
How many decimal digits stand before the point of the value. The power of ten with that exponent
exceeds the value, so no coarser grid has a point other than zero that reads back.
-/
def Format.coarsestGrid (f : Format) (pattern : Nat) : Int :=
  (Decimal.natDigits (f.numerator pattern / f.denominator pattern)).length

/-- The shortest decimal that reads back as `pattern`; zero for the magnitude zero. -/
def Format.shortest (f : Format) (tie : Tie) (pattern : Nat) : Decimal :=
  if pattern = 0 then ⟨0, 0⟩
  else
    let low := f.finestGrid pattern
    f.scan tie pattern low (f.coarsestGrid pattern - low).toNat

end ShadingGraph.Number
