import Mathlib.Algebra.Ring.Nat
import Mathlib.Data.List.TakeDrop
import ShadingGraph.Json.Printer
import ShadingGraph.Json.Reader
import ShadingGraph.Proofs.Glsl.Literal

/-!
# Numbers in JSON texts

A number is read back from its own text as it was written: its sign, its digits on both sides of the
point, where the point stands, and its exponent (`numeral?_text`). Its text ends where no digit,
point or exponent follows (`NumberEnds`).
-/

namespace ShadingGraph

open Number Number.Decimal

/-! ## Values of digits -/

namespace Number.Decimal

/-- Only zero is written with a zero in front. -/
theorem eq_zero_of_natDigits_eq {n : Nat} {cs : List Char} (h : natDigits n = '0' :: cs) : n = 0 := by
  induction n using Nat.strongRecOn generalizing cs with
  | ind n ih =>
    by_cases hn : n < 10
    · rw [natDigits, Nat.toDigits_of_lt_base hn] at h
      exact Nat.digitChar_eq_zero.1 (List.cons.inj h).1
    · rw [natDigits, Nat.toDigits_of_base_le (by decide) (by omega)] at h
      obtain ⟨c, ds, hds⟩ := List.exists_cons_of_ne_nil (Nat.toDigits_ne_nil (n := n / 10) (b := 10))
      rw [hds, List.cons_append] at h
      have hzero := ih (n / 10) (by omega) (hds.trans (by rw [(List.cons.inj h).1]))
      omega

theorem ofDigitChars_paddedDigits (width n : Nat) :
    Nat.ofDigitChars 10 (paddedDigits width n) 0 = n % 10 ^ width := by
  induction width generalizing n with
  | zero => simp [paddedDigits, Nat.mod_one]
  | succ width ih =>
    have hlast : n % 10 < 10 := Nat.mod_lt _ (by decide)
    rw [paddedDigits, Nat.ofDigitChars_append, Nat.ofDigitChars_cons_digitChar_of_lt_ten hlast,
      Nat.ofDigitChars_nil, ih, Nat.pow_succ', Nat.mod_mul, Nat.add_comm]

@[simp] theorem length_paddedDigits (width n : Nat) : (paddedDigits width n).length = width := by
  induction width generalizing n with
  | zero => rfl
  | succ width ih => simp [paddedDigits, ih]

end Number.Decimal

namespace Json

theorem digitsValue_eq (cs : List Char) : digitsValue cs = Nat.ofDigitChars 10 cs 0 := by
  unfold digitsValue Nat.ofDigitChars
  simp only [Nat.mul_comm]

theorem digitsValue_natDigits (n : Nat) : digitsValue (natDigits n) = n := by
  rw [digitsValue_eq]
  exact Nat.ofDigitChars_ten_toDigits

/-- The digits on both sides of a point, taken together. -/
theorem digitsValue_natDigits_append (whole scale behind : Nat) (h : behind < 10 ^ scale) :
    digitsValue (natDigits whole ++ paddedDigits scale behind) = 10 ^ scale * whole + behind := by
  rw [digitsValue_eq, Nat.ofDigitChars_append, Nat.ofDigitChars_eq_ofDigitChars_zero,
    length_paddedDigits, ofDigitChars_paddedDigits, Nat.mod_eq_of_lt h]
  congr 2
  exact Nat.ofDigitChars_ten_toDigits

/-! ## Reading digits -/

/-- The text goes on with no digit. -/
def DigitsEnd (rest : List Char) : Prop := ∀ c ∈ rest.head?, c.isDigit = false

/-- What follows cannot belong to a number that stands before it. -/
structure NumberEnds (rest : List Char) : Prop where
  digits : DigitsEnd rest
  point : rest.head? ≠ some '.'
  exponent : ∀ c ∈ rest.head?, c ≠ 'e' ∧ c ≠ 'E'

theorem span_digits {digits rest : List Char} (hdigits : ∀ c ∈ digits, c.isDigit = true)
    (hrest : DigitsEnd rest) : (digits ++ rest).span Char.isDigit = (digits, rest) := by
  rw [List.span_eq_takeWhile_dropWhile, List.takeWhile_append_of_pos hdigits,
    List.dropWhile_append_of_pos hdigits]
  cases rest with
  | nil => simp
  | cons c cs =>
    have hc : c.isDigit = false := hrest c rfl
    simp [hc]

theorem wholeDigits?_natDigits (n : Nat) {rest : List Char} (hrest : DigitsEnd rest) :
    wholeDigits? (natDigits n ++ rest) = some (natDigits n, rest) := by
  have hdigits := isDigits_natDigits n
  rw [wholeDigits?, span_digits hdigits.2 hrest]
  split
  · next h => exact absurd (congrArg Prod.fst h) hdigits.1
  · next d ds _ h =>
    -- a zero in front stands for zero, which has no further digit
    have heq : natDigits n = '0' :: d :: ds := congrArg Prod.fst h
    rw [eq_zero_of_natDigits_eq heq] at heq
    cases heq
  · next h => exact congrArg some h.symm

theorem fractionDigits?_of_notPoint {rest : List Char} (h : rest.head? ≠ some '.') :
    fractionDigits? rest = some ([], rest) := by
  unfold fractionDigits?
  split
  · exact absurd rfl h
  · rfl

theorem fractionDigits?_point {digits rest : List Char} (hdigits : IsDigits digits)
    (hrest : DigitsEnd rest) :
    fractionDigits? ('.' :: (digits ++ rest)) = some (digits, rest) := by
  rw [fractionDigits?, span_digits hdigits.2 hrest]
  split
  · next h => exact absurd (congrArg Prod.fst h) hdigits.1
  · next h => exact congrArg some h.symm

theorem exponentPart?_of_numberEnds {rest : List Char} (h : NumberEnds rest) :
    exponentPart? rest = some (none, rest) := by
  cases rest with
  | nil => rfl
  | cons c cs =>
    have hc := h.exponent c rfl
    simp [exponentPart?, hc.1, hc.2]

theorem exponentPart?_digits {cs digits rest : List Char} {negative : Bool}
    (hsign : exponentSign cs = (negative, digits ++ rest)) (hdigits : IsDigits digits)
    (hrest : DigitsEnd rest) :
    exponentPart? ('e' :: cs)
      = some (some (if negative then -(digitsValue digits : Int) else digitsValue digits), rest) := by
  simp only [exponentPart?, hsign, span_digits hdigits.2 hrest, decide_true, Bool.true_or, if_true]
  split
  · next h => exact absurd (congrArg Prod.fst h) hdigits.1
  · next h =>
    obtain ⟨rfl, rfl⟩ := Prod.mk.inj h
    rfl

theorem exponentPart?_exponentText (e : Int) {rest : List Char} (hrest : DigitsEnd rest) :
    exponentPart? (exponentText e ++ rest) = some (some e, rest) := by
  have hdigits := isDigits_natDigits e.natAbs
  rw [exponentText, intDigits, List.cons_append]
  by_cases he : 0 ≤ e
  · rw [if_pos he, if_neg (by omega), List.cons_append, exponentPart?_digits rfl hdigits hrest,
      digitsValue_natDigits, if_neg Bool.false_ne_true, Int.natAbs_of_nonneg he]
  · have habs : -(e.natAbs : Int) = e := by omega
    rw [if_neg he, if_pos (by omega), List.cons_append, exponentPart?_digits rfl hdigits hrest,
      digitsValue_natDigits, if_pos rfl, habs]

/-! ## Reading numbers -/

/-- Digits with a point `scale` places from their end, and what is read behind them. -/
theorem unsigned?_positional (negative : Bool) (digits scale : Nat) {e? : Option Int}
    {tail rest : List Char} (hdigits : DigitsEnd tail) (hpoint : tail.head? ≠ some '.')
    (htail : exponentPart? tail = some (e?, rest)) :
    unsigned? negative ((Decimal.mk digits (-(scale : Int))).positional ++ tail)
      = some (⟨negative, digits, scale, e?⟩, rest) := by
  have hintegral : (Decimal.mk digits (-(scale : Int))).integral = natDigits (digits / 10 ^ scale) := by
    simp [integral, numerator, denominator]
  have hfractional : (Decimal.mk digits (-(scale : Int))).fractional
      = paddedDigits scale (digits % 10 ^ scale) := by
    simp [fractional, numerator, denominator]
  have hvalue : digitsValue
      (natDigits (digits / 10 ^ scale) ++ paddedDigits scale (digits % 10 ^ scale)) = digits := by
    rw [digitsValue_natDigits_append _ _ _ (Nat.mod_lt _ (Nat.pow_pos (by decide))), Nat.div_add_mod]
  rw [positional, hintegral, hfractional]
  split
  · next hnone =>
    rw [hnone, List.append_nil] at hvalue
    have hscale : scale = 0 := by rw [← length_paddedDigits scale (digits % 10 ^ scale), hnone]; rfl
    simp [unsigned?, wholeDigits?_natDigits _ hdigits, fractionDigits?_of_notPoint hpoint, htail,
      hscale, digitsValue_natDigits]
  · next hsome =>
    have hbehind : IsDigits (paddedDigits scale (digits % 10 ^ scale)) :=
      ⟨hsome, fun _ hc => isDigit_of_mem_paddedDigits hc⟩
    have hend : DigitsEnd ('.' :: (paddedDigits scale (digits % 10 ^ scale) ++ tail)) := by
      rintro c ⟨⟩
      rfl
    simp [unsigned?, wholeDigits?_natDigits _ hend, fractionDigits?_point hbehind hdigits, htail,
      hvalue]

theorem numeral?_of_notMinus {cs : List Char} (h : cs.head? ≠ some '-') :
    numeral? cs = unsigned? false cs := by
  unfold numeral?
  split
  · exact absurd rfl h
  · rfl

theorem exists_positional_eq_cons (d : Decimal) :
    ∃ c cs, d.positional = c :: cs ∧ c.isDigit = true := by
  have hfirst : ∀ digits behind : List Char, IsDigits digits →
      ∃ c cs, digits ++ behind = c :: cs ∧ c.isDigit = true := by
    rintro digits behind ⟨hne, hdigits⟩
    obtain ⟨c, cs, rfl⟩ := List.exists_cons_of_ne_nil hne
    exact ⟨c, cs ++ behind, rfl, hdigits c List.mem_cons_self⟩
  rcases d.positional_cases with h | ⟨whole, behind, heq, h, -⟩
  · simpa using hfirst _ [] h
  · rw [heq]
    exact hfirst _ _ h

/-- What stands behind the digits of a number. -/
def exponentTail (e? : Option Int) : List Char := e?.elim [] exponentText

theorem numeral_text_eq (n : Numeral) :
    n.text = (if n.negative then ['-'] else []) ++
      ((Decimal.mk n.digits (-(n.scale : Int))).positional ++ exponentTail n.exponent?) := by
  obtain ⟨negative, digits, scale, _ | e⟩ := n <;> exact List.append_assoc _ _ _

theorem unsigned?_text (negative : Bool) (digits scale : Nat) (e? : Option Int) {rest : List Char}
    (hrest : NumberEnds rest) :
    unsigned? negative ((Decimal.mk digits (-(scale : Int))).positional ++ (exponentTail e? ++ rest))
      = some (⟨negative, digits, scale, e?⟩, rest) := by
  cases e? with
  | none =>
    exact unsigned?_positional _ _ _ hrest.digits hrest.point (exponentPart?_of_numberEnds hrest)
  | some e =>
    refine unsigned?_positional _ _ _ ?_ ?_ (exponentPart?_exponentText e hrest.digits)
    · rintro c ⟨⟩
      rfl
    · exact fun h => absurd (Option.some.inj h) (by decide)

/-- **A number is read back from its text as it was written.** -/
theorem numeral?_text (n : Numeral) {rest : List Char} (hrest : NumberEnds rest) :
    numeral? (n.text ++ rest) = some (n, rest) := by
  obtain ⟨negative, digits, scale, e?⟩ := n
  have hread := fun negative => unsigned?_text negative digits scale e? hrest
  rw [numeral_text_eq, List.append_assoc, List.append_assoc]
  cases negative with
  | true => exact hread true
  | false =>
    have hsign : ((Decimal.mk digits (-(scale : Int))).positional ++ (exponentTail e? ++ rest)).head?
        ≠ some '-' := by
      obtain ⟨c, cs, heq, hc⟩ := exists_positional_eq_cons (Decimal.mk digits (-(scale : Int)))
      rw [heq]
      rintro ⟨⟩
      exact absurd hc (by decide)
    exact (numeral?_of_notMinus hsign).trans (hread false)

/-- The text of a number is not empty; it begins with a minus sign or a digit. -/
theorem exists_numeral_text_eq_cons (n : Numeral) :
    ∃ c cs, n.text = c :: cs ∧ (c = '-' ∨ c.isDigit = true) := by
  obtain ⟨c, cs, heq, hc⟩ := exists_positional_eq_cons (Decimal.mk n.digits (-(n.scale : Int)))
  rw [Numeral.text, heq]
  cases n.negative with
  | true => exact ⟨_, _, rfl, Or.inl rfl⟩
  | false => exact ⟨c, _, rfl, Or.inr hc⟩

end Json

end ShadingGraph
