import Mathlib.Algebra.Order.Field.Power
import Mathlib.Algebra.Order.Field.Rat
import Mathlib.Tactic.FieldSimp
import Mathlib.Tactic.Linarith
import Mathlib.Tactic.Ring
import ShadingGraph.Number.Format

/-!
# The nearest pattern

What the patterns of a format stand for (`Format.value`), and which of them is the nearest to a
number, a tie going to the even pattern (`Format.Nearest`). The pattern of infinity counts with the
power of two that follows the finite values, so that what is at least halfway to it is infinite.

Between a pattern and the next one there is a border halfway, which belongs to the even one of them
(`Format.Under`). The nearest pattern is the least one whose border the number stays under
(`nearest_iff`); hence it is unique, and what lies between two numbers with the same nearest pattern
has that pattern too (`Nearest.of_between`).

Main statement: `Format.roundRatio` gives the nearest pattern, and nothing else is nearest
(`nearest_iff_roundRatio`).
-/

namespace ShadingGraph.Number

theorem zpow_eq_div (b : ℚ) (e : ℤ) : b ^ e = b ^ e.toNat / b ^ (-e).toNat := by
  cases e with
  | ofNat n => simp
  | negSucc n => simp [zpow_negSucc, Int.neg_negSucc]

namespace Format

variable (f : Format)

/-! ## Values of patterns -/

/-- What a pattern stands for. -/
def value (p : Nat) : ℚ := f.significand p * 2 ^ f.lastExponent p

theorem value_eq_div (p : Nat) : f.value p = f.numerator p / f.denominator p := by
  simp only [value, numerator, denominator, Nat.pow_eq, Nat.cast_mul, Nat.cast_pow, Nat.cast_ofNat]
  rw [zpow_eq_div, mul_div_assoc]

theorem significand_lt_hidden {p : Nat} (h : p < 2 ^ f.fraction) : f.significand p = p := by
  simp [significand, h]

theorem lastExponent_lt_hidden {p : Nat} (h : p < 2 ^ f.fraction) :
    f.lastExponent p = f.minExponent := by
  simp [lastExponent, Nat.div_eq_of_lt h]

theorem significand_normal (k : Nat) {r : Nat} (h : r < 2 ^ f.fraction) :
    f.significand ((k + 1) * 2 ^ f.fraction + r) = 2 ^ f.fraction + r := by
  have hle : ¬ (k + 1) * 2 ^ f.fraction + r < 2 ^ f.fraction := by
    rw [Nat.succ_mul]
    omega
  simp only [significand, Nat.pow_eq, if_neg hle]
  rw [Nat.mul_add_mod', Nat.mod_eq_of_lt h]

theorem lastExponent_normal (k : Nat) {r : Nat} (h : r < 2 ^ f.fraction) :
    f.lastExponent ((k + 1) * 2 ^ f.fraction + r) = f.minExponent + k := by
  have hdiv : ((k + 1) * 2 ^ f.fraction + r) / 2 ^ f.fraction = k + 1 := by
    rw [Nat.mul_comm, Nat.mul_add_div (Nat.two_pow_pos _), Nat.div_eq_of_lt h, Nat.add_zero]
  simp [lastExponent, hdiv]

/--
A multiple of the hidden bit is a multiple of the last place, for subnormal and normal numbers alike,
and also where the significand overflows by one.
-/
theorem value_mul_add {k m : Nat} (hm : m ≤ 2 * 2 ^ f.fraction) (hk : k = 0 ∨ 2 ^ f.fraction ≤ m) :
    f.value (k * 2 ^ f.fraction + m) = m * 2 ^ (f.minExponent + k) := by
  by_cases hsmall : m < 2 ^ f.fraction
  · obtain rfl : k = 0 := hk.resolve_right (by omega)
    rw [value, Nat.zero_mul, Nat.zero_add, f.significand_lt_hidden hsmall,
      f.lastExponent_lt_hidden hsmall, Nat.cast_zero, add_zero]
  obtain ⟨r, rfl⟩ := Nat.exists_eq_add_of_le (Nat.not_lt.1 hsmall)
  rcases Nat.lt_or_eq_of_le (show r ≤ 2 ^ f.fraction by omega) with hr | rfl
  · have hp : k * 2 ^ f.fraction + (2 ^ f.fraction + r) = (k + 1) * 2 ^ f.fraction + r := by ring
    rw [hp, value, f.significand_normal k hr, f.lastExponent_normal k hr]
  · have hp : k * 2 ^ f.fraction + (2 ^ f.fraction + 2 ^ f.fraction)
        = (k + 1 + 1) * 2 ^ f.fraction + 0 := by ring
    rw [hp, value, f.significand_normal (k + 1) (Nat.two_pow_pos _),
      f.lastExponent_normal (k + 1) (Nat.two_pow_pos _), Nat.cast_add k 1, Nat.cast_one, ← add_assoc,
      zpow_add_one₀ (by norm_num)]
    push_cast
    ring

/-- One, and the least and the greatest of the positive finite numbers of 32 bits. -/
example : binary32.value 0x3F800000 = 1 ∧ binary32.value 1 = 1 / 2 ^ 149 ∧
    binary32.value 0x7F7FFFFF = 2 ^ 128 - 2 ^ 104 := by
  decide +kernel

/-- Every pattern is a multiple of the hidden bit and its significand. -/
theorem exists_eq_mul_add (p : Nat) : ∃ k m, p = k * 2 ^ f.fraction + m ∧
    m < 2 * 2 ^ f.fraction ∧ (k = 0 ∨ 2 ^ f.fraction ≤ m) ∧ f.lastExponent p = f.minExponent + k := by
  by_cases hsmall : p < 2 ^ f.fraction
  · exact ⟨0, p, by omega, by omega, Or.inl rfl, by rw [f.lastExponent_lt_hidden hsmall]; simp⟩
  · have hr : p % 2 ^ f.fraction < 2 ^ f.fraction := Nat.mod_lt _ (Nat.two_pow_pos _)
    obtain ⟨k, hk⟩ : ∃ k, p / 2 ^ f.fraction = k + 1 :=
      Nat.exists_eq_add_one.2 (Nat.div_pos (by omega) (Nat.two_pow_pos _))
    have hp : p = (k + 1) * 2 ^ f.fraction + p % 2 ^ f.fraction := by
      rw [← hk, Nat.div_add_mod']
    refine ⟨k, 2 ^ f.fraction + p % 2 ^ f.fraction, ?_, by omega, Or.inr (by omega), ?_⟩
    · exact hp.trans (by ring)
    · rw [hp, f.lastExponent_normal k hr]

/-- The next pattern stands for one more unit in the last place. -/
theorem value_succ (p : Nat) : f.value (p + 1) = f.value p + 2 ^ f.lastExponent p := by
  obtain ⟨k, m, hp, hm, hk, hexp⟩ := f.exists_eq_mul_add p
  rw [hexp, hp, f.value_mul_add hm.le hk, Nat.add_assoc,
    f.value_mul_add (k := k) (m := m + 1) (by omega) (hk.imp_right (by omega))]
  push_cast
  ring

theorem value_strictMono : StrictMono f.value := by
  refine strictMono_nat_of_lt_succ fun p => ?_
  rw [value_succ]
  exact lt_add_of_pos_right _ (zpow_pos (by norm_num) _)

@[simp] theorem value_zero : f.value 0 = 0 := by
  simp [value, f.significand_lt_hidden (Nat.two_pow_pos _)]

/-! ## Nearest patterns -/

/--
The pattern `p` is nearest to `q`, and of two nearest patterns it is the even one. Infinity takes part
with the power of two that follows the finite values.
-/
structure Nearest (q : ℚ) (p : Nat) : Prop where
  le_infinity : p ≤ f.infinity
  closest : ∀ r ≤ f.infinity, |f.value p - q| ≤ |f.value r - q|
  even : ∀ r ≤ f.infinity, r ≠ p → |f.value r - q| = |f.value p - q| → p % 2 = 0

/-- Halfway between a pattern and the next one. -/
def border (p : Nat) : ℚ := (f.value p + f.value (p + 1)) / 2

/-- Below the border of `p`, which itself belongs to the even one of its two neighbours. -/
def Under (q : ℚ) (p : Nat) : Prop := q < f.border p ∨ q = f.border p ∧ p % 2 = 0

variable {f} {p r : Nat} {q t : ℚ}

theorem value_lt_border (p : Nat) : f.value p < f.border p := by
  have hlt := f.value_strictMono (Nat.lt_succ_self p)
  simp only [border]
  linarith

theorem border_lt_value (p : Nat) : f.border p < f.value (p + 1) := by
  have hlt := f.value_strictMono (Nat.lt_succ_self p)
  simp only [border]
  linarith

theorem Under.le (h : f.Under q p) : q ≤ f.border p := h.elim le_of_lt fun h => le_of_eq h.1

theorem under_of_le_value (h : q ≤ f.value p) : f.Under q p := Or.inl (h.trans_lt (value_lt_border p))

theorem not_under_of_value_le (h : f.value (p + 1) ≤ q) : ¬f.Under q p :=
  fun hunder => absurd hunder.le (not_le.2 ((border_lt_value p).trans_le h))

theorem le_of_not_under (h : ¬f.Under q p) : f.border p ≤ q := not_lt.1 fun hlt => h (Or.inl hlt)

/-- Smaller numbers stay under a border. -/
theorem Under.of_le (h : f.Under q p) (hle : t ≤ q) : f.Under t p := by
  rcases hle.lt_or_eq with hlt | rfl
  · exact Or.inl (hlt.trans_le h.le)
  · exact h

/-- A number stays under the borders of greater patterns. -/
theorem Under.mono (h : f.Under q p) (hle : p ≤ r) : f.Under q r := by
  rcases hle.lt_or_eq with hlt | rfl
  · have hnext : f.value (p + 1) ≤ f.value r := f.value_strictMono.monotone hlt
    exact under_of_le_value (h.le.trans ((border_lt_value p).le.trans hnext))
  · exact h

/-- The lower of two points is as near to `q` as the upper one if `q` is not above their middle. -/
theorem lower_nearer_iff {a b : ℚ} (hab : a < b) : |a - q| ≤ |b - q| ↔ q ≤ (a + b) / 2 := by
  rw [abs_sub_comm a, abs_sub_comm b, ← sq_le_sq]
  constructor <;> intro h <;> nlinarith

theorem upper_nearer_iff {a b : ℚ} (hab : a < b) : |b - q| ≤ |a - q| ↔ (a + b) / 2 ≤ q := by
  rw [abs_sub_comm a, abs_sub_comm b, ← sq_le_sq]
  constructor <;> intro h <;> nlinarith

theorem Nearest.under (h : f.Nearest q p) (hp : p < f.infinity) : f.Under q p := by
  have hlt := f.value_strictMono (Nat.lt_succ_self p)
  have hle : q ≤ f.border p := (lower_nearer_iff hlt).1 (h.closest (p + 1) hp)
  refine hle.lt_or_eq.imp_right fun heq => ⟨heq, ?_⟩
  have hback := (upper_nearer_iff hlt).2 heq.ge
  exact h.even (p + 1) hp (by omega) (le_antisymm hback (h.closest (p + 1) hp))

theorem Nearest.not_under (h : f.Nearest q p) (hr : r < p) : ¬f.Under q r := by
  intro hunder
  obtain ⟨s, rfl⟩ := Nat.exists_eq_add_one.2 (Nat.zero_lt_of_lt hr)
  have hlt := f.value_strictMono (Nat.lt_succ_self s)
  have hs : s ≤ f.infinity := (Nat.le_succ s).trans h.le_infinity
  have hunder : f.Under q s := hunder.mono (Nat.le_of_lt_succ hr)
  have hle : f.border s ≤ q := (upper_nearer_iff hlt).1 (h.closest s hs)
  -- `q` is the border of `s`, and both `s` and the pattern after it would be even
  have heven : s % 2 = 0 := (hunder.resolve_left hle.not_gt).2
  have hback := (lower_nearer_iff hlt).2 hunder.le
  have := h.even s hs (by omega) (le_antisymm hback (h.closest s hs))
  omega

/-- A pattern is as near as any greater one to what stays under its border. -/
theorem Under.nearer (h : f.Under q p) (hr : p < r) :
    |f.value p - q| ≤ |f.value r - q| ∧ (|f.value r - q| = |f.value p - q| → p % 2 = 0) := by
  have hnext : f.value (p + 1) ≤ f.value r := f.value_strictMono.monotone hr
  have hmiddle : f.border p ≤ (f.value p + f.value r) / 2 := by
    simp only [border]
    linarith
  refine ⟨(lower_nearer_iff (f.value_strictMono hr)).2 (h.le.trans hmiddle), fun heq => ?_⟩
  have hback := (upper_nearer_iff (f.value_strictMono hr)).1 heq.le
  exact (h.resolve_left (hmiddle.trans hback).not_gt).2

/-- A pattern is as near as any smaller one to what is not under the border below. -/
theorem nearer_of_not_under (h : ¬f.Under q p) (hr : r ≤ p) :
    |f.value (p + 1) - q| ≤ |f.value r - q| ∧
      (|f.value r - q| = |f.value (p + 1) - q| → (p + 1) % 2 = 0) := by
  have hprev : f.value r ≤ f.value p := f.value_strictMono.monotone hr
  have hlt : f.value r < f.value (p + 1) := f.value_strictMono (Nat.lt_succ_of_le hr)
  have hmiddle : (f.value r + f.value (p + 1)) / 2 ≤ f.border p := by
    simp only [border]
    linarith
  refine ⟨(upper_nearer_iff hlt).2 (hmiddle.trans (le_of_not_under h)), fun heq => ?_⟩
  have hback := ((lower_nearer_iff hlt).1 heq.le).trans hmiddle
  have hodd : p % 2 ≠ 0 := fun hp => h (Or.inr ⟨le_antisymm hback (le_of_not_under h), hp⟩)
  omega

/-- **The nearest pattern is the least one whose border the number stays under.** -/
theorem nearest_iff : f.Nearest q p ↔
    p ≤ f.infinity ∧ (p < f.infinity → f.Under q p) ∧ ∀ r < p, ¬f.Under q r := by
  refine ⟨fun h => ⟨h.le_infinity, h.under, fun r => h.not_under⟩, ?_⟩
  rintro ⟨hp, hunder, hleast⟩
  have hnearer : ∀ r ≤ f.infinity, r ≠ p → |f.value p - q| ≤ |f.value r - q| ∧
      (|f.value r - q| = |f.value p - q| → p % 2 = 0) := by
    intro r hr hne
    rcases Nat.lt_or_gt_of_ne hne with hlt | hgt
    · obtain ⟨s, rfl⟩ := Nat.exists_eq_add_one.2 (Nat.zero_lt_of_lt hlt)
      exact nearer_of_not_under (hleast s (Nat.lt_succ_self s)) (Nat.le_of_lt_succ hlt)
    · exact (hunder (hgt.trans_le hr)).nearer hgt
  refine ⟨hp, fun r hr => ?_, fun r hr hne => (hnearer r hr hne).2⟩
  by_cases hne : r = p
  · rw [hne]
  · exact (hnearer r hr hne).1

theorem Nearest.unique (hp : f.Nearest q p) (hr : f.Nearest q r) : p = r := by
  rcases Nat.lt_trichotomy p r with hlt | heq | hgt
  · exact absurd (hp.under (hlt.trans_le hr.le_infinity)) (hr.not_under hlt)
  · exact heq
  · exact absurd (hr.under (hgt.trans_le hp.le_infinity)) (hp.not_under hgt)

/-- **The numbers with one nearest pattern form an interval.** -/
theorem Nearest.of_between {a b : ℚ} (ha : f.Nearest a p) (hb : f.Nearest b p) (haq : a ≤ q)
    (hqb : q ≤ b) : f.Nearest q p :=
  nearest_iff.2 ⟨ha.le_infinity, fun hp => (hb.under hp).of_le hqb,
    fun _ hr hunder => ha.not_under hr (hunder.of_le haq)⟩

theorem nearest_value (hp : p ≤ f.infinity) : f.Nearest (f.value p) p :=
  nearest_iff.2 ⟨hp, fun _ => under_of_le_value le_rfl,
    fun _ hr => not_under_of_value_le (f.value_strictMono.monotone hr)⟩

/-! ## Rounding a quotient -/

variable {num den : Nat}

/-- The integer `m` differs from `t` by less than a half, or by a half and is even. -/
@[mk_iff]
structure NearestInt (t : ℚ) (m : Nat) : Prop where
  below : t < m + 1 / 2 ∨ t = m + 1 / 2 ∧ m % 2 = 0
  above : m - 1 / 2 < t ∨ m - 1 / 2 = t ∧ m % 2 = 0

theorem nearestInt_roundHalfEven (hden : 0 < den) :
    NearestInt (num / den) (roundHalfEven num den) := by
  generalize hm : roundHalfEven num den = m
  have hpos : (0 : ℚ) < den := Nat.cast_pos.2 hden
  have hsplit : (num : ℚ) = den * (num / den : Nat) + (num % den : Nat) := by
    exact_mod_cast (Nat.div_add_mod num den).symm
  have hrest : ((num % den : Nat) : ℚ) < den := Nat.cast_lt.2 (Nat.mod_lt _ hden)
  have hrest₀ : (0 : ℚ) ≤ (num % den : Nat) := Nat.cast_nonneg _
  rw [nearestInt_iff, div_lt_iff₀ hpos, lt_div_iff₀ hpos, div_eq_iff hpos.ne', eq_div_iff hpos.ne',
    hsplit]
  simp only [roundHalfEven] at hm
  generalize num / den = q at *
  generalize num % den = r at *
  split at hm
  · next hlow =>
    have hlow : 2 * (r : ℚ) < den := by exact_mod_cast hlow
    subst hm
    exact ⟨Or.inl (by linarith), Or.inl (by linarith)⟩
  split at hm
  · next hhigh =>
    have hhigh : (den : ℚ) < 2 * r := by exact_mod_cast hhigh
    subst hm
    push_cast
    exact ⟨Or.inl (by linarith), Or.inl (by linarith)⟩
  · next hlow hhigh =>
    have htie : 2 * (r : ℚ) = den := by exact_mod_cast show 2 * r = den by omega
    split at hm
    · next heven =>
      subst hm
      exact ⟨Or.inr ⟨by linarith, heven⟩, Or.inl (by linarith)⟩
    · next hodd =>
      subst hm
      push_cast
      exact ⟨Or.inl (by linarith), Or.inr ⟨by linarith, by omega⟩⟩

/-- The binary logarithm of a quotient, rounded down. -/
theorem floorLog2_bounds (hnum : 0 < num) (hden : 0 < den) :
    (2 : ℚ) ^ floorLog2 num den ≤ num / den ∧ (num / den : ℚ) < 2 ^ (floorLog2 num den + 1) := by
  have hpos : (0 : ℚ) < den := Nat.cast_pos.2 hden
  have hlower : ∀ n : Nat, 0 < n → (2 : ℚ) ^ (n.log2 : ℤ) ≤ n := fun n hn => by
    exact_mod_cast Nat.log2_self_le hn.ne'
  have hupper : ∀ n : Nat, (n : ℚ) < 2 ^ (n.log2 + 1 : ℤ) := fun n => by
    exact_mod_cast Nat.lt_log2_self (n := n)
  simp only [floorLog2, Nat.pow_eq]
  generalize he : (num.log2 : ℤ) - den.log2 = e
  have hbelow : (num / den : ℚ) < 2 ^ (e + 1) := by
    rw [div_lt_iff₀ hpos]
    calc (num : ℚ) < 2 ^ (num.log2 + 1 : ℤ) := hupper num
      _ = 2 ^ (e + 1) * 2 ^ (den.log2 : ℤ) := by rw [← zpow_add₀ two_ne_zero]; congr 1; omega
      _ ≤ 2 ^ (e + 1) * den := mul_le_mul_of_nonneg_left (hlower den hden) (by positivity)
  have habove : (2 : ℚ) ^ (e - 1) ≤ num / den := by
    rw [le_div_iff₀ hpos]
    calc (2 : ℚ) ^ (e - 1) * den ≤ 2 ^ (e - 1) * 2 ^ (den.log2 + 1 : ℤ) :=
          mul_le_mul_of_nonneg_left (hupper den).le (by positivity)
      _ = 2 ^ (num.log2 : ℤ) := by rw [← zpow_add₀ two_ne_zero]; congr 1; omega
      _ ≤ num := hlower num hnum
  have htest : den * 2 ^ e.toNat ≤ num * 2 ^ (-e).toNat ↔ (2 : ℚ) ^ e ≤ num / den := by
    rw [zpow_eq_div, div_le_div_iff₀ (by positivity) hpos, mul_comm ((2 : ℚ) ^ e.toNat)]
    exact_mod_cast Iff.rfl
  split
  · next h => exact ⟨htest.1 h, hbelow⟩
  · next h =>
    rw [sub_add_cancel]
    exact ⟨habove, not_le.1 (mt htest.2 h)⟩

theorem scaled_div (num den : Nat) {b : Nat} (hb : 0 < b) (e : ℤ) :
    ((num * b ^ (-e).toNat : Nat) / (den * b ^ e.toNat : Nat) : ℚ) = num / den / (b : ℚ) ^ e := by
  have hb : (b : ℚ) ≠ 0 := Nat.cast_ne_zero.2 hb.ne'
  rw [zpow_eq_div]
  push_cast
  field_simp

theorem nearestInt_scaled (num : Nat) (hden : 0 < den) (e : ℤ) :
    NearestInt (num / den / 2 ^ e) (roundHalfEven (num * 2 ^ (-e).toNat) (den * 2 ^ e.toNat)) := by
  have hscaled := scaled_div num den two_pos e
  rw [Nat.cast_ofNat] at hscaled
  rw [← hscaled]
  exact nearestInt_roundHalfEven (Nat.mul_pos hden (Nat.two_pow_pos _))

/--
Scaled to units of the exponent, a quotient fits a significand with its hidden bit, and it reaches
the hidden bit unless the number is subnormal.
-/
theorem scaled_bounds (hnum : 0 < num) (hden : 0 < den) {e : ℤ}
    (he : max f.minExponent (floorLog2 num den - f.fraction) = e) :
    (num / den / 2 ^ e : ℚ) < (2 * 2 ^ f.fraction : Nat) ∧
      (e = f.minExponent ∨ ((2 ^ f.fraction : Nat) : ℚ) ≤ num / den / 2 ^ e) := by
  obtain ⟨hlow, hhigh⟩ := floorLog2_bounds hnum hden
  have hunit : (0 : ℚ) < 2 ^ e := by positivity
  push_cast
  constructor
  · rw [div_lt_iff₀ hunit]
    calc (num / den : ℚ) < 2 ^ (floorLog2 num den + 1) := hhigh
      _ ≤ 2 ^ (1 + f.fraction + e : ℤ) := zpow_le_zpow_right₀ (by norm_num) (by omega)
      _ = 2 * 2 ^ f.fraction * 2 ^ e := by
        rw [zpow_add₀ two_ne_zero, zpow_add₀ two_ne_zero, zpow_one, zpow_natCast]
  · rcases max_choice f.minExponent (floorLog2 num den - f.fraction) with hmin | hnormal
    · exact Or.inl (he.symm.trans hmin)
    · refine Or.inr ((le_div_iff₀ hunit).2 ?_)
      calc (2 : ℚ) ^ f.fraction * 2 ^ e = 2 ^ (f.fraction + e : ℤ) := by
            rw [zpow_add₀ two_ne_zero, zpow_natCast]
        _ ≤ 2 ^ floorLog2 num den := zpow_le_zpow_right₀ (by norm_num) (by omega)
        _ ≤ num / den := hlow

theorem NearestInt.le_bound (h : NearestInt t m) {n : Nat} (ht : t < n) : m ≤ n := by
  have hle : (m : ℚ) - 1 / 2 ≤ t := h.above.elim le_of_lt fun h => le_of_eq h.1
  have hlt : (m : ℚ) < n + 1 := by linarith
  exact Nat.le_of_lt_succ (by exact_mod_cast hlt)

theorem NearestInt.bound_le (h : NearestInt t m) {n : Nat} (ht : n ≤ t) : n ≤ m := by
  have hle : t ≤ m + 1 / 2 := h.below.elim le_of_lt fun h => le_of_eq h.1
  have hlt : (n : ℚ) < m + 1 := by linarith
  exact Nat.le_of_lt_succ (by exact_mod_cast hlt)

section Rounded

/-! In units of the last place, a number is rounded to its nearest pattern as to an integer. -/

variable {k m : Nat}

theorem mul_add_mod_two (hf : 0 < f.fraction) (k m : Nat) : (k * 2 ^ f.fraction + m) % 2 = m % 2 := by
  obtain ⟨n, hn⟩ := Nat.exists_eq_add_one.2 hf
  rw [hn, Nat.pow_succ, ← Nat.mul_assoc]
  omega

/-- The border of a pattern is half a unit away. -/
theorem border_mul_add (hm : m < 2 * 2 ^ f.fraction) (hk : k = 0 ∨ 2 ^ f.fraction ≤ m) :
    f.border (k * 2 ^ f.fraction + m) = (m + 1 / 2) * 2 ^ (f.minExponent + k) := by
  rw [border, f.value_mul_add hm.le hk, Nat.add_assoc,
    f.value_mul_add (k := k) (m := m + 1) (by omega) (hk.imp_right (by omega))]
  push_cast
  ring

theorem NearestInt.under (h : NearestInt t m) (hf : 0 < f.fraction)
    (ht : t < (2 * 2 ^ f.fraction : Nat)) (hk : k = 0 ∨ (2 ^ f.fraction : Nat) ≤ t) :
    f.Under (t * 2 ^ (f.minExponent + k)) (k * 2 ^ f.fraction + m) := by
  have hunit : (0 : ℚ) < 2 ^ (f.minExponent + k) := by positivity
  have hm : m ≤ 2 * 2 ^ f.fraction := h.le_bound ht
  have hk : k = 0 ∨ 2 ^ f.fraction ≤ m := hk.imp_right h.bound_le
  rcases le_or_gt t m with hle | hgt
  · refine under_of_le_value ?_
    rw [f.value_mul_add hm hk]
    exact mul_le_mul_of_nonneg_right hle hunit.le
  · have hm : m < 2 * 2 ^ f.fraction := by exact_mod_cast hgt.trans ht
    rw [Under, border_mul_add hm hk, mul_lt_mul_iff_of_pos_right hunit, mul_left_inj' hunit.ne',
      mul_add_mod_two hf]
    exact h.below

theorem NearestInt.not_under (h : NearestInt t m) (hf : 0 < f.fraction) (ht₀ : 0 ≤ t)
    (ht : t < (2 * 2 ^ f.fraction : Nat)) (hk : k = 0 ∨ (2 ^ f.fraction : Nat) ≤ t) {r : Nat}
    (hr : r < k * 2 ^ f.fraction + m) : ¬f.Under (t * 2 ^ (f.minExponent + k)) r := by
  have hunit : (0 : ℚ) < 2 ^ (f.minExponent + k) := by positivity
  have hm : m ≤ 2 * 2 ^ f.fraction := h.le_bound ht
  rcases le_or_gt (m : ℚ) t with hle | hgt
  · refine not_under_of_value_le ((f.value_strictMono.monotone hr).trans ?_)
    rw [f.value_mul_add hm (hk.imp_right h.bound_le)]
    exact mul_le_mul_of_nonneg_right hle hunit.le
  -- rounded up, so that the pattern below has the same unit
  · obtain ⟨n, rfl⟩ := Nat.exists_eq_add_one.2 (Nat.cast_pos.1 (ht₀.trans_lt hgt))
    have hkn : k = 0 ∨ 2 ^ f.fraction ≤ n := by
      refine hk.imp_right fun hle => Nat.le_of_lt_succ ?_
      exact_mod_cast hle.trans_lt hgt
    have hodd : ¬f.Under (t * 2 ^ (f.minExponent + k)) (k * 2 ^ f.fraction + n) := by
      rw [Under, border_mul_add hm hkn, mul_lt_mul_iff_of_pos_right hunit, mul_left_inj' hunit.ne',
        mul_add_mod_two hf]
      have habove := h.above
      push_cast at habove
      rintro (hlt | ⟨heq, heven⟩) <;> rcases habove with habove | ⟨hback, hnext⟩
      · linarith
      · linarith
      · linarith
      · omega
    exact fun hunder => hodd (hunder.mono (Nat.le_of_lt_succ hr))

end Rounded

/-- The pattern that a positive quotient is rounded to while none counts as infinite. -/
theorem exists_roundRatio_eq (hf : 0 < f.fraction) (hnum : 0 < num) (hden : 0 < den) :
    ∃ p, f.roundRatio num den = min f.infinity p ∧ f.Under (num / den) p ∧
      ∀ r < p, ¬f.Under (num / den) r := by
  simp only [roundRatio, hnum.ne', if_false, Nat.pow_eq]
  generalize he : max f.minExponent (floorLog2 num den - f.fraction) = e
  obtain ⟨hbelow, habove⟩ := scaled_bounds hnum hden he
  obtain ⟨k, rfl⟩ : ∃ k : Nat, e = f.minExponent + k := by
    obtain ⟨k, hk⟩ := Int.le.dest (he ▸ le_max_left f.minExponent _)
    exact ⟨k, hk.symm⟩
  have hround := nearestInt_scaled num hden (f.minExponent + k)
  have hscaled : (0 : ℚ) ≤ num / den / 2 ^ (f.minExponent + k) :=
    div_nonneg (div_nonneg (Nat.cast_nonneg _) (Nat.cast_nonneg _)) (zpow_nonneg two_pos.le _)
  have hunits : (num / den : ℚ) = num / den / 2 ^ (f.minExponent + k) * 2 ^ (f.minExponent + k) :=
    (div_mul_cancel₀ _ (zpow_ne_zero _ two_ne_zero)).symm
  have hk : k = 0 ∨ ((2 ^ f.fraction : Nat) : ℚ) ≤ num / den / 2 ^ (f.minExponent + k) :=
    habove.imp_left fun h => by omega
  generalize (num / den / 2 ^ (f.minExponent + k) : ℚ) = t at *
  rw [hunits, add_sub_cancel_left, Int.toNat_natCast]
  exact ⟨_, rfl, hround.under hf hbelow hk, fun r => hround.not_under hf hscaled hbelow hk⟩

/-- **A quotient is rounded to its nearest pattern.** -/
theorem nearest_roundRatio (hf : 0 < f.fraction) (hden : 0 < den) :
    f.Nearest (num / den) (f.roundRatio num den) := by
  rcases Nat.eq_zero_or_pos num with rfl | hnum
  · simpa [roundRatio] using nearest_value (f := f) (Nat.zero_le f.infinity)
  obtain ⟨p, hround, hunder, hleast⟩ := exists_roundRatio_eq (f := f) hf hnum hden
  rw [hround, nearest_iff]
  refine ⟨min_le_left _ _, fun hlt => ?_, fun r hr => hleast r (hr.trans_le (min_le_right _ _))⟩
  have hp : min f.infinity p = p := min_eq_right (by omega)
  rw [hp]
  exact hunder

theorem nearest_iff_roundRatio (hf : 0 < f.fraction) (hden : 0 < den) :
    f.Nearest (num / den) p ↔ f.roundRatio num den = p :=
  ⟨fun h => (nearest_roundRatio hf hden).unique h, fun h => h ▸ nearest_roundRatio hf hden⟩

end Format

end ShadingGraph.Number
