import ShadingGraph.Number.Shortest
import ShadingGraph.Proofs.Number.Nearest

/-!
# Shortest decimals

A decimal reads back as a pattern if the pattern is the nearest one to it (`readsBack_iff`). On a grid
of powers of ten that has a point which reads back, one is found (`exists_onGrid?`), because the value
itself lies between its neighbours there. So `Format.shortest` meets the coarsest grid with such a
point (`exists_shortest_grid`).

Main statements: the shortest decimal reads back (`readsBack_shortest`), and no decimal with fewer
digits does (`length_shortest_le`).
-/

namespace ShadingGraph.Number

namespace Decimal

/-- The number that a decimal stands for. -/
def value (d : Decimal) : ℚ := d.digits * 10 ^ d.exponent

theorem denominator_pos (d : Decimal) : 0 < d.denominator := Nat.pow_pos (by decide)

theorem value_eq_div (d : Decimal) : d.value = d.numerator / d.denominator := by
  simp only [value, numerator, denominator, Nat.pow_eq, Nat.cast_mul, Nat.cast_pow, Nat.cast_ofNat]
  rw [zpow_eq_div, mul_div_assoc]

theorem length_le_iff (d : Decimal) {n : Nat} (hn : 0 < n) : d.length ≤ n ↔ d.digits < 10 ^ n :=
  Nat.length_toDigits_le_iff (by decide) hn

theorem length_pos (d : Decimal) : 0 < d.length := List.length_pos_iff.2 Nat.toDigits_ne_nil

end Decimal

namespace Format

variable {f : Format} {tie : Tie} {p : Nat} {d : Decimal} {e : ℤ}

theorem readsBack_iff (hf : 0 < f.fraction) : f.readsBack p d = true ↔ f.Nearest d.value p := by
  rw [Decimal.value_eq_div, nearest_iff_roundRatio hf d.denominator_pos, readsBack, decide_eq_true_eq]

/-- What lies between decimals that read back reads back. -/
theorem readsBack_of_between (hf : 0 < f.fraction) {a b : Decimal} (ha : f.readsBack p a = true)
    (hb : f.readsBack p b = true) (had : a.value ≤ d.value) (hdb : d.value ≤ b.value) :
    f.readsBack p d = true :=
  (readsBack_iff hf).2 (((readsBack_iff hf).1 ha).of_between ((readsBack_iff hf).1 hb) had hdb)

/-! ## Grids -/

theorem nearer_cases (tie : Tie) (den q r : Nat) :
    nearer tie den q r = q ∨ nearer tie den q r = q + 1 := by
  unfold nearer
  split
  · exact Or.inl rfl
  split
  · exact Or.inr rfl
  split
  · exact Or.inr rfl
  split
  · exact Or.inl rfl
  · exact Or.inr rfl

theorem onGrid?_eq_some (h : f.onGrid? tie p e = some d) :
    d.exponent = e ∧ f.readsBack p d = true := by
  simp only [onGrid?] at h
  split at h
  · next hboth =>
    obtain ⟨hbelow, habove⟩ := Bool.and_eq_true_iff.1 hboth
    obtain rfl := Option.some.inj h
    refine ⟨rfl, ?_⟩
    rcases nearer_cases tie _ _ _ with heq | heq
    · rw [heq]
      exact hbelow
    · rw [heq]
      exact habove
  split at h
  · next hbelow =>
    obtain rfl := Option.some.inj h
    exact ⟨rfl, hbelow⟩
  split at h
  · next habove =>
    obtain rfl := Option.some.inj h
    exact ⟨rfl, habove⟩
  · cases h

/-- The value lies between two neighbours on a grid; one of them is found if it reads back. -/
theorem exists_neighbours (f : Format) (tie : Tie) (p : Nat) (e : ℤ) :
    ∃ q : Nat, (Decimal.mk q e).value ≤ f.value p ∧ f.value p ≤ (Decimal.mk (q + 1) e).value ∧
      (f.readsBack p ⟨q, e⟩ = true ∨ f.readsBack p ⟨q + 1, e⟩ = true →
        ∃ d, f.onGrid? tie p e = some d) := by
  have hscaled := scaled_div (f.numerator p) (f.denominator p) (by decide : 0 < 10) e
  have hden : 0 < f.denominator p * 10 ^ e.toNat :=
    Nat.mul_pos (Nat.two_pow_pos _) (Nat.pow_pos (by decide))
  rw [← value_eq_div, Nat.cast_ofNat] at hscaled
  have hpos : (0 : ℚ) < (f.denominator p * 10 ^ e.toNat : Nat) := Nat.cast_pos.2 hden
  have hunit : (0 : ℚ) < 10 ^ e := by positivity
  refine ⟨f.numerator p * 10 ^ (-e).toNat / (f.denominator p * 10 ^ e.toNat), ?_, ?_, fun h => ?_⟩
  · rw [Decimal.value, ← le_div_iff₀ hunit, ← hscaled, le_div_iff₀ hpos]
    exact_mod_cast Nat.div_mul_le_self _ _
  · rw [Decimal.value, ← div_le_iff₀ hunit, ← hscaled, div_le_iff₀ hpos]
    exact_mod_cast (Nat.lt_mul_of_div_lt (Nat.lt_succ_self _) hden).le
  · simp only [onGrid?, Nat.pow_eq]
    split
    · exact ⟨_, rfl⟩
    split
    · exact ⟨_, rfl⟩
    split
    · exact ⟨_, rfl⟩
    · next hbelow habove => exact absurd h (not_or.2 ⟨hbelow, habove⟩)

/-- **A grid that has a point which reads back has one next to the value.** -/
theorem exists_onGrid? (tie : Tie) (hf : 0 < f.fraction) (hp : p ≤ f.infinity) {n : Nat}
    (h : f.readsBack p ⟨n, e⟩ = true) : ∃ d, f.onGrid? tie p e = some d := by
  obtain ⟨q, hbelow, habove, hfound⟩ := exists_neighbours f tie p e
  have hvalue : f.Nearest (f.value p) p := nearest_value hp
  have hn := (readsBack_iff hf).1 h
  have hmono : ∀ {a b : Nat}, a ≤ b → (Decimal.mk a e).value ≤ (Decimal.mk b e).value := fun hab =>
    mul_le_mul_of_nonneg_right (Nat.cast_le.2 hab) (by positivity)
  refine hfound ?_
  rcases Nat.lt_or_ge q n with hlt | hge
  · exact Or.inr ((readsBack_iff hf).2 (hvalue.of_between hn habove (hmono hlt)))
  · exact Or.inl ((readsBack_iff hf).2 (hn.of_between hvalue (hmono hge) hbelow))

/-- On the finest grid the value itself is a point. -/
theorem exists_value_eq (f : Format) (p : Nat) :
    ∃ n : Nat, (Decimal.mk n (f.finestGrid p)).value = f.value p := by
  rcases Int.le_total 0 (f.lastExponent p) with hexp | hexp
  · obtain ⟨k, hk⟩ := Int.eq_ofNat_of_zero_le hexp
    refine ⟨f.significand p * 2 ^ k, ?_⟩
    rw [Decimal.value, value, finestGrid, min_eq_left hexp, hk, zpow_zero, mul_one, zpow_natCast]
    push_cast
    rfl
  · obtain ⟨k, hk⟩ := Int.exists_eq_neg_ofNat hexp
    refine ⟨f.significand p * 5 ^ k, ?_⟩
    have hten : (10 : ℚ) ^ k = 5 ^ k * 2 ^ k := by rw [← mul_pow]; norm_num
    rw [Decimal.value, value, finestGrid, min_eq_right hexp, hk, zpow_neg, zpow_neg, zpow_natCast,
      zpow_natCast, hten]
    push_cast
    field_simp

/-- A power of ten that exceeds the value. -/
theorem value_lt_coarsest (f : Format) (p : Nat) : f.value p < 10 ^ f.coarsestGrid p := by
  have hden : 0 < f.denominator p := Nat.two_pow_pos _
  have hwhole := (Nat.length_toDigits_le_iff (by decide) (List.length_pos_iff.2 Nat.toDigits_ne_nil)).1
    (Nat.le_refl (Nat.toDigits 10 (f.numerator p / f.denominator p)).length)
  rw [value_eq_div, div_lt_iff₀ (Nat.cast_pos.2 hden), coarsestGrid, zpow_natCast]
  exact_mod_cast Nat.lt_mul_of_div_lt hwhole hden

/-- The unit of the last place is no more than the value. -/
theorem value_succ_le (f : Format) (hp : 0 < p) : f.value (p + 1) ≤ 2 * f.value p := by
  have hpos : 0 < f.value p := (value_zero f).symm.trans_lt (f.value_strictMono hp)
  have hsignificand : (1 : ℚ) ≤ f.significand p := by
    refine Nat.one_le_cast.2 (Nat.one_le_iff_ne_zero.2 fun hzero => hpos.ne' ?_)
    rw [value, hzero, Nat.cast_zero, zero_mul]
  have hunit : (2 : ℚ) ^ f.lastExponent p ≤ f.value p :=
    le_mul_of_one_le_left (by positivity) hsignificand
  rw [value_succ]
  linarith

/-- Grids coarser than the coarsest one have no point that reads back. -/
theorem not_readsBack_of_coarser (hf : 0 < f.fraction) (hp₀ : 0 < p) (hp : p < f.infinity)
    (he : f.coarsestGrid p < e) (n : Nat) : ¬f.readsBack p ⟨n, e⟩ = true := by
  rw [readsBack_iff hf]
  intro h
  rcases Nat.eq_zero_or_pos n with rfl | hn
  · have hzero := nearest_value (f := f) (Nat.zero_le _)
    rw [value_zero] at hzero
    rw [Decimal.value, Nat.cast_zero, zero_mul] at h
    exact hp₀.ne (hzero.unique h)
  · have hupper : (Decimal.mk n e).value ≤ 2 * f.value p :=
      (h.under hp).le.trans ((border_lt_value p).le.trans (f.value_succ_le hp₀))
    have hlower : (10 : ℚ) ^ e ≤ (Decimal.mk n e).value :=
      le_mul_of_one_le_left (by positivity) (Nat.one_le_cast.2 hn)
    have hgrid : (10 : ℚ) ^ (f.coarsestGrid p + 1) ≤ 10 ^ e := zpow_le_zpow_right₀ (by norm_num) he
    have hcoarsest := f.value_lt_coarsest p
    have hpos : (0 : ℚ) < 10 ^ f.coarsestGrid p := by positivity
    rw [zpow_add_one₀ (by norm_num)] at hgrid
    linarith

/-! ## Scanning the grids -/

/-- The scan ends on the coarsest of its grids that has a point which reads back. -/
theorem scan_spec (hf : 0 < f.fraction) (hp : p ≤ f.infinity) (tie : Tie) {low : ℤ} {n : Nat}
    (hlow : f.readsBack p ⟨n, low⟩ = true) (grids : Nat) :
    ∃ e, f.onGrid? tie p e = some (f.scan tie p low grids) ∧
      ∀ c : ℤ, e < c → c ≤ low + grids → f.onGrid? tie p c = none := by
  induction grids with
  | zero =>
    obtain ⟨d, hd⟩ := exists_onGrid? tie hf hp hlow
    refine ⟨low, by rw [scan, hd, Option.getD_some], fun c hc hc' => ?_⟩
    exact absurd hc (by simpa using hc')
  | succ grids ih =>
    rw [scan]
    split
    · next d hd => exact ⟨_, hd, fun c hc hc' => absurd hc (by omega)⟩
    · next hnone =>
      obtain ⟨e, he, hcoarser⟩ := ih
      refine ⟨e, he, fun c hc hc' => ?_⟩
      rcases Int.lt_or_eq_of_le hc' with hlt | rfl
      · exact hcoarser c hc (by omega)
      · exact hnone

/-- **The shortest decimal lies on the coarsest of all grids that have a point which reads back.** -/
theorem exists_shortest_grid (hf : 0 < f.fraction) (hp₀ : 0 < p) (hp : p < f.infinity) (tie : Tie) :
    f.readsBack p (f.shortest tie p) = true ∧
      ∀ d : Decimal, f.readsBack p d = true → d.exponent ≤ (f.shortest tie p).exponent := by
  obtain ⟨n, hn⟩ := f.exists_value_eq p
  have hlow : f.readsBack p ⟨n, f.finestGrid p⟩ = true := by
    rw [readsBack_iff hf, hn]
    exact nearest_value hp.le
  obtain ⟨e, he, hcoarser⟩ := scan_spec hf hp.le tie hlow (f.coarsestGrid p - f.finestGrid p).toNat
  simp only [shortest, hp₀.ne', if_false]
  obtain ⟨rfl, hreads⟩ := onGrid?_eq_some he
  refine ⟨hreads, fun d hd => not_lt.1 fun hlt => ?_⟩
  rcases le_or_gt d.exponent (f.coarsestGrid p) with hle | hgt
  · obtain ⟨found, hfound⟩ := exists_onGrid? tie hf hp.le (n := d.digits) hd
    rw [hcoarser d.exponent hlt (by omega)] at hfound
    cases hfound
  · exact not_readsBack_of_coarser hf hp₀ hp hgt d.digits hd

theorem shortest_zero (f : Format) (tie : Tie) : f.shortest tie 0 = ⟨0, 0⟩ := rfl

/-- **The shortest decimal reads back.** -/
theorem readsBack_shortest (hf : 0 < f.fraction) (hp : p < f.infinity) (tie : Tie) :
    f.readsBack p (f.shortest tie p) = true := by
  rcases Nat.eq_zero_or_pos p with rfl | hp₀
  · have hzero := nearest_value (f := f) (Nat.zero_le _)
    rw [value_zero] at hzero
    rw [shortest_zero, readsBack_iff hf, Decimal.value, Nat.cast_zero, zero_mul]
    exact hzero
  · exact (exists_shortest_grid hf hp₀ hp tie).1

/-- **No decimal that reads back has fewer digits than the shortest one.** -/
theorem length_shortest_le (hf : 0 < f.fraction) (hp : p < f.infinity) (tie : Tie)
    (h : f.readsBack p d = true) : (f.shortest tie p).length ≤ d.length := by
  rcases Nat.eq_zero_or_pos p with rfl | hp₀
  · have hone : (Decimal.mk 0 0).length = 1 := by decide
    rw [shortest_zero, hone]
    exact d.length_pos
  obtain ⟨hreads, hcoarsest⟩ := exists_shortest_grid hf hp₀ hp tie
  generalize f.shortest tie p = s at *
  by_contra hlength
  have hdigits : d.digits < 10 ^ d.length := (d.length_le_iff d.length_pos).1 le_rfl
  have hdigits' : 10 ^ d.length ≤ s.digits := not_lt.1 (mt (s.length_le_iff d.length_pos).2 hlength)
  -- a power of ten lies between the two decimals, on a grid coarser than that of `s`
  have hpower : (Decimal.mk 1 (s.exponent + d.length)).value = 10 ^ d.length * 10 ^ s.exponent := by
    rw [Decimal.value, Nat.cast_one, one_mul, zpow_add₀ (by norm_num), zpow_natCast, mul_comm]
  have hlower : d.value ≤ (Decimal.mk 1 (s.exponent + d.length)).value := by
    rw [hpower, Decimal.value]
    gcongr
    · exact_mod_cast hdigits.le
    · norm_num
    · exact hcoarsest d h
  have hupper : (Decimal.mk 1 (s.exponent + d.length)).value ≤ s.value := by
    rw [hpower, Decimal.value]
    gcongr
    exact_mod_cast hdigits'
  have hexponent : s.exponent + d.length ≤ s.exponent :=
    hcoarsest _ (readsBack_of_between hf h hreads hlower hupper)
  have := d.length_pos
  omega

end Format

end ShadingGraph.Number
