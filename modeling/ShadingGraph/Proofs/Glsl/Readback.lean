import Mathlib.Data.List.Forall2
import ShadingGraph.Proofs.Glsl.Literal
import ShadingGraph.Proofs.Json.Numeral
import ShadingGraph.Proofs.Names
import ShadingGraph.Proofs.Number.Shortest

/-!
# What literals are read as

The literal of a scalar is read as the scalar with its sign whose magnitude is nearest to the number
that its digits stand for (`ReadsAs`), that of a vector as the vector of what its components are read
as (`Denotes`). Either can be read in one way only (`ReadsAs.unique`, `Denotes.unique`).

Main statement: every finite scalar, and every number or vector with finite components, is what its own
literal is read as (`literals_read_back`). That no fewer digits would do is `Format.length_shortest_le`.
-/

namespace ShadingGraph

open Number

namespace Binary32

theorem toNat_bits (x : Binary32) :
    x.bits.toNat = (if x.isNegative then signWeight else 0) + x.magnitude := by
  have hlt : x.bits.toNat < 2 ^ 32 := x.bits.toNat_lt
  cases hsign : x.isNegative with
  | true =>
    have hge : 0x80000000 ≤ x.bits.toNat := of_decide_eq_true hsign
    simp only [if_true, magnitude, signWeight]
    omega
  | false =>
    have hlow : ¬0x80000000 ≤ x.bits.toNat := of_decide_eq_false hsign
    simp only [Bool.false_eq_true, if_false, magnitude, signWeight]
    omega

theorem ext_parts {x y : Binary32} (hsign : x.isNegative = y.isNegative)
    (hmagnitude : x.magnitude = y.magnitude) : x = y := by
  have hbits : x.bits.toNat = y.bits.toNat := by rw [toNat_bits, toNat_bits, hsign, hmagnitude]
  obtain ⟨xbits⟩ := x
  exact congrArg Binary32.mk (UInt32.toNat_inj.1 hbits)

end Binary32

namespace Glsl

/-! ## Scalars -/

/-- What digits stand for of which `behind` are behind the point. -/
def pointed (whole behind : List Char) : ℚ :=
  Nat.ofDigitChars 10 (whole ++ behind) 0 / 10 ^ behind.length

/-- Digits, a point and digits, with a minus sign in front if the number is negative. -/
structure IsPointed (s : String) (negative : Bool) (whole behind : List Char) : Prop where
  text : s.toList = (if negative then ['-'] else []) ++ whole ++ '.' :: behind
  whole : IsDigits whole
  behind : IsDigits behind

/-- The scalar has the sign that is written, and its magnitude is the nearest to the digits. -/
def ReadsAs (s : String) (x : Binary32) : Prop :=
  ∃ whole behind, IsPointed s x.isNegative whole behind ∧
    binary32.Nearest (pointed whole behind) x.magnitude

theorem not_mem_of_isDigits {cs : List Char} (h : IsDigits cs) {c : Char} (hc : c.isDigit = false) :
    c ∉ cs := fun hmem => by simp [h.2 c hmem] at hc

theorem IsPointed.head?_eq_minus_iff {s : String} {negative : Bool} {whole behind : List Char}
    (h : IsPointed s negative whole behind) : s.toList.head? = some '-' ↔ negative = true := by
  obtain ⟨c, cs, rfl⟩ := List.exists_cons_of_ne_nil h.whole.1
  rw [h.text]
  cases negative with
  | true => simp
  | false =>
    have hc : c.isDigit = true := h.whole.2 c List.mem_cons_self
    have hminus : c ≠ '-' := by rintro rfl; exact absurd hc (by decide)
    simp [hminus]

theorem IsPointed.unique {s : String} {negative negative' : Bool}
    {whole behind whole' behind' : List Char} (h : IsPointed s negative whole behind)
    (h' : IsPointed s negative' whole' behind') :
    negative = negative' ∧ whole = whole' ∧ behind = behind' := by
  have hpoint : ∀ {cs : List Char}, IsDigits cs → '.' ∉ cs := fun h =>
    not_mem_of_isDigits h (by decide)
  obtain rfl : negative = negative' :=
    Bool.eq_iff_iff.2 (h.head?_eq_minus_iff.symm.trans h'.head?_eq_minus_iff)
  have htext := h.text.symm.trans h'.text
  rw [List.append_assoc, List.append_assoc] at htext
  exact ⟨rfl, append_separator_inj (hpoint h.whole) (hpoint h'.whole) (List.append_cancel_left htext)⟩

theorem ReadsAs.unique {s : String} {x y : Binary32} (hx : ReadsAs s x) (hy : ReadsAs s y) :
    x = y := by
  obtain ⟨whole, behind, hpointed, hnearest⟩ := hx
  obtain ⟨whole', behind', hpointed', hnearest'⟩ := hy
  obtain ⟨hsign, rfl, rfl⟩ := hpointed.unique hpointed'
  exact Binary32.ext_parts hsign (hnearest.unique hnearest')

/-! ## Digits of a decimal -/

theorem pointed_digits (whole : Nat) {scale behind : Nat} (h : behind < 10 ^ scale) :
    pointed (Decimal.natDigits whole) (Decimal.paddedDigits scale behind)
      = (10 ^ scale * whole + behind : Nat) / 10 ^ scale := by
  rw [pointed, ← Json.digitsValue_eq, Json.digitsValue_natDigits_append whole scale behind h,
    Decimal.length_paddedDigits]

/-- A decimal in positional form, with a zero behind the point if nothing else stands there. -/
theorem exists_pointed (d : Decimal) :
    ∃ whole behind, d.positional ++ (if '.' ∈ d.positional then [] else ['.', '0'])
        = whole ++ '.' :: behind ∧
      IsDigits whole ∧ IsDigits behind ∧ pointed whole behind = d.value := by
  have hwhole : IsDigits d.integral := Decimal.isDigits_natDigits _
  have hscale : d.denominator = 10 ^ (-d.exponent).toNat := rfl
  rw [Decimal.value_eq_div]
  unfold Decimal.positional
  split
  · next hnone =>
    have hpoint : '.' ∉ d.integral := not_mem_of_isDigits hwhole (by decide)
    have hlength : d.fractional.length = (-d.exponent).toNat := Decimal.length_paddedDigits _ _
    rw [hnone, List.length_nil] at hlength
    rw [← hlength, Nat.pow_zero] at hscale
    refine ⟨d.integral, ['0'], by simp [hpoint], hwhole, isDigits_zero, ?_⟩
    rw [Decimal.integral, hscale, Nat.div_one]
    refine (pointed_digits d.numerator (by decide : 0 < 10 ^ 1)).trans ?_
    push_cast
    field_simp
    ring
  · next hsome =>
    refine ⟨d.integral, d.fractional, by simp, hwhole,
      ⟨hsome, fun _ hc => Decimal.isDigit_of_mem_paddedDigits hc⟩, ?_⟩
    have hrest : d.numerator % d.denominator < 10 ^ (-d.exponent).toNat :=
      Nat.mod_lt _ d.denominator_pos
    rw [Decimal.integral, Decimal.fractional, pointed_digits _ hrest, ← hscale, Nat.div_add_mod, hscale,
      Nat.cast_pow, Nat.cast_ofNat]

theorem exists_isPointed_floatLiteral {x : Binary32} (hx : x.isFinite = true) :
    ∃ whole behind, IsPointed (floatLiteral x) x.isNegative whole behind ∧
      pointed whole behind = (x.shortest .up).value := by
  obtain ⟨whole, behind, htext, hwhole, hbehind, hvalue⟩ := exists_pointed (x.shortest .up)
  refine ⟨whole, behind, ⟨?_, hwhole, hbehind⟩, hvalue⟩
  rw [floatLiteral, if_pos hx, String.toList_ofList, List.append_assoc, htext, List.append_assoc]

/-- **A finite scalar is what its literal is read as.** -/
theorem readsAs_floatLiteral {x : Binary32} (hx : x.isFinite = true) :
    ReadsAs (floatLiteral x) x := by
  obtain ⟨whole, behind, hpointed, hvalue⟩ := exists_isPointed_floatLiteral hx
  refine ⟨whole, behind, hpointed, ?_⟩
  have hfraction : 0 < binary32.fraction := by decide
  rw [hvalue]
  exact (Format.readsBack_iff hfraction).1 (Format.readsBack_shortest hfraction (of_decide_eq_true hx) .up)

/-! ## Vectors -/

/-- A literal of a number or vector has the type that it names and the components that are read. -/
inductive Denotes (s : String) : Value → Prop
  | scalar {x : Binary32} (h : ReadsAs s x) : Denotes s (.float x)
  | vector {ty : VecType} {v : Value} {literals : List String} {components : List Binary32}
    (htext : s = ty.spelling ++ argumentList literals) (hne : ty ≠ .float) (hty : v.type? = some ty)
    (hcomponents : v.components? = some components)
    (h : List.Forall₂ ReadsAs literals components) : Denotes s v

theorem ReadsAs.mem_cases {s : String} {x : Binary32} (h : ReadsAs s x) {c : Char}
    (hc : c ∈ s.toList) : c.isDigit = true ∨ c = '-' ∨ c = '.' := by
  obtain ⟨whole, behind, hpointed, -⟩ := h
  rw [hpointed.text, List.mem_append, List.mem_append, List.mem_cons] at hc
  rcases hc with (hsign | hwhole) | rfl | hbehind
  · split at hsign
    · exact Or.inr (Or.inl (List.mem_singleton.1 hsign))
    · cases hsign
  · exact Or.inl (hpointed.whole.2 c hwhole)
  · exact Or.inr (Or.inr rfl)
  · exact Or.inl (hpointed.behind.2 c hbehind)

theorem ReadsAs.comma_notMem {s : String} {x : Binary32} (h : ReadsAs s x) : ',' ∉ s.toList :=
  fun hc => absurd (h.mem_cases hc) (by decide)

/-- What stands between commas is determined. -/
theorem intercalate_inj {as bs : List String} (hlength : as.length = bs.length)
    (has : ∀ a ∈ as, ',' ∉ a.toList) (hbs : ∀ b ∈ bs, ',' ∉ b.toList)
    (h : ", ".intercalate as = ", ".intercalate bs) : as = bs := by
  induction as generalizing bs with
  | nil => exact (List.length_eq_zero_iff.1 hlength.symm).symm
  | cons a as ih =>
    obtain ⟨b, bs, rfl⟩ := List.exists_cons_of_length_eq_add_one hlength.symm
    have hlength := Nat.succ.inj hlength
    cases as with
    | nil =>
      obtain rfl := List.length_eq_zero_iff.1 hlength.symm
      simpa using h
    | cons a' as =>
      obtain ⟨b', bs, rfl⟩ := List.exists_cons_of_length_eq_add_one hlength.symm
      rw [String.intercalate_cons_cons, String.intercalate_cons_cons] at h
      have hlists : a.toList ++ ',' :: ' ' :: (", ".intercalate (a' :: as)).toList
          = b.toList ++ ',' :: ' ' :: (", ".intercalate (b' :: bs)).toList := by
        simpa using congrArg String.toList h
      obtain ⟨hfirst, hrest⟩ := append_separator_inj (has a List.mem_cons_self)
        (hbs b List.mem_cons_self) hlists
      rw [String.toList_injective hfirst, ih hlength (fun c hc => has c (List.mem_cons_of_mem _ hc))
        (fun c hc => hbs c (List.mem_cons_of_mem _ hc))
        (String.toList_injective (List.cons.inj hrest).2)]

/-- The type and the components of a vector are determined by how it is written. -/
theorem vector_text_inj {ty ty' : VecType} {as bs : List String}
    (h : ty.spelling ++ argumentList as = ty'.spelling ++ argumentList bs) :
    ty = ty' ∧ ", ".intercalate as = ", ".intercalate bs := by
  have hopen : ∀ ty : VecType, '(' ∉ ty.spelling.toList := by
    intro ty
    cases ty <;> decide
  have hlists : ty.spelling.toList ++ '(' :: ((", ".intercalate as).toList ++ [')'])
      = ty'.spelling.toList ++ '(' :: ((", ".intercalate bs).toList ++ [')']) := by
    simpa [argumentList] using congrArg String.toList h
  obtain ⟨htype, hrest⟩ := append_separator_inj (hopen ty) (hopen ty') hlists
  exact ⟨VecType.spelling_inj (String.toList_injective htype),
    String.toList_injective (List.append_cancel_right hrest)⟩

theorem eq_of_components? {v w : Value} {xs : List Binary32} (hv : v.components? = some xs)
    (hw : w.components? = some xs) : v = w := by
  cases v <;> cases w <;> cases hv <;> cases hw <;> rfl

theorem length_components? {v : Value} {ty : VecType} {xs : List Binary32} (hty : v.type? = some ty)
    (hxs : v.components? = some xs) : xs.length = ty.arity := by
  cases v <;> cases hty <;> cases hxs <;> rfl

theorem comma_notMem_literals {literals : List String} {xs : List Binary32}
    (h : List.Forall₂ ReadsAs literals xs) : ∀ s ∈ literals, ',' ∉ s.toList := by
  induction h with
  | nil => exact fun _ hs => nomatch hs
  | cons hread _ ih => exact List.forall_mem_cons.2 ⟨hread.comma_notMem, ih⟩

/-- A vector is written with letters, a scalar is not. -/
theorem not_readsAs_vector {ty : VecType} (hne : ty ≠ .float) (literals : List String) (x : Binary32) :
    ¬ReadsAs (ty.spelling ++ argumentList literals) x := by
  intro h
  have hletter : 'v' ∈ ty.spelling.toList := by
    cases ty with
    | float => exact absurd rfl hne
    | vec2 | vec3 | vec4 => decide
  have hmem : 'v' ∈ (ty.spelling ++ argumentList literals).toList := by
    rw [String.toList_append]
    exact List.mem_append_left _ hletter
  exact absurd (h.mem_cases hmem) (by decide)

/-- **A literal is read in one way only.** -/
theorem Denotes.unique {s : String} {v w : Value} (hv : Denotes s v) (hw : Denotes s w) : v = w := by
  cases hv with
  | scalar h =>
    cases hw with
    | scalar h' => rw [h.unique h']
    | vector htext hne => exact absurd (htext ▸ h) (not_readsAs_vector hne _ _)
  | vector htext hne hty hcomponents h =>
    cases hw with
    | scalar h' => exact absurd (htext ▸ h') (not_readsAs_vector hne _ _)
    | vector htext' _ hty' hcomponents' h' =>
      obtain ⟨rfl, hjoined⟩ := vector_text_inj (htext.symm.trans htext')
      have hlength := h.length_eq.trans <| (length_components? hty hcomponents).trans <|
        (length_components? hty' hcomponents').symm.trans h'.length_eq.symm
      obtain rfl := intercalate_inj hlength (comma_notMem_literals h) (comma_notMem_literals h') hjoined
      have hunique : Relator.RightUnique ReadsAs := fun _ _ _ => ReadsAs.unique
      obtain rfl := List.right_unique_forall₂' hunique h h'
      exact eq_of_components? hcomponents hcomponents'

theorem valueLiteral?_vector {v : Value} {ty : VecType} {xs : List Binary32} (hne : ty ≠ .float)
    (hty : v.type? = some ty) (hxs : v.components? = some xs) :
    valueLiteral? v = some (ty.spelling ++ argumentList (xs.map floatLiteral)) := by
  cases v with
  | float => exact absurd (Option.some.inj hty).symm hne
  | vec2 | vec3 | vec4 =>
    cases hty
    cases hxs
    simp [valueLiteral?, Value.type?, Value.components?, argumentList, String.append_assoc]
  | operator | type => cases hty

/-- **A number or vector is what its literal is read as.** -/
theorem exists_denotes {v : Value} {xs : List Binary32} (hxs : v.components? = some xs)
    (hfinite : ∀ x ∈ xs, x.isFinite = true) : ∃ s, valueLiteral? v = some s ∧ Denotes s v := by
  have hread : List.Forall₂ ReadsAs (xs.map floatLiteral) xs :=
    List.forall₂_map_left_iff.2 (List.forall₂_same.2 fun x hx => readsAs_floatLiteral (hfinite x hx))
  cases v with
  | float x =>
    obtain rfl := Option.some.inj hxs
    exact ⟨_, rfl, .scalar (readsAs_floatLiteral (hfinite x List.mem_cons_self))⟩
  | vec2 | vec3 | vec4 =>
    exact ⟨_, valueLiteral?_vector (by decide) rfl hxs, .vector rfl (by decide) rfl hxs hread⟩
  | operator | type => cases hxs

/-! ## Literals are read back -/

/--
**Literals denote the exact value.** The literal of a finite scalar is digits, a point and digits, with
a minus sign exactly if its sign bit is set, and the scalar is the one that the literal is read as,
the two zeros told apart; what is not finite is written as zero. Likewise the literal of a number or
vector with finite components is read as that value, of the same type and with the same components.
-/
theorem literals_read_back :
    (∀ x : Binary32, x.isFinite = true →
      (∃ whole behind, IsPointed (floatLiteral x) x.isNegative whole behind) ∧
      ∀ y, ReadsAs (floatLiteral x) y ↔ y = x) ∧
    (∀ x : Binary32, x.isFinite = false → floatLiteral x = "0.0") ∧
    ∀ (v : Value) (xs : List Binary32), v.components? = some xs → (∀ x ∈ xs, x.isFinite = true) →
      ∃ s, valueLiteral? v = some s ∧ ∀ w, Denotes s w ↔ w = v := by
  refine ⟨fun x hx => ⟨?_, fun y => ?_⟩, fun x hx => ?_, fun v xs hxs hfinite => ?_⟩
  · obtain ⟨whole, behind, hpointed, -⟩ := exists_isPointed_floatLiteral hx
    exact ⟨whole, behind, hpointed⟩
  · have hread := readsAs_floatLiteral hx
    exact ⟨fun h => h.unique hread, fun h => h ▸ hread⟩
  · rw [floatLiteral, if_neg (by rw [hx]; decide)]
  · obtain ⟨s, hs, hdenotes⟩ := exists_denotes hxs hfinite
    exact ⟨s, hs, fun w => ⟨fun h => h.unique hdenotes, fun h => h ▸ hdenotes⟩⟩

/-- The least negative subnormal scalar, a signalling pattern, and negative zero beside the greatest. -/
theorem literals_read_back_extremes :
    (∀ y, ReadsAs "-0.000000000000000000000000000000000000000000001" y ↔ y = ⟨0x80000001⟩) ∧
    floatLiteral ⟨0x7F800001⟩ = "0.0" ∧
    ∀ w, Denotes "vec2(-0.0, 340282350000000000000000000000000000000.0)" w
      ↔ w = .vec2 ⟨0x80000000⟩ ⟨0x7F7FFFFF⟩ := by
  have hsubnormal : floatLiteral ⟨0x80000001⟩ = "-0.000000000000000000000000000000000000000000001" := by
    decide +kernel
  have hvector : valueLiteral? (.vec2 ⟨0x80000000⟩ ⟨0x7F7FFFFF⟩)
      = some "vec2(-0.0, 340282350000000000000000000000000000000.0)" := by decide +kernel
  obtain ⟨hfinite, hother, hvalue⟩ := literals_read_back
  refine ⟨?_, hother _ (by decide +kernel), ?_⟩
  · rw [← hsubnormal]
    exact (hfinite _ (by decide +kernel)).2
  · obtain ⟨s, hs, hdenotes⟩ := hvalue (.vec2 ⟨0x80000000⟩ ⟨0x7F7FFFFF⟩) _ rfl (by decide +kernel)
    rw [hvector] at hs
    obtain rfl := Option.some.inj hs
    exact hdenotes

example : floatLiteral (.ofRatio false 1 10000000) = "0.0000001" := by decide +kernel

end Glsl

end ShadingGraph
