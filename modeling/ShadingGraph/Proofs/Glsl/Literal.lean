import ShadingGraph.Glsl.Constant
import ShadingGraph.Proofs.Glsl.Source

/-!
# How constants are written

The literal of a scalar is digits, a point and digits, perhaps behind a minus sign
(`IsFloatLiteral`). That of a vector is its type with as many such literals as it has components
(`IsLiteral`). Every value that has a type has a literal of that type (`exists_valueLiteral`).
-/

namespace ShadingGraph

open Glsl Number

/-! ## Digits -/

/-- One or more decimal digits. -/
def IsDigits (cs : List Char) : Prop := cs ≠ [] ∧ ∀ c ∈ cs, c.isDigit = true

theorem isDigits_zero : IsDigits ['0'] :=
  ⟨List.cons_ne_nil _ _, List.forall_mem_singleton.2 (by decide)⟩

namespace Number.Decimal

theorem isDigits_natDigits (n : Nat) : IsDigits (natDigits n) :=
  ⟨Nat.toDigits_ne_nil, fun _ hc => Nat.isDigit_of_mem_toDigits (by decide) (by decide) hc⟩

theorem isDigit_of_mem_paddedDigits {width n : Nat} {c : Char} (hc : c ∈ paddedDigits width n) :
    c.isDigit = true := by
  induction width generalizing n with
  | zero => cases hc
  | succ width ih =>
    rw [paddedDigits, List.mem_append, List.mem_singleton] at hc
    rcases hc with hc | rfl
    · exact ih hc
    · rw [Nat.isDigit_digitChar, decide_eq_true_eq]
      exact Nat.mod_lt n (by decide)

/-- A positional decimal is digits, or digits, a point and digits. -/
theorem positional_cases (d : Decimal) :
    IsDigits d.positional ∨
    ∃ whole behind, d.positional = whole ++ '.' :: behind ∧ IsDigits whole ∧ IsDigits behind := by
  have hwhole : IsDigits d.integral := isDigits_natDigits _
  unfold positional
  split
  · exact Or.inl hwhole
  · next hne => exact Or.inr ⟨_, _, rfl, hwhole, hne, fun _ hc => isDigit_of_mem_paddedDigits hc⟩

end Number.Decimal

/-! ## Literals -/

namespace Glsl

/-- Digits, a point and digits, perhaps behind a minus sign. -/
def IsFloatLiteral (s : String) : Prop :=
  ∃ sign whole behind, s.toList = sign ++ whole ++ '.' :: behind ∧ (sign = [] ∨ sign = ['-']) ∧
    IsDigits whole ∧ IsDigits behind

/-- A literal of a scalar, or a vector made from as many of them as it has components. -/
def IsLiteral (ty : VecType) (s : String) : Prop :=
  match ty with
  | .float => IsFloatLiteral s
  | ty => ∃ components : List String, components.length = ty.arity ∧
      (∀ c ∈ components, IsFloatLiteral c) ∧ s = ty.spelling ++ argumentList components

/-- **A number is written as a literal of a scalar.** -/
theorem isFloatLiteral_floatLiteral (x : Binary32) : IsFloatLiteral (floatLiteral x) := by
  unfold floatLiteral
  split
  · dsimp only
    generalize hsign : (if x.isNegative then ['-'] else []) = sign
    have hsign : sign = [] ∨ sign = ['-'] := by
      rw [← hsign]
      split
      · exact Or.inr rfl
      · exact Or.inl rfl
    rcases (x.shortest .up).positional_cases with hdigits | ⟨whole, behind, hpoint, hwhole, hbehind⟩
    -- without a point a zero is added behind one
    · have hnone : '.' ∉ (x.shortest .up).positional :=
        fun hc => absurd (hdigits.2 _ hc) (by decide)
      refine ⟨sign, (x.shortest .up).positional, ['0'], ?_, hsign, hdigits, isDigits_zero⟩
      simp [hnone]
    · exact ⟨sign, whole, behind, by simp [hpoint], hsign, hwhole, hbehind⟩
  · exact ⟨[], ['0'], ['0'], by decide, Or.inl rfl, isDigits_zero, isDigits_zero⟩

/-- Numbers as the components of a vector. -/
theorem isLiteral_of_components {ty : VecType} (hty : ty ≠ .float) {xs : List Binary32}
    (hlength : xs.length = ty.arity) :
    IsLiteral ty (ty.spelling ++ "(" ++ ", ".intercalate (xs.map floatLiteral) ++ ")") := by
  have hvector : ∃ components : List String, components.length = ty.arity ∧
      (∀ c ∈ components, IsFloatLiteral c) ∧
      ty.spelling ++ "(" ++ ", ".intercalate (xs.map floatLiteral) ++ ")"
        = ty.spelling ++ argumentList components := by
    refine ⟨xs.map floatLiteral, by rw [List.length_map, hlength], fun c hc => ?_, ?_⟩
    · obtain ⟨x, -, rfl⟩ := List.mem_map.1 hc
      exact isFloatLiteral_floatLiteral x
    · simp only [argumentList, String.append_assoc]
  cases ty with
  | float => exact absurd rfl hty
  | vec2 | vec3 | vec4 => exact hvector

/-- **A value of a type has a literal of the type.** -/
theorem exists_valueLiteral {v : Value} {ty : VecType} (h : v.type? = some ty) :
    ∃ literal, valueLiteral? v = some literal ∧ IsLiteral ty literal := by
  cases v with
  | float x =>
    obtain rfl := Option.some.inj h
    exact ⟨_, rfl, isFloatLiteral_floatLiteral x⟩
  | vec2 | vec3 | vec4 =>
    obtain rfl := Option.some.inj h
    exact ⟨_, rfl, isLiteral_of_components (by decide) rfl⟩
  | operator | type => cases h

/-! ## Literals are code -/

theorem isCode_of_isFloatLiteral {s : String} (h : IsFloatLiteral s) : IsCode s := by
  obtain ⟨sign, whole, behind, htext, hsign, hwhole, hbehind⟩ := h
  have hdigit : ∀ c : Char, c.isDigit = true → isCodeChar c = true := by
    intro c hc
    simp [isCodeChar, Char.isAlphanum, hc]
  rw [IsCode, List.all_eq_true, htext]
  intro c hc
  simp only [List.mem_append, List.mem_cons] at hc
  rcases hc with (hc | hc) | rfl | hc
  · rcases hsign with rfl | rfl
    · cases hc
    · rw [List.mem_singleton.1 hc]
      decide
  · exact hdigit c (hwhole.2 c hc)
  · decide
  · exact hdigit c (hbehind.2 c hc)

theorem isCode_of_isLiteral {ty : VecType} {s : String} (h : IsLiteral ty s) : IsCode s := by
  unfold IsLiteral at h
  split at h
  · exact isCode_of_isFloatLiteral h
  · obtain ⟨components, -, hcomponents, rfl⟩ := h
    simp [isCode_argumentList fun c hc => isCode_of_isFloatLiteral (hcomponents c hc)]

end Glsl

end ShadingGraph
