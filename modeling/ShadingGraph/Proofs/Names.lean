import ShadingGraph.Emission.Kinds
import ShadingGraph.Parameter

/-!
# Names do not collide

The names in a shader are told apart by how they are written. A name made from a node and a port can
be read in one way only, because the digits of the node end at the first underscore behind them
(`eq_of_digits`), and names of different sorts start differently (`firstLetter`).

Main statement: `Named.name_eq_iff`.
-/

namespace ShadingGraph

open Glsl Number

/-- Where a run of members ends is determined, if what follows does not begin with such a member. -/
theorem append_run_inj {α : Type} {p : α → Bool} {xs ys rest rest' : List α}
    (hxs : xs.all p = true) (hys : ys.all p = true) (hrest : ∀ a ∈ rest.head?, p a = false)
    (hrest' : ∀ a ∈ rest'.head?, p a = false) (h : xs ++ rest = ys ++ rest') :
    xs = ys ∧ rest = rest' := by
  have hrun : ∀ {zs tail : List α}, zs.all p = true → (∀ a ∈ tail.head?, p a = false) →
      (zs ++ tail).takeWhile p = zs := by
    intro zs tail hzs htail
    rw [List.takeWhile_append_of_pos (List.all_eq_true.1 hzs)]
    cases tail with
    | nil => simp
    | cons a tail => simp [htail a rfl]
  have hxy : xs = ys := by rw [← hrun hxs hrest, h, hrun hys hrest']
  subst hxy
  exact ⟨rfl, List.append_cancel_left h⟩

/-- What stands before the first separator is determined, if there is one. -/
theorem append_until_inj {α : Type} {s : α} {xs ys rest rest' : List α} (hxs : s ∉ xs) (hys : s ∉ ys)
    (hrest : ∀ a ∈ rest.head?, a = s) (hrest' : ∀ a ∈ rest'.head?, a = s)
    (h : xs ++ rest = ys ++ rest') : xs = ys ∧ rest = rest' := by
  classical
  have hall : ∀ {zs : List α}, s ∉ zs → zs.all (fun a => a ≠ s) = true := fun hzs =>
    List.all_eq_true.2 fun a ha => decide_eq_true fun heq => hzs (heq ▸ ha)
  exact append_run_inj (hall hxs) (hall hys) (fun a ha => decide_eq_false fun hne => hne (hrest a ha))
    (fun a ha => decide_eq_false fun hne => hne (hrest' a ha)) h

/-- What stands before the first separator is determined, and with it what stands behind. -/
theorem append_separator_inj {α : Type} {s : α} {xs ys xs' ys' : List α} (hxs : s ∉ xs)
    (hys : s ∉ ys) (h : xs ++ s :: xs' = ys ++ s :: ys') : xs = ys ∧ xs' = ys' := by
  have hhead : ∀ {zs : List α}, ∀ a ∈ (s :: zs).head?, a = s := fun _ ha => (Option.some.inj ha).symm
  obtain ⟨rfl, htail⟩ := append_until_inj hxs hys hhead hhead h
  exact ⟨rfl, (List.cons.inj htail).2⟩

theorem VecType.spelling_inj {ty ty' : VecType} (h : ty.spelling = ty'.spelling) : ty = ty' := by
  revert h
  cases ty <;> cases ty' <;> decide

theorem natDigits_inj {a b : Nat} (h : Decimal.natDigits a = Decimal.natDigits b) : a = b := by
  calc a = Nat.ofDigitChars 10 (Decimal.natDigits a) 0 := Nat.ofDigitChars_ten_toDigits.symm
    _ = Nat.ofDigitChars 10 (Decimal.natDigits b) 0 := by rw [h]
    _ = b := Nat.ofDigitChars_ten_toDigits

/-- Digits, an underscore and a port can be read in one way only. -/
theorem eq_of_digits {n m : NodeId} {p q : PortId}
    (h : Decimal.natDigits n.toNat ++ '_' :: p.toList = Decimal.natDigits m.toNat ++ '_' :: q.toList) :
    n = m ∧ p = q := by
  obtain ⟨hdigits, hports⟩ := append_separator_inj Nat.underscore_not_in_toDigits
    Nat.underscore_not_in_toDigits h
  exact ⟨UInt64.toNat_inj.1 (natDigits_inj hdigits), String.toList_injective hports⟩

theorem toList_parameterName (n : NodeId) (p : PortId) :
    (parameterName n p).toList = 'u' :: '_' :: (Decimal.natDigits n.toNat ++ '_' :: p.toList) := by
  simp [parameterName, NodeId.text]

theorem toList_outputName (n : NodeId) (p : PortId) :
    (outputName n p).toList = 'o' :: '_' :: (Decimal.natDigits n.toNat ++ '_' :: p.toList) := by
  simp [outputName, NodeId.text]

theorem parameterName_inj {n m : NodeId} {p q : PortId} (h : parameterName n p = parameterName m q) :
    n = m ∧ p = q := by
  have hlists := congrArg String.toList h
  rw [toList_parameterName, toList_parameterName] at hlists
  exact eq_of_digits (List.cons.inj (List.cons.inj hlists).2).2

theorem outputName_inj {n m : NodeId} {p q : PortId} (h : outputName n p = outputName m q) :
    n = m ∧ p = q := by
  have hlists := congrArg String.toList h
  rw [toList_outputName, toList_outputName] at hlists
  exact eq_of_digits (List.cons.inj (List.cons.inj hlists).2).2

/-! ## Sorts of names -/

/-- The first letter of a name tells what is named. -/
def firstLetter (name : String) : Option Char := name.toList.head?

@[simp] theorem firstLetter_parameterName (n : NodeId) (p : PortId) :
    firstLetter (parameterName n p) = some 'u' := by
  rw [firstLetter, toList_parameterName, List.head?_cons]

@[simp] theorem firstLetter_outputName (n : NodeId) (p : PortId) :
    firstLetter (outputName n p) = some 'o' := by
  rw [firstLetter, toList_outputName, List.head?_cons]

@[simp] theorem firstLetter_varying (v : Varying) : firstLetter v.name = some 'v' := by
  cases v <;> decide

@[simp] theorem firstLetter_mixFunction (ty : VecType) :
    firstLetter (Emission.mixFunction ty).name = some 'n' := by
  cases ty <;> decide

@[simp] theorem firstLetter_splitFunction (ty : VecType) :
    firstLetter (Emission.splitFunction ty).name = some 'n' := by
  cases ty <;> decide

@[simp] theorem firstLetter_fragColor : firstLetter "gl_FragColor" = some 'g' := by decide

theorem name_ne {a b : String} (h : firstLetter a ≠ firstLetter b) : a ≠ b :=
  fun hab => h (congrArg firstLetter hab)

theorem varyingName_inj {v w : Varying} (h : v.name = w.name) : v = w := by
  cases v <;> cases w <;> first | rfl | exact absurd h (by decide)

theorem mixFunction_inj {a b : VecType}
    (h : (Emission.mixFunction a).name = (Emission.mixFunction b).name) : a = b := by
  cases a <;> cases b <;> first | rfl | exact absurd h (by decide)

theorem splitFunction_inj {a b : VecType}
    (h : (Emission.splitFunction a).name = (Emission.splitFunction b).name) : a = b := by
  cases a <;> cases b <;> first | rfl | exact absurd h (by decide)

theorem mixFunction_ne_splitFunction (a b : VecType) :
    (Emission.mixFunction a).name ≠ (Emission.splitFunction b).name := by
  cases a <;> cases b <;> decide

/-! ## All names -/

/-- What code gives a name to. -/
inductive Named where
  /-- The parameter behind an unconnected input. -/
  | parameter (node : NodeId) (port : PortId)
  /-- The local that holds an output. -/
  | output (node : NodeId) (port : PortId)
  | varying (v : Varying)
  | mixFunction (ty : VecType)
  | splitFunction (ty : VecType)
deriving DecidableEq, Repr

namespace Named

/-- The name that is given. -/
def name : Named → String
  | parameter node port => parameterName node port
  | output node port => outputName node port
  | varying v => v.name
  | mixFunction ty => (Emission.mixFunction ty).name
  | splitFunction ty => (Emission.splitFunction ty).name

/--
**Names never collide.** For all nodes and all texts as ports: the name of a parameter gives its node
and its port, and so does that of an output; no parameter is named as an output, and neither of them
as a varying or as a shared function.
-/
theorem name_eq_iff (a b : Named) : a.name = b.name ↔ a = b := by
  refine ⟨fun h => ?_, congrArg name⟩
  -- names of one sort are told apart by what they are made from, other names by their first letter
  cases a with
  | parameter n p =>
    cases b with
    | parameter m q =>
      obtain ⟨rfl, rfl⟩ := parameterName_inj h
      rfl
    | output | varying | mixFunction | splitFunction => exact absurd h (name_ne (by simp [name]))
  | output n p =>
    cases b with
    | output m q =>
      obtain ⟨rfl, rfl⟩ := outputName_inj h
      rfl
    | parameter | varying | mixFunction | splitFunction => exact absurd h (name_ne (by simp [name]))
  | varying v =>
    cases b with
    | varying w => exact congrArg varying (varyingName_inj h)
    | parameter | output | mixFunction | splitFunction => exact absurd h (name_ne (by simp [name]))
  | mixFunction ty =>
    cases b with
    | mixFunction ty' => exact congrArg mixFunction (mixFunction_inj h)
    | splitFunction ty' => exact absurd h (mixFunction_ne_splitFunction ty ty')
    | parameter | output | varying => exact absurd h (name_ne (by simp [name]))
  | splitFunction ty =>
    cases b with
    | splitFunction ty' => exact congrArg splitFunction (splitFunction_inj h)
    | mixFunction ty' => exact absurd h.symm (mixFunction_ne_splitFunction ty' ty)
    | parameter | output | varying => exact absurd h (name_ne (by simp [name]))

end Named

end ShadingGraph
