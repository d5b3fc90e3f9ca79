/-!
# First occurrences

`distinct xs` keeps the first occurrence of every member of `xs`, in order; `distinctFrom seen xs`
leaves out the members of `seen` too. Main statements: `mem_distinctFrom` and `nodup_distinctFrom`.
-/

namespace ShadingGraph

variable {α : Type} [DecidableEq α]

/-- The first occurrences in a list of what is not in `seen`. -/
def distinctFrom (seen : List α) : List α → List α
  | [] => []
  | x :: xs => if x ∈ seen then distinctFrom seen xs else x :: distinctFrom (seen ++ [x]) xs

/-- The first occurrences in a list. -/
def distinct (xs : List α) : List α := distinctFrom [] xs

theorem mem_distinctFrom {seen xs : List α} {a : α} :
    a ∈ distinctFrom seen xs ↔ a ∈ xs ∧ a ∉ seen := by
  induction xs generalizing seen with
  | nil => simp [distinctFrom]
  | cons x xs ih =>
    unfold distinctFrom
    split
    · next hx => simp only [ih, List.mem_cons]; grind
    · next hx => simp only [List.mem_cons, ih, List.mem_append]; grind

theorem nodup_distinctFrom (seen xs : List α) : (distinctFrom seen xs).Nodup := by
  induction xs generalizing seen with
  | nil => simp [distinctFrom]
  | cons x xs ih =>
    unfold distinctFrom
    split
    · exact ih seen
    · refine List.nodup_cons.2 ⟨?_, ih _⟩
      rw [mem_distinctFrom]
      simp

theorem mem_distinct {xs : List α} {a : α} : a ∈ distinct xs ↔ a ∈ xs := by
  simp [distinct, mem_distinctFrom]

theorem nodup_distinct (xs : List α) : (distinct xs).Nodup := nodup_distinctFrom [] xs

end ShadingGraph
