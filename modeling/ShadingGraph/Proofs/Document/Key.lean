import ShadingGraph.Document.Graph
import ShadingGraph.Proofs.Json.Layout
import ShadingGraph.Proofs.OrderedMap

/-!
# Keys of documents

What stands for something in a document is read back as what it stands for: the texts of identifiers,
of nodes (`NodeId.ofKey?_text`) and of edges (`EdgeId.ofText?_text`), and the keys of choices
(`Document.choice?_key`).
-/

namespace ShadingGraph

/-! ## Identifiers of nodes -/

namespace Json

theorem text_ofNat (n : Nat) : (Numeral.ofNat n).text = Number.Decimal.natDigits n := by
  rw [numeral_text_eq]
  simp [Numeral.ofNat, exponentTail, Number.Decimal.positional, Number.Decimal.fractional,
    Number.Decimal.paddedDigits, Number.Decimal.integral, Number.Decimal.numerator,
    Number.Decimal.denominator]

theorem nat?_ofNat {n bound : Nat} (h : n < bound) : (Numeral.ofNat n).nat? bound = some n := by
  simp [Numeral.nat?, Numeral.isWhole, Numeral.ofNat, h]

end Json

open Json

/-- **The identifier of a node is read back from its text.** -/
theorem NodeId.ofKey?_text (id : NodeId) : NodeId.ofKey? (NodeId.text id) = some id := by
  have hread : wholeNumeral? (NodeId.text id) = some (.ofNat id.toNat) := by
    have h := numeral?_text (.ofNat id.toNat) numberEnds_nil
    rw [text_ofNat, List.append_nil] at h
    simp [wholeNumeral?, NodeId.text, h]
  simp [NodeId.ofKey?, hread, nat?_ofNat id.toNat_lt_size]

/-! ## Identifiers of edges -/

namespace EdgeId

open Text

theorem hexValue?_digitChar : ∀ d < 16, hexValue? (Nat.digitChar d) = some d := by
  decide

theorem hexNumber?_concat {cs : List Char} {c : Char} {n d : Nat} (h : hexNumber? cs = some n)
    (hc : hexValue? c = some d) : hexNumber? (cs ++ [c]) = some (n * 16 + d) := by
  obtain ⟨ds, hds, rfl⟩ := Option.map_eq_some_iff.1 h
  simp [hexNumber?, List.mapM_append, hds, hc, valueInBase]

theorem hexNumber?_hexDigits (count n : Nat) :
    hexNumber? (hexDigits count n) = some (n % 16 ^ count) := by
  induction count generalizing n with
  | zero => simp [hexDigits, hexNumber?, valueInBase, Nat.mod_one]
  | succ count ih =>
    have hlast : n % 16 < 16 := Nat.mod_lt _ (by decide)
    rw [hexDigits, hexNumber?_concat (ih _) (hexValue?_digitChar _ hlast), Nat.pow_succ', Nat.mod_mul,
      Nat.mul_comm, Nat.add_comm]

@[simp] theorem length_hexDigits (count n : Nat) : (hexDigits count n).length = count := by
  induction count generalizing n with
  | zero => rfl
  | succ count ih => simp [hexDigits, ih]

/-- Grouping adds a hyphen between any two groups. -/
theorem length_hyphenate {ns : List Nat} (hne : ns ≠ []) {cs : List Char} (h : cs.length = ns.sum) :
    (hyphenate ns cs).length + 1 = ns.sum + ns.length := by
  induction ns generalizing cs with
  | nil => exact absurd rfl hne
  | cons n ns ih =>
    cases ns with
    | nil => simp_all [hyphenate]
    | cons m ns =>
      have hdrop : (cs.drop n).length = (m :: ns).sum := by
        rw [List.length_drop, h, List.sum_cons, Nat.add_sub_cancel_left]
      have htake : (cs.take n).length = n := by simp [h]
      have hrest := ih (List.cons_ne_nil _ _) hdrop
      rw [hyphenate, List.length_append, htake, List.length_cons, List.sum_cons, List.length_cons]
      · omega
      · exact List.cons_ne_nil m ns

theorem ungroup?_hyphenate {ns : List Nat} (hne : ns ≠ []) {cs : List Char} (h : cs.length = ns.sum) :
    ungroup? ns (hyphenate ns cs) = some cs := by
  induction ns generalizing cs with
  | nil => exact absurd rfl hne
  | cons n ns ih =>
    cases ns with
    | nil => simp_all [hyphenate, ungroup?]
    | cons m ns =>
      have hdrop : (cs.drop n).length = (m :: ns).sum := by
        rw [List.length_drop, h, List.sum_cons, Nat.add_sub_cancel_left]
      have htake : (cs.take n).length = n := by simp [h]
      rw [hyphenate, ungroup?, List.drop_left' htake, List.take_left' htake]
      · simp [ih (List.cons_ne_nil _ _) hdrop]
      · exact List.cons_ne_nil m ns
      · exact List.cons_ne_nil m ns

theorem ofDigits?_hexDigits (id : EdgeId) : ofDigits? (hexDigits 32 id.bits.toNat) = some id := by
  have hlt : id.bits.toNat < 16 ^ 32 := id.bits.isLt
  have hnumber : hexNumber? (hexDigits 32 id.bits.toNat) = some id.bits.toNat := by
    rw [hexNumber?_hexDigits, Nat.mod_eq_of_lt hlt]
  rw [ofDigits?, guard, if_pos (length_hexDigits _ _), hnumber]
  exact congrArg (fun bits => some (EdgeId.mk bits)) (BitVec.ofNat_toNat _ _)

theorem unwrap?_plain (cs : List Char) : unwrap? ([], []) cs = some cs := by
  show some ((cs.drop 0).take ((cs.drop 0).length - 0)) = some cs
  rw [List.drop_zero, Nat.sub_zero, List.take_length]

/-- **The identifier of an edge is read back from its text.** -/
theorem ofText?_text (id : EdgeId) : EdgeId.ofText? id.text = some id := by
  have hsum : (hexDigits 32 id.bits.toNat).length = groups.sum := length_hexDigits _ _
  have hlength : (hyphenate groups (hexDigits 32 id.bits.toNat)).length = 36 := by
    exact Nat.succ.inj (length_hyphenate (by decide) hsum)
  have hdigits : ofDigits? (hyphenate groups (hexDigits 32 id.bits.toNat)) = none := by
    rw [ofDigits?, guard, if_neg (by rw [hlength]; decide)]
    rfl
  have hgrouped : ungroup? groups (hyphenate groups (hexDigits 32 id.bits.toNat))
      = some (hexDigits 32 id.bits.toNat) := ungroup?_hyphenate (by decide) hsum
  simp [ofText?, text, hdigits, wrappings, unwrap?_plain, hgrouped, ofDigits?_hexDigits]

end EdgeId

/-! ## Choices -/

namespace Document

/-- A choice is read back from its key, if keys differ. -/
theorem choice?_key {α : Type} {all : List α} {key : α → String} (hnodup : (all.map key).Nodup)
    {a : α} (ha : a ∈ all) : choice? all key (.string (key a)) = some a :=
  find?_of_nodup hnodup ha

end Document

theorem VecType.ofJson?_toJson (ty : VecType) : VecType.ofJson? ty.toJson = some ty :=
  Document.choice?_key (by decide) (by cases ty <;> decide)

theorem Operator.ofJson?_toJson (op : Operator) : Operator.ofJson? op.toJson = some op :=
  Document.choice?_key (by decide) (by cases op <;> decide)

theorem Kind.ofJson?_toJson (k : Kind) : Kind.ofJson? k.toJson = some k :=
  Document.choice?_key (by decide) (by cases k <;> decide)

end ShadingGraph
