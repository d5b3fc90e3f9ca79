import ShadingGraph.Proofs.Glsl.Literal
import ShadingGraph.Settings.Number

/-!
# Whole numbers in settings texts

A row of decimal digits is read as a number that names no base and no type
(`Settings.integer?_of_isDigits`), so numbers of 32 bits are read back from their digits
(`Settings.word32?_natDigits`).
-/

namespace ShadingGraph.Settings

open Text Number

theorem digit?_of_isDigit {c : Char} (h : c.isDigit = true) :
    digit? 10 c = some (c.toNat - '0'.toNat) ∧ isHexDigit c = true ∧
      c ∉ ['-', '+', '_', 'x', 'b', 'o'] := by
  have hall : ∀ n < 10,
      digit? 10 (.ofNat (48 + n)) = some ((Char.ofNat (48 + n)).toNat - '0'.toNat) ∧
      isHexDigit (.ofNat (48 + n)) = true ∧
      Char.ofNat (48 + n) ∉ ['-', '+', '_', 'x', 'b', 'o'] := by decide +kernel
  obtain ⟨n, hn, rfl⟩ := exists_of_isDigit h
  exact hall n hn

theorem digits?_of_isDigits {cs : List Char} (h : IsDigits cs) :
    digits? 10 cs = some (Nat.ofDigitChars 10 cs 0) := by
  obtain ⟨hne, hdigits⟩ := h
  have hscore : '_' ∉ cs := fun hmem => absurd (hdigits _ hmem) (by decide)
  have hguard : (!cs.isEmpty && decide (cs.head? ≠ some '_')) = true := by
    have hhead : cs.head? ≠ some '_' := fun heq => hscore (List.mem_of_head? heq)
    simp [hne, hhead]
  have hfilter : (cs.filter fun c => c ≠ '_') = cs :=
    List.filter_eq_self.2 fun c hc => decide_eq_true (ne_of_mem_of_not_mem hc hscore)
  have hvalues : cs.mapM (digit? 10) = some (cs.map fun c => c.toNat - '0'.toNat) :=
    mapM_eq_some_map fun c hc => (digit?_of_isDigit (hdigits c hc)).1
  have hvalue : valueInBase 10 (cs.map fun c => c.toNat - '0'.toNat) = Nat.ofDigitChars 10 cs 0 := by
    rw [valueInBase, List.foldl_map, Nat.ofDigitChars]
    simp only [Nat.mul_comm]
  rw [digits?, hguard, hfilter, hvalues]
  exact congrArg some hvalue

theorem integer?_of_isDigits {cs : List Char} (h : IsDigits cs) :
    integer? cs = some ((Nat.ofDigitChars 10 cs 0 : Int), none) := by
  have ⟨hne, hdigits⟩ := h
  obtain ⟨c, rest, rfl⟩ := List.exists_cons_of_ne_nil hne
  rw [List.forall_mem_cons] at hdigits
  have hfirst := (digit?_of_isDigit hdigits.1).2.2
  have hsign : sign (c :: rest) = (false, c :: rest) := by
    simp only [List.mem_cons, List.not_mem_nil, or_false, not_or] at hfirst
    simp [sign, hfirst]
  have htype : splitType (c :: rest) = (c :: rest, none) := by
    have hall : ∀ d ∈ c :: rest, (isHexDigit d || decide (d = '_')) = true := fun d hd => by
      rw [(digit?_of_isDigit (h.2 d hd)).2.1, Bool.true_or]
    rw [splitType, List.dropWhile_eq_nil_iff.2 hall]
    rfl
  have hbase : base (c :: rest) = (10, c :: rest) := by
    cases rest with
    | nil => simp [base]
    | cons d rest =>
      have hsecond := (digit?_of_isDigit (hdigits.2 d List.mem_cons_self)).2.2
      simp only [List.mem_cons, List.not_mem_nil, or_false, not_or] at hsecond
      simp [base, hsecond]
  simp only [integer?, hsign, htype, hbase, digits?_of_isDigits h]
  rfl

theorem word_contains (n : UInt32) : IntegerType.word.contains n.toNat = true := by
  have hlt : (n.toNat : Int) < (Nat.pow 2 32 : Nat) := Int.ofNat_lt.2 n.toNat_lt
  rw [IntegerType.contains]
  simp only [IntegerType.word, Bool.false_eq_true, if_false, Bool.and_eq_true, decide_eq_true_eq]
  exact ⟨Int.natCast_nonneg _, decide_eq_true hlt⟩

/-- Stated for any number, so that nothing is evaluated up to the bound. -/
theorem word32?_of_integer? {cs : List Char} {n : Int} (hcs : integer? cs = some (n, none))
    (hn : IntegerType.word.contains n = true) : word32? cs = some (UInt32.ofNat n.toNat) := by
  rw [word32?, hcs]
  dsimp only [Option.bind_eq_bind, Option.bind_some]
  rw [hn]
  rfl

/-- **A number of 32 bits is read back from its digits.** -/
theorem word32?_natDigits (n : UInt32) : word32? (Decimal.natDigits n.toNat) = some n := by
  have hvalue : Nat.ofDigitChars 10 (Decimal.natDigits n.toNat) 0 = n.toNat :=
    Nat.ofDigitChars_ten_toDigits
  have hread := integer?_of_isDigits (Decimal.isDigits_natDigits n.toNat)
  rw [hvalue] at hread
  rw [word32?_of_integer? hread (word_contains n), Int.toNat_natCast, UInt32.ofNat_toNat]

end ShadingGraph.Settings
