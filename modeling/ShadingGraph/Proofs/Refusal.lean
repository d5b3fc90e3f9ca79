import ShadingGraph.Proofs.Acceptance

/-!
# Refused texts

Why `validate` refuses a text. `Refused` says it without the searches that `validate` makes: where a
report begins is the leftmost place of the marker (`Text.IsFirstCut`), what is reported is the rest of
that line (`Text.IsFirstLine`), and a foreign character is the first one that shader source does not
have. As shader source is ASCII, the bytes before that character are as many as the characters
(`utf8ByteSize_of_isShaderChar`).

Main statement: `validate_verdict`, the acceptable texts pass and the others are refused for the reason
that applies first.
-/

namespace ShadingGraph

namespace Text

/-! ## The first place of a text -/

/-- What stands before the leftmost place of `needle` in a text, and what stands behind it. -/
structure IsFirstCut (needle cs before behind : List Char) : Prop where
  split : cs = before ++ needle ++ behind
  leftmost : ∀ earlier later, cs = earlier ++ needle ++ later → before.length ≤ earlier.length

theorem IsFirstCut.unique {needle cs before behind before' behind' : List Char}
    (h : IsFirstCut needle cs before behind) (h' : IsFirstCut needle cs before' behind') :
    before' = before ∧ behind' = behind := by
  have hlength : before'.length = before.length :=
    Nat.le_antisymm (h'.leftmost _ _ h.split) (h.leftmost _ _ h'.split)
  have hsplit : before' ++ needle ++ behind' = before ++ needle ++ behind :=
    h'.split.symm.trans h.split
  rw [List.append_assoc, List.append_assoc] at hsplit
  obtain ⟨hbefore, hrest⟩ := List.append_inj hsplit hlength
  exact ⟨hbefore, List.append_cancel_left hrest⟩

theorem isFirstCut_of_cut? {needle cs before behind : List Char}
    (h : cut? needle cs = some (before, behind)) : IsFirstCut needle cs before behind := by
  induction cs generalizing before with
  | nil =>
    rw [cut?] at h
    split at h
    · next hempty =>
      obtain ⟨rfl, rfl⟩ := Prod.mk.inj (Option.some.inj h)
      exact ⟨by simp [List.isEmpty_iff.1 hempty], fun _ _ _ => Nat.zero_le _⟩
    · cases h
  | cons c cs ih =>
    rw [cut?] at h
    split at h
    · next hstart =>
      obtain ⟨rfl, rfl⟩ := Prod.mk.inj (Option.some.inj h)
      obtain ⟨rest, hrest⟩ := List.isPrefixOf_iff_prefix.1 hstart
      exact ⟨by simp [← hrest], fun _ _ _ => Nat.zero_le _⟩
    · next hstart =>
      obtain ⟨⟨rest, behind'⟩, hcut, heq⟩ := Option.map_eq_some_iff.1 h
      obtain ⟨rfl, rfl⟩ := Prod.mk.inj heq
      have hfirst := ih hcut
      refine ⟨congrArg (c :: ·) hfirst.split, fun earlier later hsplit => ?_⟩
      cases earlier with
      | nil => exact absurd (List.isPrefixOf_iff_prefix.2 ⟨later, hsplit.symm⟩) hstart
      | cons d earlier =>
        exact Nat.succ_le_succ (hfirst.leftmost earlier later (List.cons.inj hsplit).2)

/-- **A text is cut at the leftmost place of what it is cut at.** -/
theorem cut?_eq_some_iff {needle cs before behind : List Char} :
    cut? needle cs = some (before, behind) ↔ IsFirstCut needle cs before behind := by
  refine ⟨isFirstCut_of_cut?, fun h => ?_⟩
  cases hcut : cut? needle cs with
  | none => exact absurd ⟨before, behind, h.split.symm⟩ (cut?_eq_none_iff.1 hcut)
  | some p =>
    obtain ⟨hbefore, hbehind⟩ := h.unique (isFirstCut_of_cut? hcut)
    exact congrArg some (Prod.ext hbefore hbehind)

/-! ## The first line -/

/-- The first line of a text: up to the first line feed, without a carriage return just before it. -/
inductive IsFirstLine : List Char → List Char → Prop
  | only {line : List Char} (hfeed : '\n' ∉ line) : IsFirstLine line line
  | feed {line rest : List Char} (hfeed : '\n' ∉ line) (hreturn : line.getLast? ≠ some '\r') :
    IsFirstLine (line ++ '\n' :: rest) line
  | returnFeed {line rest : List Char} (hfeed : '\n' ∉ line) :
    IsFirstLine (line ++ '\r' :: '\n' :: rest) line

end Text

open Text

theorem firstLine_of_notMem {line : List Char} (h : '\n' ∉ line) : firstLine line = line := by
  rw [firstLine, lines_of_notMem h]
  cases line <;> rfl

theorem firstLine_append {line : List Char} (h : '\n' ∉ line) (rest : List Char) :
    firstLine (line ++ '\n' :: rest) = chomp line := by
  rw [firstLine, lines, linesFrom_append h]
  rfl

theorem firstLine_eq_of_isFirstLine {cs line : List Char} (h : IsFirstLine cs line) :
    firstLine cs = line := by
  cases h with
  | only hfeed => exact firstLine_of_notMem hfeed
  | feed hfeed hreturn => rw [firstLine_append hfeed, chomp, if_neg hreturn]
  | @returnFeed _ rest hfeed =>
    have hline : '\n' ∉ line ++ ['\r'] := by simp [hfeed]
    have hsplit : line ++ '\r' :: '\n' :: rest = (line ++ ['\r']) ++ '\n' :: rest := by simp
    rw [hsplit, firstLine_append hline, chomp, if_pos (by simp), List.dropLast_concat]

theorem isFirstLine_firstLine (cs : List Char) : IsFirstLine cs (firstLine cs) := by
  by_cases hfeed : '\n' ∈ cs
  · obtain ⟨line, rest, rfl, hline⟩ := List.eq_append_cons_of_mem hfeed
    rw [firstLine_append hline, chomp]
    split
    · next hreturn =>
      -- the carriage return belongs to the line end
      obtain ⟨before, rfl⟩ := List.getLast?_eq_some_iff.1 hreturn
      rw [List.dropLast_concat, List.append_assoc]
      exact .returnFeed fun hmem => hline (List.mem_append_left _ hmem)
    · next hreturn => exact .feed hline hreturn
  · rw [firstLine_of_notMem hfeed]
    exact .only hfeed

/-- **The first line of a text is what stands before its first line end.** -/
theorem firstLine_eq_iff {cs line : List Char} : firstLine cs = line ↔ IsFirstLine cs line :=
  ⟨fun h => h ▸ isFirstLine_firstLine cs, firstLine_eq_of_isFirstLine⟩

/-! ## Foreign characters -/

theorem firstOffending?_eq_some_iff {cs before : List Char} {c : Char} :
    firstOffending? cs = some (c, before) ↔
      (∃ behind, cs = before ++ c :: behind) ∧ (∀ d ∈ before, isShaderChar d = true) ∧
      isShaderChar c = false := by
  rw [firstOffending?, List.span_eq_takeWhile_dropWhile]
  constructor
  · intro h
    cases hrest : cs.dropWhile isShaderChar with
    | nil => rw [hrest] at h; cases h
    | cons d behind =>
      rw [hrest] at h
      obtain ⟨rfl, rfl⟩ := Prod.mk.inj (Option.some.inj h)
      have hforeign := List.head_dropWhile_not isShaderChar (l := cs) (by simp [hrest])
      refine ⟨⟨behind, ?_⟩, fun d hd => ?_, by simpa [hrest] using hforeign⟩
      · rw [← hrest, List.takeWhile_append_dropWhile]
      · exact List.mem_takeWhile_imp hd
  · rintro ⟨⟨behind, rfl⟩, hbefore, hforeign⟩
    have hc : ¬isShaderChar c = true := Bool.eq_false_iff.1 hforeign
    rw [List.takeWhile_append_of_pos hbefore, List.dropWhile_append_of_pos hbefore,
      List.takeWhile_cons_of_neg hc, List.dropWhile_cons_of_neg hc, List.append_nil]

/-- Shader source is ASCII. -/
theorem toNat_lt_of_isShaderChar {c : Char} (h : isShaderChar c = true) : c.toNat < 128 := by
  have hpunctuation : shaderPunctuation.all (fun d => d.toNat < 128) = true := by decide
  rw [isShaderChar, Bool.or_eq_true] at h
  rcases h with hword | hother
  · have hrange := Text.toNat_of_isWordChar (Bool.or_eq_true_iff.2 (Or.inl hword))
    omega
  · exact of_decide_eq_true (List.all_eq_true.1 hpunctuation c (List.contains_iff_mem.1 hother))

/-- **In shader source every character is one byte.** -/
theorem utf8ByteSize_of_isShaderChar {cs : List Char} (h : ∀ c ∈ cs, isShaderChar c = true) :
    (String.ofList cs).utf8ByteSize = cs.length := by
  induction cs with
  | nil => rfl
  | cons c cs ih =>
    obtain ⟨hc, hcs⟩ := List.forall_mem_cons.1 h
    have hone : c.utf8Size = 1 := by
      have hlt := toNat_lt_of_isShaderChar hc
      rw [Char.utf8Size, if_pos]
      exact UInt32.le_iff_toNat_le.2 (Nat.le_of_lt_succ hlt)
    rw [String.ofList_cons, String.utf8ByteSize_append, String.utf8ByteSize_singleton, hone, ih hcs,
      List.length_cons, Nat.add_comm]

/-! ## Verdicts -/

/-- Why a text is refused. -/
inductive Refused (text : String) : OptimizerError → Prop
  | empty (blank : ∀ c ∈ text.toList, isBlank c = true) : Refused text .empty
  /-- A report goes from the leftmost place of the marker to the end of that line. -/
  | reported {before behind report : List Char} (visible : ∃ c ∈ text.toList, isBlank c = false)
    (marked : IsFirstCut errorMarker text.toList before behind)
    (line : IsFirstLine (errorMarker ++ behind) report) :
    Refused text (.reported (String.ofList report))
  /-- The first character that shader source does not have, after so many bytes and characters. -/
  | malformed {before behind : List Char} {offending : Char} {position : Nat}
    (visible : ∃ c ∈ text.toList, isBlank c = false) (unreported : ¬errorMarker <:+: text.toList)
    (split : text.toList = before ++ offending :: behind)
    (foreign : isShaderChar offending = false)
    (chars : ∀ c ∈ before, isShaderChar c = true ∧ c.toNat < 128)
    (bytes : position = (String.ofList before).utf8ByteSize) (count : position = before.length) :
    Refused text (.malformed offending position)

theorem isEmpty_trim {cs : List Char} :
    (trim cs).isEmpty = true ↔ ∀ c ∈ cs, isBlank c = true := by
  rw [List.isEmpty_iff, trim_eq_nil_iff]

theorem not_isEmpty_trim {cs : List Char} :
    ¬(trim cs).isEmpty = true ↔ ∃ c ∈ cs, isBlank c = false := by
  rw [isEmpty_trim]
  simp

theorem refused_of_validate {text : String} {e : OptimizerError} (h : validate text = .error e) :
    Refused text e := by
  unfold validate at h
  dsimp only at h
  split at h
  · next hblank =>
    cases h
    exact .empty (isEmpty_trim.1 hblank)
  next hvisible =>
  have hvisible := not_isEmpty_trim.1 hvisible
  split at h
  · next before behind hcut =>
    cases h
    exact .reported hvisible (cut?_eq_some_iff.1 hcut) (isFirstLine_firstLine _)
  next hcut =>
  split at h
  · next c before hoffending =>
    cases h
    obtain ⟨⟨behind, hsplit⟩, hbefore, hforeign⟩ := firstOffending?_eq_some_iff.1 hoffending
    exact .malformed hvisible (cut?_eq_none_iff.1 hcut) hsplit hforeign
      (fun d hd => ⟨hbefore d hd, toNat_lt_of_isShaderChar (hbefore d hd)⟩) rfl
      (utf8ByteSize_of_isShaderChar hbefore)
  · cases h

theorem validate_of_refused {text : String} {e : OptimizerError} (h : Refused text e) :
    validate text = .error e := by
  cases h with
  | empty blank => simp [validate, isEmpty_trim.2 blank]
  | reported visible marked line =>
    simp [validate, not_isEmpty_trim.2 visible, cut?_eq_some_iff.2 marked, firstLine_eq_iff.2 line]
  | malformed visible unreported split foreign chars bytes count =>
    have hoffending := firstOffending?_eq_some_iff.2
      ⟨⟨_, split⟩, fun c hc => (chars c hc).1, foreign⟩
    simp [validate, not_isEmpty_trim.2 visible, cut?_eq_none_iff.2 unreported, hoffending, bytes]

/--
**A text passes exactly if it is acceptable, and is refused exactly for the reason that applies
first**: that it is blank, that it reports an error, or that a character is foreign.
-/
theorem validate_verdict (text : String) :
    (validate text = .ok () ↔ Acceptable text) ∧
    ∀ e, validate text = .error e ↔ Refused text e :=
  ⟨validate_eq_ok_iff, fun _ => ⟨refused_of_validate, validate_of_refused⟩⟩

/-- A foreign character before a report does not matter, and one carriage return belongs to the line. -/
example : validate "`x`\r\n Error: a\r\r\nError: b" = .error (.reported "Error: a\r") := by
  decide +kernel

end ShadingGraph
