import Mathlib.Data.List.Induction
import Mathlib.Data.List.TakeDrop
import Mathlib.Data.List.TakeWhile
import ShadingGraph.Glsl.Varying
import ShadingGraph.Text.Basic

/-!
# Lines and words of a text

Trimming and cutting texts, reading back what was written line by line, `Text.lines_unlines`, and what
stands between the line feeds of a text, which trimming changes at blanks only
(`Text.forall_mem_splitOn_trim`).

The words of a text, `Text.words`, are the longest stretches of letters, digits and underscores. A text
falls into words at every other character (`Text.words_append_separator`), and what is said about
words follows from this.

The words of the shading language that code is made of have no underscore in them, while everything
that a program gives a name to has one. `Text.longWords` are the words with an underscore.
-/

namespace ShadingGraph.Text

open Glsl

/-! ## Blanks at the ends -/

/-- Trimming leaves nothing of a text exactly if it is blank. -/
theorem trim_eq_nil_iff {cs : List Char} : trim cs = [] ↔ ∀ c ∈ cs, isBlank c = true := by
  rw [trim, trimEnd, List.reverse_eq_nil_iff, List.dropWhile_eq_nil_iff]
  simp only [List.mem_reverse]
  constructor
  · intro h
    -- what is left at the front would start with a character that is not blank
    cases hrest : cs.dropWhile isBlank with
    | nil => exact List.dropWhile_eq_nil_iff.1 hrest
    | cons c rest =>
      have hblank := h c (hrest ▸ List.mem_cons_self)
      have hnot := List.head_dropWhile_not isBlank (l := cs) (by simp [hrest])
      simp [hrest, hblank] at hnot
  · exact fun h c hc => h c ((List.dropWhile_sublist _).subset hc)

theorem dropWhile_isBlank_eq_self {cs : List Char} (h : ∀ c ∈ cs.head?, isBlank c = false) :
    cs.dropWhile isBlank = cs := by
  cases cs with
  | nil => rfl
  | cons c cs => exact List.dropWhile_cons_of_neg (by simp [h c rfl])

theorem trimEnd_eq_self {cs : List Char} (h : ∀ c ∈ cs.getLast?, isBlank c = false) :
    trimEnd cs = cs := by
  rw [trimEnd, dropWhile_isBlank_eq_self (by rwa [List.head?_reverse]), List.reverse_reverse]

/-- Trimming keeps a text between two characters that are not blank. -/
theorem trim_eq_self {cs : List Char} (hfirst : ∀ c ∈ cs.head?, isBlank c = false)
    (hlast : ∀ c ∈ cs.getLast?, isBlank c = false) : trim cs = cs := by
  rw [trim, dropWhile_isBlank_eq_self hfirst, trimEnd_eq_self hlast]

theorem trimEnd_append_blank {c : Char} (hc : isBlank c = true) (cs : List Char) :
    trimEnd (cs ++ [c]) = trimEnd cs := by
  rw [trimEnd, List.reverse_append, List.reverse_singleton, List.singleton_append,
    List.dropWhile_cons_of_pos hc, trimEnd]

theorem isPrefix_trimEnd (cs : List Char) : trimEnd cs <+: cs := by
  rw [trimEnd, ← List.reverse_suffix, List.reverse_reverse]
  exact List.dropWhile_suffix _

theorem trim_cons_blank {c : Char} (hc : isBlank c = true) (cs : List Char) :
    trim (c :: cs) = trim cs := by
  rw [trim, List.dropWhile_cons_of_pos hc, trim]

theorem trim_append_blank {c : Char} (hc : isBlank c = true) (cs : List Char) :
    trim (cs ++ [c]) = trim cs := by
  rw [trim, trim, List.dropWhile_append]
  split
  · next hblank =>
    rw [List.dropWhile_cons_of_pos hc, List.isEmpty_iff.1 hblank]
    rfl
  · exact trimEnd_append_blank hc _

theorem mem_of_mem_trim {cs : List Char} {c : Char} (h : c ∈ trim cs) : c ∈ cs :=
  (List.dropWhile_sublist _).subset ((isPrefix_trimEnd _).subset h)

theorem isBlank_of_mem_head?_dropWhile {cs : List Char} :
    ∀ c ∈ (cs.dropWhile isBlank).head?, isBlank c = false := by
  intro c hc
  have hfirst := List.head?_dropWhile_not isBlank cs
  rw [Option.mem_def.1 hc] at hfirst
  simpa using hfirst

/-- Neither end of a trimmed text is blank. -/
theorem trim_trim (cs : List Char) : trim (trim cs) = trim cs := by
  apply trim_eq_self
  · intro c hc
    obtain ⟨rest, hrest⟩ := isPrefix_trimEnd (cs.dropWhile isBlank)
    have hfirst : c ∈ (cs.dropWhile isBlank).head? := by
      rw [← hrest, List.head?_append, ← trim, Option.mem_def.1 hc]
      rfl
    exact isBlank_of_mem_head?_dropWhile c hfirst
  · intro c hc
    rw [trim, trimEnd, List.getLast?_reverse] at hc
    exact isBlank_of_mem_head?_dropWhile c hc

/-! ## What stands in a text -/

/-- A text cannot be cut exactly if what it should be cut at does not stand in it. -/
theorem cut?_eq_none_iff {needle cs : List Char} : cut? needle cs = none ↔ ¬needle <:+: cs := by
  induction cs with
  | nil => simp [cut?]
  | cons c cs ih =>
    rw [cut?, List.infix_cons_iff, ← List.isPrefixOf_iff_prefix]
    split
    · next hstart => simp [hstart]
    · next hstart => simp [hstart, ih]

/-- A text is cut at a character where the character stands first. -/
theorem cut?_singleton {c : Char} {before : List Char} (h : c ∉ before) (behind : List Char) :
    cut? [c] (before ++ c :: behind) = some (before, behind) := by
  induction before with
  | nil => simp [cut?]
  | cons d before ih =>
    simp only [List.mem_cons, not_or] at h
    simp [cut?, h.1, ih h.2]

theorem cut?_singleton_eq_some_iff {c : Char} {cs before behind : List Char} :
    cut? [c] cs = some (before, behind) ↔ c ∉ before ∧ cs = before ++ c :: behind := by
  constructor
  · intro h
    have hc : c ∈ cs := by
      by_contra hc
      rw [cut?_eq_none_iff.2 fun hpart => hc (hpart.subset (List.mem_singleton_self c))] at h
      cases h
    obtain ⟨before', behind', rfl, hbefore⟩ := List.eq_append_cons_of_mem hc
    rw [cut?_singleton hbefore] at h
    obtain ⟨rfl, rfl⟩ := Prod.mk.inj (Option.some.inj h)
    exact ⟨hbefore, rfl⟩
  · rintro ⟨hbefore, rfl⟩
    exact cut?_singleton hbefore behind

theorem stripPrefix?_append (begin_ cs : List Char) : stripPrefix? begin_ (begin_ ++ cs) = some cs := by
  simp [stripPrefix?]

theorem stripSuffix?_append (cs end_ : List Char) : stripSuffix? end_ (cs ++ end_) = some cs := by
  simp [stripSuffix?]

theorem stripPrefix?_eq_some_iff {begin_ cs rest : List Char} :
    stripPrefix? begin_ cs = some rest ↔ cs = begin_ ++ rest := by
  constructor
  · intro h
    rw [stripPrefix?] at h
    split at h
    · next hstart =>
      obtain ⟨behind, rfl⟩ := List.isPrefixOf_iff_prefix.1 hstart
      rw [List.drop_left] at h
      rw [Option.some.inj h]
    · cases h
  · rintro rfl
    exact stripPrefix?_append begin_ rest

theorem stripSuffix?_eq_some_iff {end_ cs before : List Char} :
    stripSuffix? end_ cs = some before ↔ cs = before ++ end_ := by
  constructor
  · intro h
    rw [stripSuffix?] at h
    split at h
    · next hend =>
      obtain ⟨front, rfl⟩ := List.isSuffixOf_iff_suffix.1 hend
      rw [List.length_append, Nat.add_sub_cancel, List.take_left] at h
      rw [Option.some.inj h]
    · cases h
  · rintro rfl
    exact stripSuffix?_append before end_

/-! ## Lines -/

/-- A text without line ends. -/
def IsLine (cs : List Char) : Prop := '\n' ∉ cs ∧ '\r' ∉ cs

theorem IsLine.of_subset {cs ds : List Char} (h : IsLine ds) (hsub : cs ⊆ ds) : IsLine cs :=
  ⟨fun hc => h.1 (hsub hc), fun hc => h.2 (hsub hc)⟩

theorem isLine_append {cs ds : List Char} : IsLine (cs ++ ds) ↔ IsLine cs ∧ IsLine ds := by
  simp only [IsLine, List.mem_append, not_or]
  exact and_and_and_comm

theorem chomp_of_notMem {line : List Char} (h : '\r' ∉ line) : chomp line = line := by
  unfold chomp
  rw [if_neg]
  intro hlast
  exact h (List.mem_of_getLast? hlast)

theorem linesFrom_append {line : List Char} (h : '\n' ∉ line) (current rest : List Char) :
    linesFrom current (line ++ '\n' :: rest) = chomp (current.reverse ++ line) :: linesFrom [] rest := by
  induction line generalizing current with
  | nil => simp [linesFrom]
  | cons c line ih =>
    simp only [List.mem_cons, not_or] at h
    have hc : c ≠ '\n' := fun hc => h.1 hc.symm
    simp [linesFrom, hc, ih h.2]

/-- Lines that are written with their ends can be read back, whatever follows them. -/
theorem lines_flatMap {ls : List (List Char)} (h : ∀ l ∈ ls, IsLine l) (rest : List Char) :
    lines (ls.flatMap (· ++ ['\n']) ++ rest) = ls ++ lines rest := by
  unfold lines
  induction ls with
  | nil => rfl
  | cons l ls ih =>
    obtain ⟨⟨hfeed, hreturn⟩, hrest⟩ := List.forall_mem_cons.1 h
    rw [List.flatMap_cons, List.append_assoc, List.append_assoc, List.singleton_append,
      linesFrom_append hfeed, ih hrest, List.reverse_nil, List.nil_append, chomp_of_notMem hreturn,
      List.cons_append]

/-- What stands behind the last line feed is a line unless it is empty. -/
theorem linesFrom_of_notMem {line : List Char} (h : '\n' ∉ line) (current : List Char) :
    linesFrom current line
      = if (current.reverse ++ line).isEmpty then [] else [current.reverse ++ line] := by
  induction line generalizing current with
  | nil => simp [linesFrom]
  | cons c line ih =>
    simp only [List.mem_cons, not_or] at h
    rw [linesFrom, if_neg (Ne.symm h.1), ih h.2]
    simp

theorem lines_of_notMem {line : List Char} (h : '\n' ∉ line) :
    lines line = if line.isEmpty then [] else [line] := linesFrom_of_notMem h []

theorem toList_unlines (ls : List String) :
    (unlines ls).toList = (ls.map String.toList).flatMap (· ++ ['\n']) := by
  simp [unlines, String.toList_join, List.flatMap_map]

theorem lines_unlines_append {ls : List String} (h : ∀ l ∈ ls, IsLine l.toList) (rest : List Char) :
    lines ((unlines ls).toList ++ rest) = ls.map String.toList ++ lines rest := by
  rw [toList_unlines, lines_flatMap]
  intro l hl
  obtain ⟨s, hs, rfl⟩ := List.mem_map.1 hl
  exact h s hs

theorem lines_unlines {ls : List String} (h : ∀ l ∈ ls, IsLine l.toList) :
    lines (unlines ls).toList = ls.map String.toList := by
  simpa [lines, linesFrom] using lines_unlines_append h []

/-! ## Rows of lines -/

/-- A text is lines with their ends and the line begun last. -/
theorem exists_splitOn (cs : List Char) :
    ∃ ended last, cs.splitOn '\n' = ended ++ [last] ∧ cs = ended.flatMap (· ++ ['\n']) ++ last ∧
      ∀ l ∈ ended ++ [last], '\n' ∉ l := by
  induction cs with
  | nil => exact ⟨[], [], rfl, rfl, by simp⟩
  | cons c cs ih =>
    obtain ⟨ended, last, hsplit, hcs, hlines⟩ := ih
    rw [List.splitOn_cons_eq_if_modifyHead, hsplit]
    by_cases hc : c = '\n'
    · subst hc
      exact ⟨[] :: ended, last, by simp, by simp [← hcs], by simpa using hlines⟩
    · rw [if_neg (by simpa using hc)]
      cases ended with
      | nil => exact ⟨[], c :: last, rfl, by simpa using hcs, by simpa [Ne.symm hc] using hlines⟩
      | cons l ended =>
        exact ⟨(c :: l) :: ended, last, rfl, by simpa using hcs, by simpa [Ne.symm hc] using hlines⟩

theorem splitOn_flatMap {ended : List (List Char)} {last : List Char}
    (h : ∀ l ∈ ended ++ [last], '\n' ∉ l) :
    (ended.flatMap (· ++ ['\n']) ++ last).splitOn '\n' = ended ++ [last] := by
  induction ended with
  | nil => exact List.splitOn_eq_singleton (h last (by simp))
  | cons l ended ih =>
    rw [List.cons_append, List.forall_mem_cons] at h
    rw [List.flatMap_cons, List.append_assoc, List.append_assoc, List.singleton_append,
      List.splitOn_append_cons_self_of_not_mem h.1, ih h.2, List.cons_append]

theorem intercalate_append_singleton (ended : List (List Char)) (last : List Char) :
    ['\n'].intercalate (ended ++ [last]) = ended.flatMap (· ++ ['\n']) ++ last := by
  induction ended with
  | nil => simp
  | cons l ended ih =>
    rw [List.cons_append, List.intercalate_cons_of_ne_nil (by simp), ih, List.flatMap_cons]
    simp

/-- Characters other than line feeds stand in the lines. -/
theorem mem_intercalate {c : Char} (hc : c ≠ '\n') {ls : List (List Char)} :
    c ∈ ['\n'].intercalate ls ↔ ∃ l ∈ ls, c ∈ l := by
  induction ls with
  | nil => simp
  | cons l ls ih =>
    cases ls with
    | nil => simp
    | cons m ls =>
      rw [List.intercalate_cons_cons, List.mem_append, List.mem_append, List.mem_singleton, ih]
      simp [hc]

/-- The lines of a text without carriage returns. -/
theorem isLine_of_mem_splitOn {cs : List Char} (h : '\r' ∉ cs) :
    ∀ l ∈ cs.splitOn '\n', IsLine l := by
  obtain ⟨ended, last, hsplit, -, hlines⟩ := exists_splitOn cs
  intro l hl
  refine ⟨hlines l (hsplit ▸ hl), fun hreturn => h ?_⟩
  have hmem : '\r' ∈ ['\n'].intercalate (cs.splitOn '\n') :=
    (mem_intercalate (by decide)).2 ⟨l, hl, hreturn⟩
  rwa [List.intercalate_splitOn] at hmem

/-! ## Lines of a trimmed text -/

section Trimmed

variable {P : List Char → Prop} {cs : List Char}

theorem forall_mem_splitOn_dropWhile (hfirst : ∀ c l, isBlank c = true → P (c :: l) → P l)
    (h : ∀ l ∈ cs.splitOn '\n', P l) : ∀ l ∈ (cs.dropWhile isBlank).splitOn '\n', P l := by
  induction cs with
  | nil => exact h
  | cons c cs ih =>
    by_cases hc : isBlank c = true
    · rw [List.dropWhile_cons_of_pos hc]
      apply ih
      rw [List.splitOn_cons_eq_if_modifyHead] at h
      split at h
      · exact (List.forall_mem_cons.1 h).2
      · obtain ⟨l, ls, hsplit⟩ := List.exists_cons_of_ne_nil (List.splitOn_ne_nil '\n' cs)
        rw [hsplit, List.modifyHead_cons, List.forall_mem_cons] at h
        rw [hsplit, List.forall_mem_cons]
        exact ⟨hfirst c l hc h.1, h.2⟩
    · rwa [List.dropWhile_cons_of_neg hc]

theorem forall_mem_splitOn_trimEnd (hlast : ∀ c l, isBlank c = true → P (l ++ [c]) → P l)
    (h : ∀ l ∈ cs.splitOn '\n', P l) : ∀ l ∈ (trimEnd cs).splitOn '\n', P l := by
  induction cs using List.reverseRecOn with
  | nil => exact h
  | append_singleton cs c ih =>
    by_cases hc : isBlank c = true
    · rw [trimEnd_append_blank hc]
      apply ih
      obtain ⟨ended, last, hsplit, hcs, hlines⟩ := exists_splitOn cs
      rw [hsplit]
      by_cases hfeed : c = '\n'
      · rw [hfeed, List.splitOn_append_cons_self, hsplit] at h
        exact (List.forall_mem_append.1 h).1
      · have hlines' : ∀ l ∈ ended ++ [last ++ [c]], '\n' ∉ l := by
          simp only [List.forall_mem_append, List.forall_mem_singleton] at hlines ⊢
          exact ⟨hlines.1, by simp [hlines.2, Ne.symm hfeed]⟩
        rw [hcs, List.append_assoc, splitOn_flatMap hlines', List.forall_mem_append,
          List.forall_mem_singleton] at h
        rw [List.forall_mem_append, List.forall_mem_singleton]
        exact ⟨h.1, hlast c last hc h.2⟩
    · rwa [trimEnd_eq_self]
      intro d hd
      rw [List.getLast?_concat] at hd
      obtain rfl := Option.some.inj hd
      exact Bool.eq_false_iff.2 hc

/-- **What holds of the lines of a text, blanks at their ends or not, holds of the trimmed text.** -/
theorem forall_mem_splitOn_trim (hfirst : ∀ c l, isBlank c = true → P (c :: l) → P l)
    (hlast : ∀ c l, isBlank c = true → P (l ++ [c]) → P l) (h : ∀ l ∈ cs.splitOn '\n', P l) :
    ∀ l ∈ (trim cs).splitOn '\n', P l :=
  forall_mem_splitOn_trimEnd hlast (forall_mem_splitOn_dropWhile hfirst h)

end Trimmed

/-! ## Characters one by one -/

/-- A row is read member by member. -/
theorem mapM_eq_some_map {α β : Type} {f : α → Option β} {g : α → β} {xs : List α}
    (h : ∀ x ∈ xs, f x = some (g x)) : xs.mapM f = some (xs.map g) := by
  induction xs with
  | nil => rfl
  | cons x xs ih =>
    rw [List.forall_mem_cons] at h
    rw [List.mapM_cons, h.1, ih h.2]
    rfl

theorem eq_ofNat_of_range {c : Char} {low high : Nat} (hlow : low ≤ c.toNat) (hhigh : c.toNat < high) :
    ∃ n < high - low, c = Char.ofNat (low + n) :=
  ⟨c.toNat - low, by omega, by rw [Nat.add_sub_cancel' hlow, Char.ofNat_toNat]⟩

theorem exists_of_isDigit {c : Char} (h : c.isDigit = true) : ∃ n < 10, c = Char.ofNat (48 + n) := by
  have ⟨hlow, hhigh⟩ := Char.isDigit_iff_toNat.1 h
  exact eq_ofNat_of_range hlow (Nat.lt_succ_of_le hhigh)

theorem exists_of_isLower {c : Char} (h : c.isLower = true) : ∃ n < 26, c = Char.ofNat (97 + n) := by
  have hrange : c.val ≥ 'a'.val ∧ c.val ≤ 'z'.val := by
    change (decide _ && decide _) = true at h
    simpa only [Bool.and_eq_true, decide_eq_true_eq] using h
  exact eq_ofNat_of_range (UInt32.le_iff_toNat_le.1 hrange.1)
    (Nat.lt_succ_of_le (UInt32.le_iff_toNat_le.1 hrange.2))

/-! ## Words -/

/-- Whether a character can be part of a word. -/
def isWordChar (c : Char) : Bool := c.isAlphanum || c = '_'

theorem toNat_of_isWordChar {c : Char} (h : isWordChar c = true) : 0x30 ≤ c.toNat ∧ c.toNat ≤ 0x7A := by
  change ((decide ('A'.val ≤ c.val ∧ c.val ≤ 'Z'.val) ||
    (decide ('a'.val ≤ c.val) && decide (c.val ≤ 'z'.val))) ||
    (decide ('0'.val ≤ c.val) && decide (c.val ≤ '9'.val)) || decide (c = '_')) = true at h
  simp only [Bool.or_eq_true, Bool.and_eq_true, decide_eq_true_eq, UInt32.le_iff_toNat_le] at h
  rcases h with ((⟨hlow, hhigh⟩ | ⟨hlow, hhigh⟩) | ⟨hlow, hhigh⟩) | rfl
  · exact ⟨Nat.le_trans (by decide) hlow, Nat.le_trans hhigh (by decide)⟩
  · exact ⟨Nat.le_trans (by decide) hlow, Nat.le_trans hhigh (by decide)⟩
  · exact ⟨Nat.le_trans (by decide) hlow, Nat.le_trans hhigh (by decide)⟩
  · decide

/-- No part of a word is blank. -/
theorem isBlank_of_isWordChar {c : Char} (h : isWordChar c = true) : isBlank c = false := by
  have hrange := toNat_of_isWordChar h
  simp only [isBlank, Bool.or_eq_false_iff, Bool.and_eq_false_iff, decide_eq_false_iff_not]
  omega

/-- The words of a text, in order. -/
def words (cs : List Char) : List (List Char) :=
  (cs.splitOnP fun c => !isWordChar c).filter fun w => !w.isEmpty

/-- **Words end at every character that is not part of one.** -/
theorem words_append_separator {c : Char} (hc : isWordChar c = false) (xs ys : List Char) :
    words (xs ++ c :: ys) = words xs ++ words ys := by
  unfold words
  rw [List.splitOnP_append_cons xs ys (by simp [hc]), List.filter_append]

theorem words_nil : words [] = [] := by simp [words]

/-- A text of characters that are part of words is a word. -/
theorem words_eq_singleton {w : List Char} (hne : w ≠ []) (h : ∀ c ∈ w, isWordChar c = true) :
    words w = [w] := by
  unfold words
  rw [List.splitOnP_eq_singleton fun c hc => by simp [h c hc]]
  simp [hne]

/-! ## Words with an underscore -/

/-- The words of a text that have an underscore in them, in order. -/
def longWords (s : String) : List String :=
  ((words s.toList).filter fun w => w.contains '_').map String.ofList

theorem mem_longWords {s x : String} :
    x ∈ longWords s ↔ x.toList ∈ words s.toList ∧ '_' ∈ x.toList := by
  simp only [longWords, List.mem_map, List.mem_filter, List.contains_iff_mem]
  constructor
  · rintro ⟨w, ⟨hw, hscore⟩, rfl⟩
    simp [hw, hscore]
  · rintro ⟨hw, hscore⟩
    exact ⟨x.toList, ⟨hw, hscore⟩, String.ofList_toList⟩

/-- A text that is one word and does not begin with a digit. -/
structure IsIdentifier (x : String) : Prop where
  chars : x.toList.all isWordChar = true
  first : x.toList.head?.any (fun c => !c.isDigit) = true

instance (x : String) : Decidable (IsIdentifier x) :=
  decidable_of_iff (_ ∧ _) ⟨fun h => ⟨h.1, h.2⟩, fun h => ⟨h.chars, h.first⟩⟩

theorem IsIdentifier.exists_cons {x : String} (h : IsIdentifier x) :
    ∃ c cs, x.toList = c :: cs ∧ isWordChar c = true ∧ c.isDigit = false := by
  have hchars := h.chars
  have hfirst := h.first
  cases hx : x.toList with
  | nil => exact absurd hfirst (by simp [hx])
  | cons c cs =>
    rw [hx] at hchars hfirst
    exact ⟨c, cs, rfl, List.all_eq_true.1 hchars c List.mem_cons_self, by simpa using hfirst⟩

/-- An identifier with an underscore in it. -/
structure IsLongWord (x : String) : Prop extends IsIdentifier x where
  underscore : '_' ∈ x.toList

theorem longWords_eq_singleton {x : String} (h : IsLongWord x) : longWords x = [x] := by
  unfold longWords
  rw [words_eq_singleton (List.ne_nil_of_mem h.underscore) (List.all_eq_true.1 h.chars)]
  simp [h.underscore]

/-- What stands between words: some characters, none of them part of a word. -/
def IsGap (s : String) : Prop := s.toList ≠ [] ∧ s.toList.all (fun c => !isWordChar c) = true

instance (s : String) : Decidable (IsGap s) := inferInstanceAs (Decidable (_ ∧ _))

theorem words_append_gap {gap : List Char} (hne : gap ≠ []) (h : ∀ c ∈ gap, isWordChar c = false)
    (xs ys : List Char) : words (xs ++ gap ++ ys) = words xs ++ words ys := by
  induction gap generalizing xs with
  | nil => exact absurd rfl hne
  | cons c gap ih =>
    rw [List.forall_mem_cons] at h
    rw [List.append_assoc, List.cons_append, words_append_separator h.1]
    cases gap with
    | nil => rfl
    | cons d gap =>
      have hrest := ih (by simp) h.2 []
      rw [List.nil_append, words_nil, List.nil_append] at hrest
      rw [hrest]

theorem longWords_append_gap {gap : String} (h : IsGap gap) (a b : String) :
    longWords (a ++ gap ++ b) = longWords a ++ longWords b := by
  have hgap : ∀ c ∈ gap.toList, isWordChar c = false := by simpa using h.2
  unfold longWords
  rw [String.toList_append, String.toList_append, words_append_gap h.1 hgap, List.filter_append,
    List.map_append]

theorem longWords_empty : longWords "" = [] := by simp [longWords, words_nil]

theorem longWords_gap_left {gap : String} (h : IsGap gap) (s : String) :
    longWords (gap ++ s) = longWords s := by
  have := longWords_append_gap h "" s
  simpa [longWords_empty] using this

theorem longWords_gap_right {gap : String} (h : IsGap gap) (s : String) :
    longWords (s ++ gap) = longWords s := by
  have := longWords_append_gap h s ""
  simpa [longWords_empty] using this

theorem longWords_intercalate {gap : String} (h : IsGap gap) (ss : List String) :
    longWords (gap.intercalate ss) = ss.flatMap longWords := by
  induction ss with
  | nil => exact longWords_empty
  | cons s ss ih =>
    cases ss with
    | nil => simp
    | cons t ss =>
      rw [String.intercalate_cons_cons, longWords_append_gap h, ih]
      rfl

end ShadingGraph.Text
