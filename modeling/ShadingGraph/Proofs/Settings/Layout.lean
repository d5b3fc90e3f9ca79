import ShadingGraph.Proofs.Glsl.Literal
import ShadingGraph.Settings.Token

/-!
# Layouts of settings texts

Words can be written with blanks and comments anywhere around them (`Settings.Spaced`). A block
comment holds any characters and whole comments of its own form (`Settings.CommentRest`); a line comment
runs to the end of its line. Scanning such a text gives one token for each word, except that
parentheses with nothing at all between them make one token together (`Settings.Row`).

Main statement: `Settings.Spaced.scan?`.
-/

namespace ShadingGraph.Settings

open Text

/-! ## Blanks and comments -/

/-- The blanks: spaces, ends of lines, pages and paragraphs, and marks of the direction of writing. -/
def blanks : List Char :=
  [' ', '\t', '\n', '\r', '\x0b', '\x0c', '\u0085', '\u200E', '\u200F', '\u2028', '\u2029']

/-- What follows the `/*` of a comment, up to the `*/` that closes it and with it. -/
inductive CommentRest : List Char → Prop
  | close : CommentRest ['*', '/']
  /-- A character that neither opens a comment nor closes this one. -/
  | char {c : Char} {cs : List Char} (hopen : c = '/' → cs.head? ≠ some '*')
      (hclose : c = '*' → cs.head? ≠ some '/') (h : CommentRest cs) : CommentRest (c :: cs)
  | comment {inner cs : List Char} (hinner : CommentRest inner) (h : CommentRest cs) :
    CommentRest ('/' :: '*' :: (inner ++ cs))

/-- Blanks and comments. -/
inductive Gap : List Char → Prop
  | nil : Gap []
  | blank {c : Char} {cs : List Char} (hc : c ∈ blanks) (h : Gap cs) : Gap (c :: cs)
  | line {comment cs : List Char} (hcomment : '\n' ∉ comment) (h : Gap cs) :
    Gap ('/' :: '/' :: (comment ++ '\n' :: cs))
  | block {comment cs : List Char} (hcomment : CommentRest comment) (h : Gap cs) :
    Gap ('/' :: '*' :: (comment ++ cs))

/-- Blanks and comments up to the end of a text, where the last line needs no end. -/
inductive Ending : List Char → Prop
  | gap {cs : List Char} (h : Gap cs) : Ending cs
  | line {gap comment : List Char} (h : Gap gap) (hcomment : '\n' ∉ comment) :
    Ending (gap ++ '/' :: '/' :: comment)

/-- The text is the words in order, with blanks and comments around them. -/
inductive Spaced : List String → List Char → Prop
  | done {cs : List Char} (h : Ending cs) : Spaced [] cs
  | word {gap cs : List Char} {w : String} {ws : List String} (hgap : Gap gap) (h : Spaced ws cs) :
    Spaced (w :: ws) (gap ++ (w.toList ++ cs))

theorem gap_of_subset {gap : List Char} (h : gap ⊆ blanks) : Gap gap := by
  induction gap with
  | nil => exact .nil
  | cons c gap ih =>
    rw [List.cons_subset] at h
    exact .blank h.1 (ih h.2)

/-- Any words can be written one behind the other, with a gap before each. -/
theorem spaced_flatMap {row : List (String × String)} (h : ∀ p ∈ row, Gap p.1.toList)
    {ending : List Char} (hending : Ending ending) :
    Spaced (row.map Prod.snd) (row.flatMap (fun p => p.1.toList ++ p.2.toList) ++ ending) := by
  induction row with
  | nil => exact .done hending
  | cons p row ih =>
    rw [List.forall_mem_cons] at h
    rw [List.map_cons, List.flatMap_cons, List.append_assoc, List.append_assoc]
    exact .word h.1 (ih h.2)

/-! ## Scanning blanks and comments -/

theorem CommentRest.ne_nil {cs : List Char} (h : CommentRest cs) : cs ≠ [] := by
  cases h <;> exact List.cons_ne_nil _ _

/-- A comment goes on behind the comments in it. -/
theorem CommentRest.afterComment? {cs : List Char} (h : CommentRest cs) (depth : Nat)
    (rest : List Char) :
    (Settings.afterComment? depth (cs ++ rest)).map Rest.list =
      match depth with
      | 0 => some rest
      | depth + 1 => (Settings.afterComment? depth rest).map Rest.list := by
  induction h generalizing depth rest with
  | close =>
    cases depth with
    | zero => rfl
    | succ depth =>
      simp only [List.cons_append, List.nil_append, Settings.afterComment?, Option.map_map]
      rfl
  | @char c cs hopen hclose h ih =>
    obtain ⟨d, ds, rfl⟩ := List.exists_cons_of_ne_nil h.ne_nil
    rw [List.cons_append, Settings.afterComment?.eq_4, Option.map_map]
    · exact ih depth rest
    · rintro ds' rfl heq
      exact hopen rfl (congrArg List.head? heq)
    · rintro ds' rfl heq
      exact hclose rfl (congrArg List.head? heq)
  | @comment inner cs hinner h ihinner ih =>
    rw [List.cons_append, List.cons_append, List.append_assoc, Settings.afterComment?, Option.map_map]
    exact (ihinner (depth + 1) (cs ++ rest)).trans (ih depth rest)

theorem scan?_nil : Token.scan? [] = some [] := by
  rw [Token.scan?]
  rfl

theorem scan?_of_blank? {cs : List Char} {r : Rest cs} (h : blank? cs = some (some r)) :
    Token.scan? cs = Token.scan? r.list := by
  cases cs with
  | nil => cases h
  | cons c cs =>
    rw [Token.scan?, h]
    rfl

theorem isBlank_of_mem {c : Char} (h : c ∈ blanks) : isBlank c = true := by
  have hall : blanks.all isBlank = true := by decide
  exact List.all_eq_true.1 hall c h

theorem scan?_blank {c : Char} (hc : isBlank c = true) (cs : List Char) :
    Token.scan? (c :: cs) = Token.scan? cs := by
  have hslash : c ≠ '/' := by
    rintro rfl
    exact absurd hc (by decide)
  have hblank : blank? (c :: cs) = some (some (.behind c cs)) := by
    rw [blank?.eq_3, if_pos hc]
    · rintro _ rfl
      exact absurd rfl hslash
    · rintro _ rfl
      exact absurd rfl hslash
  exact scan?_of_blank? hblank

theorem scan?_lineComment (cs : List Char) :
    Token.scan? ('/' :: '/' :: cs) = Token.scan? (cs.dropWhile (· ≠ '\n')) :=
  scan?_of_blank? (r := .push '/' (.dropWhile '/' (· ≠ '\n') cs)) rfl

theorem dropWhile_of_notMem {comment : List Char} (h : '\n' ∉ comment) (rest : List Char) :
    (comment ++ rest).dropWhile (· ≠ '\n') = rest.dropWhile (· ≠ '\n') := by
  refine List.dropWhile_append_of_pos fun c hc => ?_
  exact decide_eq_true fun heq => h (heq ▸ hc)

/-- **Nothing is read from blanks and comments.** -/
theorem Gap.scan? {gap : List Char} (h : Gap gap) (cs : List Char) :
    Token.scan? (gap ++ cs) = Token.scan? cs := by
  induction h with
  | nil => rfl
  | blank hc h ih => rw [List.cons_append, scan?_blank (isBlank_of_mem hc), ih]
  | line hcomment h ih =>
    simp only [List.cons_append, List.append_assoc]
    rw [scan?_lineComment, dropWhile_of_notMem hcomment, List.dropWhile_cons_of_neg (by simp),
      scan?_blank (by decide), ih]
  | @block comment gap hcomment h ih =>
    simp only [List.cons_append, List.append_assoc]
    obtain ⟨r, hr, hlist⟩ := Option.map_eq_some_iff.1 (hcomment.afterComment? 0 (gap ++ cs))
    have hblank :
        blank? ('/' :: '*' :: (comment ++ (gap ++ cs))) = some (some ((r.push '*').push '/')) := by
      rw [blank?, hr]
      rfl
    rw [scan?_of_blank? hblank, ← ih]
    exact congrArg Token.scan? hlist

theorem Ending.scan? {cs : List Char} (h : Ending cs) : Token.scan? cs = some [] := by
  cases h with
  | gap h =>
    rw [← List.append_nil cs, h.scan?, scan?_nil]
  | line h hcomment =>
    have hnone := dropWhile_of_notMem hcomment []
    rw [List.append_nil] at hnone
    rw [h.scan?, scan?_lineComment, hnone, List.dropWhile_nil, scan?_nil]

/-! ## Words -/

/-- A word that is one of the marks of a record. -/
def IsMark (w : String) : Prop := ∃ c ∈ ['(', ')', ':', ','], w.toList = [c]

/-- A word of small letters, with which no quoted text and no raw identifier starts. -/
def IsName (w : String) : Prop :=
  w.toList.all Char.isLower = true ∧ w.toList.head? ∉ [none, some 'b', some 'r']

instance (w : String) : Decidable (IsName w) := inferInstanceAs (Decidable (_ ∧ _))

/-- A word of digits. -/
def IsNumber (w : String) : Prop := IsDigits w.toList

/-- The token that a word by itself makes. -/
def tokenOf (w : String) : Token :=
  match w.toList with
  | [] => .word w
  | c :: cs =>
    if marks.contains c then .mark c
    else if isNumberStart c then .number (c :: cs)
    else .word w

/-- What follows cannot belong to a name or a number that stands before it. -/
def WordEnds (cs : List Char) : Prop :=
  ∀ c ∈ cs.head?, isIdentifierRest c = false ∧ isNumberRest c = false

theorem wordEnds_cons {c : Char} (h : c ∈ '/' :: '(' :: ')' :: ':' :: ',' :: blanks)
    (cs : List Char) : WordEnds (c :: cs) := by
  have hall : ('/' :: '(' :: ')' :: ':' :: ',' :: blanks).all
      (fun c => !isIdentifierRest c && !isNumberRest c) = true := by decide +kernel
  rintro _ ⟨⟩
  simpa using List.all_eq_true.1 hall c h

theorem wordEnds_gap {gap : List Char} (h : Gap gap) {cs : List Char} (hcs : WordEnds cs) :
    WordEnds (gap ++ cs) := by
  cases h with
  | nil => exact hcs
  | blank hc h => exact wordEnds_cons (by simp [hc]) _
  | line | block => exact wordEnds_cons (by simp) _

theorem wordEnds_mark {m : String} (hm : IsMark m) (cs : List Char) : WordEnds (m.toList ++ cs) := by
  obtain ⟨c, hc, hm⟩ := hm
  rw [hm]
  exact wordEnds_cons (List.mem_cons_of_mem _ (List.mem_append_left blanks hc)) cs

/-! ## Scanning words -/

/-- A token that starts as no blank, comment or quoted text does. -/
theorem scan?_plain {c : Char} {cs : List Char} {t : Token} {r : Rest (c :: cs)}
    (hblank : isBlank c = false) (hc : c ∉ ['/', '(', '"', '\x27', 'b', 'r'])
    (h : Token.plain? c cs = some (t, r)) :
    Token.scan? (c :: cs) = (Token.scan? r.list).map (t :: ·) := by
  simp only [List.mem_cons, List.not_mem_nil, or_false, not_or] at hc
  obtain ⟨hslash, hopen, hquote, hapostrophe, hb, hr⟩ := hc
  have hnone : blank? (c :: cs) = none := by
    simp [blank?, hslash, hblank]
  have hquoted : afterQuoted? (c :: cs) = none := by
    simp [afterQuoted?, hquote, hapostrophe, hb, hr]
  have hraw : Token.rawWord? (c :: cs) = none := by
    simp [Token.rawWord?, hr]
  have hunit : Token.unit? (c :: cs) = none := by
    simp [Token.unit?, hopen]
  have hnext : Token.next? (c :: cs) = some (t, r) := by
    rw [Token.next?, hquoted, hraw, hunit]
    exact h
  rw [Token.scan?, hnone, hnext]
  rfl

theorem scan?_unit (cs : List Char) :
    Token.scan? ('(' :: ')' :: cs) = (Token.scan? cs).map (.unit :: ·) := by
  rw [Token.scan?]
  rfl

theorem scan?_open {cs : List Char} (h : cs.head? ≠ some ')') :
    Token.scan? ('(' :: cs) = (Token.scan? cs).map (.mark '(' :: ·) := by
  have hunit : Token.unit? ('(' :: cs) = none := by
    rw [Token.unit?.eq_2]
    rintro _ ⟨⟩
    exact absurd rfl h
  have hnext : Token.next? ('(' :: cs) = some (.mark '(', .behind '(' cs) := by
    have hquoted : afterQuoted? ('(' :: cs) = none := rfl
    rw [Token.next?, hquoted, hunit]
    rfl
  rw [Token.scan?, hnext]
  rfl

theorem scan?_mark {c : Char} (hc : c ∈ [')', ':', ',']) (cs : List Char) :
    Token.scan? (c :: cs) = (Token.scan? cs).map (.mark c :: ·) := by
  have hclass : marks.contains c = true ∧ isBlank c = false ∧
      c ∉ ['/', '(', '"', '\x27', 'b', 'r'] := by
    simp only [List.mem_cons, List.not_mem_nil, or_false] at hc
    rcases hc with rfl | rfl | rfl <;> decide
  obtain ⟨hmark, hblank, hc⟩ := hclass
  exact scan?_plain hblank hc (r := .behind c cs) (by rw [Token.plain?, if_pos hmark])

/-- A token that goes on up to the first character of another class. -/
theorem scan?_run {c : Char} {word cs : List Char} {p : Char → Bool} {t : List Char → Token}
    (hblank : isBlank c = false) (hc : c ∉ ['/', '(', '"', '\x27', 'b', 'r'])
    (hplain : ∀ cs, Token.plain? c cs = some (t (cs.takeWhile p), .dropWhile c p cs))
    (hword : word.all p = true) (hcs : ∀ d ∈ cs.head?, p d = false) :
    Token.scan? (c :: (word ++ cs)) = (Token.scan? cs).map (t word :: ·) := by
  have hstop : cs.takeWhile p = [] ∧ cs.dropWhile p = cs := by
    cases cs with
    | nil => exact ⟨rfl, rfl⟩
    | cons d cs =>
      have hd : p d = false := hcs d rfl
      exact ⟨List.takeWhile_cons_of_neg (by simp [hd]), List.dropWhile_cons_of_neg (by simp [hd])⟩
  have hall := List.all_eq_true.1 hword
  have htake : (word ++ cs).takeWhile p = word := by
    rw [List.takeWhile_append_of_pos hall, hstop.1, List.append_nil]
  have hdrop : (word ++ cs).dropWhile p = cs := by
    rw [List.dropWhile_append_of_pos hall, hstop.2]
  rw [scan?_plain hblank hc (hplain _), htake]
  exact congrArg (fun rest => (Token.scan? rest).map (t word :: ·)) hdrop

/-- What a small letter is to the scanner. -/
theorem of_isLower {c : Char} (h : c.isLower = true) :
    c ∉ marks ∧ isNumberStart c = false ∧ isIdentifierStart c = true ∧
      isIdentifierRest c = true ∧ isBlank c = false ∧ c ∉ ['/', '(', '"', '\x27'] := by
  have hall : ∀ n < 26, Char.ofNat (97 + n) ∉ marks ∧
      isNumberStart (.ofNat (97 + n)) = false ∧ isIdentifierStart (.ofNat (97 + n)) = true ∧
      isIdentifierRest (.ofNat (97 + n)) = true ∧ isBlank (.ofNat (97 + n)) = false ∧
      Char.ofNat (97 + n) ∉ ['/', '(', '"', '\x27'] := by decide +kernel
  obtain ⟨n, hn, rfl⟩ := exists_of_isLower h
  exact hall n hn

/-- What a digit is to the scanner. -/
theorem of_isDigit {c : Char} (h : c.isDigit = true) :
    c ∉ marks ∧ isNumberStart c = true ∧ isNumberRest c = true ∧ isBlank c = false ∧
      c ∉ ['/', '(', '"', '\x27', 'b', 'r'] := by
  have hall : ∀ n < 10, Char.ofNat (48 + n) ∉ marks ∧
      isNumberStart (.ofNat (48 + n)) = true ∧ isNumberRest (.ofNat (48 + n)) = true ∧
      isBlank (.ofNat (48 + n)) = false ∧
      Char.ofNat (48 + n) ∉ ['/', '(', '"', '\x27', 'b', 'r'] := by decide +kernel
  obtain ⟨n, hn, rfl⟩ := exists_of_isDigit h
  exact hall n hn

theorem tokenOf_name {w : String} (hw : IsName w) : tokenOf w = .word w := by
  obtain ⟨hletters, -⟩ := hw
  unfold tokenOf
  split
  · rfl
  · next c word hchars =>
    rw [hchars, List.all_cons, Bool.and_eq_true] at hletters
    obtain ⟨hmark, hnumber, -⟩ := of_isLower hletters.1
    simp [hmark, hnumber]

theorem tokenOf_number {w : String} (hw : IsNumber w) : tokenOf w = .number w.toList := by
  obtain ⟨hne, hdigits⟩ := hw
  unfold tokenOf
  split
  · next hchars => exact absurd hchars hne
  · next c word hchars =>
    obtain ⟨hmark, hnumber, -⟩ := of_isDigit (hdigits c (hchars ▸ List.mem_cons_self))
    simp [hmark, hnumber, hchars]

theorem scan?_name {w : String} (hw : IsName w) {cs : List Char} (hcs : WordEnds cs) :
    Token.scan? (w.toList ++ cs) = (Token.scan? cs).map (tokenOf w :: ·) := by
  have ⟨hletters, hfirst⟩ := hw
  cases hchars : w.toList with
  | nil => simp [hchars] at hfirst
  | cons c word =>
    rw [hchars, List.all_cons, Bool.and_eq_true] at hletters
    obtain ⟨hmark, hnumber, hstart, -, hblank, hquote⟩ := of_isLower hletters.1
    have hc : c ∉ ['/', '(', '"', '\x27'] ++ ['b', 'r'] := by
      rw [List.mem_append, not_or]
      refine ⟨hquote, fun hmem => hfirst ?_⟩
      rw [hchars, List.head?_cons]
      exact List.mem_cons_of_mem none (List.mem_map_of_mem (f := some) hmem)
    have hrest : word.all isIdentifierRest = true :=
      List.all_eq_true.2 fun d hd => (of_isLower (List.all_eq_true.1 hletters.2 d hd)).2.2.2.1
    have htoken : tokenOf w = .word (String.ofList (c :: word)) := by
      rw [tokenOf_name hw, ← hchars, String.ofList_toList]
    rw [htoken, List.cons_append]
    refine scan?_run (t := fun word => .word (String.ofList (c :: word))) hblank hc (fun cs => ?_) hrest
      fun d hd => (hcs d hd).1
    simp [Token.plain?, hmark, hnumber, hstart]

theorem scan?_number {w : String} (hw : IsNumber w) {cs : List Char} (hcs : WordEnds cs) :
    Token.scan? (w.toList ++ cs) = (Token.scan? cs).map (tokenOf w :: ·) := by
  have ⟨hne, hdigits⟩ := hw
  obtain ⟨c, word, hchars⟩ := List.exists_cons_of_ne_nil hne
  rw [hchars, List.forall_mem_cons] at hdigits
  obtain ⟨hmark, hnumber, -, hblank, hc⟩ := of_isDigit hdigits.1
  have hrest : word.all isNumberRest = true :=
    List.all_eq_true.2 fun d hd => (of_isDigit (hdigits.2 d hd)).2.2.1
  rw [tokenOf_number hw, hchars, List.cons_append]
  refine scan?_run (t := fun word => .number (c :: word)) hblank hc (fun cs => ?_) hrest
    fun d hd => (hcs d hd).2
  simp [Token.plain?, hmark, hnumber]

/-! ## Scanning rows of words -/

/--
A row of words that stay apart without blanks between them: behind a name or a number stands a mark.
-/
inductive Separated : List String → Prop
  | nil : Separated []
  | mark {m : String} {ws : List String} (hm : IsMark m) (h : Separated ws) : Separated (m :: ws)
  | word {w m : String} {ws : List String} (hw : IsName w ∨ IsNumber w) (hm : IsMark m)
      (h : Separated (m :: ws)) : Separated (w :: m :: ws)

/-- The tokens of a row of words, of which parentheses next to each other may make one. -/
inductive Row : List String → List Token → Prop
  | nil : Row [] []
  | word {w : String} {ws : List String} {ts : List Token} (h : Row ws ts) :
    Row (w :: ws) (tokenOf w :: ts)
  | unit {ws : List String} {ts : List Token} (h : Row ws ts) : Row ("(" :: ")" :: ws) (.unit :: ts)

theorem tokenOf_mark {m : String} {c : Char} (hc : c ∈ ['(', ')', ':', ',']) (hm : m.toList = [c]) :
    tokenOf m = .mark c := by
  have hmarks : ['(', ')', ':', ','] ⊆ marks := by decide
  simp [tokenOf, hm, hmarks hc]

/-- Only the word of a mark makes the token of the mark. -/
theorem Separated.eq_of_tokenOf {w m : String} {ws : List String} {c : Char} (h : Separated (w :: ws))
    (hw : tokenOf w = .mark c) (hm : m.toList = [c]) : w = m := by
  cases h with
  | mark hmark =>
    obtain ⟨d, hd, hchars⟩ := hmark
    rw [tokenOf_mark hd hchars, Token.mark.injEq] at hw
    exact String.toList_injective (by rw [hchars, hw, hm])
  | word hword =>
    rcases hword with hword | hword
    · rw [tokenOf_name hword] at hw
      cases hw
    · rw [tokenOf_number hword] at hw
      cases hw

/-- Parentheses next to each other are read as one token, all other words by themselves. -/
theorem row_mark {m : String} {ws : List String} {cs : List Char} {ts : List Token} (hm : IsMark m)
    (hws : Separated ws) (hts : Token.scan? cs = some ts) (hrow : Row ws ts) :
    ∃ ts', Token.scan? (m.toList ++ cs) = some ts' ∧ Row (m :: ws) ts' := by
  obtain ⟨c, hc, hchars⟩ := hm
  have htoken := tokenOf_mark hc hchars
  have hkept : Token.scan? (c :: cs) = (Token.scan? cs).map (.mark c :: ·) →
      ∃ ts', Token.scan? (m.toList ++ cs) = some ts' ∧ Row (m :: ws) ts' := by
    intro hscan
    refine ⟨tokenOf m :: ts, ?_, .word hrow⟩
    rw [hchars, List.singleton_append, hscan, hts, htoken]
    rfl
  rcases List.mem_cons.1 hc with rfl | hc
  · by_cases hclose : cs.head? = some ')'
    · obtain ⟨rest, rfl⟩ := List.head?_eq_some_iff.1 hclose
      rw [scan?_mark (by decide)] at hts
      obtain ⟨ts, hrest, rfl⟩ := Option.map_eq_some_iff.1 hts
      generalize hclosing : Token.mark ')' = closing at hrow
      cases hrow with
      | @word w ws _ hrow =>
        obtain rfl := hws.eq_of_tokenOf hclosing.symm (m := ")") rfl
        obtain rfl : m = "(" := String.toList_injective hchars
        refine ⟨.unit :: ts, ?_, .unit hrow⟩
        rw [hchars, List.singleton_append, scan?_unit, hrest]
        rfl
      | unit => cases hclosing
    · exact hkept (scan?_open hclose)
  · exact hkept (scan?_mark hc cs)

/-- **Words are read back from every layout of them.** -/
theorem Spaced.scan? {ws : List String} {cs : List Char} (h : Spaced ws cs) (hws : Separated ws) :
    ∃ ts, Token.scan? cs = some ts ∧ Row ws ts := by
  induction h with
  | done h => exact ⟨[], h.scan?, .nil⟩
  | @word gap cs w ws hgap h ih =>
    rw [hgap.scan?]
    cases hws with
    | mark hm hws =>
      obtain ⟨ts, hts, hrow⟩ := ih hws
      exact row_mark hm hws hts hrow
    | @word _ m ws hw hm hws =>
      obtain ⟨ts, hts, hrow⟩ := ih hws
      have hends : WordEnds cs := by
        cases h with
        | word hgap _ => exact wordEnds_gap hgap (wordEnds_mark hm _)
      refine ⟨tokenOf w :: ts, ?_, .word hrow⟩
      rcases hw with hw | hw
      · rw [scan?_name hw hends, hts]
        rfl
      · rw [scan?_number hw hends, hts]
        rfl

end ShadingGraph.Settings
