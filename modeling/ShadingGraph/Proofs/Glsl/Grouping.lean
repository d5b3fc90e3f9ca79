import ShadingGraph.Proofs.Glsl.Scope
import ShadingGraph.Proofs.Names
import ShadingGraph.Proofs.Text

/-!
# Expressions are read in one way

The text of an expression groups as the tree does where operators and selections are applied to primary
expressions, and names are identifiers (`Expr.Readable`). The rules for types ask for this
(`Expr.readable_of_type?`).

What can follow an expression is not read as a part of it (`EndsExpr`), so what is read off the front of
a text is determined together with the rest. Reading goes by layers: the first word and the character
behind it tell what an expression without operators and selections is (`form_eq_readForm`), the
selections behind it belong to it (`operand_unique`), and an operator behind an operand has another
operand on its other side (`unique_of_enclosed`).

Main statement: `Expr.text_inj`, expressions with the same text are the same.
-/

namespace ShadingGraph.Glsl

open Text

/-! ## Expressions that can be read -/

mutual

/-- Names are identifiers, and what an operator or a selection is applied to is primary. -/
def Expr.Readable : Expr → Prop
  | .name x => IsIdentifier x
  | .literal _ => True
  | .paren e => e.Readable
  | .select e _ => e.isPrimary = true ∧ e.Readable
  | .infixOp _ a b => (a.isPrimary = true ∧ a.Readable) ∧ b.isPrimary = true ∧ b.Readable
  | .apply _ args | .construct _ args => Expr.AllReadable args

def Expr.AllReadable : List Expr → Prop
  | [] => True
  | e :: es => e.Readable ∧ Expr.AllReadable es

end

theorem Expr.allReadable_iff {es : List Expr} : Expr.AllReadable es ↔ ∀ e ∈ es, e.Readable := by
  induction es with
  | nil => simp [AllReadable]
  | cons e es ih => rw [AllReadable, ih, List.forall_mem_cons]

theorem Expr.texts_eq_map (es : List Expr) : Expr.texts es = es.map Expr.text := by
  induction es with
  | nil => rfl
  | cons e es ih => rw [texts, ih, List.map_cons]

section Typed

variable {Γ : String → Option VecType}

mutual

/-- The rules for types ask for primary operands. -/
theorem Expr.readable_of_type? : ∀ (e : Expr) {ty : ExprType}, e.type? Γ = some ty →
    (∀ x ∈ e.names, IsIdentifier x) → e.Readable
  | .name x, _, _, h => h x List.mem_cons_self
  | .literal _, _, _, _ => trivial
  | .paren e, _, hty, h => Expr.readable_of_type? e hty h
  | .select e s, _, hty, h => by
    rw [type?] at hty
    split at hty
    · next he =>
      split at hty
      · next hprimary => exact ⟨hprimary.1, Expr.readable_of_type? e he h⟩
      · cases hty
    · cases hty
  | .infixOp op a b, _, hty, h => by
    rw [type?] at hty
    rw [names, List.forall_mem_append] at h
    split at hty
    · next ha hb =>
      split at hty
      · next hprimary =>
        exact ⟨⟨hprimary.1, Expr.readable_of_type? a ha h.1⟩, hprimary.2,
          Expr.readable_of_type? b hb h.2⟩
      · cases hty
    · cases hty
  | .apply _ args, _, hty, h | .construct _ args, _, hty, h => by
    obtain ⟨tys, htys, -⟩ := Option.bind_eq_some_iff.1 hty
    exact Expr.allReadable_of_types? args htys h

theorem Expr.allReadable_of_types? : ∀ (es : List Expr) {tys : List ExprType},
    Expr.types? Γ es = some tys → (∀ x ∈ Expr.namesAll es, IsIdentifier x) → Expr.AllReadable es
  | [], _, _, _ => trivial
  | e :: es, _, htys, h => by
    obtain ⟨ty, hty, hrest⟩ := Option.bind_eq_some_iff.1 htys
    obtain ⟨tys, hes, -⟩ := Option.map_eq_some_iff.1 hrest
    rw [namesAll, List.forall_mem_append] at h
    exact ⟨Expr.readable_of_type? e hty h.1, Expr.allReadable_of_types? es hes h.2⟩

end

end Typed

/-! ## Words of the language -/

theorem isIdentifier_builtin (f : Builtin) : IsIdentifier f.text := by cases f <;> decide

theorem isIdentifier_spelling (ty : VecType) : IsIdentifier ty.spelling := by cases ty <;> decide

theorem Builtin.text_inj {f f' : Builtin} (h : f.text = f'.text) : f = f' := by
  revert h
  cases f <;> cases f' <;> decide

theorem Builtin.text_ne_spelling (f : Builtin) (ty : VecType) : f.text ≠ ty.spelling := by
  cases f <;> cases ty <;> decide

theorem Swizzle.text_inj {s s' : Swizzle} (h : s.text = s'.text) : s = s' := by
  revert h
  cases s <;> cases s' <;> decide

theorem Infix.text_inj {op op' : Infix} (h : op.text = op'.text) : op = op' := by
  revert h
  cases op <;> cases op' <;> decide

/-! ## What can follow -/

/-- What follows is not read as a part of a word. -/
def EndsWord (rest : List Char) : Prop := ∀ c ∈ rest.head?, isWordChar c = false

/-- What follows is not read as a part of a name, or as the arguments of a function. -/
def EndsName (rest : List Char) : Prop := ∀ c ∈ rest.head?, isWordChar c = false ∧ c ≠ '('

/-- What follows is not read as a part of an operand. -/
def EndsOperand (rest : List Char) : Prop :=
  ∀ c ∈ rest.head?, isWordChar c = false ∧ c ≠ '(' ∧ c ≠ '.'

/-- What follows is not read as a part of an expression. -/
def EndsExpr (rest : List Char) : Prop := ∀ c ∈ rest.head?, c = ')' ∨ c = ',' ∨ c = ';'

theorem EndsOperand.endsName {rest : List Char} (h : EndsOperand rest) : EndsName rest :=
  fun c hc => ⟨(h c hc).1, (h c hc).2.1⟩

theorem EndsExpr.endsOperand {rest : List Char} (h : EndsExpr rest) : EndsOperand rest := by
  intro c hc
  rcases h c hc with rfl | rfl | rfl <;> decide

theorem endsWord_cons {c : Char} (hc : isWordChar c = false) (rest : List Char) :
    EndsWord (c :: rest) :=
  fun _ hd => Option.some.inj hd ▸ hc

theorem endsExpr_bracket (rest : List Char) : EndsExpr (')' :: rest) :=
  fun _ hc => Or.inl (Option.some.inj hc).symm

theorem not_endsExpr_append {xs : List Char} (ys : List Char) (h : ¬EndsExpr xs) :
    ¬EndsExpr (xs ++ ys) := by
  intro happend
  cases xs with
  | nil => exact h (by simp [EndsExpr])
  | cons c cs => exact h happend

theorem not_endsExpr_of_isIdentifier {x : String} (h : IsIdentifier x) : ¬EndsExpr x.toList := by
  intro hends
  obtain ⟨c, cs, hx, hc, -⟩ := h.exists_cons
  rcases hends c (by rw [hx]; rfl) with rfl | rfl | rfl <;> exact absurd hc (by decide)

/-! ## Lists of arguments -/

/-- The arguments behind the first, and the end of the list. -/
def behindArgument : List String → List Char
  | [] => [')']
  | a :: as => ',' :: ' ' :: (a.toList ++ behindArgument as)

theorem endsExpr_behindArgument (as : List String) (rest : List Char) :
    EndsExpr (behindArgument as ++ rest) := by
  cases as <;> simp [behindArgument, EndsExpr]

theorem toList_argumentList_cons (a : String) (as : List String) :
    (argumentList (a :: as)).toList = '(' :: (a.toList ++ behindArgument as) := by
  induction as generalizing a with
  | nil => simp [argumentList, behindArgument]
  | cons b as ih =>
    have hb := ih b
    simp only [argumentList, String.toList_append, String.intercalate_cons_cons] at hb ⊢
    simp_all [behindArgument]

theorem head?_argumentList (args : List String) (rest : List Char) :
    ((argumentList args).toList ++ rest).head? = some '(' := by
  simp [argumentList]

theorem endsWord_argumentList (args : List String) (rest : List Char) :
    EndsWord ((argumentList args).toList ++ rest) := by
  intro c hc
  rw [head?_argumentList] at hc
  exact Option.some.inj hc ▸ (by decide : isWordChar '(' = false)

section Arguments

variable {α : Type} {text : α → String} {as bs : List α} {rest rest' : List Char}

theorem behindArgument_inj
    (hread : ∀ a ∈ as, ∀ b ∈ bs, ∀ rest rest', EndsExpr rest → EndsExpr rest' →
      (text a).toList ++ rest = (text b).toList ++ rest' → a = b ∧ rest = rest')
    (h : behindArgument (as.map text) ++ rest = behindArgument (bs.map text) ++ rest') :
    as = bs ∧ rest = rest' := by
  induction as generalizing bs with
  | nil =>
    cases bs with
    | nil => exact ⟨rfl, by simpa [behindArgument] using h⟩
    | cons b bs => simp [behindArgument] at h
  | cons a as ih =>
    cases bs with
    | nil => simp [behindArgument] at h
    | cons b bs =>
      simp only [List.map_cons, behindArgument, List.cons_append, List.append_assoc,
        List.cons.injEq, true_and] at h
      obtain ⟨rfl, htail⟩ := hread a List.mem_cons_self b List.mem_cons_self _ _
        (endsExpr_behindArgument _ _) (endsExpr_behindArgument _ _) h
      obtain ⟨rfl, hrest⟩ := ih (fun a ha b hb => hread a (List.mem_cons_of_mem _ ha) b
        (List.mem_cons_of_mem _ hb)) htail
      exact ⟨rfl, hrest⟩

/-- **Arguments that can be read one by one can be read in a list.** -/
theorem argumentList_inj
    (hread : ∀ a ∈ as, ∀ b ∈ bs, ∀ rest rest', EndsExpr rest → EndsExpr rest' →
      (text a).toList ++ rest = (text b).toList ++ rest' → a = b ∧ rest = rest')
    (has : ∀ a ∈ as, ¬EndsExpr (text a).toList) (hbs : ∀ b ∈ bs, ¬EndsExpr (text b).toList)
    (h : (argumentList (as.map text)).toList ++ rest = (argumentList (bs.map text)).toList ++ rest') :
    as = bs ∧ rest = rest' := by
  -- no argument begins with the bracket that ends the list
  have hne : ∀ {a : α} {tail tail' : List Char}, ¬EndsExpr (text a).toList →
      '(' :: (text a).toList ++ tail ≠ '(' :: ')' :: tail' := by
    intro a tail tail' ha heq
    cases hchars : (text a).toList with
    | nil => exact ha (by simp [hchars, EndsExpr])
    | cons c cs =>
      rw [hchars] at heq
      obtain rfl : c = ')' := (List.cons.inj (List.cons.inj heq).2).1
      exact ha (by simp [hchars, EndsExpr])
  have hnil : (argumentList []).toList = ['(', ')'] := rfl
  cases as with
  | nil =>
    cases bs with
    | nil => exact ⟨rfl, List.append_cancel_left h⟩
    | cons b bs =>
      rw [List.map_nil, hnil, List.map_cons, toList_argumentList_cons] at h
      exact absurd (by simpa using h.symm) (hne (hbs b List.mem_cons_self))
  | cons a as =>
    cases bs with
    | nil =>
      rw [List.map_nil, hnil, List.map_cons, toList_argumentList_cons] at h
      exact absurd (by simpa using h) (hne (has a List.mem_cons_self))
    | cons b bs =>
      rw [List.map_cons, List.map_cons, toList_argumentList_cons, toList_argumentList_cons] at h
      have htail : behindArgument ((a :: as).map text) ++ rest
          = behindArgument ((b :: bs).map text) ++ rest' := by
        simpa [behindArgument] using h
      exact behindArgument_inj hread htail

end Arguments

/-! ## Expressions without operators and selections -/

namespace Expr

/-- The text as characters. -/
def chars (e : Expr) : List Char := e.text.toList

/-- The expression that components are selected from. -/
def base : Expr → Expr
  | select e _ => e.base
  | e => e

/-- The selections, in the order in which they are written. -/
def selections : Expr → List Swizzle
  | select e s => e.selections ++ [s]
  | _ => []

/-- The expressions that stand in brackets or as arguments. -/
def enclosed : Expr → List Expr
  | name _ | literal _ => []
  | paren e => [e]
  | select e _ => e.enclosed
  | infixOp _ a b => a.enclosed ++ b.enclosed
  | apply _ args | construct _ args => args

/-- Whether neither an operator nor a selection was applied last. -/
def isBase : Expr → Bool
  | select .. | infixOp .. => false
  | _ => true

/-- The word that an expression begins with; none if it begins with a bracket. -/
def firstWord : Expr → String
  | name x => x
  | literal .one => "1"
  | literal _ => "0"
  | apply f _ => f.text
  | construct ty _ => ty.spelling
  | _ => ""

/-- What stands behind the first word. -/
def behindWord : Expr → List Char
  | literal .half => ['.', '5']
  | literal _ => ['.', '0']
  | paren e => '(' :: (e.chars ++ [')'])
  | apply _ args | construct _ args => (argumentList (args.map text)).toList
  | _ => []

theorem chars_eq_firstWord {e : Expr} (h : e.isBase = true) :
    e.chars = e.firstWord.toList ++ e.behindWord := by
  cases e with
  | name x => simp [chars, text, firstWord, behindWord]
  | literal value => cases value <;> rfl
  | paren e => simp [chars, text, firstWord, behindWord]
  | select | infixOp => cases h
  | apply f args => simp [chars, text, firstWord, behindWord, texts_eq_map]
  | construct ty args => simp [chars, text, firstWord, behindWord, texts_eq_map]

/-- A text that begins with this expression begins with no other one. -/
def Unique (e : Expr) : Prop :=
  ∀ e' rest rest', e.Readable → e'.Readable → EndsExpr rest → EndsExpr rest' →
    e.chars ++ rest = e'.chars ++ rest' → e = e' ∧ rest = rest'

/-- What an expression without operators and selections is. -/
inductive Form where
  | name
  | literal
  | group
  | call
deriving DecidableEq

def form : Expr → Form
  | name _ => .name
  | literal _ => .literal
  | paren _ => .group
  | _ => .call

/-- The form of an expression as its first word and the next character tell. -/
def readForm (word : List Char) (next? : Option Char) : Form :=
  if next? = some '(' then if word = [] then .group else .call
  else if word.head?.any Char.isDigit then .literal else .name

variable {e e' : Expr} {rest rest' : List Char}

theorem all_isWordChar_firstWord (h : e.Readable) : e.firstWord.toList.all isWordChar = true := by
  cases e with
  | name x => exact h.chars
  | literal value => cases value <;> decide
  | apply f args => exact (isIdentifier_builtin f).chars
  | construct ty args => exact (isIdentifier_spelling ty).chars
  | paren | select | infixOp => rfl

theorem endsWord_behindWord (hrest : EndsName rest) : EndsWord (e.behindWord ++ rest) := by
  cases e with
  | literal value => cases value <;> exact endsWord_cons (by decide) _
  | paren e => exact endsWord_cons (by decide) _
  | apply f args => exact endsWord_argumentList _ rest
  | construct ty args => exact endsWord_argumentList _ rest
  | name | select | infixOp => exact fun c hc => (hrest c hc).1

/-- **What the expression is can be told from its first word and the character behind it.** -/
theorem form_eq_readForm (h : e.Readable) (hbase : e.isBase = true) (hrest : EndsName rest) :
    e.form = readForm e.firstWord.toList (e.behindWord ++ rest).head? := by
  cases e with
  | name x =>
    have hopen : rest.head? ≠ some '(' := fun hc => (hrest _ hc).2 rfl
    obtain ⟨c, cs, hx, -, hdigit⟩ := h.exists_cons
    simp [form, readForm, firstWord, behindWord, hopen, hx, hdigit]
  | literal value => cases value <;> rfl
  | paren e => rfl
  | apply f args =>
    obtain ⟨c, cs, hword, -⟩ := (isIdentifier_builtin f).exists_cons
    simp only [form, readForm, firstWord, behindWord, head?_argumentList, hword, if_true, reduceCtorEq,
      if_false]
  | construct ty args =>
    obtain ⟨c, cs, hword, -⟩ := (isIdentifier_spelling ty).exists_cons
    simp only [form, readForm, firstWord, behindWord, head?_argumentList, hword, if_true, reduceCtorEq,
      if_false]
  | select | infixOp => cases hbase

theorem chars_select (e : Expr) (s : Swizzle) :
    (select e s).chars = e.chars ++ '.' :: s.text.toList := by
  simp [chars, text]

theorem chars_infixOp (op : Infix) (a b : Expr) :
    (infixOp op a b).chars = a.chars ++ ' ' :: (op.text.toList ++ ' ' :: b.chars) := by
  simp [chars, text]

/-- No expression begins with what can follow one. -/
theorem not_endsExpr_chars : ∀ e : Expr, e.Readable → ¬EndsExpr e.chars
  | name x, h => not_endsExpr_of_isIdentifier h
  | literal value, _ => fun h => by
    cases value <;> exact absurd (h _ rfl) (by decide)
  | paren e, _ => fun h => by
    simp [EndsExpr, chars, text] at h
  | select e s, h => by
    rw [chars_select]
    exact not_endsExpr_append _ (not_endsExpr_chars e h.2)
  | infixOp op a b, h => by
    rw [chars_infixOp]
    exact not_endsExpr_append _ (not_endsExpr_chars a h.1.2)
  | apply f args, _ => by
    rw [chars, text, String.toList_append]
    exact not_endsExpr_append _ (not_endsExpr_of_isIdentifier (isIdentifier_builtin f))
  | construct ty args, _ => by
    rw [chars, text, String.toList_append]
    exact not_endsExpr_append _ (not_endsExpr_of_isIdentifier (isIdentifier_spelling ty))

/-- Arguments are read as the same if each of them is. -/
theorem argumentList_unique {es es' : List Expr} (hes : ∀ a ∈ es, a.Readable)
    (hes' : ∀ a ∈ es', a.Readable) (hunique : ∀ a ∈ es, a.Unique)
    (h : (argumentList (es.map text)).toList ++ rest = (argumentList (es'.map text)).toList ++ rest') :
    es = es' ∧ rest = rest' :=
  argumentList_inj (fun a ha b hb r r' hr hr' => hunique a ha b r r' (hes a ha) (hes' b hb) hr hr')
    (fun a ha => not_endsExpr_chars a (hes a ha)) (fun b hb => not_endsExpr_chars b (hes' b hb)) h

/-- **Two expressions without operators and selections are read as the same.** -/
theorem base_unique (hbase : e.isBase = true) (hbase' : e'.isBase = true) (he : e.Readable)
    (he' : e'.Readable) (hunique : ∀ i ∈ e.enclosed, i.Unique) (hrest : EndsName rest)
    (hrest' : EndsName rest') (h : e.chars ++ rest = e'.chars ++ rest') : e = e' ∧ rest = rest' := by
  rw [chars_eq_firstWord hbase, chars_eq_firstWord hbase', List.append_assoc, List.append_assoc] at h
  obtain ⟨hword, hbehind⟩ := append_run_inj (all_isWordChar_firstWord he)
    (all_isWordChar_firstWord he') (endsWord_behindWord hrest) (endsWord_behindWord hrest') h
  have hform : e.form = e'.form := by
    rw [form_eq_readForm he hbase hrest, form_eq_readForm he' hbase' hrest', hword, hbehind]
  have hwords : e.firstWord = e'.firstWord := String.toList_injective hword
  cases e with
  | select | infixOp => cases hbase
  | name x =>
    cases e' with
    | name y => exact ⟨congrArg name hwords, hbehind⟩
    | _ => cases hform
  | literal value =>
    cases e' with
    | literal value' =>
      cases value <;> cases value' <;> simp [firstWord, behindWord] at hwords hbehind ⊢ <;> exact hbehind
    | _ => cases hform
  | paren e =>
    cases e' with
    | paren e' =>
      simp only [behindWord, List.cons_append, List.append_assoc, List.cons.injEq, true_and] at hbehind
      obtain ⟨rfl, hrest⟩ := hunique e List.mem_cons_self e' _ _ he he' (endsExpr_bracket _)
        (endsExpr_bracket _) hbehind
      exact ⟨rfl, (List.cons.inj hrest).2⟩
    | _ => cases hform
  | apply f args =>
    cases e' with
    | apply f' args' =>
      obtain ⟨rfl, rfl⟩ := argumentList_unique (allReadable_iff.1 he) (allReadable_iff.1 he') hunique
        hbehind
      exact ⟨by rw [Builtin.text_inj hwords], rfl⟩
    | construct ty args' => exact absurd hwords (Builtin.text_ne_spelling f ty)
    | select | infixOp => cases hbase'
    | _ => cases hform
  | construct ty args =>
    cases e' with
    | construct ty' args' =>
      obtain ⟨rfl, rfl⟩ := argumentList_unique (allReadable_iff.1 he) (allReadable_iff.1 he') hunique
        hbehind
      exact ⟨by rw [VecType.spelling_inj hwords], rfl⟩
    | apply f args' => exact absurd hwords.symm (Builtin.text_ne_spelling f ty)
    | select | infixOp => cases hbase'
    | _ => cases hform

/-! ## Operands -/

/-- The selections as they are written. -/
def selectionChars (ss : List Swizzle) : List Char := ss.flatMap fun s => '.' :: s.text.toList

theorem chars_eq_base : ∀ e : Expr, e.chars = e.base.chars ++ selectionChars e.selections
  | select e s => by
    have hlast : selectionChars (e.selections ++ [s])
        = selectionChars e.selections ++ '.' :: s.text.toList := by
      simp [selectionChars]
    rw [chars_select, chars_eq_base e, List.append_assoc, ← hlast]
    rfl
  | name _ | literal _ | paren _ | infixOp .. | apply .. | construct .. => (List.append_nil _).symm

theorem eq_foldl_select : ∀ e : Expr, e = e.selections.foldl select e.base
  | select e s => by
    rw [selections, base, List.foldl_append, ← eq_foldl_select e]
    rfl
  | name _ | literal _ | paren _ | infixOp .. | apply .. | construct .. => rfl

theorem enclosed_base : ∀ e : Expr, e.base.enclosed = e.enclosed
  | select e _ => enclosed_base e
  | name _ | literal _ | paren _ | infixOp .. | apply .. | construct .. => rfl

theorem readable_base : ∀ e : Expr, e.Readable → e.isPrimary = true →
    e.base.isBase = true ∧ e.base.Readable
  | select e _, h, _ => readable_base e h.2 h.1
  | name _, h, _ | literal _, h, _ | paren _, h, _ | apply .., h, _ | construct .., h, _ => ⟨rfl, h⟩

theorem endsName_selectionChars (ss : List Swizzle) (hrest : EndsName rest) :
    EndsName (selectionChars ss ++ rest) := by
  cases ss with
  | nil => exact hrest
  | cons s ss => exact fun c hc => (Option.some.inj hc) ▸ ⟨by decide, by decide⟩

theorem selectionChars_inj {ss ss' : List Swizzle} (hrest : EndsOperand rest)
    (hrest' : EndsOperand rest')
    (h : selectionChars ss ++ rest = selectionChars ss' ++ rest') : ss = ss' ∧ rest = rest' := by
  have hcons : ∀ (s : Swizzle) (ss : List Swizzle) (rest : List Char),
      selectionChars (s :: ss) ++ rest = '.' :: (s.text.toList ++ (selectionChars ss ++ rest)) := by
    simp [selectionChars]
  have hswizzle : ∀ s : Swizzle, s.text.toList.all isWordChar = true := by
    intro s
    cases s <;> decide
  have hpoint : ∀ {rest tail : List Char}, EndsOperand rest → rest ≠ '.' :: tail := by
    rintro rest tail hrest rfl
    exact (hrest _ rfl).2.2 rfl
  induction ss generalizing ss' with
  | nil =>
    cases ss' with
    | nil => exact ⟨rfl, h⟩
    | cons s ss' =>
      rw [hcons] at h
      exact absurd h (hpoint hrest)
  | cons s ss ih =>
    cases ss' with
    | nil =>
      rw [hcons] at h
      exact absurd h.symm (hpoint hrest')
    | cons s' ss' =>
      rw [hcons, hcons] at h
      obtain ⟨hs, htail⟩ := append_run_inj (hswizzle s) (hswizzle s')
        (fun c hc => (endsName_selectionChars ss hrest.endsName c hc).1)
        (fun c hc => (endsName_selectionChars ss' hrest'.endsName c hc).1) (List.cons.inj h).2
      obtain ⟨rfl, hrest⟩ := ih htail
      exact ⟨by rw [Swizzle.text_inj (String.toList_injective hs)], hrest⟩

/-- **Two operands are read as the same.** -/
theorem operand_unique (hprimary : e.isPrimary = true) (hprimary' : e'.isPrimary = true)
    (he : e.Readable) (he' : e'.Readable) (hunique : ∀ i ∈ e.enclosed, i.Unique)
    (hrest : EndsOperand rest) (hrest' : EndsOperand rest')
    (h : e.chars ++ rest = e'.chars ++ rest') : e = e' ∧ rest = rest' := by
  obtain ⟨hbase, hreadable⟩ := readable_base e he hprimary
  obtain ⟨hbase', hreadable'⟩ := readable_base e' he' hprimary'
  rw [e.chars_eq_base, e'.chars_eq_base, List.append_assoc, List.append_assoc] at h
  obtain ⟨heq, hselections⟩ := base_unique hbase hbase' hreadable hreadable'
    (e.enclosed_base ▸ hunique) (endsName_selectionChars _ hrest.endsName)
    (endsName_selectionChars _ hrest'.endsName) h
  obtain ⟨hss, htail⟩ := selectionChars_inj hrest hrest' hselections
  rw [e.eq_foldl_select, e'.eq_foldl_select, heq, hss]
  exact ⟨rfl, htail⟩

/-! ## All expressions -/

theorem exists_infixOp (h : e.isPrimary ≠ true) : ∃ op a b, e = infixOp op a b := by
  cases e with
  | infixOp op a b => exact ⟨op, a, b, rfl⟩
  | _ => exact absurd rfl h

theorem endsOperand_blank (rest : List Char) : EndsOperand (' ' :: rest) :=
  fun c hc => (Option.some.inj hc) ▸ ⟨by decide, by decide, by decide⟩

theorem not_endsExpr_blank (rest : List Char) : ¬EndsExpr (' ' :: rest) :=
  fun h => absurd (h ' ' rfl) (by decide)

theorem unique_of_enclosed (hunique : ∀ i ∈ e.enclosed, i.Unique) : e.Unique := by
  intro e' rest rest' he he' hrest hrest' h
  by_cases hprimary : e.isPrimary = true
  · by_cases hprimary' : e'.isPrimary = true
    · exact operand_unique hprimary hprimary' he he' hunique hrest.endsOperand hrest'.endsOperand h
    -- an operator behind the operand of one of them cannot be what follows the other
    · obtain ⟨op, a, b, rfl⟩ := exists_infixOp hprimary'
      simp only [chars_infixOp, List.append_assoc, List.cons_append] at h
      obtain ⟨-, hblank⟩ := operand_unique hprimary he'.1.1 he he'.1.2 hunique hrest.endsOperand
        (endsOperand_blank _) h
      exact absurd (hblank ▸ hrest) (not_endsExpr_blank _)
  · obtain ⟨op, a, b, rfl⟩ := exists_infixOp hprimary
    have huniquea : ∀ i ∈ a.enclosed, i.Unique := fun i hi => hunique i (List.mem_append_left _ hi)
    have huniqueb : ∀ i ∈ b.enclosed, i.Unique := fun i hi => hunique i (List.mem_append_right _ hi)
    simp only [chars_infixOp, List.append_assoc, List.cons_append] at h
    by_cases hprimary' : e'.isPrimary = true
    · obtain ⟨-, hblank⟩ := operand_unique he.1.1 hprimary' he.1.2 he' huniquea (endsOperand_blank _)
        hrest'.endsOperand h
      exact absurd (hblank ▸ hrest') (not_endsExpr_blank _)
    · obtain ⟨op', a', b', rfl⟩ := exists_infixOp hprimary'
      simp only [chars_infixOp, List.append_assoc, List.cons_append] at h
      obtain ⟨rfl, hop⟩ := operand_unique he.1.1 he'.1.1 he.1.2 he'.1.2 huniquea
        (endsOperand_blank _) (endsOperand_blank _) h
      have hblank : ∀ op : Infix, ' ' ∉ op.text.toList := by
        intro op
        cases op <;> decide
      obtain ⟨hoperator, hb⟩ := append_separator_inj (hblank op) (hblank op') (List.cons.inj hop).2
      obtain ⟨rfl, hrest⟩ := operand_unique he.2.1 he'.2.1 he.2.2 he'.2.2 huniqueb
        hrest.endsOperand hrest'.endsOperand hb
      exact ⟨by rw [Infix.text_inj (String.toList_injective hoperator)], hrest⟩

theorem sizeOf_lt_of_mem_enclosed : ∀ {e i : Expr}, i ∈ e.enclosed → sizeOf i < sizeOf e
  | paren e, i, h => by
    rw [List.mem_singleton.1 h, paren.sizeOf_spec]
    omega
  | select e s, i, h => by
    have := sizeOf_lt_of_mem_enclosed (e := e) h
    rw [select.sizeOf_spec]
    omega
  | infixOp op a b, i, h => by
    rw [infixOp.sizeOf_spec]
    rcases List.mem_append.1 h with h | h
    · have := sizeOf_lt_of_mem_enclosed h
      omega
    · have := sizeOf_lt_of_mem_enclosed h
      omega
  | apply f args, i, h => by
    have := List.sizeOf_lt_of_mem (show i ∈ args from h)
    rw [apply.sizeOf_spec]
    omega
  | construct ty args, i, h => by
    have := List.sizeOf_lt_of_mem (show i ∈ args from h)
    rw [construct.sizeOf_spec]
    omega

/-- **A text begins with one expression at most.** -/
theorem unique (e : Expr) : e.Unique :=
  -- what stands in brackets is smaller
  unique_of_enclosed fun i hi =>
    have := sizeOf_lt_of_mem_enclosed hi
    unique i
termination_by sizeOf e

/-- **Expressions with the same text are the same.** -/
theorem text_inj (he : e.Readable) (he' : e'.Readable) (h : e.text = e'.text) : e = e' := by
  have hend : EndsExpr [] := fun _ hc => nomatch hc
  exact (e.unique e' [] [] he he' hend hend (by rw [chars, chars, h])).1

/-- Without parentheses the product of a sum looks like the sum of a product. -/
example : (infixOp .mul (infixOp .add (name "a") (name "b")) (name "c")).text
    = (infixOp .add (name "a") (infixOp .mul (name "b") (name "c"))).text := by decide

end Expr

end ShadingGraph.Glsl
