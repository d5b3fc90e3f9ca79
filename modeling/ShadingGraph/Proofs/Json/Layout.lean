import Mathlib.Data.List.Forall2
import ShadingGraph.Proofs.Json.Numeral
import ShadingGraph.Proofs.Json.Quoted

/-!
# JSON texts

The texts that hold a value write its parts in order, with blanks where the format allows them
(`Json.Layout`, `Json.IsText`). Every one of them is read as the value (`IsText.read?`), among them the
two that are written, `Json.compact` and `Json.pretty`.
-/

namespace ShadingGraph

namespace Json

open Text

/-- Blanks only. -/
def IsBlank (cs : List Char) : Prop := ∀ c ∈ cs, isSpace c = true

mutual

/-- The text holds the value, without blanks around it. -/
inductive Layout : Json → List Char → Prop
  | null : Layout .null (compactChars .null)
  | bool (b : Bool) : Layout (.bool b) (compactChars (.bool b))
  | number (n : Numeral) : Layout (.number n) n.text
  | string (s : String) : Layout (.string s) (quoted s)
  | emptyArray {blank : List Char} (hblank : IsBlank blank) :
    Layout (.array []) ('[' :: (blank ++ [']']))
  | array {items : List Json} {text : List Char} (h : ItemsLayout items text) :
    Layout (.array items) ('[' :: (text ++ [']']))
  | emptyObject {blank : List Char} (hblank : IsBlank blank) :
    Layout (.object []) ('\x7b' :: (blank ++ ['\x7d']))
  | object {fields : List (String × Json)} {text : List Char} (h : FieldsLayout fields text) :
    Layout (.object fields) ('\x7b' :: (text ++ ['\x7d']))

/-- The text holds the items, at least one. -/
inductive ItemsLayout : List Json → List Char → Prop
  | last {j : Json} {before text behind : List Char} (hbefore : IsBlank before) (h : Layout j text)
      (hbehind : IsBlank behind) : ItemsLayout [j] (before ++ (text ++ behind))
  | cons {j : Json} {items : List Json} {before text behind texts : List Char}
      (hbefore : IsBlank before) (h : Layout j text) (hbehind : IsBlank behind)
      (hitems : ItemsLayout items texts) :
    ItemsLayout (j :: items) (before ++ (text ++ (behind ++ ',' :: texts)))

/-- The text holds the fields, at least one. -/
inductive FieldsLayout : List (String × Json) → List Char → Prop
  | last {name : String} {j : Json} {before middle text behind : List Char}
      (hbefore : IsBlank before) (hmiddle : IsBlank middle) (h : Layout j text)
      (hbehind : IsBlank behind) :
    FieldsLayout [(name, j)] (before ++ (quoted name ++ ':' :: (middle ++ (text ++ behind))))
  | cons {name : String} {j : Json} {fields : List (String × Json)}
      {before middle text behind texts : List Char} (hbefore : IsBlank before)
      (hmiddle : IsBlank middle) (h : Layout j text) (hbehind : IsBlank behind)
      (hfields : FieldsLayout fields texts) :
    FieldsLayout ((name, j) :: fields)
      (before ++ (quoted name ++ ':' :: (middle ++ (text ++ (behind ++ ',' :: texts)))))

end

/-! ## Blanks -/

theorem isBlank_nil : IsBlank [] := fun _ h => nomatch h

/-- The first character behind blanks. -/
theorem reads_next? {cs blank rest : List Char} {c : Char} (hblank : IsBlank blank)
    (hc : isSpace c = false) (hcs : cs = blank ++ c :: rest) : Reads (next? cs) c rest := by
  subst hcs
  induction blank with
  | nil => exact ⟨.behind c rest, by simp [next?, hc], rfl⟩
  | cons b blank ih =>
    rw [List.cons_append, next?, if_pos (hblank b List.mem_cons_self)]
    exact (ih fun c hc => hblank c (List.mem_cons_of_mem b hc)).map id (Rest.push b) fun _ => rfl

theorem expect?_eq_some {cs blank rest : List Char} {c : Char} (hblank : IsBlank blank)
    (hc : isSpace c = false) (hcs : cs = blank ++ c :: rest) :
    ∃ r, expect? c cs = some r ∧ r.list = rest := by
  obtain ⟨r, hr, hlist⟩ := reads_next? hblank hc hcs
  exact ⟨r, by simp [expect?, hr], hlist⟩

theorem expect?_eq_none {cs blank rest : List Char} {c d : Char} (hblank : IsBlank blank)
    (hd : isSpace d = false) (hne : d ≠ c) (hcs : cs = blank ++ d :: rest) :
    expect? c cs = none := by
  obtain ⟨r, hr, -⟩ := reads_next? hblank hd hcs
  simp [expect?, hr, hne]

theorem numberEnds_nil : NumberEnds [] :=
  ⟨fun _ h => (nomatch h), fun h => (nomatch h), fun _ h => (nomatch h)⟩

theorem numberEnds_cons {c : Char} (hdigit : c.isDigit = false) (hpoint : c ≠ '.')
    (hexponent : c ≠ 'e' ∧ c ≠ 'E') (rest : List Char) : NumberEnds (c :: rest) where
  digits := by
    rintro _ ⟨⟩
    exact hdigit
  point h := hpoint (Option.some.inj h)
  exponent := by
    rintro _ ⟨⟩
    exact hexponent

/-- A number ends before blanks and before what ends it without them. -/
theorem numberEnds_blank {blank rest : List Char} (hblank : IsBlank blank) (hrest : NumberEnds rest) :
    NumberEnds (blank ++ rest) := by
  cases blank with
  | nil => exact hrest
  | cons c cs =>
    have hc : isSpace c = true := hblank c List.mem_cons_self
    simp only [isSpace, Bool.or_eq_true, decide_eq_true_eq] at hc
    rcases hc with ((rfl | rfl) | rfl) | rfl <;>
      exact numberEnds_cons (by decide) (by decide) (by decide) _

/-! ## Scalars, strings and words -/

variable {cs rest : List Char}

theorem quoted_append (s : String) (rest : List Char) :
    quoted s ++ rest = '"' :: (s.toList.flatMap escape ++ '"' :: rest) := by
  simp [quoted]

theorem reads_word? {word : List Char} {j : Json} {r : Rest cs} (hr : r.list = word ++ rest) :
    Reads (word? word j r) j rest := by
  have hprefix : word.isPrefixOf r.list = true := by
    rw [hr, List.isPrefixOf_iff_prefix]
    exact List.prefix_append _ _
  rw [word?, if_pos hprefix]
  exact ⟨_, rfl, by simp [hr]⟩

theorem reads_fieldName? {before : List Char} {name : String} (hbefore : IsBlank before)
    (hcs : cs = before ++ (quoted name ++ ':' :: rest)) : Reads (fieldName? cs) name rest := by
  rw [quoted_append] at hcs
  obtain ⟨q, hq, hqlist⟩ := expect?_eq_some hbefore (by decide) hcs
  obtain ⟨n, hn, hnlist⟩ := reads_stringRest? hqlist
  obtain ⟨c, hc, rfl⟩ := expect?_eq_some isBlank_nil (by decide) hnlist
  exact ⟨q.trans (n.trans c), by simp [fieldName?, hq, hn, hc], rfl⟩

/-! ## Values -/

/-- The first character of a value shows what the value is, and ends nothing. -/
theorem Layout.exists_eq_cons {j : Json} {text : List Char} (h : Layout j text) :
    ∃ c cs, text = c :: cs ∧ isSpace c = false ∧ c ≠ ']' ∧ c ≠ '\x7d' := by
  cases h with
  | number n =>
    obtain ⟨c, cs, heq, hc⟩ := exists_numeral_text_eq_cons n
    refine ⟨c, cs, heq, ?_⟩
    have hne : ∀ d : Char, ¬(d = '-' ∨ d.isDigit = true) → c ≠ d := by
      rintro d hd rfl
      exact hd hc
    simp only [isSpace, Bool.or_eq_false_iff, decide_eq_false_iff_not]
    exact ⟨⟨⟨⟨hne _ (by decide), hne _ (by decide)⟩, hne _ (by decide)⟩, hne _ (by decide)⟩,
      hne _ (by decide), hne _ (by decide)⟩
  | bool b => cases b <;> exact ⟨_, _, rfl, by decide⟩
  | null | string | emptyArray | array | emptyObject | object => exact ⟨_, _, rfl, by decide⟩

section

variable {r : Rest cs}

theorem reads_string (hr : next? cs = some ('"', r)) {s : String}
    (hrest : r.list = s.toList.flatMap escape ++ '"' :: rest) :
    Reads (value? cs) (.string s) rest := by
  have hread := (reads_stringRest? hrest).map (fun t => string (.ofList t)) r.trans fun _ => rfl
  rw [String.ofList_toList] at hread
  rw [value?, hr]
  exact hread

theorem reads_number {c : Char} (hr : next? cs = some (c, r)) {n : Numeral} {t : List Char}
    (htext : n.text = c :: t) (hlist : r.list = t ++ rest) (hrest : NumberEnds rest) :
    Reads (value? cs) (.number n) rest := by
  have hnumeral : numeral? (c :: r.list) = some (n, rest) := by
    rw [hlist, ← List.cons_append, ← htext]
    exact numeral?_text n hrest
  have hshorter : rest.length < cs.length := by
    have := r.shorter
    rw [hlist, List.length_append] at this
    omega
  have hvalue : value? cs = (numeral? (c :: r.list)).bind (ofNumeral? cs) := by
    have hfirst := exists_numeral_text_eq_cons n
    rw [htext] at hfirst
    obtain ⟨_, _, ⟨⟩, hc⟩ := hfirst
    rw [value?, hr]
    split
    iterate 7 next h => cases h <;> exact absurd hc (by decide)
    next h => cases h; rfl
  rw [hvalue, hnumeral, Option.bind_some, ofNumeral?, dif_pos hshorter]
  exact ⟨_, rfl, rfl⟩

theorem reads_emptyArray (hr : next? cs = some ('[', r)) {e : Rest r.list}
    (he : expect? ']' r.list = some e) : Reads (value? cs) (.array []) e.list := by
  rw [value?, hr]
  simp only [he]
  exact ⟨_, rfl, rfl⟩

theorem reads_array (hr : next? cs = some ('[', r)) (hnone : expect? ']' r.list = none)
    {items : List Json} (hitems : Reads (items? r.list) items rest) :
    Reads (value? cs) (.array items) rest := by
  rw [value?, hr]
  simp only [hnone]
  exact hitems.map Json.array r.trans fun _ => rfl

theorem reads_emptyObject (hr : next? cs = some ('\x7b', r)) {e : Rest r.list}
    (he : expect? '\x7d' r.list = some e) : Reads (value? cs) (.object []) e.list := by
  rw [value?, hr]
  simp only [he]
  exact ⟨_, rfl, rfl⟩

theorem reads_object (hr : next? cs = some ('\x7b', r)) (hnone : expect? '\x7d' r.list = none)
    {fields : List (String × Json)} (hfields : Reads (fields? r.list) fields rest) :
    Reads (value? cs) (.object fields) rest := by
  rw [value?, hr]
  simp only [hnone]
  exact hfields.map Json.object r.trans fun _ => rfl

theorem reads_lastItem {v : Rest cs} {j : Json} (hv : value? cs = some (j, v)) {e : Rest v.list}
    (he : expect? ']' v.list = some e) : Reads (items? cs) [j] e.list := by
  rw [items?, hv]
  simp only [he]
  exact ⟨_, rfl, rfl⟩

theorem reads_item {v : Rest cs} {j : Json} (hv : value? cs = some (j, v))
    (hnone : expect? ']' v.list = none) {c : Rest v.list} (hc : expect? ',' v.list = some c)
    {items : List Json} (hitems : Reads (items? c.list) items rest) :
    Reads (items? cs) (j :: items) rest := by
  rw [items?, hv]
  simp only [hnone, hc]
  exact hitems.map (j :: ·) (v.trans c).trans fun _ => rfl

theorem reads_lastField {n : Rest cs} {name : String} (hn : fieldName? cs = some (name, n))
    {v : Rest n.list} {j : Json} (hv : value? n.list = some (j, v)) {e : Rest v.list}
    (he : expect? '\x7d' v.list = some e) : Reads (fields? cs) [(name, j)] e.list := by
  rw [fields?, hn]
  simp only [hv, he]
  exact ⟨_, rfl, rfl⟩

theorem reads_field {n : Rest cs} {name : String} (hn : fieldName? cs = some (name, n))
    {v : Rest n.list} {j : Json} (hv : value? n.list = some (j, v))
    (hnone : expect? '\x7d' v.list = none) {c : Rest v.list} (hc : expect? ',' v.list = some c)
    {fields : List (String × Json)} (hfields : Reads (fields? c.list) fields rest) :
    Reads (fields? cs) ((name, j) :: fields) rest := by
  rw [fields?, hn]
  simp only [hv, hnone, hc]
  exact hfields.map ((name, j) :: ·) (n.trans (v.trans c)).trans fun _ => rfl

end

/-- Items and fields begin with what ends neither an array nor an object. -/
theorem ItemsLayout.expect?_eq_none {items : List Json} {text : List Char}
    (h : ItemsLayout items text) (hcs : cs = text ++ rest) : expect? ']' cs = none := by
  have hfirst : ∀ {j : Json} {before text tail : List Char}, IsBlank before → Layout j text →
      cs = before ++ (text ++ tail) → expect? ']' cs = none := by
    intro j before text tail hbefore h hcs
    obtain ⟨c, t, rfl, hspace, hne, -⟩ := h.exists_eq_cons
    exact Json.expect?_eq_none hbefore hspace hne hcs
  cases h with
  | last hbefore h hbehind =>
    exact hfirst hbefore h (by rw [hcs, List.append_assoc, List.append_assoc])
  | cons hbefore h hbehind hitems =>
    exact hfirst hbefore h (by rw [hcs, List.append_assoc, List.append_assoc])

theorem FieldsLayout.expect?_eq_none {fields : List (String × Json)} {text : List Char}
    (h : FieldsLayout fields text) (hcs : cs = text ++ rest) : expect? '\x7d' cs = none := by
  cases h with
  | last hbefore hmiddle h hbehind =>
    rw [List.append_assoc, List.append_assoc, quoted_append] at hcs
    exact Json.expect?_eq_none hbefore (by decide) (by decide) hcs
  | cons hbefore hmiddle h hbehind hfields =>
    rw [List.append_assoc, List.append_assoc, quoted_append] at hcs
    exact Json.expect?_eq_none hbefore (by decide) (by decide) hcs

theorem numberEnds_close {blank : List Char} {c : Char} (hblank : IsBlank blank)
    (hc : c = ']' ∨ c = '\x7d' ∨ c = ',') (rest : List Char) : NumberEnds (blank ++ c :: rest) := by
  refine numberEnds_blank hblank ?_
  rcases hc with rfl | rfl | rfl <;> exact numberEnds_cons (by decide) (by decide) (by decide) rest

mutual

/-- A value is read from any of its texts. The recursion is that of the layouts. -/
theorem Layout.reads : ∀ {j : Json} {text blank cs rest : List Char}, Layout j text → IsBlank blank →
    NumberEnds rest → cs = blank ++ (text ++ rest) → Reads (value? cs) j rest
  | _, _, _, _, _, .null, hblank, _, hcs => by
    obtain ⟨r, hr, hlist⟩ := reads_next? hblank (by decide) hcs
    rw [value?, hr]
    exact reads_word? hlist
  | _, _, _, _, _, .bool true, hblank, _, hcs => by
    obtain ⟨r, hr, hlist⟩ := reads_next? hblank (by decide) hcs
    rw [value?, hr]
    exact reads_word? hlist
  | _, _, _, _, _, .bool false, hblank, _, hcs => by
    obtain ⟨r, hr, hlist⟩ := reads_next? hblank (by decide) hcs
    rw [value?, hr]
    exact reads_word? hlist
  | _, _, _, _, _, .number n, hblank, hrest, hcs => by
    obtain ⟨c, t, htext, hspace, -⟩ := (Layout.number n).exists_eq_cons
    rw [htext] at hcs
    obtain ⟨r, hr, hlist⟩ := reads_next? hblank hspace hcs
    exact reads_number hr htext hlist hrest
  | _, _, _, _, _, .string s, hblank, _, hcs => by
    rw [quoted_append] at hcs
    obtain ⟨r, hr, hlist⟩ := reads_next? hblank (by decide) hcs
    exact reads_string hr hlist
  | _, _, _, _, _, .emptyArray hinner, hblank, _, hcs => by
    obtain ⟨r, hr, hlist⟩ := reads_next? hblank (by decide) hcs
    rw [List.append_eq, List.append_assoc] at hlist
    obtain ⟨e, he, rfl⟩ := expect?_eq_some hinner (by decide) hlist
    exact reads_emptyArray hr he
  | _, _, _, _, _, .array hitems, hblank, _, hcs => by
    obtain ⟨r, hr, hlist⟩ := reads_next? hblank (by decide) hcs
    rw [List.append_eq, List.append_assoc] at hlist
    exact reads_array hr (hitems.expect?_eq_none hlist) (hitems.reads hlist)
  | _, _, _, _, _, .emptyObject hinner, hblank, _, hcs => by
    obtain ⟨r, hr, hlist⟩ := reads_next? hblank (by decide) hcs
    rw [List.append_eq, List.append_assoc] at hlist
    obtain ⟨e, he, rfl⟩ := expect?_eq_some hinner (by decide) hlist
    exact reads_emptyObject hr he
  | _, _, _, _, _, .object hfields, hblank, _, hcs => by
    obtain ⟨r, hr, hlist⟩ := reads_next? hblank (by decide) hcs
    rw [List.append_eq, List.append_assoc] at hlist
    exact reads_object hr (hfields.expect?_eq_none hlist) (hfields.reads hlist)

theorem ItemsLayout.reads : ∀ {items : List Json} {text cs rest : List Char},
    ItemsLayout items text → cs = text ++ ']' :: rest → Reads (items? cs) items rest
  | _, _, _, _, .last hbefore h hbehind, hcs => by
    rw [List.append_assoc, List.append_assoc] at hcs
    obtain ⟨v, hv, hlist⟩ := h.reads hbefore (numberEnds_close hbehind (by decide) _) hcs
    obtain ⟨e, he, rfl⟩ := expect?_eq_some hbehind (by decide) hlist
    exact reads_lastItem hv he
  | _, _, _, _, .cons hbefore h hbehind hitems, hcs => by
    rw [List.append_assoc, List.append_assoc, List.append_assoc, List.cons_append] at hcs
    obtain ⟨v, hv, hlist⟩ := h.reads hbefore (numberEnds_close hbehind (by decide) _) hcs
    obtain ⟨c, hc, hclist⟩ := expect?_eq_some hbehind (by decide) hlist
    exact reads_item hv (Json.expect?_eq_none hbehind (by decide) (by decide) hlist) hc
      (hitems.reads hclist)

theorem FieldsLayout.reads : ∀ {fields : List (String × Json)} {text cs rest : List Char},
    FieldsLayout fields text → cs = text ++ '\x7d' :: rest → Reads (fields? cs) fields rest
  | _, _, _, _, .last hbefore hmiddle h hbehind, hcs => by
    rw [List.append_assoc, List.append_assoc, List.cons_append, List.append_assoc,
      List.append_assoc] at hcs
    obtain ⟨n, hn, hnlist⟩ := reads_fieldName? hbefore hcs
    obtain ⟨v, hv, hlist⟩ := h.reads hmiddle (numberEnds_close hbehind (by decide) _) hnlist
    obtain ⟨e, he, rfl⟩ := expect?_eq_some hbehind (by decide) hlist
    exact reads_lastField hn hv he
  | _, _, _, _, .cons hbefore hmiddle h hbehind hfields, hcs => by
    rw [List.append_assoc, List.append_assoc, List.cons_append, List.append_assoc, List.append_assoc,
      List.append_assoc, List.cons_append] at hcs
    obtain ⟨n, hn, hnlist⟩ := reads_fieldName? hbefore hcs
    obtain ⟨v, hv, hlist⟩ := h.reads hmiddle (numberEnds_close hbehind (by decide) _) hnlist
    obtain ⟨c, hc, hclist⟩ := expect?_eq_some hbehind (by decide) hlist
    exact reads_field hn hv (Json.expect?_eq_none hbehind (by decide) (by decide) hlist) hc
      (hfields.reads hclist)

end

/-- The text holds the value, with blanks around it. -/
def IsText (j : Json) (s : String) : Prop :=
  ∃ before text behind, IsBlank before ∧ Layout j text ∧ IsBlank behind ∧
    s.toList = before ++ (text ++ behind)

/-- **A text that holds a value is read as the value.** -/
theorem IsText.read? {j : Json} {s : String} (h : j.IsText s) : Json.read? s = some j := by
  obtain ⟨before, text, behind, hbefore, htext, hbehind, hs⟩ := h
  have hend : NumberEnds behind := by simpa using numberEnds_blank hbehind numberEnds_nil
  obtain ⟨r, hr, hlist⟩ := htext.reads hbefore hend hs
  have hblank : r.list.all isSpace = true := by
    rw [hlist, List.all_eq_true]
    exact hbehind
  rw [Json.read?, hr]
  exact if_pos hblank

theorem Layout.isText {j : Json} {text : List Char} (h : Layout j text) : j.IsText (.ofList text) :=
  ⟨[], text, [], isBlank_nil, h, isBlank_nil, by simp⟩

/-! ## What is written -/

section

variable {before middle behind : List Char}

/-- Texts of items with the same blanks before each of them. -/
theorem itemsLayout_separated (hbefore : IsBlank before) (hbehind : IsBlank behind)
    {items : List Json} {texts : List (List Char)} (h : List.Forall₂ Layout items texts) (hne : items ≠ []) :
    ItemsLayout items (before ++ separated (',' :: before) texts ++ behind) := by
  induction h with
  | nil => exact absurd rfl hne
  | @cons j text items texts hj h ih =>
    cases h with
    | nil =>
      rw [separated, List.append_assoc]
      exact .last hbefore hj hbehind
    | cons hj' h =>
      have hrest := ih (List.cons_ne_nil _ _)
      have hitems := ItemsLayout.cons hbefore hj isBlank_nil hrest
      simpa only [separated, List.append_assoc, List.cons_append, List.nil_append] using hitems

/-- The text of a field with blanks behind the colon. -/
def FieldText (middle : List Char) (f : String × Json) (text : List Char) : Prop :=
  ∃ t, Layout f.2 t ∧ text = quoted f.1 ++ ':' :: (middle ++ t)

theorem fieldsLayout_separated (hbefore : IsBlank before) (hmiddle : IsBlank middle)
    (hbehind : IsBlank behind) {fields : List (String × Json)} {texts : List (List Char)}
    (h : List.Forall₂ (FieldText middle) fields texts) (hne : fields ≠ []) :
    FieldsLayout fields (before ++ separated (',' :: before) texts ++ behind) := by
  induction h with
  | nil => exact absurd rfl hne
  | @cons f text fields texts hf h ih =>
    obtain ⟨name, j⟩ := f
    obtain ⟨t, ht, rfl⟩ := hf
    cases h with
    | nil =>
      have hfield : FieldsLayout [(name, j)] _ := .last hbefore hmiddle ht hbehind
      simpa only [separated, List.append_assoc, List.cons_append, List.nil_append] using hfield
    | cons hf' h =>
      have hrest := ih (List.cons_ne_nil _ _)
      have hfields : FieldsLayout ((name, j) :: _) _ := .cons hbefore hmiddle ht isBlank_nil hrest
      simpa only [separated, List.append_assoc, List.cons_append, List.nil_append] using hfields

end

mutual

theorem layout_compactChars : ∀ j : Json, Layout j (compactChars j)
  | null => .null
  | bool b => .bool b
  | number n => .number n
  | string s => .string s
  | array [] => .emptyArray isBlank_nil
  | array (j :: js) => by
    have h := itemsLayout_separated isBlank_nil isBlank_nil (forall₂_compactItems (j :: js))
      (List.cons_ne_nil _ _)
    rw [List.nil_append, List.append_nil] at h
    exact .array h
  | object [] => .emptyObject isBlank_nil
  | object (f :: fs) => by
    have h := fieldsLayout_separated isBlank_nil isBlank_nil isBlank_nil
      (forall₂_compactFields (f :: fs)) (List.cons_ne_nil _ _)
    rw [List.nil_append, List.append_nil] at h
    exact .object h

theorem forall₂_compactItems : ∀ items : List Json, List.Forall₂ Layout items (compactItems items)
  | [] => .nil
  | j :: js => .cons (layout_compactChars j) (forall₂_compactItems js)

theorem forall₂_compactFields : ∀ fields : List (String × Json),
    List.Forall₂ (FieldText []) fields (compactFields fields)
  | [] => .nil
  | (_, j) :: fs => .cons ⟨_, layout_compactChars j, rfl⟩ (forall₂_compactFields fs)

end

theorem isBlank_newline (depth : Nat) : IsBlank (newline depth) := by
  intro c hc
  rcases List.mem_cons.1 hc with rfl | hc
  · rfl
  · rw [List.eq_of_mem_replicate hc]
    rfl

theorem isBlank_space : IsBlank [' '] := by
  intro c hc
  rw [List.mem_singleton.1 hc]
  rfl

mutual

theorem layout_prettyChars : ∀ (depth : Nat) (j : Json), Layout j (prettyChars depth j)
  | _, null => .null
  | _, bool b => .bool b
  | _, number n => .number n
  | _, string s => .string s
  | _, array [] => .emptyArray isBlank_nil
  | depth, array (j :: js) => by
    have h := itemsLayout_separated (isBlank_newline (depth + 1)) (isBlank_newline depth)
      (forall₂_prettyItems (depth + 1) (j :: js)) (List.cons_ne_nil _ _)
    exact .array h
  | _, object [] => .emptyObject isBlank_nil
  | depth, object (f :: fs) => by
    have h := fieldsLayout_separated (isBlank_newline (depth + 1)) isBlank_space
      (isBlank_newline depth) (forall₂_prettyFields (depth + 1) (f :: fs)) (List.cons_ne_nil _ _)
    exact .object h

theorem forall₂_prettyItems : ∀ (depth : Nat) (items : List Json),
    List.Forall₂ Layout items (prettyItems depth items)
  | _, [] => .nil
  | depth, j :: js => .cons (layout_prettyChars depth j) (forall₂_prettyItems depth js)

theorem forall₂_prettyFields : ∀ (depth : Nat) (fields : List (String × Json)),
    List.Forall₂ (FieldText [' ']) fields (prettyFields depth fields)
  | _, [] => .nil
  | depth, (_, j) :: fs => .cons ⟨_, layout_prettyChars depth j, rfl⟩ (forall₂_prettyFields depth fs)

end

theorem isText_compact (j : Json) : j.IsText j.compact := (layout_compactChars j).isText

theorem isText_pretty (j : Json) : j.IsText j.pretty := (layout_prettyChars 0 j).isText

end Json

end ShadingGraph
