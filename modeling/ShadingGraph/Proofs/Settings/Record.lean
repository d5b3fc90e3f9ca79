import ShadingGraph.Proofs.Settings.Layout
import ShadingGraph.Settings.Reader

/-!
# Records in settings texts

A reader takes words off the front of a row of tokens if it gives their value and leaves the tokens of
the words behind them (`Settings.Consumes`). A record whose fields are read one by one is read with its
fields in any order, some of them left out, and with or without a comma behind the last.

Main statement: `Settings.record?_of_row`.
-/

namespace ShadingGraph.Settings

open Text

/-! ## Reading words -/

/-- From tokens for the words and others, the reader takes the words as `a` and leaves the others. -/
def Consumes {α : Type} (read : (ts : List Token) → Option (α × Rest ts)) (words : List String)
    (a : α) : Prop :=
  ∀ ws ts, Row (words ++ ws) ts → ∃ r, read ts = some (a, r) ∧ Row ws r.list

theorem Row.eq_nil {ts : List Token} (h : Row [] ts) : ts = [] := by
  cases h
  rfl

theorem Row.cases_of_ne {w : String} {ws : List String} {ts : List Token} (h : Row (w :: ws) ts)
    (hw : w ≠ "(") : ∃ ts', ts = tokenOf w :: ts' ∧ Row ws ts' := by
  cases h with
  | word h => exact ⟨_, rfl, h⟩
  | unit => exact absurd rfl hw

theorem mark?_of_row {w : String} {c : Char} {ws : List String} {ts : List Token}
    (h : Row (w :: ws) ts) (hw : w ≠ "(") (hc : tokenOf w = .mark c) :
    ∃ r, mark? c ts = some r ∧ Row ws r.list := by
  obtain ⟨ts, rfl, hrow⟩ := h.cases_of_ne hw
  rw [hc]
  exact ⟨.behind _ ts, by rw [mark?, if_pos rfl], hrow⟩

theorem mark?_eq_none_of_row {w : String} {c : Char} {ws : List String} {ts : List Token}
    (h : Row (w :: ws) ts) (hc : tokenOf w ≠ .mark c) : mark? c ts = none := by
  cases h with
  | word =>
    cases htoken : tokenOf w with
    | mark d =>
      rw [mark?, if_neg]
      rintro rfl
      exact hc htoken
    | unit | word | rawWord | number | quoted => rfl
  | unit => rfl

theorem fieldName?_of_row {name : String} {ws : List String} {ts : List Token} (hname : IsName name)
    (h : Row (name :: ":" :: ws) ts) : ∃ r, fieldName? ts = some (name, r) ∧ Row ws r.list := by
  have hne : name ≠ "(" := by
    rintro rfl
    exact absurd hname (by decide)
  obtain ⟨ts, rfl, hcolon⟩ := h.cases_of_ne hne
  obtain ⟨r, hr, hrow⟩ := mark?_of_row (c := ':') hcolon (by decide) rfl
  rw [tokenOf_name hname]
  exact ⟨r.push _, by simp [fieldName?, Token.name?, hr], hrow⟩

/-- A text that begins with no `#` has no headers. -/
theorem Extensions.read?_of_row {x : Extensions} {w : String} {ws : List String} {ts : List Token}
    (h : Row (w :: ws) ts) (hw : tokenOf w ≠ .mark '#') : Extensions.read? x ts = some (x, ts) := by
  cases h with
  | word h =>
    rw [Extensions.read?]
    intro rest heq
    exact hw (List.cons.inj heq).1
  | unit h =>
    rw [Extensions.read?]
    rintro _ ⟨⟩

theorem consumes_single? {α σ : Type} {w : String} {ofToken? : Token → Option α} {a : α}
    (store : α → σ) (hopen : ofToken? (.mark '(') = none) (ha : ofToken? (tokenOf w) = some a) :
    Consumes (single? none ofToken? store) [w] (store a) := by
  have hw : w ≠ "(" := by
    rintro rfl
    exact absurd (ha.symm.trans hopen) (Option.some_ne_none a)
  intro ws ts h
  obtain ⟨ts, rfl, hrow⟩ := Row.cases_of_ne h hw
  exact ⟨.behind _ ts, by simp [single?, ha], hrow⟩

theorem Consumes.map {α β : Type} {read : (ts : List Token) → Option (α × Rest ts)}
    {words : List String} {a : α} (h : Consumes read words a) (f : α → β) :
    Consumes (fun ts => (read ts).map fun p => (f p.1, p.2)) words (f a) := by
  intro ws ts hrow
  obtain ⟨r, hr, hrest⟩ := h ws ts hrow
  exact ⟨r, by simp [hr], hrest⟩

/-! ## Records -/

/--
The words of fields and of the parenthesis that closes them. Between fields stand commas, and one may
stand behind the last.
-/
def fieldWords (comma : Bool) : List (List String) → List String
  | [] => [")"]
  | f :: fs => f ++ (if fs.isEmpty && !comma then [")"] else "," :: fieldWords comma fs)

/-- The words of a record. -/
def recordWords (comma : Bool) (fields : List (List String)) : List String :=
  "(" :: fieldWords comma fields

/-! ## Rows that stay apart -/

/-- The row stays apart from a mark behind it, and its words from each other. -/
def Joins (row : List String) : Prop :=
  ∀ m ws, IsMark m → Separated (m :: ws) → Separated (row ++ m :: ws)

theorem isMark_open : IsMark "(" := ⟨'(', by decide, rfl⟩

theorem isMark_close : IsMark ")" := ⟨')', by decide, rfl⟩

theorem isMark_colon : IsMark ":" := ⟨':', by decide, rfl⟩

theorem isMark_comma : IsMark "," := ⟨',', by decide, rfl⟩

theorem joins_word {w : String} (hw : IsName w ∨ IsNumber w) : Joins [w] :=
  fun _ _ hm h => .word hw hm h

theorem joins_field {name : String} {row : List String} (hname : IsName name) (hrow : Joins row) :
    Joins (name :: ":" :: row) :=
  fun m ws hm h => .word (.inl hname) isMark_colon (.mark isMark_colon (hrow m ws hm h))

theorem separated_fieldWords (comma : Bool) {fields : List (List String)}
    (hfields : ∀ f ∈ fields, Joins f) {ws : List String} (hws : Separated ws) :
    Separated (fieldWords comma fields ++ ws) := by
  induction fields with
  | nil => exact .mark isMark_close hws
  | cons f fields ih =>
    rw [List.forall_mem_cons] at hfields
    rw [fieldWords, List.append_assoc]
    split
    · exact hfields.1 _ _ isMark_close (.mark isMark_close hws)
    · exact hfields.1 _ _ isMark_comma (.mark isMark_comma (ih hfields.2))

theorem separated_recordWords (comma : Bool) {fields : List (List String)}
    (hfields : ∀ f ∈ fields, Joins f) {ws : List String} (hws : Separated ws) :
    Separated (recordWords comma fields ++ ws) :=
  .mark isMark_open (separated_fieldWords comma hfields hws)

theorem joins_recordWords (comma : Bool) {fields : List (List String)}
    (hfields : ∀ f ∈ fields, Joins f) : Joins (recordWords comma fields) :=
  fun _ _ _ h => separated_recordWords comma hfields h

/-! ## Reading records -/

variable {κ σ : Type} {rule : FieldRule σ} {name : κ → String} {value : κ → List String}
  {state : List κ → σ}

/--
**Fields are read in any order.** A record with the fields `keys` is read in the state after all of them
if each field takes the state after those before it to the state with it.
-/
theorem fields?_of_row (hname : ∀ k, IsName (name k))
    (hrule : ∀ done k, k ∉ done → Consumes (rule (name k) (state done)) (value k) (state (k :: done)))
    (comma : Bool) {keys : List κ} (hnodup : keys.Nodup) :
    ∀ done, (∀ k ∈ keys, k ∉ done) →
      Consumes (fields? rule (state done)) (fieldWords comma (keys.map fun k => name k :: ":" :: value k))
        (state (keys.reverse ++ done)) := by
  -- over the fields to come, where `done` are the fields read before
  induction keys with
  | nil =>
    intro done hnew ws ts h
    obtain ⟨e, he, hrow⟩ := mark?_of_row (c := ')') h (by decide) rfl
    exact ⟨e, by rw [fields?, he]; rfl, hrow⟩
  | cons k keys ih =>
    intro done hnew ws ts h
    rw [List.nodup_cons] at hnodup
    rw [List.forall_mem_cons] at hnew
    rw [List.map_cons, fieldWords, List.append_assoc, List.cons_append, List.cons_append] at h
    have hopen : mark? ')' ts = none :=
      mark?_eq_none_of_row h (by rw [tokenOf_name (hname k)]; exact Token.noConfusion)
    obtain ⟨n, hn, hvalue⟩ := fieldName?_of_row (hname k) h
    obtain ⟨v, hv, htail⟩ := hrule done k hnew.1 _ _ hvalue
    rw [fields?, hopen]
    simp only [hn, hv]
    split at htail
    · next hlast =>
      obtain rfl : keys = [] := by simpa using (Bool.and_eq_true_iff.1 hlast).1
      obtain ⟨e, he, hrow⟩ := mark?_of_row (c := ')') htail (by decide) rfl
      exact ⟨n.trans (v.trans e), by simp only [he]; rfl, hrow⟩
    · have hcomma : mark? ')' v.list = none := mark?_eq_none_of_row htail (by decide)
      obtain ⟨c, hc, hrest⟩ := mark?_of_row (c := ',') htail (by decide) rfl
      have hnew' : ∀ k' ∈ keys, k' ∉ k :: done := by
        intro k' hk'
        rw [List.mem_cons, not_or]
        exact ⟨fun heq => hnodup.1 (heq ▸ hk'), hnew.2 k' hk'⟩
      obtain ⟨r, hr, hrow⟩ := ih hnodup.2 (k :: done) hnew' _ _ hrest
      refine ⟨(n.trans (v.trans c)).trans r, ?_, hrow⟩
      simp only [hcomma, hc, hr, List.reverse_cons, List.append_assoc, List.singleton_append]
      rfl

theorem tokenOf_open : tokenOf "(" = .mark '(' := rfl

/-- A record without its name is what its parentheses enclose. -/
theorem record?_open {σ : Type} (recordName : String) (rule : FieldRule σ) (s : σ) (ts : List Token) :
    record? {} recordName rule s (.mark '(' :: ts)
      = (fields? rule s ts).map fun p => (p.1, p.2.push _) := rfl

/-- **A record is read if its fields are.** -/
theorem record?_of_row (hname : ∀ k, IsName (name k))
    (hrule : ∀ done k, k ∉ done → Consumes (rule (name k) (state done)) (value k) (state (k :: done)))
    (comma : Bool) {keys : List κ} (hnodup : keys.Nodup) (recordName : String) :
    Consumes (record? {} recordName rule (state []))
      (recordWords comma (keys.map fun k => name k :: ":" :: value k)) (state keys.reverse) := by
  have hfields := fields?_of_row hname hrule comma hnodup [] fun _ _ h => by cases h
  rw [List.append_nil] at hfields
  intro ws ts h
  rw [recordWords, List.cons_append] at h
  generalize hinner : fieldWords comma (keys.map fun k => name k :: ":" :: value k) ++ ws = inner at h
  cases h with
  | word hrow =>
    obtain ⟨r, hr, hrest⟩ := hfields ws _ (hinner ▸ hrow)
    refine ⟨r.push _, ?_, hrest⟩
    rw [tokenOf_open, record?_open, hr]
    rfl
  | @unit ws' ts hrow =>
    cases keys with
    | nil =>
      obtain rfl : ws = ws' := (List.cons.inj hinner).2
      exact ⟨.behind _ ts, rfl, hrow⟩
    | cons k keys =>
      -- the parentheses of a record with fields are not next to each other
      have hclose : name k = ")" := by
        rw [List.map_cons, fieldWords, List.append_assoc, List.cons_append] at hinner
        exact (List.cons.inj hinner).1
      exact absurd (hclose ▸ hname k) (by decide)

end ShadingGraph.Settings
