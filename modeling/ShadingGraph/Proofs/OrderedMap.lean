import Mathlib.Data.List.Basic
import ShadingGraph.Distinct
import ShadingGraph.OrderedMap

/-!
# Laws of ordered maps

What each operation on an ordered map does to its lookups, keys and values. `mem_entries` ties the
entries to the lookups, so that later proofs need not look inside a map.

* `get?_insert`, `get?_erase`, `get?_filter`, `get?_modify` — lookups after one operation
* `ext_get?` — a map is its keys and its lookups
* `keys_insert`, `map_values_insert` — the order of what is stored
* `get?_insertAll_of_mem`, `get?_insertAll_of_notMem`, `get?_insertAll_map`, `get?_insertAll_cases` —
  lookups after a row of insertions
-/

namespace ShadingGraph

/-- Where names are distinct, a search by name finds the one with that name. -/
theorem find?_of_nodup {α : Type} {β : Type} [DecidableEq β] {f : α → β} {xs : List α} {x : α}
    (hnd : (xs.map f).Nodup) (hx : x ∈ xs) : xs.find? (fun y => f y = f x) = some x := by
  induction xs with
  | nil => cases hx
  | cons y ys ih =>
    rw [List.map_cons, List.nodup_cons] at hnd
    rcases List.mem_cons.1 hx with rfl | hx
    · simp
    · have hne : f y ≠ f x := fun h => hnd.1 (h ▸ List.mem_map_of_mem hx)
      rw [List.find?_cons]
      simp only [hne, decide_false]
      exact ih hnd.2 hx

namespace OrderedMap

variable {κ α : Type}

theorem values_filter (m : OrderedMap κ α) (p : α → Bool) :
    (m.filter fun _ a => p a).values = m.values.filter p := by
  simp [values, filter, List.filter_map, Function.comp_def]

theorem filter_filter (m : OrderedMap κ α) (p q : κ → α → Bool) :
    (m.filter p).filter q = m.filter fun k a => p k a && q k a := by
  apply ext
  simp only [filter, List.filter_filter]
  exact List.filter_congr fun _ _ => Bool.and_comm _ _

variable [DecidableEq κ]

/-! ## Lookups and entries -/

theorem mem_entries {m : OrderedMap κ α} {k : κ} {a : α} :
    (k, a) ∈ m.entries ↔ m.get? k = some a := by
  obtain ⟨es, hes⟩ := m
  simp only [get?]
  induction es with
  | nil => simp
  | cons e es ih =>
    obtain ⟨k', a'⟩ := e
    simp only [List.map_cons, List.nodup_cons] at hes
    rw [List.find?_cons]
    by_cases hk : k' = k
    · subst hk
      have hnot : (k', a) ∉ es := fun h => hes.1 (List.mem_map.2 ⟨_, h, rfl⟩)
      simp [hnot, eq_comm]
    · have hne : ¬(k, a) = (k', a') := fun h => hk (Prod.mk.inj h).1.symm
      simp only [List.mem_cons, hne, false_or, hk, decide_false]
      exact ih hes.2

theorem mem_values {m : OrderedMap κ α} {a : α} : a ∈ m.values ↔ ∃ k, m.get? k = some a := by
  simp only [values, List.mem_map, ← mem_entries]
  constructor
  · rintro ⟨⟨k, b⟩, hmem, rfl⟩
    exact ⟨k, hmem⟩
  · rintro ⟨k, hmem⟩
    exact ⟨(k, a), hmem, rfl⟩

theorem mem_keys {m : OrderedMap κ α} {k : κ} : k ∈ m.keys ↔ ∃ a, m.get? k = some a := by
  simp only [keys, List.mem_map, ← mem_entries]
  constructor
  · rintro ⟨⟨k', a⟩, hmem, rfl⟩
    exact ⟨a, hmem⟩
  · rintro ⟨a, hmem⟩
    exact ⟨(k, a), hmem, rfl⟩

theorem contains_eq_isSome (m : OrderedMap κ α) (k : κ) : m.contains k = (m.get? k).isSome := by
  rw [Bool.eq_iff_iff, contains_iff, mem_keys, Option.isSome_iff_exists]

/-- Whether a key is there depends on whether anything is found under it. -/
theorem contains_congr {m m' : OrderedMap κ α} {k : κ}
    (h : (m'.get? k).isSome = (m.get? k).isSome) : m'.contains k = m.contains k := by
  rw [contains_eq_isSome, contains_eq_isSome, h]

theorem get?_eq_none {m : OrderedMap κ α} {k : κ} : m.get? k = none ↔ k ∉ m.keys := by
  rw [mem_keys, Option.eq_none_iff_forall_ne_some, not_exists]

theorem entries_eq_filterMap (m : OrderedMap κ α) :
    m.entries = m.keys.filterMap fun k => (m.get? k).map fun a => (k, a) := by
  have hsome : ∀ e ∈ m.entries, ((m.get? e.1).map fun a => (e.1, a)) = some e := by
    intro e he
    rw [mem_entries.1 he, Option.map_some]
  rw [keys, List.filterMap_map]
  conv_lhs => rw [← List.filterMap_some (l := m.entries)]
  exact (List.filterMap_congr hsome).symm

/-- Maps with the same keys in the same order and the same lookups are the same. -/
theorem ext_get? {m n : OrderedMap κ α} (hkeys : m.keys = n.keys) (h : ∀ k, m.get? k = n.get? k) :
    m = n := by
  apply ext
  rw [entries_eq_filterMap m, entries_eq_filterMap n, hkeys]
  simp only [h]

@[simp] theorem get?_empty (k : κ) : (empty : OrderedMap κ α).get? k = none := rfl

/-! ## Insertion -/

theorem mem_replaceEntry {es : List (κ × α)} {k k' : κ} {a b : α} :
    (k', b) ∈ replaceEntry k a es
      ↔ (k' = k ∧ b = a ∧ k ∈ es.map Prod.fst) ∨ (k' ≠ k ∧ (k', b) ∈ es) := by
  induction es with
  | nil => simp [replaceEntry]
  | cons e es ih =>
    obtain ⟨k₀, a₀⟩ := e
    have hcons : replaceEntry k a ((k₀, a₀) :: es)
        = (if k₀ = k then (k, a) else (k₀, a₀)) :: replaceEntry k a es := rfl
    rw [hcons, List.mem_cons, ih]
    by_cases h : k₀ = k
    · subst h
      by_cases hk : k' = k₀ <;> grind
    · rw [if_neg h]
      by_cases hk : k' = k <;> grind

@[simp] theorem get?_insert (m : OrderedMap κ α) (k k' : κ) (a : α) :
    (m.insert k a).get? k' = if k' = k then some a else m.get? k' := by
  apply Option.ext
  intro b
  rw [← mem_entries, insert]
  split
  · next hin =>
    have hmem : k ∈ m.entries.map Prod.fst := (contains_iff m k).1 hin
    rw [mem_replaceEntry]
    split
    · next hk => simp [hk, hmem, eq_comm]
    · next hk => simp [hk, mem_entries]
  · next hnew =>
    have hnone : m.get? k = none := by
      rw [get?_eq_none, ← contains_iff]
      exact hnew
    simp only [List.mem_append, List.mem_singleton, Prod.mk.injEq, mem_entries]
    split
    · next hk => simp [hk, hnone, eq_comm]
    · next hk => simp [hk]

theorem keys_insert (m : OrderedMap κ α) (k : κ) (a : α) :
    (m.insert k a).keys = if k ∈ m.keys then m.keys else m.keys ++ [k] := by
  unfold insert keys
  by_cases hin : m.contains k = true
  · have hmem : k ∈ m.entries.map Prod.fst := (contains_iff m k).1 hin
    rw [dif_pos hin, if_pos hmem, map_fst_replaceEntry]
  · have hmem : k ∉ m.entries.map Prod.fst := fun h => hin ((contains_iff m k).2 h)
    rw [dif_neg hin, if_neg hmem, List.map_append]
    rfl

/-- What is stored under a new key comes last. -/
theorem entries_insert_of_get?_eq_none {m : OrderedMap κ α} {k : κ} (h : m.get? k = none) (a : α) :
    (m.insert k a).entries = m.entries ++ [(k, a)] := by
  have hnew : ¬m.contains k = true := by rw [contains_eq_isSome, h]; exact Bool.false_ne_true
  rw [insert, dif_neg hnew]

theorem keys_insert_of_mem {m : OrderedMap κ α} {k : κ} (h : k ∈ m.keys) (a : α) :
    (m.insert k a).keys = m.keys := by
  rw [keys_insert, if_pos h]

/-- Replacing a value by one that `f` does not tell apart. -/
theorem map_values_insert {β : Type} {f : α → β} {m : OrderedMap κ α} {k : κ} {a b : α}
    (h : m.get? k = some b) (hf : f a = f b) : (m.insert k a).values.map f = m.values.map f := by
  have hin : m.contains k = true := by rw [contains_eq_isSome, h]; rfl
  simp only [insert, hin, dite_true, values, replaceEntry, List.map_map]
  refine List.map_congr_left fun e he => ?_
  by_cases hk : e.1 = k
  · have hb : e.2 = b := by
      rw [← mem_entries, ← hk] at h
      exact Option.some.inj ((mem_entries.1 he).symm.trans (mem_entries.1 h))
    simp [hk, hf, hb]
  · simp [hk]

/-! ## Removal -/

@[simp] theorem get?_filter (m : OrderedMap κ α) (p : κ → α → Bool) (k : κ) :
    (m.filter p).get? k = (m.get? k).filter (p k) := by
  apply Option.ext
  intro a
  rw [← mem_entries, Option.filter_eq_some_iff, ← mem_entries]
  simp [filter, List.mem_filter]

theorem filter_eq_self {m : OrderedMap κ α} {p : κ → α → Bool}
    (h : ∀ k a, m.get? k = some a → p k a = true) : m.filter p = m :=
  ext (List.filter_eq_self.2 fun e he => h e.1 e.2 (mem_entries.1 he))

@[simp] theorem get?_erase (m : OrderedMap κ α) (k k' : κ) :
    (m.erase k).get? k' = if k' = k then none else m.get? k' := by
  rw [erase, get?_filter]
  cases m.get? k' with
  | none => simp
  | some a => by_cases h : k' = k <;> simp [h]

theorem entries_erase (m : OrderedMap κ α) (k : κ) :
    (m.erase k).entries = m.entries.filter fun e => e.1 ≠ k := rfl

theorem entries_foldl_erase (ks : List κ) (m : OrderedMap κ α) :
    (ks.foldl erase m).entries = m.entries.filter fun e => e.1 ∉ ks := by
  induction ks generalizing m with
  | nil => exact (List.filter_eq_self.2 fun _ _ => by simp).symm
  | cons k ks ih =>
    rw [List.foldl_cons, ih, entries_erase, List.filter_filter]
    refine List.filter_congr fun e _ => ?_
    by_cases h : e.1 = k <;> simp [h]

/-- What is stored under a key that a filter drops does not pass it. -/
theorem filter_insert_of_false {p : κ → α → Bool} {k : κ} (m : OrderedMap κ α) (a : α)
    (h : ∀ b, p k b = false) : (m.insert k a).filter p = m.filter p := by
  apply ext
  show ((m.insert k a).entries.filter fun e => p e.1 e.2) = m.entries.filter fun e => p e.1 e.2
  rw [insert]
  split
  · show (replaceEntry k a m.entries).filter _ = _
    induction m.entries with
    | nil => rfl
    | cons e es ih =>
      have hcons : replaceEntry k a (e :: es)
          = (if e.1 = k then (k, a) else e) :: replaceEntry k a es := rfl
      rw [hcons, List.filter_cons, List.filter_cons, ih]
      by_cases he : e.1 = k <;> simp [he, h]
  · simp [h]

/-- Removing entries that a filter would drop anyway. -/
theorem filter_values_of_entries {m m' : OrderedMap κ α} {p : κ × α → Bool} {q : α → Bool}
    (hentries : m'.entries = m.entries.filter p)
    (h : ∀ k a, m.get? k = some a → q a = true → p (k, a) = true) :
    m'.values.filter q = m.values.filter q := by
  rw [values, values, hentries, List.filter_map, List.filter_map, List.filter_filter]
  congr 1
  refine List.filter_congr fun e he => ?_
  have hkeep := h e.1 e.2 (mem_entries.1 he)
  by_cases hq : q e.2 = true
  · simp [hq, hkeep hq]
  · simp [hq]

/-! ## Change and rows of insertions -/

@[simp] theorem get?_modify (m : OrderedMap κ α) (k k' : κ) (f : α → α) :
    (m.modify k f).get? k' = if k' = k then (m.get? k).map f else m.get? k' := by
  unfold modify
  cases h : m.get? k with
  | none =>
    by_cases hk : k' = k
    · simp [hk, h]
    · simp [hk]
  | some a => simp

theorem keys_modify (m : OrderedMap κ α) (k : κ) (f : α → α) : (m.modify k f).keys = m.keys := by
  unfold modify
  cases h : m.get? k with
  | none => rfl
  | some a => exact keys_insert_of_mem (mem_keys.2 ⟨a, h⟩) _

/-- Changing a value and storing one can be done in either order. -/
theorem insert_modify (m : OrderedMap κ α) (k name : κ) (a : α) (f : α → α) :
    (m.modify name f).insert k (if k = name then f a else a) = (m.insert k a).modify name f := by
  refine ext_get? ?_ fun k' => ?_
  · rw [keys_modify, keys_insert, keys_insert, keys_modify]
  · simp only [get?_insert, get?_modify]
    by_cases hk : k = name
    · subst hk
      by_cases hk' : k' = k <;> simp [hk']
    · by_cases hk' : k' = k
      · simp [hk', hk]
      · by_cases hname : k' = name
        · have hne : name ≠ k := fun h => hk h.symm
          simp [hname, hne]
        · simp [hk', hname]

/-- Changing every pair with a key changes what is stored under it. -/
theorem ofList_map_modify (ps : List (κ × α)) (name : κ) (f : α → α) :
    ofList (ps.map fun p => (p.1, if p.1 = name then f p.2 else p.2))
      = (ofList ps).modify name f := by
  have key : ∀ m : OrderedMap κ α,
      (m.modify name f).insertAll (ps.map fun p => (p.1, if p.1 = name then f p.2 else p.2))
        = (m.insertAll ps).modify name f := by
    induction ps with
    | nil => exact fun m => rfl
    | cons p ps ih =>
      intro m
      have hstep : m.insertAll (p :: ps) = (m.insert p.1 p.2).insertAll ps := rfl
      rw [hstep, ← ih, ← insert_modify]
      rfl
  exact key empty

theorem get?_insertAll_of_notMem {ps : List (κ × α)} {k : κ} (m : OrderedMap κ α)
    (h : k ∉ ps.map Prod.fst) : (m.insertAll ps).get? k = m.get? k := by
  induction ps generalizing m with
  | nil => rfl
  | cons p ps ih =>
    simp only [List.map_cons, List.mem_cons, not_or] at h
    have hstep : m.insertAll (p :: ps) = (m.insert p.1 p.2).insertAll ps := rfl
    rw [hstep, ih _ h.2, get?_insert, if_neg h.1]

/-- If a key always comes with the same value, that value is found. -/
theorem get?_insertAll_of_mem {ps : List (κ × α)} {k : κ} {a : α} (m : OrderedMap κ α)
    (hmem : (k, a) ∈ ps) (hfun : ∀ b, (k, b) ∈ ps → b = a) : (m.insertAll ps).get? k = some a := by
  induction ps generalizing m with
  | nil => cases hmem
  | cons p ps ih =>
    have hstep : m.insertAll (p :: ps) = (m.insert p.1 p.2).insertAll ps := rfl
    rw [hstep]
    by_cases hk : k ∈ ps.map Prod.fst
    · obtain ⟨⟨k', b⟩, hb, rfl⟩ := List.mem_map.1 hk
      have hba : b = a := hfun b (List.mem_cons_of_mem _ hb)
      exact ih _ (hba ▸ hb) fun c hc => hfun c (List.mem_cons_of_mem _ hc)
    · have hp : p = (k, a) := by
        rcases List.mem_cons.1 hmem with h | h
        · exact h.symm
        · exact absurd (List.mem_map.2 ⟨_, h, rfl⟩) hk
      rw [get?_insertAll_of_notMem _ hk, get?_insert, hp, if_pos rfl]

/-- A row of insertions of values that are made from their keys. -/
theorem get?_insertAll_map (m : OrderedMap κ α) (f : κ → α) (keys : List κ) (k : κ) :
    (m.insertAll (keys.map fun k => (k, f k))).get? k = if k ∈ keys then some (f k) else m.get? k := by
  split
  · next hk =>
    refine get?_insertAll_of_mem _ (List.mem_map.2 ⟨k, hk, rfl⟩) fun b hb => ?_
    obtain ⟨k', -, heq⟩ := List.mem_map.1 hb
    obtain ⟨rfl, rfl⟩ := Prod.mk.inj heq
    rfl
  · next hk =>
    have hnone : k ∉ (keys.map fun k => (k, f k)).map Prod.fst := by simpa using hk
    exact get?_insertAll_of_notMem _ hnone

/-- What is found after a row of insertions was stored last, or was there before. -/
theorem get?_insertAll_cases {ps : List (κ × α)} {m : OrderedMap κ α} {k : κ} {a : α}
    (h : (m.insertAll ps).get? k = some a) :
    (∃ earlier later, ps = earlier ++ (k, a) :: later ∧ k ∉ later.map Prod.fst) ∨
      (k ∉ ps.map Prod.fst ∧ m.get? k = some a) := by
  induction ps generalizing m with
  | nil => exact Or.inr ⟨List.not_mem_nil, h⟩
  | cons p ps ih =>
    have hstep : m.insertAll (p :: ps) = (m.insert p.1 p.2).insertAll ps := rfl
    rw [hstep] at h
    rcases ih h with ⟨earlier, later, rfl, hlast⟩ | ⟨hnew, hold⟩
    · exact Or.inl ⟨p :: earlier, later, rfl, hlast⟩
    · rw [get?_insert] at hold
      split at hold
      · next hk =>
        obtain rfl := Option.some.inj hold
        exact Or.inl ⟨[], ps, by rw [hk]; rfl, hnew⟩
      · next hk => exact Or.inr ⟨by simp [hk, hnew], hold⟩

/-- New keys come behind the old ones, each where it came first. -/
theorem keys_insertAll (m : OrderedMap κ α) (ps : List (κ × α)) :
    (m.insertAll ps).keys = m.keys ++ distinctFrom m.keys (ps.map Prod.fst) := by
  induction ps generalizing m with
  | nil => simp [insertAll, distinctFrom]
  | cons p ps ih =>
    have hstep : m.insertAll (p :: ps) = (m.insert p.1 p.2).insertAll ps := rfl
    rw [hstep, ih, keys_insert, List.map_cons, distinctFrom]
    split
    · rfl
    · rw [List.append_assoc, List.singleton_append]

theorem keys_insertAll_of_mem {m : OrderedMap κ α} {ps : List (κ × α)}
    (h : ∀ p ∈ ps, p.1 ∈ m.keys) : (m.insertAll ps).keys = m.keys := by
  induction ps generalizing m with
  | nil => rfl
  | cons p ps ih =>
    have hkeys : (m.insert p.1 p.2).keys = m.keys := keys_insert_of_mem (h p List.mem_cons_self) _
    have hstep : m.insertAll (p :: ps) = (m.insert p.1 p.2).insertAll ps := rfl
    rw [hstep, ih, hkeys]
    intro q hq
    rw [hkeys]
    exact h q (List.mem_cons_of_mem _ hq)

theorem filter_insertAll_of_false {p : κ → α → Bool} {ps : List (κ × α)} (m : OrderedMap κ α)
    (h : ∀ q ∈ ps, ∀ b, p q.1 b = false) : (m.insertAll ps).filter p = m.filter p := by
  induction ps generalizing m with
  | nil => rfl
  | cons q ps ih =>
    have hstep : m.insertAll (q :: ps) = (m.insert q.1 q.2).insertAll ps := rfl
    rw [hstep, ih _ fun r hr => h r (List.mem_cons_of_mem _ hr),
      filter_insert_of_false m q.2 (h q List.mem_cons_self)]

/-- Pairs with distinct keys are stored as they come. -/
theorem entries_ofList {ps : List (κ × α)} (h : (ps.map Prod.fst).Nodup) :
    (ofList ps).entries = ps := by
  have key : ∀ (ps : List (κ × α)) (m : OrderedMap κ α),
      (m.entries.map Prod.fst ++ ps.map Prod.fst).Nodup →
      (m.insertAll ps).entries = m.entries ++ ps := by
    intro ps
    induction ps with
    | nil => intro m _; simp [insertAll]
    | cons p ps ih =>
      intro m hm
      have hnew : m.get? p.1 = none := by
        rw [get?_eq_none]
        intro hp
        exact (List.nodup_append.1 hm).2.2 p.1 hp p.1 (by simp) rfl
      have hentries : (m.insert p.1 p.2).entries = m.entries ++ [p] :=
        entries_insert_of_get?_eq_none hnew p.2
      have hstep : m.insertAll (p :: ps) = (m.insert p.1 p.2).insertAll ps := rfl
      rw [hstep, ih, hentries, List.append_assoc, List.singleton_append]
      rw [hentries, List.map_append, List.append_assoc]
      exact hm
  exact key ps empty (by simpa [empty] using h)

theorem keys_ofList {ps : List (κ × α)} (h : (ps.map Prod.fst).Nodup) :
    (ofList ps).keys = ps.map Prod.fst := by
  rw [keys, entries_ofList h]

end OrderedMap

end ShadingGraph
