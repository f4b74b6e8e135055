import Mathlib.Logic.Basic

/-! # Machines driven by actions

A machine is a partial step function: an action either is not enabled in a state or
leads to exactly one state. All nondeterminism lies in the choice of the actions. -/

namespace IotCore.Machine

variable {σ τ α β : Type*}

/-! ## Runs -/

/-- Takes the actions in order and fails at the first one that is not enabled. -/
def run (step : σ → α → Option σ) : σ → List α → Option σ
  | s, [] => some s
  | s, a :: as =>
      match step s a with
      | none => none
      | some s' => run step s' as

@[simp] theorem run_nil (step : σ → α → Option σ) (s : σ) : run step s [] = some s := rfl

theorem run_cons_eq_some {step : σ → α → Option σ} {s t : σ} {a : α} {as : List α} :
    run step s (a :: as) = some t ↔ ∃ s', step s a = some s' ∧ run step s' as = some t := by
  cases h : step s a <;> simp [run, h]

theorem run_append_eq_some {step : σ → α → Option σ} {s t : σ} {as bs : List α} :
    run step s (as ++ bs) = some t ↔
      ∃ m, run step s as = some m ∧ run step m bs = some t := by
  induction as generalizing s with
  | nil => simp
  | cons a as ih =>
      simp only [List.cons_append, run_cons_eq_some, ih]
      constructor
      · rintro ⟨s', hs, m, hm, ht⟩
        exact ⟨m, ⟨s', hs, hm⟩, ht⟩
      · rintro ⟨m, ⟨s', hs, hm⟩, ht⟩
        exact ⟨s', hs, m, hm, ht⟩

theorem run_singleton_eq_some {step : σ → α → Option σ} {s t : σ} {a : α} :
    run step s [a] = some t ↔ step s a = some t := by
  simp [run_cons_eq_some]

/-! ## Conditions on the steps of a run -/

/-- Every step of the run satisfies `P`, read off the state before it and its action. -/
def AllSteps (step : σ → α → Option σ) (P : σ → α → Prop) : σ → List α → Prop
  | _, [] => True
  | s, a :: as =>
      P s a ∧
        match step s a with
        | none => True
        | some s' => AllSteps step P s' as

theorem allSteps_cons {step : σ → α → Option σ} {P : σ → α → Prop} {s s' : σ} {a : α}
    {as : List α} (h : step s a = some s') :
    AllSteps step P s (a :: as) ↔ P s a ∧ AllSteps step P s' as := by
  simp [AllSteps, h]

/-- Whether all steps of a run satisfy a decidable condition can be computed. -/
def AllSteps.decide (step : σ → α → Option σ) (P : σ → α → Prop) [∀ s a, Decidable (P s a)] :
    ∀ s as, Decidable (AllSteps step P s as)
  | _, [] => .isTrue trivial
  | s, a :: as =>
      match h : step s a with
      | none => decidable_of_iff (P s a) (by simp [AllSteps, h])
      | some s' =>
          have := AllSteps.decide step P s' as
          decidable_of_iff (P s a ∧ AllSteps step P s' as) (allSteps_cons h).symm

instance {step : σ → α → Option σ} {P : σ → α → Prop} [∀ s a, Decidable (P s a)] {s : σ}
    {as : List α} : Decidable (AllSteps step P s as) :=
  AllSteps.decide step P s as

/-- In a run, where all steps are enabled, one condition may imply another. -/
theorem AllSteps.imp {step : σ → α → Option σ} {P Q : σ → α → Prop} {s t : σ} {as : List α}
    (hPQ : ∀ s a s', step s a = some s' → P s a → Q s a) (hrun : run step s as = some t)
    (h : AllSteps step P s as) : AllSteps step Q s as := by
  induction as generalizing s with
  | nil => trivial
  | cons a as ih =>
      obtain ⟨s', ha, hrun⟩ := run_cons_eq_some.mp hrun
      rw [allSteps_cons ha] at h ⊢
      exact ⟨hPQ s a s' ha h.1, ih hrun h.2⟩

/-! ## Invariants -/

/-- An invariant may use a condition that every step of the run is known to meet. -/
theorem run_invariant_of {step : σ → α → Option σ} {P : σ → α → Prop} {I : σ → Prop}
    (hstep : ∀ s a s', I s → P s a → step s a = some s' → I s')
    {s t : σ} {as : List α} (hrun : run step s as = some t)
    (hall : AllSteps step P s as) (hs : I s) : I t := by
  induction as generalizing s with
  | nil =>
      obtain rfl : s = t := by simpa using hrun
      exact hs
  | cons a as ih =>
      obtain ⟨s', ha, hrun⟩ := run_cons_eq_some.mp hrun
      rw [allSteps_cons ha] at hall
      exact ih hrun hall.2 (hstep s a s' hs hall.1 ha)

theorem allSteps_true (step : σ → α → Option σ) (s : σ) (as : List α) :
    AllSteps step (fun _ _ => True) s as := by
  induction as generalizing s with
  | nil => trivial
  | cons a as ih =>
      refine ⟨trivial, ?_⟩
      cases step s a with
      | none => trivial
      | some s' => exact ih s'

theorem run_invariant {step : σ → α → Option σ} {I : σ → Prop}
    (hstep : ∀ s a s', I s → step s a = some s' → I s')
    {s t : σ} {as : List α} (hrun : run step s as = some t) (hs : I s) : I t :=
  run_invariant_of (P := fun _ _ => True) (fun s a s' hI _ h => hstep s a s' hI h) hrun
    (allSteps_true step s as) hs

/-- An invariant may speak of the actions that were taken. -/
theorem run_history {step : σ → α → Option σ} {I : List α → σ → Prop} {s t : σ} {as : List α}
    (hstep : ∀ as m a m', I as m → step m a = some m' → I (as ++ [a]) m')
    (hrun : run step s as = some t) (hs : I [] s) : I as t := by
  have h : ∀ as pre s, run step s as = some t → I pre s → I (pre ++ as) t := by
    intro as
    induction as with
    | nil =>
        intro pre s hrun hs
        obtain rfl : s = t := by simpa using hrun
        simpa using hs
    | cons a as ih =>
        intro pre s hrun hs
        obtain ⟨s', ha, hrun⟩ := run_cons_eq_some.mp hrun
        simpa using ih (pre ++ [a]) s' hrun (hstep pre s a s' hs ha)
  exact h as [] s hrun hs

/-- A property that a run gains is gained in one of its steps. -/
theorem exists_step_of_run {step : σ → α → Option σ} {F : σ → Prop} {s t : σ} {as : List α}
    (hrun : run step s as = some t) (hs : ¬F s) (ht : F t) :
    ∃ pre a post m m', as = pre ++ a :: post ∧ run step s pre = some m ∧
      step m a = some m' ∧ run step m' post = some t ∧ ¬F m ∧ F m' := by
  induction as generalizing s with
  | nil =>
      obtain rfl : s = t := by simpa using hrun
      exact absurd ht hs
  | cons a as ih =>
      obtain ⟨s', ha, hrest⟩ := run_cons_eq_some.mp hrun
      by_cases hF : F s'
      · exact ⟨[], a, as, s, s', rfl, rfl, ha, hrest, hs, hF⟩
      · obtain ⟨pre, b, post, m, m', rfl, hpre, hb, hpost, hm, hm'⟩ := ih hrest hF
        exact ⟨a :: pre, b, post, m, m', rfl, run_cons_eq_some.mpr ⟨s', ha, hpre⟩, hb, hpost,
          hm, hm'⟩

/-! ## Simulation -/

/-- When every step of the first machine is matched by a run of the second one, every run is. -/
theorem run_simulation {step : σ → α → Option σ} {step' : τ → β → Option τ}
    {R : σ → τ → Prop}
    (hstep : ∀ s a s' t, R s t → step s a = some s' →
      ∃ bs t', run step' t bs = some t' ∧ R s' t')
    {s s' : σ} {t : τ} {as : List α} (hrun : run step s as = some s') (hR : R s t) :
    ∃ bs t', run step' t bs = some t' ∧ R s' t' := by
  induction as generalizing s t with
  | nil =>
      obtain rfl : s = s' := by simpa using hrun
      exact ⟨[], t, rfl, hR⟩
  | cons a as ih =>
      obtain ⟨m, ha, hrun⟩ := run_cons_eq_some.mp hrun
      obtain ⟨bs, u, hbs, hRu⟩ := hstep s a m t hR ha
      obtain ⟨cs, v, hcs, hRv⟩ := ih hrun hRu
      exact ⟨bs ++ cs, v, run_append_eq_some.mpr ⟨u, hbs, hcs⟩, hRv⟩

end IotCore.Machine
