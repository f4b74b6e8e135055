import IotCore.Verification.Jobs.Steps

/-! # No wake-up is lost

Between the arrival of an event and the next start request, either some thread is on its way
to that request or `is_next_job_waiting` remembers the event for the end of the job. -/

namespace IotCore.Jobs

open Machine

/-! ## Threads inside the functions -/

/-- The thread is inside `on_next_job_execution_changed`, `try_start_next_job` or
`done_working_on_job`. -/
def Pc.isInside : Pc → Bool
  | .nextChanged | .tryStart | .publishing | .doneWorking _ | .exiting true => true
  | .idle | .jobThread _ | .exiting false => false

def Quiet (s : State) : Prop := ∀ t, (s.pc t).isInside = false

/-- The thread is going to publish a start request, or to disconnect. -/
def Committed (s : State) (t : Nat) : Prop :=
  s.pc t = .publishing ∨ s.pc t = .exiting true ∨
    s.pc t = .tryStart ∧ s.data.isWorkingOnJob = false

/-- A start request after the first `p` ones has been published or is on its way, or the
client disconnects. -/
def Starting (p : Nat) (s : State) : Prop :=
  p < s.publishes ∨ s.data.disconnectCalled = true ∨ ∃ t, Committed s t

/-- The end of the current job leads to another attempt. -/
def Remembered (s : State) : Prop :=
  s.data.isWorkingOnJob = true ∧ s.data.isNextJobWaiting = true

/-- A thread has not decided yet what to do about its event. -/
def Deciding (s : State) : Prop := ∃ t, s.pc t = .nextChanged

/-! ## Steps -/

theorem Step.publishes_le {s s' : State} {a : Action} (h : Step s a s') :
    s.publishes ≤ s'.publishes := by
  cases h with
  | published => exact Nat.le_succ _
  | _ => exact Nat.le_refl _

theorem Step.disconnect {s s' : State} {a : Action} (h : Step s a s')
    (hd : s.data.disconnectCalled = true) : s'.data.disconnectCalled = true := by
  cases h with
  | exited => rfl
  | _ => exact hd

theorem Committed.frame {s s' : State} {t : Nat} (h : Committed s t) (hpc : s'.pc t = s.pc t)
    (hworking : s'.data.isWorkingOnJob = true → s.data.isWorkingOnJob = true) : Committed s' t := by
  unfold Committed at h ⊢
  rw [hpc]
  refine h.imp_right (Or.imp_right fun ⟨htry, hfree⟩ => ⟨htry, ?_⟩)
  cases hw : s'.data.isWorkingOnJob with
  | false => rfl
  | true => rw [hworking hw] at hfree; cases hfree

/-- A thread that is going to publish gets there, unless another one does first. -/
theorem Committed.step {p : Nat} {s s' : State} {a : Action} {t : Nat} (h : Committed s t)
    (hp : p ≤ s.publishes) (hstep : Step s a s') : Starting p s' := by
  have other : ∀ {u : Nat} {pc : Pc}, s.pc u = pc →
      (pc ≠ .publishing ∧ pc ≠ .exiting true ∧ pc ≠ .tryStart) → t ≠ u := by
    rintro u pc hpc ⟨hpublishing, hexiting, htry⟩ rfl
    rw [Committed, hpc] at h
    simp [hpublishing, hexiting, htry] at h
  cases hstep with
  | ignored hidle => exact .inr (.inr ⟨t, h⟩)
  | began hidle | empty hidle | updated hidle =>
      have hne := other hidle (by simp)
      exact .inr (.inr ⟨t, h.frame (by simp [hne]) id⟩)
  | started hidle hn hu =>
      have hne := other hu (by simp)
      exact .inr (.inr ⟨t, h.frame (by simp [hne]) id⟩)
  | remembered hpc | woken hpc | reported hpc | unreported hpc =>
      have hne := other hpc (by simp)
      exact .inr (.inr ⟨t, h.frame (by simp [hne]) id⟩)
  | cleared hpc =>
      have hne := other hpc (by simp)
      exact .inr (.inr ⟨t, h.frame (by simp [hne]) (by simp)⟩)
  | @refused u hpc hrefused =>
      by_cases hne : t = u
      · subst hne
        rcases hrefused with hworking | hd
        · simp [Committed, hpc, hworking] at h
        · exact .inr (.inl hd)
      · exact .inr (.inr ⟨t, h.frame (by simp [hne]) id⟩)
  | @claimed u hpc hworking hdisconnect => exact .inr (.inr ⟨u, .inl (by simp)⟩)
  | exited hpc => exact .inr (.inl rfl)
  | published hpc => exact .inl (Nat.lt_succ_of_le hp)
  | @unpublished u hpc => exact .inr (.inr ⟨u, .inr (.inl (by simp))⟩)

theorem Starting.step {p : Nat} {s s' : State} {a : Action} (h : Starting p s)
    (hp : p ≤ s.publishes) (hstep : Step s a s') : Starting p s' := by
  rcases h with hlt | hd | ⟨t, ht⟩
  · exact .inl (Nat.lt_of_lt_of_le hlt hstep.publishes_le)
  · exact .inr (.inl (hstep.disconnect hd))
  · exact ht.step hp hstep

/-- Only `done_working_on_job` forgets, and it makes its thread try again. -/
theorem Remembered.step {p : Nat} {s s' : State} {a : Action} (h : Remembered s)
    (hstep : Step s a s') : Starting p s' ∨ Remembered s' := by
  obtain ⟨hworking, hwaiting⟩ := h
  cases hstep with
  | remembered hpc => exact .inr ⟨hworking, rfl⟩
  | claimed hpc hfree =>
      rw [hworking] at hfree
      cases hfree
  | @cleared t ends hpc =>
      exact .inl (.inr (.inr ⟨t, .inr (.inr ⟨by simp [hwaiting], rfl⟩)⟩))
  | _ => exact .inr ⟨hworking, hwaiting⟩

theorem Deciding.step {p : Nat} {s s' : State} {a : Action} (h : Deciding s)
    (hstep : Step s a s') : (Starting p s' ∨ Remembered s') ∨ Deciding s' := by
  obtain ⟨t, ht⟩ := h
  have other : ∀ {u : Nat} {pc : Pc}, s.pc u = pc → pc ≠ .nextChanged → t ≠ u := by
    rintro u pc hpc hne rfl
    exact hne (hpc.symm.trans ht)
  cases hstep with
  | ignored hidle => exact .inr ⟨t, ht⟩
  | began hidle | empty hidle | updated hidle =>
      have hne := other hidle (by simp)
      exact .inr ⟨t, by simpa [hne] using ht⟩
  | started hidle hn hu =>
      have hne := other hu (by simp)
      exact .inr ⟨t, by simpa [hne] using ht⟩
  | @remembered u hpc hworking => exact .inl (.inr ⟨hworking, rfl⟩)
  | @woken u hpc hworking => exact .inl (.inl (.inr (.inr ⟨u, .inr (.inr ⟨by simp, hworking⟩)⟩)))
  | refused hpc | claimed hpc | cleared hpc | exited hpc | published hpc | unpublished hpc
  | reported hpc | unreported hpc =>
      have hne := other hpc (by simp)
      exact .inr ⟨t, by simpa [hne] using ht⟩

/-- The event is remembered or has led to a start. -/
def Woken (p : Nat) (s : State) : Prop := Starting p s ∨ Remembered s

theorem Woken.step {p : Nat} {s s' : State} {a : Action} (h : Woken p s) (hp : p ≤ s.publishes)
    (hstep : Step s a s') : Woken p s' := by
  rcases h with hstarting | hremembered
  · exact .inl (hstarting.step hp hstep)
  · exact hremembered.step hstep

/-- The event is being decided on, remembered, or has led to a start. -/
def Heard (p : Nat) (s : State) : Prop := Woken p s ∨ Deciding s

theorem Heard.step {p : Nat} {s s' : State} {a : Action} (h : Heard p s) (hp : p ≤ s.publishes)
    (hstep : Step s a s') : Heard p s' := by
  rcases h with hwoken | hdeciding
  · exact .inl (hwoken.step hp hstep)
  · exact hdeciding.step hstep

/-! ## Runs -/

/-- What steps keep that start with at least `p` requests, runs keep. -/
theorem requests_run {p : Nat} {I : State → Prop} {s s' : State} {as : List Action}
    (hI : ∀ {s s' : State} {a : Action}, I s → p ≤ s.publishes → Step s a s' → I s')
    (h : run step s as = some s') (hp : p ≤ s.publishes) (hs : I s) : p ≤ s'.publishes ∧ I s' := by
  refine run_invariant (I := fun s => p ≤ s.publishes ∧ I s) ?_ h ⟨hp, hs⟩
  rintro s a s' ⟨hp, hs⟩ hnext
  have hstep := step_cases hnext
  exact ⟨Nat.le_trans hp hstep.publishes_le, hI hs hp hstep⟩

theorem Starting.of_quiet {p : Nat} {s : State} (h : Starting p s) (hquiet : Quiet s)
    (hopen : s.data.disconnectCalled = false) : p < s.publishes := by
  rcases h with hlt | hd | ⟨t, ht⟩
  · exact hlt
  · rw [hopen] at hd
    cases hd
  · have hout := hquiet t
    rcases ht with hpc | hpc | ⟨hpc, _⟩ <;> rw [hpc] at hout <;> cases hout

theorem Deciding.not_quiet {s : State} (h : Deciding s) : ¬Quiet s := by
  obtain ⟨t, ht⟩ := h
  intro hquiet
  have hout := hquiet t
  rw [ht] at hout
  cases hout

/-! ## The contract -/

/-- Whatever happens until a thread ends the current job and after it, another start request
has been published when the threads come to rest. -/
def EndRestarts (s : State) : Prop :=
  ∀ mid t ends rest m s', run step s mid = some m → m.pc t = .doneWorking ends →
    run step m (.block t :: rest) = some s' → Quiet s' → s'.data.disconnectCalled = false →
    s.publishes < s'.publishes

/-- After the block of `done_working_on_job`, the event is not only remembered. -/
theorem Woken.cleared {p : Nat} {s s' : State} {t : Nat} {ends : Bool} (h : Woken p s)
    (hp : p ≤ s.publishes) (hpc : s.pc t = .doneWorking ends) (hstep : Step s (.block t) s') :
    Starting p s' := by
  rcases h with hstarting | hremembered
  · exact hstarting.step hp hstep
  · cases hstep with
    | cleared => exact .inr (.inr ⟨t, .inr (.inr ⟨by simp [hremembered.2], rfl⟩)⟩)
    | remembered hpc' | woken hpc' | refused hpc' | claimed hpc' | exited hpc' =>
        rw [hpc] at hpc'
        cases hpc'

theorem Remembered.endRestarts {s : State} (h : Remembered s) : EndRestarts s := by
  intro mid t ends rest m s' hmid hpc hrest hquiet hopen
  obtain ⟨hp, hwoken⟩ := requests_run Woken.step hmid (Nat.le_refl _) (.inr h)
  obtain ⟨m', hs, hrun⟩ := run_cons_eq_some.mp hrest
  have hstep := step_cases hs
  have hstarting := hwoken.cleared hp hpc hstep
  have hp' := Nat.le_trans hp hstep.publishes_le
  exact (requests_run Starting.step hrun hp' hstarting).2.of_quiet hquiet hopen

/-- No wake-up is lost: once the threads have come to rest after an event, a start request has
been published since, or the event is remembered for the end of the current job. The state in
which the event arrives may be any. -/
theorem wakeUp_run {post : List Action} {s₀ s : State} {t : Nat} {jobId : String}
    (h : run step s₀ (.start t (.nextJobExecutionChanged (some jobId)) :: post) = some s)
    (hquiet : Quiet s) (hopen : s.data.disconnectCalled = false) :
    s₀.publishes < s.publishes ∨
      s.data.isWorkingOnJob = true ∧ s.data.isNextJobWaiting = true ∧ EndRestarts s := by
  obtain ⟨s₁, hs, hrun⟩ := run_cons_eq_some.mp h
  obtain ⟨_, rfl⟩ : s₀.pc t = .idle ∧ s₀.goto t .nextChanged = s₁ := by
    simpa [step, begin] using hs
  have hdeciding : Heard s₀.publishes (s₀.goto t .nextChanged) := .inr ⟨t, by simp⟩
  rcases (requests_run Heard.step hrun (Nat.le_refl _) hdeciding).2 with
    (hstarting | hremembered) | hdeciding
  · exact .inl (hstarting.of_quiet hquiet hopen)
  · exact .inr ⟨hremembered.1, hremembered.2, hremembered.endRestarts⟩
  · exact absurd hquiet hdeciding.not_quiet

/-- An event that arrives while the first start request is published. -/
theorem wakeUp_run_overlapping :
    let as : List Action :=
      [.start 1 (.nextJobExecutionChanged (some "b")), .block 1, .publish 0 true]
    ∃ s₀ s, run step init [.start 0 .main, .block 0] = some s₀ ∧ run step s₀ as = some s ∧
      (s₀.publishes < s.publishes ∨
        s.data.isWorkingOnJob = true ∧ s.data.isNextJobWaiting = true ∧ EndRestarts s) := by
  intro as
  obtain ⟨s₀, s, h₀, hs, hquiet, hopen⟩ :
      ∃ s₀ s, run step init [.start 0 .main, .block 0] = some s₀ ∧ run step s₀ as = some s ∧
        Quiet s ∧ s.data.disconnectCalled = false := by
    refine ⟨_, _, rfl, rfl, fun t => ?_, rfl⟩
    rcases t with _ | _ | t <;> rfl
  exact ⟨s₀, s, h₀, hs, wakeUp_run hs hquiet hopen⟩

end IotCore.Jobs
