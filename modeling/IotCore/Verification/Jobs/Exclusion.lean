import IotCore.Library.Baton
import IotCore.Verification.Jobs.Steps

/-! # One job at a time

`is_working_on_job` stands for one piece of work: a start request on its way, the request
that waits for its response, the job, or the end of the job that is about to clear the flag. -/

namespace IotCore.Jobs

open Machine Baton

/-! ## The piece of work -/

inductive Holder where
  | publisher (t : Nat)
  | request (n : Nat)
  | job (jobId : String)
  | ending (t : Nat)
  deriving DecidableEq, Repr

def Holds (s : State) : Holder → Prop
  | .publisher t => s.pc t = .publishing
  | .request n => n < s.publishes ∧ n ∉ s.answered
  | .job jobId => jobId ∈ s.inProgress
  | .ending t => s.pc t = .doneWorking true

/-- The flag is up while there is work, and there is one piece of it at most. -/
def JobInv (s : State) : Prop := Single (Holds s) (s.data.isWorkingOnJob = true)

/-- Where a thread goes to only matters if it takes work with it. -/
theorem holds_goto {s : State} {t : Nat} {pc : Pc} {b : Holder} (h : Holds (s.goto t pc) b) :
    Holds s b ∧ b ≠ .publisher t ∧ b ≠ .ending t ∨
      b = .publisher t ∧ pc = .publishing ∨ b = .ending t ∧ pc = .doneWorking true := by
  cases b with
  | publisher u =>
      by_cases hu : u = t
      · subst hu
        exact .inr (.inl ⟨rfl, by simpa [Holds] using h⟩)
      · exact .inl ⟨by simpa [Holds, hu] using h, by simpa using hu, by simp⟩
  | ending u =>
      by_cases hu : u = t
      · subst hu
        exact .inr (.inr ⟨rfl, by simpa [Holds] using h⟩)
      · exact .inl ⟨by simpa [Holds, hu] using h, by simp, by simpa using hu⟩
  | request n => exact .inl ⟨h, by simp, by simp⟩
  | job jobId => exact .inl ⟨h, by simp, by simp⟩

theorem holds_of_goto {s : State} {t : Nat} {pc : Pc} {b : Holder} (h : Holds (s.goto t pc) b)
    (hpublishing : pc ≠ .publishing) (hending : pc ≠ .doneWorking true) : Holds s b := by
  rcases holds_goto h with ⟨hold, _⟩ | ⟨_, hpc⟩ | ⟨_, hpc⟩
  · exact hold
  · exact absurd hpc hpublishing
  · exact absurd hpc hending

/-- `Holds` does not read the locked data. -/
theorem holds_data {s : State} {d : LockedData} {b : Holder} :
    Holds { s with data := d } b ↔ Holds s b := by
  cases b <;> rfl

/-! ## Steps -/

/-- The step is made for the work that the flag stands for: a response that starts a job is the
first one to its request or is for the job in progress, and the flag is cleared for the work
that has ended or is down already. -/
def owned (s : State) : Action → Bool
  | .start _ (.startAccepted n (some jobId) _) => n ∉ s.answered || jobId ∈ s.inProgress
  | .block t =>
      match s.pc t with
      | .doneWorking ends => ends || !s.data.isWorkingOnJob
      | _ => true
  | _ => true

theorem jobInv_init : JobInv init :=
  single_empty fun b => by cases b <;> simp [Holds, init]

theorem JobInv.goto {s : State} {t : Nat} {pc : Pc} (h : JobInv s) (hpublishing : pc ≠ .publishing)
    (hending : pc ≠ .doneWorking true) : JobInv (s.goto t pc) :=
  h.keep (fun _ hb => holds_of_goto hb hpublishing hending) id

/-- The first response to a request, with an execution or without one. -/
theorem JobInv.answered {s : State} {n : Nat} {b : Holder}
    (h : Holds { s with answered := insert n s.answered } b) : Holds s b ∧ b ≠ .request n := by
  cases b with
  | request k =>
      simp only [Holds, Finset.mem_insert, not_or] at h
      exact ⟨⟨h.1, h.2.2⟩, by simpa using h.2.1⟩
  | publisher | job | ending => exact ⟨h, by simp⟩

theorem JobInv.started {s : State} {n u : Nat} {jobId : String} (h : JobInv s)
    (hn : n < s.publishes) (howned : n ∉ s.answered ∨ jobId ∈ s.inProgress) :
    JobInv ({ s with
      answered := insert n s.answered
      inProgress := insert jobId s.inProgress }.goto u (.jobThread jobId)) := by
  have hsub : ∀ b, Holds ({ s with
      answered := insert n s.answered
      inProgress := insert jobId s.inProgress }.goto u (.jobThread jobId)) b →
      Holds s b ∧ b ≠ .request n ∨ b = .job jobId := by
    intro b hb
    have hb := holds_of_goto hb (by simp) (by simp)
    cases b with
    | job k =>
        rcases Finset.mem_insert.mp hb with rfl | hmem
        · exact .inr rfl
        · exact .inl ⟨hmem, by simp⟩
    | publisher | request | ending => exact .inl (JobInv.answered hb)
  rcases howned with hfirst | hmem
  · exact h.pass (a := .request n) ⟨hn, hfirst⟩ hsub id
  · refine h.keep (fun b hb => ?_) id
    rcases hsub b hb with ⟨hold, _⟩ | rfl
    · exact hold
    · exact hmem

theorem JobInv.empty {s : State} {t n : Nat} (h : JobInv s) (hn : n < s.publishes) :
    JobInv ({ s with answered := insert n s.answered }.goto t (.doneWorking (n ∉ s.answered))) := by
  by_cases hfirst : n ∈ s.answered
  · refine h.keep (fun b hb => ?_) id
    exact (JobInv.answered (holds_of_goto hb (by simp) (by simp [hfirst]))).1
  · refine h.pass (a := .request n) (b := .ending t) ⟨hn, hfirst⟩ (fun b hb => ?_) id
    rcases holds_goto hb with ⟨hb, _⟩ | ⟨_, hpc⟩ | ⟨hb, _⟩
    · exact .inl (JobInv.answered hb)
    · cases hpc
    · exact .inr hb

theorem JobInv.updated {s : State} {t : Nat} {jobId : String} (h : JobInv s) :
    JobInv ({ s with inProgress := s.inProgress.erase jobId }.goto t
      (.doneWorking (jobId ∈ s.inProgress))) := by
  have hsub : ∀ b, Holds { s with inProgress := s.inProgress.erase jobId } b →
      Holds s b ∧ b ≠ .job jobId := by
    intro b hb
    cases b with
    | job k =>
        obtain ⟨hne, hmem⟩ := Finset.mem_erase.mp hb
        exact ⟨hmem, by simpa using hne⟩
    | publisher | request | ending => exact ⟨hb, by simp⟩
  by_cases hmem : jobId ∈ s.inProgress
  · refine h.pass (a := .job jobId) (b := .ending t) hmem (fun b hb => ?_) id
    rcases holds_goto hb with ⟨hb, _⟩ | ⟨_, hpc⟩ | ⟨hb, _⟩
    · exact .inl (hsub b hb)
    · cases hpc
    · exact .inr hb
  · exact h.keep (fun b hb => (hsub b (holds_of_goto hb (by simp) (by simp [hmem]))).1) id

theorem JobInv.cleared {s : State} {t : Nat} {ends : Bool} (h : JobInv s)
    (hpc : s.pc t = .doneWorking ends) (howned : ends = true ∨ s.data.isWorkingOnJob = false) :
    JobInv ({ s with data := { s.data with isWorkingOnJob := false } }.goto t
      (if s.data.isNextJobWaiting then .tryStart else .idle)) := by
  have hsub : ∀ b, Holds ({ s with data := { s.data with isWorkingOnJob := false } }.goto t
      (if s.data.isNextJobWaiting then .tryStart else .idle)) b → Holds s b ∧ b ≠ .ending t := by
    intro b hb
    rcases holds_goto hb with ⟨hb, _, hne⟩ | ⟨_, hgoto⟩ | ⟨_, hgoto⟩
    · exact ⟨holds_data.mp hb, hne⟩
    · split at hgoto <;> cases hgoto
    · split at hgoto <;> cases hgoto
  rcases howned with rfl | hworking
  · exact h.drop (a := .ending t) hpc hsub
  · exact single_empty fun b hb => h.free (by simp [hworking]) b (hsub b hb).1

theorem JobInv.step {s s' : State} {a : Action} (h : JobInv s) (howned : owned s a = true)
    (hstep : Step s a s') : JobInv s' := by
  cases hstep with
  | began hidle hpc =>
      rcases hpc with ⟨_, rfl⟩ | ⟨_, rfl⟩ | ⟨_, rfl⟩ <;> exact h.goto (by simp) (by simp)
  | ignored => exact h
  | started hidle hn hu => exact h.started hn (by simpa [owned] using howned)
  | empty hidle hn => exact h.empty hn
  | updated hidle => exact h.updated
  | remembered hpc hworking =>
      refine h.keep (fun b hb => ?_) id
      exact holds_data.mp (holds_of_goto hb (by simp) (by simp))
  | woken | refused | unpublished | unreported => exact h.goto (by simp) (by simp)
  | @claimed t hpc hworking hdisconnect =>
      refine h.take (a := .publisher t) (by simp [hworking]) (fun b hb => ?_) rfl
      rcases holds_goto hb with ⟨hb, _⟩ | ⟨hb, _⟩ | ⟨_, hgoto⟩
      · exact .inl (holds_data.mp hb)
      · exact .inr hb
      · cases hgoto
  | cleared hpc => exact h.cleared hpc (by simpa [owned, hpc] using howned)
  | exited hpc =>
      refine h.keep (fun b hb => ?_) id
      exact holds_data.mp (holds_of_goto hb (by simp) (by simp))
  | @published t hpc =>
      refine h.pass (a := .publisher t) (b := .request s.publishes) hpc (fun b hb => ?_) id
      rcases holds_goto hb with ⟨hb, hne, _⟩ | ⟨_, hgoto⟩ | ⟨_, hgoto⟩
      · cases b with
        | request n =>
            obtain ⟨hn, hfirst⟩ := hb
            rcases Nat.lt_succ_iff_lt_or_eq.mp hn with hn | rfl
            · exact .inl ⟨⟨hn, hfirst⟩, by simp⟩
            · exact .inr rfl
        | publisher | job | ending => exact .inl ⟨hb, hne⟩
      · cases hgoto
      · cases hgoto
  | reported hpc =>
      refine h.keep (fun b hb => ?_) id
      have hb := holds_of_goto hb (by simp) (by simp)
      cases b <;> exact hb

/-! ## The contract -/

/-- At most one job is in progress, and the flag is up while one is. -/
structure JobSpec (s : State) : Prop where
  single : ∀ j ∈ s.inProgress, ∀ k ∈ s.inProgress, j = k
  working : ∀ j ∈ s.inProgress, s.data.isWorkingOnJob = true

theorem JobInv.jobSpec {s : State} (h : JobInv s) : JobSpec s where
  single := fun j hj k hk => Holder.job.inj (h.unique (.job j) (.job k) hj hk)
  working := fun j hj => h.busy (.job j) hj

/-- One job at a time, in every run whose responses and updates are for the work that the
flag stands for. -/
theorem jobSpec_run {as : List Action} {s : State} (h : run step init as = some s)
    (hall : AllSteps step (fun s a => owned s a) init as) : JobSpec s := by
  have hI : JobInv s :=
    run_invariant_of (fun _ _ _ hI howned hs => hI.step howned (step_cases hs)) h hall jobInv_init
  exact hI.jobSpec

/-- The accepted update of a job that somebody else works on clears the flag. -/
theorem not_jobSpec_run : ¬∀ as s, run step init as = some s → JobSpec s := by
  intro h
  have hspec := h
    [.start 0 .main, .block 0, .publish 0 true, .start 0 (.startAccepted 0 (some "a") 1),
      .start 0 (.updateAccepted "b"), .block 0,
      .start 0 (.nextJobExecutionChanged (some "c")), .block 0, .block 0, .publish 0 true,
      .start 0 (.startAccepted 1 (some "c") 2)] _ rfl
  have hsame := hspec.single "a" (by decide) "c" (by decide)
  revert hsame
  decide

/-- A job that ends while the next one waits, with a late duplicate of its response. -/
theorem jobSpec_run_next :
    let as : List Action :=
      [.start 0 .main, .block 0, .publish 0 true, .start 0 (.startAccepted 0 (some "a") 1),
        .start 0 (.startAccepted 0 (some "a") 2), .publish 1 true,
        .start 0 (.nextJobExecutionChanged (some "b")), .block 0,
        .start 0 (.updateAccepted "a"), .block 0, .block 0, .publish 0 true,
        .start 0 (.startAccepted 1 (some "b") 1)]
    ∃ s, run step init as = some s ∧ JobSpec s := by
  intro as
  obtain ⟨s, hs⟩ : ∃ s, run step init as = some s := ⟨_, rfl⟩
  exact ⟨s, hs, jobSpec_run hs (by decide)⟩

end IotCore.Jobs
