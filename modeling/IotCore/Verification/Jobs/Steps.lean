import IotCore.Library.Machine
import IotCore.Model.Jobs

/-! # What one step of the jobs client can do -/

namespace IotCore.Jobs

inductive Step (s : State) : Action → State → Prop where
  /-- the initial attempt, an event with an execution, or a failure -/
  | began {t task pc} (hidle : s.pc t = .idle)
      (hpc : task = .main ∧ pc = .tryStart ∨
        (∃ jobId, task = .nextJobExecutionChanged (some jobId)) ∧ pc = .nextChanged ∨
        task = .failed ∧ pc = .exiting false) :
      Step s (.start t task) (s.goto t pc)
  | ignored {t} (hidle : s.pc t = .idle) : Step s (.start t (.nextJobExecutionChanged none)) s
  /-- a start-next response with an execution -/
  | started {t n jobId u} (hidle : s.pc t = .idle) (hn : n < s.publishes) (hu : s.pc u = .idle) :
      Step s (.start t (.startAccepted n (some jobId) u))
        ({ s with
            answered := insert n s.answered
            inProgress := insert jobId s.inProgress }.goto u (.jobThread jobId))
  /-- a start-next response without an execution -/
  | empty {t n u} (hidle : s.pc t = .idle) (hn : n < s.publishes) :
      Step s (.start t (.startAccepted n none u))
        ({ s with answered := insert n s.answered }.goto t (.doneWorking (n ∉ s.answered)))
  | updated {t jobId} (hidle : s.pc t = .idle) :
      Step s (.start t (.updateAccepted jobId))
        ({ s with inProgress := s.inProgress.erase jobId }.goto t
          (.doneWorking (jobId ∈ s.inProgress)))
  | remembered {t} (hpc : s.pc t = .nextChanged) (hworking : s.data.isWorkingOnJob = true) :
      Step s (.block t) ({ s with data := { s.data with isNextJobWaiting := true } }.goto t .idle)
  | woken {t} (hpc : s.pc t = .nextChanged) (hworking : s.data.isWorkingOnJob = false) :
      Step s (.block t) (s.goto t .tryStart)
  | refused {t} (hpc : s.pc t = .tryStart)
      (h : s.data.isWorkingOnJob = true ∨ s.data.disconnectCalled = true) :
      Step s (.block t) (s.goto t .idle)
  | claimed {t} (hpc : s.pc t = .tryStart) (hworking : s.data.isWorkingOnJob = false)
      (hdisconnect : s.data.disconnectCalled = false) :
      Step s (.block t)
        ({ s with data := { s.data with isWorkingOnJob := true, isNextJobWaiting := false } }.goto t
          .publishing)
  | cleared {t ends} (hpc : s.pc t = .doneWorking ends) :
      Step s (.block t)
        ({ s with data := { s.data with isWorkingOnJob := false } }.goto t
          (if s.data.isNextJobWaiting then .tryStart else .idle))
  | exited {t starting} (hpc : s.pc t = .exiting starting) :
      Step s (.block t) ({ s with data := { s.data with disconnectCalled := true } }.goto t .idle)
  | published {t} (hpc : s.pc t = .publishing) :
      Step s (.publish t true) ({ s with publishes := s.publishes + 1 }.goto t .idle)
  | unpublished {t} (hpc : s.pc t = .publishing) :
      Step s (.publish t false) (s.goto t (.exiting true))
  | reported {t jobId} (hpc : s.pc t = .jobThread jobId) :
      Step s (.publish t true) ({ s with updates := s.updates ++ [jobId] }.goto t .idle)
  | unreported {t jobId} (hpc : s.pc t = .jobThread jobId) :
      Step s (.publish t false) (s.goto t (.exiting false))

theorem step_cases {s s' : State} {a : Action} (h : step s a = some s') : Step s a s' := by
  cases a with
  | start t task =>
      simp only [step, Option.ite_none_right_eq_some] at h
      obtain ⟨hidle, h⟩ := h
      cases task with
      | main =>
          cases h
          exact .began hidle (.inl ⟨rfl, rfl⟩)
      | nextJobExecutionChanged execution =>
          cases execution with
          | none =>
              cases h
              exact .ignored hidle
          | some jobId =>
              cases h
              exact .began hidle (.inr (.inl ⟨⟨jobId, rfl⟩, rfl⟩))
      | startAccepted n execution u =>
          simp only [begin, Option.ite_none_left_eq_some, Nat.not_le] at h
          obtain ⟨hn, h⟩ := h
          cases execution with
          | none =>
              cases h
              exact .empty hidle hn
          | some jobId =>
              simp only [Option.ite_none_left_eq_some, not_or, ne_eq, not_not,
                Option.some.injEq] at h
              obtain ⟨⟨_, hu⟩, rfl⟩ := h
              exact .started hidle hn hu
      | updateAccepted jobId =>
          cases h
          exact .updated hidle
      | failed =>
          cases h
          exact .began hidle (.inr (.inr ⟨rfl, rfl⟩))
  | block t =>
      cases hpc : s.pc t <;> simp only [step, hpc, Option.some.injEq, reduceCtorEq] at h
      case nextChanged =>
          subst h
          cases hworking : s.data.isWorkingOnJob with
          | true => simpa [nextChanged, hworking] using Step.remembered hpc hworking
          | false => simpa [nextChanged, hworking] using Step.woken hpc hworking
      case tryStart =>
          subst h
          cases hworking : s.data.isWorkingOnJob with
          | true => simpa [tryStartNextJob, hworking] using Step.refused hpc (.inl hworking)
          | false =>
              cases hdisconnect : s.data.disconnectCalled with
              | true =>
                  simpa [tryStartNextJob, hworking, hdisconnect] using
                    Step.refused hpc (.inr hdisconnect)
              | false =>
                  simpa [tryStartNextJob, hworking, hdisconnect] using
                    Step.claimed hpc hworking hdisconnect
      case doneWorking =>
          subst h
          exact .cleared hpc
      case exiting =>
          subst h
          exact .exited hpc
  | publish t ok =>
      cases hpc : s.pc t <;> simp only [step, hpc, reduceCtorEq] at h
      case publishing =>
          cases ok <;> cases h
          · exact .unpublished hpc
          · exact .published hpc
      case jobThread =>
          cases ok <;> cases h
          · exact .unreported hpc
          · exact .reported hpc

end IotCore.Jobs
