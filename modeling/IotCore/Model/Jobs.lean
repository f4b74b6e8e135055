import Mathlib.Data.Finset.Basic
import Mathlib.Logic.Function.Basic

/-! # `jobs.py`

The threads of the jobs client share `locked_data`. The bodies of its `with locked_data.lock`
blocks are single steps, and everything else a thread does lies between them. -/

namespace IotCore.Jobs

/-- `LockedData`, less its lock. -/
structure LockedData where
  disconnectCalled : Bool := false
  isWorkingOnJob : Bool := false
  isNextJobWaiting : Bool := false
  deriving DecidableEq, Repr

/-- Where a thread is. -/
inductive Pc where
  | idle
  /-- `on_next_job_execution_changed`, at its block -/
  | nextChanged
  /-- `try_start_next_job`, at its block -/
  | tryStart
  /-- `try_start_next_job`, before its publish -/
  | publishing
  /-- `done_working_on_job`, at its block. History: the message that the thread handles is the
  first response to its request, or the accepted update of a job in progress -/
  | doneWorking (ends : Bool)
  /-- `job_thread_fn`, before its publish -/
  | jobThread (jobId : String)
  /-- `exit`, at its block; `starting` tells a call inside `try_start_next_job` -/
  | exiting (starting : Bool)
  deriving DecidableEq, Repr

structure State where
  data : LockedData := {}
  pc : Nat → Pc := fun _ => .idle
  /-- start-next requests that were published -/
  publishes : Nat := 0
  /-- jobs whose update to SUCCEEDED was published -/
  updates : List String := []
  /-- history: the requests whose first response was delivered -/
  answered : Finset Nat := ∅
  /-- history: the jobs between the creation of their `job_thread` and their accepted update -/
  inProgress : Finset String := ∅

def init : State := {}

def State.goto (s : State) (t : Nat) (pc : Pc) : State :=
  { s with pc := Function.update s.pc t pc }

section Fields

variable (s : State) (t : Nat) (pc : Pc)

@[simp] theorem State.goto_data : (s.goto t pc).data = s.data := rfl

@[simp] theorem State.goto_publishes : (s.goto t pc).publishes = s.publishes := rfl

@[simp] theorem State.goto_answered : (s.goto t pc).answered = s.answered := rfl

@[simp] theorem State.goto_inProgress : (s.goto t pc).inProgress = s.inProgress := rfl

@[simp] theorem State.goto_pc : (s.goto t pc).pc = Function.update s.pc t pc := rfl

end Fields

/-! ## The blocks -/

/-- The block of `on_next_job_execution_changed`, and its test of `start_job_now`. -/
def nextChanged (s : State) (t : Nat) : State :=
  if s.data.isWorkingOnJob then
    { s with data := { s.data with isNextJobWaiting := true } }.goto t .idle
  else s.goto t .tryStart

/-- The block of `try_start_next_job`. -/
def tryStartNextJob (s : State) (t : Nat) : State :=
  if s.data.isWorkingOnJob then s.goto t .idle
  else if s.data.disconnectCalled then s.goto t .idle
  else
    { s with data := { s.data with isWorkingOnJob := true, isNextJobWaiting := false } }.goto t
      .publishing

/-- The block of `done_working_on_job`, and its test of `try_again`. -/
def doneWorkingOnJob (s : State) (t : Nat) : State :=
  let tryAgain := s.data.isNextJobWaiting
  { s with data := { s.data with isWorkingOnJob := false } }.goto t
    (if tryAgain then .tryStart else .idle)

def exit (s : State) (t : Nat) : State :=
  { s with data := { s.data with disconnectCalled := true } }.goto t .idle

/-! ## Messages -/

/-- What makes a thread start. -/
inductive Task where
  /-- the initial attempt of the main thread -/
  | main
  | nextJobExecutionChanged (execution : Option String)
  /-- a response to the start-next request `n`; a `job_thread` runs as thread `u` -/
  | startAccepted (n : Nat) (execution : Option String) (u : Nat)
  /-- the subscription is for all jobs of the thing -/
  | updateAccepted (jobId : String)
  /-- a rejected response, or a publish that has failed -/
  | failed
  deriving DecidableEq, Repr

/-- The handler up to its first block. An execution is named by its `job_id`. -/
def begin (s : State) (t : Nat) : Task → Option State
  | .main => some (s.goto t .tryStart)
  | .nextJobExecutionChanged none => some s
  | .nextJobExecutionChanged (some _) => some (s.goto t .nextChanged)
  | .startAccepted n execution u =>
      if s.publishes ≤ n then none
      else
        let s' := { s with answered := insert n s.answered }
        match execution with
        | none => some (s'.goto t (.doneWorking (n ∉ s.answered)))
        | some jobId =>
            if u = t ∨ s.pc u ≠ .idle then none
            else some ({ s' with inProgress := insert jobId s.inProgress }.goto u (.jobThread jobId))
  | .updateAccepted jobId =>
      some ({ s with inProgress := s.inProgress.erase jobId }.goto t
        (.doneWorking (jobId ∈ s.inProgress)))
  | .failed => some (s.goto t (.exiting false))

/-! ## The system -/

inductive Action where
  | start (t : Nat) (task : Task)
  | block (t : Nat)
  /-- the publish of a thread; `ok` tells whether its future has not failed when its
  done-callback is added -/
  | publish (t : Nat) (ok : Bool)
  deriving DecidableEq, Repr

def step (s : State) : Action → Option State
  | .start t task => if s.pc t = .idle then begin s t task else none
  | .block t =>
      match s.pc t with
      | .nextChanged => some (nextChanged s t)
      | .tryStart => some (tryStartNextJob s t)
      | .doneWorking _ => some (doneWorkingOnJob s t)
      | .exiting _ => some (exit s t)
      | _ => none
  | .publish t ok =>
      match s.pc t with
      | .publishing =>
          if ok then some ({ s with publishes := s.publishes + 1 }.goto t .idle)
          else some (s.goto t (.exiting true))
      | .jobThread jobId =>
          if ok then some ({ s with updates := s.updates ++ [jobId] }.goto t .idle)
          else some (s.goto t (.exiting false))
      | _ => none

end IotCore.Jobs
