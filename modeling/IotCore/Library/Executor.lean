import Mathlib.Logic.Basic

/-! # Executors

An executor hands the tasks that it was given to its workers, first in, first out. After its
shutdown it takes no more tasks, but begins those that it has. -/

namespace IotCore

structure Executor (α : Type*) where
  queue : List α := []
  /-- the tasks that a worker has begun, in order -/
  begun : List α := []
  isShutdown : Bool := false

namespace Executor

variable {α : Type*}

/-- `none` is the refusal of an executor that is shut down. -/
def submit (e : Executor α) (task : α) : Option (Executor α) :=
  if e.isShutdown then none else some { e with queue := e.queue ++ [task] }

def begin (e : Executor α) : Option (Executor α) :=
  match e.queue with
  | [] => none
  | task :: queue => some { e with queue := queue, begun := e.begun ++ [task] }

def shutdown (e : Executor α) : Executor α := { e with isShutdown := true }

/-- The tasks that were taken, in order. -/
def taken (e : Executor α) : List α := e.begun ++ e.queue

theorem submit_of_shutdown {e : Executor α} (h : e.isShutdown = true) (task : α) :
    e.submit task = none := by simp [submit, h]

theorem submit_of_running {e : Executor α} (h : e.isShutdown = false) (task : α) :
    ∃ e', e.submit task = some e' ∧ e'.taken = e.taken ++ [task] ∧ e'.isShutdown = false :=
  ⟨{ e with queue := e.queue ++ [task] }, by simp [submit, h], by simp [taken], h⟩

theorem taken_begin {e e' : Executor α} (h : e.begin = some e') :
    e'.taken = e.taken ∧ e'.isShutdown = e.isShutdown := by
  rw [begin] at h
  split at h
  · cases h
  · rename_i heq
    cases h
    simp [taken, heq]

@[simp] theorem taken_shutdown (e : Executor α) : e.shutdown.taken = e.taken := rfl

@[simp] theorem isShutdown_shutdown (e : Executor α) : e.shutdown.isShutdown = true := rfl

end Executor

end IotCore
