import Mathlib.Logic.Basic

/-! # Write-once futures

A future is completed with a result or an exception. Completing it again is an error
that leaves it as it was; the calls are counted so that "exactly once" can be stated. -/

namespace IotCore

structure Future (ρ ε : Type*) where
  outcome : Option (Except ε ρ) := none
  /-- calls of `set_result` and `set_exception`, the refused ones included -/
  setCalls : Nat := 0

namespace Future

variable {ρ ε : Type*}

def done (f : Future ρ ε) : Bool := f.outcome.isSome

/-- `set_result` and `set_exception`; a caller that finds the future done gets an
`InvalidStateError`. -/
def set (f : Future ρ ε) (o : Except ε ρ) : Future ρ ε where
  outcome := f.outcome.or (some o)
  setCalls := f.setCalls + 1

/-- The future of `Future()`, not completed yet. -/
def pending : Future ρ ε := {}

/-- The future after its only completion. -/
def completed (o : Except ε ρ) : Future ρ ε := ⟨some o, 1⟩

@[simp] theorem done_pending : (pending : Future ρ ε).done = false := rfl

@[simp] theorem done_completed (o : Except ε ρ) : (completed o).done = true := rfl

@[simp] theorem outcome_pending : (pending : Future ρ ε).outcome = none := rfl

@[simp] theorem outcome_completed (o : Except ε ρ) :
    (completed o).outcome = some o := rfl

@[simp] theorem setCalls_completed (o : Except ε ρ) : (completed o).setCalls = 1 := rfl

@[simp] theorem set_pending (o : Except ε ρ) : pending.set o = completed o := rfl

@[simp] theorem done_set (f : Future ρ ε) (o : Except ε ρ) : (f.set o).done = true := by
  cases h : f.outcome <;> simp [set, done, h]

end Future

end IotCore
