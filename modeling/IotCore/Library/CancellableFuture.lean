import Mathlib.Data.List.TakeWhile

/-! # Futures that their user may cancel

A future is settled once, with a result, with an exception or by a cancellation. -/

namespace IotCore

inductive CancellableFuture (ρ ε : Type*) where
  | pending
  /-- by its user -/
  | cancelled
  | done (outcome : Except ε ρ)
  deriving Repr

namespace CancellableFuture

variable {ρ ε : Type*} {future : CancellableFuture ρ ε}

/-- `set_result` and `set_exception`; `none` is an InvalidStateError. -/
def set (future : CancellableFuture ρ ε) (outcome : Except ε ρ) :
    Option (CancellableFuture ρ ε) :=
  match future with
  | .pending => some (.done outcome)
  | _ => none

def cancel : CancellableFuture ρ ε → CancellableFuture ρ ε
  | .pending => .cancelled
  | future => future

@[simp] theorem set_pending (outcome : Except ε ρ) :
    (pending : CancellableFuture ρ ε).set outcome = some (.done outcome) := rfl

theorem set_of_ne (h : future ≠ .pending) (outcome : Except ε ρ) : future.set outcome = none := by
  cases future with
  | pending => exact absurd rfl h
  | cancelled | done outcome' => rfl

@[simp] theorem cancel_pending : (pending : CancellableFuture ρ ε).cancel = .cancelled := rfl

theorem cancel_of_ne (h : future ≠ .pending) : future.cancel = future := by
  cases future with
  | pending => exact absurd rfl h
  | cancelled | done outcome => rfl

/-! ## Histories

`verdict` says what a history comes to if nobody cancels, and stays what it is. -/

section

variable {α : Type*} (isCancel : α → Bool) (verdict : List α → Option (Except ε ρ))

/-- The history up to the first cancellation. -/
def uncancelled (as : List α) : List α := as.takeWhile fun a => !isCancel a

/-- The future after a history: what came first, the verdict or a cancellation. -/
def settled (as : List α) : CancellableFuture ρ ε :=
  match verdict (uncancelled isCancel as) with
  | some outcome => .done outcome
  | none => if as.any isCancel then .cancelled else .pending

variable {isCancel verdict} {as : List α} {a : α}

theorem uncancelled_of_any (h : as.any isCancel = true) (a : α) :
    uncancelled isCancel (as ++ [a]) = uncancelled isCancel as := by
  induction as with
  | nil => cases h
  | cons b as ih =>
      rw [List.any_cons, Bool.or_eq_true] at h
      cases hb : isCancel b with
      | true => simp [uncancelled, hb]
      | false =>
          have htail := ih (h.resolve_left (by simp [hb]))
          simpa [uncancelled, hb] using htail

theorem uncancelled_of_not_any (h : as.any isCancel = false) : uncancelled isCancel as = as := by
  rw [uncancelled, List.takeWhile_eq_self_iff]
  simpa using h

theorem uncancelled_cancel (ha : isCancel a = true) :
    uncancelled isCancel (as ++ [a]) = uncancelled isCancel as := by
  cases h : as.any isCancel with
  | true => exact uncancelled_of_any h a
  | false =>
      rw [uncancelled_of_not_any h, uncancelled, List.takeWhile_append_of_pos (by simpa using h)]
      simp [ha]

theorem settled_cancel (ha : isCancel a = true) :
    settled isCancel verdict (as ++ [a]) = (settled isCancel verdict as).cancel := by
  rw [settled, settled, uncancelled_cancel ha]
  cases verdict (uncancelled isCancel as) with
  | some outcome => rfl
  | none => cases h : as.any isCancel <;> simp [ha, h, cancel]

theorem settled_same (ha : isCancel a = false) (h : verdict (as ++ [a]) = verdict as) :
    settled isCancel verdict (as ++ [a]) = settled isCancel verdict as := by
  have hany : (as ++ [a]).any isCancel = as.any isCancel := by simp [ha]
  cases hcancel : as.any isCancel with
  | true => rw [settled, settled, uncancelled_of_any hcancel, hany]
  | false =>
      rw [settled, settled, uncancelled_of_not_any hcancel,
        uncancelled_of_not_any (hany.trans hcancel), h, hany]

theorem settled_set {outcome : Except ε ρ} (ha : isCancel a = false) (hnone : verdict as = none)
    (h : verdict (as ++ [a]) = some outcome) :
    settled isCancel verdict (as ++ [a]) =
      ((settled isCancel verdict as).set outcome).getD (settled isCancel verdict as) := by
  have hany : (as ++ [a]).any isCancel = as.any isCancel := by simp [ha]
  cases hcancel : as.any isCancel with
  | true =>
      have hne : settled isCancel verdict as ≠ .pending := by
        rw [settled]
        split <;> simp [hcancel]
      rw [set_of_ne hne, Option.getD_none, settled, settled, uncancelled_of_any hcancel, hany]
  | false =>
      simp [settled, uncancelled_of_not_any hcancel,
        uncancelled_of_not_any (hany.trans hcancel), h, hnone, hcancel]

theorem settled_eq_pending_iff :
    settled isCancel verdict as = .pending ↔ as.any isCancel = false ∧ verdict as = none := by
  cases hcancel : as.any isCancel with
  | true =>
      rw [settled]
      split <;> simp [hcancel]
  | false =>
      rw [settled, uncancelled_of_not_any hcancel]
      split <;> simp_all

theorem settled_eq_cancelled_iff :
    settled isCancel verdict as = .cancelled ↔
      as.any isCancel = true ∧ verdict (uncancelled isCancel as) = none := by
  rw [settled]
  split <;> simp_all

theorem settled_eq_done_iff {outcome : Except ε ρ} :
    settled isCancel verdict as = .done outcome ↔
      verdict (uncancelled isCancel as) = some outcome := by
  rw [settled]
  split
  · simp_all
  · split <;> simp_all

end

end CancellableFuture

end IotCore
