import IotCore.Library.Machine

/-! # Keeping two copies of a value in step

A device holds a value and reports every change of it. A service holds the value that was
last reported and the one that is desired, and tells the device when they differ. Reports
and deltas travel on FIFO channels. -/

namespace IotCore.Reconciliation

open Machine

variable {ν : Type*}

structure State (ν : Type*) where
  value : ν
  reported : ν
  desired : Option ν
  /-- in flight from the device to the service -/
  reports : List ν
  /-- in flight from the service to the device -/
  deltas : List ν

inductive Action (ν : Type*) where
  /-- the user of the device sets its value -/
  | change (v : ν)
  | desire (v : ν)
  | deliverReport
  | deliverDelta

/-! ## Agreement -/

/-- The newest report carries the value of the device. Unless a report is in flight, a desired
value that has not been reported is the newest delta. -/
structure Inv (s : State ν) : Prop where
  value : s.reports.getLast?.getD s.reported = s.value
  desired : ∀ d, s.desired = some d → s.reports = [] →
    d = s.reported ∨ s.deltas.getLast? = some d

theorem Inv.reported_eq {s : State ν} (h : Inv s) (hreports : s.reports = []) :
    s.reported = s.value := by
  simpa [hreports] using h.value

/-- Once both channels are empty, the copies agree. -/
theorem Inv.settled {s : State ν} (h : Inv s) (hreports : s.reports = [])
    (hdeltas : s.deltas = []) : s.value = s.reported ∧ ∀ d, s.desired = some d → s.value = d := by
  refine ⟨(h.reported_eq hreports).symm, fun d hd => ?_⟩
  rcases h.desired d hd hreports with heq | hlast
  · rw [heq, h.reported_eq hreports]
  · simp [hdeltas] at hlast

/-! ## Steps -/

variable [DecidableEq ν]

def State.change (s : State ν) (v : ν) : State ν :=
  if s.value = v then s else { s with value := v, reports := s.reports ++ [v] }

/-- The delta that the service sends, if the desired value is not the reported one. -/
def delta (reported : ν) (desired : Option ν) : List ν :=
  match desired with
  | none => []
  | some d => if d = reported then [] else [d]

def State.notify (s : State ν) : State ν :=
  { s with deltas := s.deltas ++ delta s.reported s.desired }

def step (s : State ν) : Action ν → Option (State ν)
  | .change v => some (s.change v)
  | .desire v => some ({ s with desired := some v }.notify)
  | .deliverReport =>
      match s.reports with
      | [] => none
      | u :: reports => some ({ s with reports := reports, reported := u }.notify)
  | .deliverDelta =>
      match s.deltas with
      | [] => none
      | d :: deltas => some ({ s with deltas := deltas }.change d)

/-! ## The invariant is kept -/

theorem change_of_eq {s : State ν} {v : ν} (h : s.value = v) : s.change v = s :=
  if_pos h

/-- The device has just reported its value. -/
theorem inv_change {s : State ν} {v : ν} (h : s.value ≠ v) : Inv (s.change v) := by
  rw [State.change, if_neg h]
  exact ⟨by simp, by simp⟩

/-- The service has just sent what it had to. -/
theorem inv_notify {s : State ν} (hvalue : s.reports.getLast?.getD s.reported = s.value) :
    Inv s.notify := by
  refine ⟨hvalue, fun d hd _ => ?_⟩
  have hd : s.desired = some d := hd
  by_cases heq : d = s.reported
  · exact .inl heq
  · exact .inr (by simp [State.notify, delta, hd, heq])

theorem Inv.step {s s' : State ν} {a : Action ν} (h : Inv s) (hs : step s a = some s') :
    Inv s' := by
  cases a with
  | change v =>
      cases hs
      by_cases hv : s.value = v
      · rwa [change_of_eq hv]
      · exact inv_change hv
  | desire v =>
      cases hs
      exact inv_notify h.value
  | deliverReport =>
      cases hreports : s.reports with
      | nil => simp [Reconciliation.step, hreports] at hs
      | cons u reports =>
          have hvalue := h.value
          simp only [Reconciliation.step, hreports, Option.some.injEq] at hs
          rw [← hs]
          refine inv_notify ?_
          simpa [hreports, List.getLast?_cons] using hvalue
  | deliverDelta =>
      cases hdeltas : s.deltas with
      | nil => simp [Reconciliation.step, hdeltas] at hs
      | cons d deltas =>
          simp only [Reconciliation.step, hdeltas, Option.some.injEq] at hs
          rw [← hs]
          by_cases hd : s.value = d
          · rw [change_of_eq (s := { s with deltas := deltas }) hd]
            refine ⟨h.value, fun e he hreports => ?_⟩
            rcases h.desired e he hreports with heq | hlast
            · exact .inl heq
            · rw [hdeltas, List.getLast?_cons] at hlast
              cases hrest : deltas.getLast? with
              | none =>
                  -- the device does not answer the last delta, as it has reported this value
                  have hde : d = e := by simpa [hrest] using hlast
                  exact .inl (by rw [← hde, ← hd]; exact (h.reported_eq hreports).symm)
              | some e' => exact .inr (by simpa [hrest] using hlast)
          · exact inv_change hd

theorem inv_run {s s' : State ν} {as : List (Action ν)} (hrun : run step s as = some s')
    (h : Inv s) : Inv s' :=
  run_invariant (fun _ _ _ hI hs => hI.step hs) hrun h

end IotCore.Reconciliation
