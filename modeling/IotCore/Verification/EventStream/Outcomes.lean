import IotCore.Verification.EventStream.Futures

/-! # What the futures and the close reason tell

A future that is done stays as it is, a connect future tells whether the attempt was accepted,
and a connection that nobody closes is only closed for a reason. -/

namespace IotCore.EventStream.Connection

open Machine

/-! ## Futures that are done -/

/-- Futures that are done stay as they are. -/
def Keeps (s s' : State) : Prop :=
  ∀ f o, (s.future f).outcome = some o → (s'.future f).outcome = some o

theorem keeps_of_eq {s s' : State} (h : s'.future = s.future) : Keeps s s' :=
  fun f _ ho => (congrArg Future.outcome (congrFun h f)).trans ho

theorem keeps_setFuture {s s' : State} {f : FutureId} {o : Except Exn Unit}
    (h : s'.future = (s.setFuture f o).future) : Keeps s s' := by
  intro g x hx
  rw [h, State.setFuture_future]
  by_cases hg : g = f
  · subst hg
    simp [Future.set, hx]
  · rwa [Function.update_of_ne hg]

theorem close_future (s : State) (reason : Option Exn) :
    (close s reason).1.future = s.future := by
  rw [close]
  split
  · rfl
  · rfl
  · simp only
    split <;> rfl

theorem keeps_resume {s s' : State} {n : Nat} (hs : resume s n = some s') : Keeps s s' := by
  rw [resume] at hs
  split at hs
  · cases hs
    exact keeps_setFuture rfl
  · cases hs
    exact keeps_of_eq rfl
  · cases hs
    exact keeps_of_eq rfl
  · split at hs <;> cases hs <;> exact keeps_setFuture rfl
  · cases hs
    exact keeps_of_eq (close_future s _)
  · cases hs
    exact keeps_setFuture rfl
  · cases hs
    exact keeps_of_eq rfl
  · cases hs

theorem keeps_step {amender : Bool} {s s' : State} {a : Action}
    (hs : step amender s a = some s') : Keeps s s' := by
  cases a with
  | connect native =>
      cases hs
      refine keeps_of_eq ?_
      simp only [connect]
      split
      · rfl
      · cases native <;> rfl
  | close reason =>
      cases hs
      exact keeps_of_eq (close_future s reason)
  | sendProtocolMessage data messageType native =>
      cases hs
      refine keeps_of_eq ?_
      simp only [sendProtocolMessage]
      split
      · rfl
      · split <;> rfl
  | newStream native =>
      cases hs
      refine keeps_of_eq ?_
      simp only [newStream]
      split
      · rfl
      · split <;> rfl
  | connectionSetup n error =>
      simp only [step] at hs
      split at hs
      · cases hs
      · cases error with
        | none =>
            cases hs
            exact keeps_of_eq rfl
        | some e =>
            cases hs
            have hfuture : (setupFailed s n e).future =
                (s.setFuture s.synced.closedFuture (.error e)).future := by
              simp only [setupFailed]
              split <;> rfl
            exact keeps_setFuture hfuture
  | amended n amendment =>
      simp only [step, Option.ite_none_right_eq_some] at hs
      obtain ⟨_, hs⟩ := hs
      cases hs
      exact keeps_of_eq rfl
  | sendConnect n native =>
      simp only [step] at hs
      split at hs <;> cases hs
      refine keeps_of_eq ?_
      simp only [sendConnect]
      split
      · rfl
      · split <;> rfl
  | protocolMessage n m =>
      simp only [step, Option.ite_none_right_eq_some] at hs
      obtain ⟨_, hs⟩ := hs
      cases hs
      refine keeps_of_eq ?_
      rw [protocolMessage]
      split
      · simp only [connectAck]
        split
        · rfl
        · split
          · split <;> rfl
          · split <;> rfl
      · rfl
      · rfl
      · rfl
      · rfl
  | connectionShutdown n reason =>
      simp only [step, Option.ite_none_right_eq_some] at hs
      obtain ⟨_, hs⟩ := hs
      cases hs
      have hfuture : (connectionShutdown s n reason).future =
          (s.setFuture s.synced.closedFuture (outcomeOf (reason.or s.synced.closeReason))).future := by
        simp only [connectionShutdown]
        split <;> rfl
      exact keeps_setFuture hfuture
  | returned n value =>
      simp only [step, returned] at hs
      split at hs
      · cases hs
        exact keeps_of_eq rfl
      · cases hs
        exact keeps_of_eq rfl
      · split at hs <;> cases hs <;> exact keeps_of_eq rfl
      · cases hs
        exact keeps_of_eq rfl
      · cases hs
  | raised n e =>
      simp only [step, raised] at hs
      split at hs <;> cases hs <;> exact keeps_of_eq rfl
  | resume n => exact keeps_resume hs

/-- What the connect future of an attempt tells. -/
theorem Inv.accepted_iff_outcome {s : State} (h : Inv s) {n : Nat} (hn : n ≠ 0)
    {o : Except Exn Unit} (ho : (s.future (.connect n)).outcome = some o) :
    (s.attempt n).accepted = true ↔ o = .ok () := by
  rcases h.attempts n with ⟨g, asked, hat, hg⟩ | hp
  · have hf : s.future (.connect n) = g.connectFuture := hg.connectFuture
    have hacc : (s.attempt n).accepted = g.accepted := hg.accepted
    rw [hf, Stage.connectFuture] at ho
    rcases hat.stages with rfl | rfl | rfl | ⟨told, rfl⟩
    · cases ho
    · cases ho
    · cases ho
    · cases told with
      | false => cases ho
      | true =>
          cases ho
          simp [hacc, Stage.established]
  · cases hpc : (s.attempt n).pc <;> simp only [Past, State.view, hpc] at hp
    case unused =>
        rw [(hp.2.2 hn).1] at ho
        cases ho
    case failing =>
        have hf : s.future (.connect n) = .pending := hp.2.2.connectFuture
        rw [hf] at ho
        cases ho
    case finishing =>
        obtain ⟨native, recorded, _, _, hover⟩ := hp
        have hf : s.future (.connect n) = if (s.attempt n).accepted then .completed (.ok ())
            else .pending := hover.connectFuture
        rw [hf] at ho
        split at ho <;> cases ho
        simp_all
    case inOnDisconnect =>
        obtain ⟨hacc, native, recorded, hover⟩ := hp
        have hf : s.future (.connect n) = .completed (.ok ()) := hover.connectFuture
        rw [hf] at ho
        cases ho
        simp [hacc]
    case ended =>
        rw [(h.ended hpc).1] at ho
        cases ho
        rw [connectOutcome_eq_ok]

/-! ## Connections that nobody closes -/

/-- A connection that is being closed is closed for a reason. -/
def Reasoned (s : Synced) : Prop := s.state = .disconnecting → s.closeReason ≠ none

theorem Stage.reasoned {g : Stage} {n : Nat} (hbase : g.base ≠ .disconnecting) :
    Reasoned (g.synced n none) := by
  intro hstate
  exact absurd hstate hbase

theorem reasoned_some (g : Stage) (n : Nat) (e : Exn) : Reasoned (g.synced n (some (some e))) := by
  simp [Reasoned, Stage.synced]

theorem Serving.reasoned {n : Nat} {v : View} {g : Stage} {reason : Option Exn}
    (hg : Serving n v g (some reason)) (h : Reasoned v.synced) (g' : Stage) :
    Reasoned (g'.synced n (some reason)) := by
  rw [hg.synced] at h
  exact h

theorem Move.reasoned {n : Nat} {v v' : View} {a : Action} (hmove : Move n v a v')
    (ha : ∀ reason, a ≠ .close reason) (h : Reasoned v.synced) : Reasoned v'.synced := by
  cases hmove with
  | goto hgoto => exact h
  | setupFailed _ _ _ _ | shutdown _ _ _ _ _ _ => simp [Reasoned, Synced.free]
  | sendClosed _ _ _ _ hg => exact hg.reasoned h _
  | sendRaised _ _ _ _ | sent _ _ _ | acked _ _ _ _ _ => exact Stage.reasoned (by decide)
  | setupExcept _ _ _ _ _ | rejected _ _ _ _ _ | closedSelf _ _ _ _ _ =>
      exact reasoned_some _ _ _
  | closed _ reason _ _ => exact absurd rfl (ha reason)
  | _ => exact h

theorem reasoned_step {amender : Bool} {s s' : State} {a : Action} (hI : Inv s)
    (hs : step amender s a = some s') (ha : ∀ reason, a ≠ .close reason)
    (h : Reasoned s.synced) : Reasoned s'.synced := by
  cases step_cases hI hs with
  | same => exact h
  | move hmove => exact hmove.reasoned ha h
  | started _ _ => exact Stage.reasoned (by decide)
  | refused _ _ => exact h

end IotCore.EventStream.Connection
