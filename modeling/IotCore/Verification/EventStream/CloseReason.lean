import IotCore.Verification.EventStream.Futures

/-! # The reason a connection closes with

`close` and the rejection of a connection leave a reason that is already recorded alone.
The `except` clause of `on_connection_setup` does not look at the state first. -/

namespace IotCore.EventStream.Connection

open Machine

/-- The reason for which a step asks the connection to close. -/
def cause (s : State) : Action → Option (Option Exn)
  | .close reason => some reason
  | .protocolMessage _ m =>
      if m.messageType = .connectAck ∧ m.flags.connectionAccepted = false then
        some (some accessDenied)
      else none
  | .resume n =>
      match (s.attempt n).pc with
      | .sendFailed e => some (some e)
      | .closing e => some (some e)
      | _ => none
  | _ => none

/-- The `except` clause of the setup of an attempt finds no other reason recorded. -/
def KeepsReason (n : Nat) (s : State) (a : Action) : Prop :=
  a = .resume n → s.synced.state = .disconnecting →
    ∀ e, (s.attempt n).pc = .sendFailed e → s.synced.closeReason = some e

/-- The reason of the close of the attempt is settled: it is the one in `close_reason`, or
the one that was in it when the attempt was shut down. -/
def Settled (n : Nat) (reason : Option Exn) (s : State) : Prop :=
  (s.synced.currentHandler = some n ∧ s.synced.state = .disconnecting ∧
      s.synced.closeReason = reason) ∨
    s.synced.currentHandler ≠ some n ∧ (s.attempt n).pc ≠ .unused ∧
      ∀ native recorded, (s.attempt n).shutdown = some (native, recorded) → recorded = reason

/-! ## The first reason -/

/-- A step into DISCONNECTING has a cause, which is then the recorded reason. -/
theorem StepCases.cause {s s' : State} {a : Action} (h : StepCases s a s')
    (hbefore : s.synced.state ≠ .disconnecting) (hafter : s'.synced.state = .disconnecting) :
    cause s a = some s'.synced.closeReason := by
  cases h with
  | same => exact absurd hafter hbefore
  | started ha hidle =>
      simp [State.started, State.put, Stage.synced, Stage.opening] at hafter
  | refused ha hidle => exact absurd hafter hbefore
  | @move n v hmove =>
      have hafter : v.synced.state = .disconnecting := hafter
      change _ = some v.synced.closeReason
      cases hmove with
      | goto | pinged | failed | closedAgain | transmitted | toldAccepted | toldFailed
      | toldShutdown | disconnected => exact absurd hafter hbefore
      | setupFailed | shutdown => simp [Synced.free] at hafter
      | sent | sendRaised | acked =>
          simp [Stage.synced, Stage.opening, Stage.waiting, Stage.established] at hafter
      | sendClosed amendment reason native hpc hg =>
          have hsy : s.synced = (Stage.opening false).synced n (some reason) := hg.synced
          simp [hsy, Stage.synced] at hbefore
      | setupExcept joined asked e hpc hg =>
          have hpc : (s.attempt n).pc = .sendFailed e := hpc
          simp [Connection.cause, hpc, Stage.synced]
      | rejected m hpc hm hf hg => simp [Connection.cause, hm, hf, Stage.synced]
      | closedSelf e g hpc hat hg =>
          have hpc : (s.attempt n).pc = .closing e := hpc
          simp [Connection.cause, hpc, Stage.synced]
      | closed g reason hat hg => simp [Connection.cause, Stage.synced]

/-! ## The settled reason stays -/

/-- A move of the attempt itself. -/
theorem Settled.move {s : State} {a : Action} {n : Nat} {v : View} {reason : Option Exn}
    (hmove : Move n (s.view n) a v) (hkeep : KeepsReason n s a)
    (hset : Settled n reason s) : Settled n reason (s.put n v) := by
  have hattempt : (s.put n v).attempt n = v.attempt := by simp [State.put]
  have hsynced : (s.put n v).synced = v.synced := rfl
  unfold Settled at hset ⊢
  rw [hattempt, hsynced]
  rcases hset with ⟨hcur, hstate, hreason⟩ | ⟨hcur, hused, hshut⟩
  · have absurd_none : ∀ {g}, g.base ≠ .disconnecting → ¬Serving n (s.view n) g none := by
      intro g hbase hg
      cases hg.asked_eq hbase hstate
    cases hmove with
    | goto | pinged | failed | closedAgain | transmitted | toldAccepted | toldFailed
    | toldShutdown | disconnected => exact .inl ⟨hcur, hstate, hreason⟩
    | sendRaised _ _ _ hg | sent _ _ hg => exact absurd hg (absurd_none (by simp [Stage.opening]))
    | acked _ _ _ _ hg | rejected _ _ _ _ hg =>
        exact absurd hg (absurd_none (by simp [Stage.waiting]))
    | closedSelf _ _ _ hat hg | closed _ _ hat hg =>
        exact absurd hg (absurd_none hat.base.2)
    | setupFailed asked e hpc hg =>
        refine .inr ⟨by simp [Synced.free], by simp, ?_⟩
        intro native recorded hs
        exact absurd (hg.shutdown.symm.trans hs) (by simp)
    | sendClosed amendment r native hpc hg =>
        have hr := hg.asked_eq (by simp [Stage.opening]) hstate
        have hr : r = s.synced.closeReason := Option.some.inj hr
        exact .inl ⟨rfl, rfl, hr.trans hreason⟩
    | setupExcept joined asked e hpc hg =>
        exact .inl ⟨rfl, rfl, (hkeep rfl hstate e hpc).symm.trans hreason⟩
    | shutdown g asked native hpc hat hg =>
        refine .inr ⟨by simp [Synced.free], by simp, ?_⟩
        intro native' recorded hs
        have hr := hg.asked_eq hat.base.2 hstate
        have hr : asked = some s.synced.closeReason := hr
        simp only [hr, Option.join_some, Option.some.injEq, Prod.mk.injEq] at hs
        exact hs.2.symm.trans hreason
  · have absurd_serving : ∀ {g asked}, ¬Serving n (s.view n) g asked :=
      fun hg => hcur hg.current
    cases hmove with
    | goto hgoto => exact .inr ⟨hcur, hgoto.target, hshut⟩
    | pinged _ hpc _ | failed _ hpc _ => exact .inr ⟨hcur, by simp, hshut⟩
    | toldFailed | toldShutdown | disconnected => exact .inr ⟨hcur, by simp, hshut⟩
    | setupFailed _ _ _ hg | sendClosed _ _ _ _ hg | sendRaised _ _ _ hg | sent _ _ hg
    | setupExcept _ _ _ _ hg | acked _ _ _ _ hg | rejected _ _ _ _ hg | shutdown _ _ _ _ _ hg
    | closedAgain _ _ _ _ _ hg | closedSelf _ _ _ _ hg | closed _ _ _ hg
    | transmitted _ _ _ hg | toldAccepted _ _ hg => exact absurd hg absurd_serving

theorem Settled.step {s s' : State} {a : Action} {n : Nat} {reason : Option Exn} (h : Inv s)
    (hs : StepCases s a s') (hkeep : KeepsReason n s a) (hset : Settled n reason s) :
    Settled n reason s' := by
  cases hs with
  | same => exact hset
  | refused => exact hset
  | started ha hidle =>
      rcases hset with ⟨hcur, _⟩ | ⟨_, hused, hshut⟩
      · simp [hidle] at hcur
      · have hne : n ≠ s.connects + 1 := by
          rintro rfl
          exact hused (h.fresh _ (Nat.lt_succ_self _))
        refine .inr ⟨?_, ?_, ?_⟩
        · simpa [State.started, State.put, Stage.synced] using fun e => hne e.symm
        · simpa [State.started, State.put, hne] using hused
        · simpa [State.started, State.put, hne] using hshut
  | @move k v hmove =>
      by_cases hk : n = k
      · subst hk
        exact hset.move hmove hkeep
      · have hattempt : (s.put k v).attempt n = s.attempt n := by simp [State.put, hk]
        unfold Settled
        rw [hattempt]
        rcases hmove.synced_of_ne hk with hsy | ⟨hother, hother'⟩
        · have hsy : (s.put k v).synced = s.synced := hsy
          rw [hsy]
          exact hset
        · rcases hset with ⟨hcur, _⟩ | ⟨_, hused, hshut⟩
          · exact absurd hcur hother
          · exact .inr ⟨hother', hused, hshut⟩

theorem settled_run {amender : Bool} {s t : State} {as : List Action} {n : Nat}
    {reason : Option Exn} (h : Inv s) (hrun : run (step amender) s as = some t)
    (hkeep : AllSteps (step amender) (KeepsReason n) s as) (hset : Settled n reason s) :
    Settled n reason t :=
  (run_invariant_of (I := fun s => Inv s ∧ Settled n reason s)
    (fun _ _ _ hI hP hs => ⟨inv_step hI.1 hs, hI.2.step hI.1 (step_cases hI.1 hs) hP⟩)
    hrun hkeep ⟨h, hset⟩).2

/-! ## What the callbacks are told -/

/-- `on_disconnect` is told what the closed future is told. -/
def ToldReason (n : Nat) (s : State) : Prop :=
  ∀ x, .onDisconnect x ∈ (s.attempt n).callbacks →
    ∃ native recorded, (s.attempt n).shutdown = some (native, recorded) ∧ x = native.or recorded

theorem ToldReason.step {s s' : State} {a : Action} {n : Nat} (h : Inv s)
    (hs : StepCases s a s') (htold : ToldReason n s) : ToldReason n s' := by
  intro x hx
  rcases hs.attempt n with he | ⟨v, hmove, he⟩ | ⟨_, he⟩
  · rw [he] at hx ⊢
    exact htold x hx
  · rw [he] at hx ⊢
    have hpast := h.attempts n
    cases hmove with
    | shutdown g asked native hpc hat hg =>
        obtain ⟨native', recorded, hs, _⟩ := htold x hx
        exact absurd (hg.shutdown.symm.trans hs) (by simp)
    | pinged | failed | toldAccepted =>
        simp only [List.mem_append, List.mem_singleton, reduceCtorEq, or_false] at hx
        exact htold x hx
    | disconnected reason hpc =>
        simp only [List.mem_append, List.mem_singleton, Callback.onDisconnect.injEq] at hx
        rcases hx with hx | rfl
        · exact htold x hx
        · have hpc' : (s.attempt n).pc = .finishing none x := hpc
          have hp := h.past (n := n) (by simp [hpc', Pc.At])
          simp only [Past, State.view, hpc'] at hp
          obtain ⟨native, recorded, hr, _, ho⟩ := hp
          exact ⟨native, recorded, ho.shutdown, hr⟩
    | closed g reason hat hg =>
        split at hx
        · split <;> exact htold x hx
        · split <;> exact htold x hx
    | _ => exact htold x hx
  · rw [he] at hx ⊢
    exact htold x hx

theorem toldReason_run {amender : Bool} {s : State} {as : List Action} {n : Nat}
    (h : run (step amender) init as = some s) : ToldReason n s :=
  (run_invariant (I := fun s => Inv s ∧ ToldReason n s)
    (fun _ _ _ hI hs => ⟨inv_step hI.1 hs, hI.2.step hI.1 (step_cases hI.1 hs)⟩)
    h ⟨inv_init, by simp [ToldReason, init]⟩).2

/-- An attempt that was shut down has told its closed future the reason. -/
theorem Inv.closed_outcome {s : State} (h : Inv s) {n : Nat} {native recorded : Option Exn}
    (hs : (s.attempt n).shutdown = some (native, recorded)) :
    s.synced.currentHandler ≠ some n ∧
      (s.future (.closed n)).outcome = some (outcomeOf (native.or recorded)) := by
  rcases h.attempts n with ⟨g, asked, _, hg⟩ | hp
  · exact absurd (hg.shutdown.symm.trans hs) (by simp)
  · refine ⟨hp.not_current, ?_⟩
    cases hpc : (s.attempt n).pc <;> simp only [Past, State.view, hpc] at hp
    case unused => simp [hp.1] at hs
    case failing => exact absurd (hp.2.2.shutdown.symm.trans hs) (by simp)
    case finishing =>
        obtain ⟨_, _, _, _, ho⟩ := hp
        cases ho.shutdown.symm.trans hs
        exact congrArg Future.outcome ho.closedFuture
    case inOnDisconnect =>
        obtain ⟨_, _, _, ho⟩ := hp
        cases ho.shutdown.symm.trans hs
        exact congrArg Future.outcome ho.closedFuture
    case ended =>
        rcases hp with ⟨_, _, ho⟩ | ⟨_, _, ho⟩
        · exact absurd (ho.shutdown.symm.trans hs) (by simp)
        · cases ho.shutdown.symm.trans hs
          exact congrArg Future.outcome ho.closedFuture

/-! ## The contract -/

/-- A run that moves the attempt into DISCONNECTING in the step `a` and goes on to a state in
which its native shutdown has been processed and gave no reason of its own. -/
structure Closing (amender : Bool) (n : Nat) (pre : List Action) (s : State) (a : Action)
    (s' : State) (post : List Action) (t : State) : Prop where
  pre : run (step amender) init pre = some s
  step : step amender s a = some s'
  post : run (Connection.step amender) s' post = some t
  current : s.synced.currentHandler = some n
  before : s.synced.state ≠ .disconnecting
  after : s'.synced.state = .disconnecting
  shutdown : ∃ recorded, (t.attempt n).shutdown = some (none, recorded)

/-- The closed future and `on_disconnect` report the reason. -/
def ClosesWith (n : Nat) (t : State) (reason : Option Exn) : Prop :=
  (t.future (.closed n)).outcome = some (outcomeOf reason) ∧
    ∀ x, .onDisconnect x ∈ (t.attempt n).callbacks → x = reason

/-- The first reason to close is the one that is reported, provided that the `except` clause
of the setup never overwrites a reason. -/
theorem closesWith_first_reason {amender : Bool} {n : Nat} {pre post : List Action}
    {s s' t : State} {a : Action} (h : Closing amender n pre s a s' post t)
    (hkeep : AllSteps (step amender) (KeepsReason n) s' post) :
    ∃ reason, cause s a = some reason ∧ ClosesWith n t reason := by
  have hI := inv_run h.pre
  have hI' := inv_step hI h.step
  have hcases := step_cases hI h.step
  have hcur : s'.synced.currentHandler = some n := by
    refine (hcases.current h.current).resolve_right fun hnone => ?_
    have hafter := h.after
    rw [hI'.disconnected_iff.mpr hnone] at hafter
    cases hafter
  have hset : Settled n s'.synced.closeReason s' := .inl ⟨hcur, h.after, rfl⟩
  have hrun : run (step amender) init (pre ++ a :: post) = some t :=
    run_append_eq_some.mpr ⟨s, h.pre, run_cons_eq_some.mpr ⟨s', h.step, h.post⟩⟩
  obtain ⟨recorded, hshut⟩ := h.shutdown
  obtain ⟨hnot, hclosed⟩ := (inv_run hrun).closed_outcome hshut
  have hrec : recorded = s'.synced.closeReason := by
    rcases settled_run hI' h.post hkeep hset with ⟨hc, _⟩ | ⟨_, _, hr⟩
    · exact absurd hc hnot
    · exact hr none recorded hshut
  refine ⟨s'.synced.closeReason, hcases.cause h.before h.after, ?_, ?_⟩
  · simpa [hrec] using hclosed
  · intro x hx
    obtain ⟨native, recorded', hs, hxr⟩ := toldReason_run hrun x hx
    rw [hshut] at hs
    cases hs
    simpa [hrec] using hxr

/-- The state after a run. -/
def after (as : List Action) : State := (run (step true) init as).getD init

/-- `close(r)` while the socket is being opened, then a failing amender: the closed future
and the log report the failure of the amender. -/
theorem not_closesWith_first_reason :
    ¬∀ amender n pre s a s' post t, Closing amender n pre s a s' post t →
      ∃ reason, cause s a = some reason ∧ ClosesWith n t reason := by
  intro h
  obtain ⟨reason, hcause, hclosed, _⟩ := h true 1 [.connect none] (after [.connect none])
    (.close (some (.external 1))) (after [.connect none, .close (some (.external 1))])
    [.connectionSetup 1 none, .raised 1 (.external 2), .resume 1, .connectionShutdown 1 none]
    (after [.connect none, .close (some (.external 1)), .connectionSetup 1 none,
      .raised 1 (.external 2), .resume 1, .connectionShutdown 1 none])
    ⟨rfl, rfl, rfl, rfl, by decide, rfl, ⟨_, rfl⟩⟩
  obtain rfl : some (.external 1) = reason := Option.some.inj hcause
  have hreported : some (outcomeOf (some (.external 2))) = some (outcomeOf (some (.external 1))) :=
    hclosed
  simp [outcomeOf] at hreported

/-- A close while waiting for the CONNECT_ACK, and a second one after it. -/
theorem closesWith_first_reason_waiting :
    ClosesWith 1 (after [.connect none, .connectionSetup 1 none, .amended 1 {},
      .sendConnect 1 none, .close (some (.external 1)), .close none,
      .connectionShutdown 1 none, .resume 1]) (some (.external 1)) := by
  have h : Closing true 1
      [.connect none, .connectionSetup 1 none, .amended 1 {}, .sendConnect 1 none]
      (after [.connect none, .connectionSetup 1 none, .amended 1 {}, .sendConnect 1 none])
      (.close (some (.external 1)))
      (after [.connect none, .connectionSetup 1 none, .amended 1 {}, .sendConnect 1 none,
        .close (some (.external 1))])
      [.close none, .connectionShutdown 1 none, .resume 1] _ :=
    ⟨rfl, rfl, rfl, rfl, by decide, rfl, ⟨_, rfl⟩⟩
  obtain ⟨reason, hcause, hclosed⟩ := closesWith_first_reason h (by
    refine (allSteps_cons rfl).mpr ⟨?_, (allSteps_cons rfl).mpr ⟨?_, (allSteps_cons rfl).mpr
      ⟨?_, trivial⟩⟩⟩
    · intro hresume
      cases hresume
    · intro hresume
      cases hresume
    · intro _ hstate
      cases hstate)
  obtain rfl : some (.external 1) = reason := Option.some.inj hcause
  exact hclosed

end IotCore.EventStream.Connection
