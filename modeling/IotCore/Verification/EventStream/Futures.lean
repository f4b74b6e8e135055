import IotCore.Verification.EventStream.Runs

/-! # The futures of an attempt

Each of the two futures is completed once, and both tell the same story. -/

namespace IotCore.EventStream.Connection

open Machine

/-- A CONNECT_ACK with CONNECTION_ACCEPTED was processed for the attempt while the state was
WAITING_FOR_CONNECT_ACK. -/
def Acked (amender : Bool) (as : List Action) (n : Nat) : Prop :=
  ∃ pre m post s, as = pre ++ .protocolMessage n m :: post ∧
    run (step amender) init pre = some s ∧ s.synced.state = .waitingForConnectAck ∧
    m.messageType = .connectAck ∧ m.flags.connectionAccepted = true

/-! ## The accepting message -/

theorem StepCases.accepted {s s' : State} {a : Action} (h : StepCases s a s') {n : Nat}
    (hacc : (s.attempt n).accepted = true) : (s'.attempt n).accepted = true := by
  rcases h.attempt n with he | ⟨v, hmove, he⟩ | ⟨_, he⟩
  · rw [he]; exact hacc
  · rw [he]
    cases hmove with
    | closed g reason hat hg => split <;> exact hacc
    | _ => first | exact hacc | rfl
  · rw [he]; exact hacc

theorem StepCases.acked {s s' : State} {a : Action} (h : StepCases s a s') {n : Nat}
    (hacc : (s.attempt n).accepted = false) (hacc' : (s'.attempt n).accepted = true) :
    ∃ m, a = .protocolMessage n m ∧ s.synced.state = .waitingForConnectAck ∧
      m.messageType = .connectAck ∧ m.flags.connectionAccepted = true := by
  have absurd_acc : (s.attempt n).accepted ≠ true := by simp [hacc]
  rcases h.attempt n with he | ⟨v, hmove, he⟩ | ⟨_, he⟩
  · exact absurd (he ▸ hacc') absurd_acc
  · rw [he] at hacc'
    cases hmove with
    | acked m hpc hm hf hg =>
        have hsy : s.synced = Stage.waiting.synced n none := hg.synced
        exact ⟨m, rfl, by simp [hsy, Stage.synced, Stage.waiting], hm, hf⟩
    | closed g reason hat hg =>
        split at hacc' <;> exact absurd hacc' absurd_acc
    | _ => exact absurd hacc' absurd_acc
  · rw [he] at hacc'
    exact absurd hacc' absurd_acc

theorem accepted_run {amender : Bool} {as : List Action} {s t : State} {n : Nat} (hs : Inv s)
    (h : run (step amender) s as = some t) (hacc : (s.attempt n).accepted = true) :
    (t.attempt n).accepted = true :=
  (run_invariant (I := fun s => Inv s ∧ (s.attempt n).accepted = true)
    (fun _ _ _ hI hstep => ⟨inv_step hI.1 hstep, (step_cases hI.1 hstep).accepted hI.2⟩)
    h ⟨hs, hacc⟩).2

/-- The record `accepted` of an attempt says what its name says. -/
theorem accepted_iff {amender : Bool} {as : List Action} {s : State} {n : Nat}
    (h : run (step amender) init as = some s) :
    (s.attempt n).accepted = true ↔ Acked amender as n := by
  constructor
  · intro hacc
    obtain ⟨pre, a, post, m, m', rfl, hpre, ha, _, hm, hm'⟩ :=
      exists_step_of_run (F := fun s => (s.attempt n).accepted = true) h (by simp [init]) hacc
    have hm : (m.attempt n).accepted = false := by simpa using hm
    obtain ⟨msg, rfl, hstate, htype, hflag⟩ :=
      (step_cases (inv_run hpre) ha).acked hm hm'
    exact ⟨pre, msg, post, m, rfl, hpre, hstate, htype, hflag⟩
  · rintro ⟨pre, m, post, t, rfl, hpre, hstate, htype, hflag⟩
    obtain ⟨t', ht, hrest⟩ := run_append_eq_some.mp h
    obtain rfl : t = t' := by simpa [hpre] using ht
    obtain ⟨u, hu, hpost⟩ := run_cons_eq_some.mp hrest
    have hI := inv_run hpre
    refine accepted_run (inv_step hI hu) hpost ?_
    simp only [step, Option.ite_none_right_eq_some, Option.some.injEq] at hu
    obtain ⟨_, rfl⟩ := hu
    cases hf : t.synced.connectFuture <;>
      simp [protocolMessage, htype, connectAck, hstate, hflag, hf]

/-! ## The contract -/

/-- What ended the attempt: the setup error, else the native reason of the shutdown, else the
`close_reason` that was recorded by then. -/
def Attempt.failure (a : Attempt) : Option Exn :=
  a.setupError.or (a.shutdown.bind fun r => r.1.or r.2)

/-- The contract of the two futures that one call of `connect` creates. -/
structure FutureSpec (amender : Bool) (as : List Action) (s : State) (n : Nat) : Prop where
  connectOnce : (s.future (.connect n)).setCalls ≤ 1
  closedOnce : (s.future (.closed n)).setCalls ≤ 1
  done : (s.attempt n).pc = .ended →
    (s.future (.connect n)).done ∧ (s.future (.closed n)).done
  connectOk : (s.attempt n).pc = .ended →
    ((s.future (.connect n)).outcome = some (.ok ()) ↔ Acked amender as n)
  connectError : (s.attempt n).pc = .ended → ¬Acked amender as n →
    (s.future (.connect n)).outcome =
      some (.error ((s.attempt n).failure.getD setupClosed))
  closedOk : (s.attempt n).pc = .ended →
    ((s.future (.closed n)).outcome = some (.ok ()) ↔
      (s.attempt n).setupError = none ∧ (s.attempt n).shutdown = some (none, none))
  closedError : (s.attempt n).pc = .ended → ∀ e,
    ((s.future (.closed n)).outcome = some (.error e) ↔ (s.attempt n).failure = some e)

theorem connectOutcome_eq_ok {accepted : Bool} {reason : Option Exn} :
    connectOutcome accepted reason = .ok () ↔ accepted = true := by
  cases accepted <;> simp [connectOutcome]

theorem outcomeOf_eq_ok {reason : Option Exn} : outcomeOf reason = .ok () ↔ reason = none := by
  cases reason <;> simp [outcomeOf]

theorem outcomeOf_eq_error {reason : Option Exn} {e : Exn} :
    outcomeOf reason = .error e ↔ reason = some e := by
  cases reason <;> simp [outcomeOf]

theorem setCalls_connectFuture (g : Stage) : g.connectFuture.setCalls ≤ 1 := by
  unfold Stage.connectFuture
  split
  · exact Nat.le_refl 1
  · exact Nat.zero_le 1

/-- No future of an attempt is ever set twice. -/
theorem Inv.setCalls {s : State} (h : Inv s) {n : Nat} (hn : n ≠ 0) :
    (s.future (.connect n)).setCalls ≤ 1 ∧ (s.future (.closed n)).setCalls ≤ 1 := by
  have hover : ∀ {v : View} {a b c} {o : Except Exn Unit}, Over n v a b c (.completed o) →
      v.connectFuture.setCalls ≤ 1 ∧ v.closedFuture.setCalls ≤ 1 := by
    intro v a b c o ho
    rw [ho.connectFuture, ho.closedFuture]
    exact ⟨Nat.le_refl 1, Nat.le_refl 1⟩
  have open_ : ∀ {v : View} {a b c}, Over n v a b c .pending →
      v.connectFuture.setCalls ≤ 1 ∧ v.closedFuture.setCalls ≤ 1 := by
    intro v a b c ho
    rw [ho.connectFuture, ho.closedFuture]
    exact ⟨Nat.zero_le 1, Nat.le_refl 1⟩
  rcases h.attempts n with ⟨g, asked, _, hg⟩ | hp
  · have h1 : s.future (.connect n) = g.connectFuture := hg.connectFuture
    have h2 : s.future (.closed n) = .pending := hg.closedFuture
    rw [h1, h2]
    exact ⟨setCalls_connectFuture g, Nat.zero_le 1⟩
  · cases hpc : (s.attempt n).pc <;> simp only [Past, State.view, hpc] at hp
    case unused =>
        obtain ⟨h1, h2⟩ := hp.2.2 hn
        rw [h1, h2]
        exact ⟨Nat.zero_le 1, Nat.zero_le 1⟩
    case failing => exact open_ hp.2.2
    case finishing =>
        obtain ⟨native, recorded, _, _, ho⟩ := hp
        cases hacc : (s.attempt n).accepted <;> simp only [hacc] at ho
        · exact open_ ho
        · exact hover ho
    case inOnDisconnect =>
        obtain ⟨_, _, _, ho⟩ := hp
        exact hover ho
    case ended => rcases hp with ⟨_, _, ho⟩ | ⟨_, _, ho⟩ <;> exact hover ho

/-- How an attempt whose last native callback has returned left its futures. -/
theorem Inv.ended {s : State} (h : Inv s) {n : Nat} (hpc : (s.attempt n).pc = .ended) :
    (s.future (.connect n)).outcome =
        some (connectOutcome (s.attempt n).accepted (s.attempt n).failure) ∧
      (s.future (.closed n)).outcome = some (outcomeOf (s.attempt n).failure) ∧
      ((s.attempt n).failure = none →
        (s.attempt n).setupError = none ∧ (s.attempt n).shutdown = some (none, none)) := by
  have hp := h.past (n := n) (by simp [hpc, Pc.At])
  simp only [Past, State.view, hpc] at hp
  rcases hp with ⟨e, hacc, ho⟩ | ⟨native, recorded, ho⟩
  · have h1 := ho.setupError
    have h2 := ho.shutdown
    have h3 := ho.connectFuture
    have h4 := ho.closedFuture
    simp only at h1 h2 h3 h4 hacc
    simp [Attempt.failure, h1, h2, h3, h4, hacc, connectOutcome, outcomeOf]
  · have h1 := ho.setupError
    have h2 := ho.shutdown
    have h3 := ho.connectFuture
    have h4 := ho.closedFuture
    simp only at h1 h2 h3 h4
    simp [Attempt.failure, h1, h2, h3, h4]

/-- In every run each attempt completes its futures exactly once, with outcomes that agree. -/
theorem futureSpec_run {amender : Bool} {as : List Action} {s : State} {n : Nat}
    (h : run (step amender) init as = some s) (hn : (s.attempt n).pc ≠ .unused) :
    FutureSpec amender as s n := by
  have hI := inv_run h
  have hzero : n ≠ 0 := by
    rintro rfl
    exact hn hI.zero
  obtain ⟨honce, honce'⟩ := hI.setCalls hzero
  refine ⟨honce, honce', ?_, ?_, ?_, ?_, ?_⟩
  · intro hpc
    obtain ⟨h1, h2, _⟩ := hI.ended hpc
    simp [Future.done, h1, h2]
  · intro hpc
    rw [(hI.ended hpc).1, Option.some.injEq, connectOutcome_eq_ok, accepted_iff h]
  · intro hpc hack
    have hacc : (s.attempt n).accepted = false := by
      rw [← accepted_iff h] at hack
      simpa using hack
    rw [(hI.ended hpc).1, hacc]
    rfl
  · intro hpc
    obtain ⟨_, h2, h3⟩ := hI.ended hpc
    rw [h2, Option.some.injEq, outcomeOf_eq_ok]
    refine ⟨h3, ?_⟩
    rintro ⟨h4, h5⟩
    simp [Attempt.failure, h4, h5]
  · intro hpc e
    rw [(hI.ended hpc).2.1, Option.some.injEq, outcomeOf_eq_error]

/-- A setup that fails, while another thread starts a new attempt. -/
theorem futureSpec_run_setup_error :
    let as : List Action :=
      [.connect none, .connectionSetup 1 (some (.external 1)), .connect none, .resume 1]
    ∃ s, run (step false) init as = some s ∧ FutureSpec false as s 1 := by
  intro as
  exact ⟨_, rfl, futureSpec_run (rfl : run (step false) init as = some _) (by decide)⟩

end IotCore.EventStream.Connection
