import IotCore.Verification.EventStream.Moves

/-! # The shared state of a connection over whole runs

The invariant gives, for every attempt and every place its thread can be at, the shared
fields, the record of the attempt and its two futures. -/

namespace IotCore.EventStream.Connection

/-! ## The invariant -/

/-- The attempt has given up the shared fields and its closed future is completed. -/
structure Over (n : Nat) (v : View) (setupError : Option Exn)
    (shutdown : Option (Option Exn × Option Exn)) (closed : Except Exn Unit)
    (connectFuture : Future Unit Exn) : Prop where
  handler : v.synced.currentHandler ≠ some n
  setupError : v.attempt.setupError = setupError
  shutdown : v.attempt.shutdown = shutdown
  closedFuture : v.closedFuture = .completed closed
  connectFuture : v.connectFuture = connectFuture

/-- What an attempt whose setup failed leaves behind. -/
def FailedWith (n : Nat) (v : View) (e : Exn) (connectFuture : Future Unit Exn) : Prop :=
  v.attempt.accepted = false ∧ Over n v (some e) none (.error e) connectFuture

/-- What an attempt that was shut down leaves behind. -/
def ShutWith (n : Nat) (v : View) (native recorded : Option Exn)
    (connectFuture : Future Unit Exn) : Prop :=
  Over n v none (some (native, recorded)) (outcomeOf (native.or recorded)) connectFuture

/-- How the connect future of an attempt that was shut down ends. -/
def connectOutcome (accepted : Bool) (reason : Option Exn) : Except Exn Unit :=
  if accepted then .ok () else .error (reason.getD setupClosed)

/-- What an attempt that is not the current one leaves behind, by the place of its thread. -/
def Past (n : Nat) (v : View) : Prop :=
  match v.attempt.pc with
  | .unused =>
      v.attempt = {} ∧ v.synced.currentHandler ≠ some n ∧
        (n ≠ 0 → v.connectFuture = .pending ∧ v.closedFuture = .pending)
  | .failing f e => f = some (.connect n) ∧ FailedWith n v e .pending
  | .finishing f reason =>
      ∃ native recorded, reason = native.or recorded ∧
        f = (if v.attempt.accepted then none else some (.connect n)) ∧
        ShutWith n v native recorded
          (if v.attempt.accepted then .completed (.ok ()) else .pending)
  | .inOnDisconnect =>
      v.attempt.accepted = true ∧
        ∃ native recorded, ShutWith n v native recorded (.completed (.ok ()))
  | .ended =>
      (∃ e, FailedWith n v e (.completed (.error e))) ∨
        ∃ native recorded, ShutWith n v native recorded
          (.completed (connectOutcome v.attempt.accepted (native.or recorded)))
  | _ => False

def AttemptInv (n : Nat) (v : View) : Prop :=
  (∃ g asked, v.attempt.pc.At n g ∧ Serving n v g asked) ∨ Past n v

structure Inv (s : State) : Prop where
  attempts : ∀ n, AttemptInv n (s.view n)
  idle : s.synced.currentHandler = none →
    ∃ n, s.synced = .free n ∧ (s.future (.closed n)).done
  fresh : ∀ n, s.connects < n → (s.attempt n).pc = .unused
  zero : (s.attempt 0).pc = .unused

/-! ## The current attempt -/

theorem Serving.current {n : Nat} {v : View} {g : Stage} {asked : Option (Option Exn)}
    (h : Serving n v g asked) : v.synced.currentHandler = some n := by
  rw [h.synced]; rfl

theorem Past.not_current {n : Nat} {v : View} (h : Past n v) :
    v.synced.currentHandler ≠ some n := by
  cases hpc : v.attempt.pc <;> simp only [Past, hpc] at h
  case unused => exact h.2.1
  case failing => exact h.2.2.handler
  case finishing =>
      obtain ⟨_, _, _, _, ho⟩ := h
      exact ho.handler
  case inOnDisconnect =>
      obtain ⟨_, _, _, ho⟩ := h
      exact ho.handler
  case ended => rcases h with ⟨_, _, ho⟩ | ⟨_, _, ho⟩ <;> exact ho.handler

/-- An attempt that is named by `current_handler` has a stage. -/
theorem AttemptInv.serving {n : Nat} {v : View} (h : AttemptInv n v)
    (hcur : v.synced.currentHandler = some n) :
    ∃ g asked, v.attempt.pc.At n g ∧ Serving n v g asked :=
  h.resolve_right fun hp => hp.not_current hcur

/-- An attempt that is not the current one does not depend on the shared fields. -/
theorem Past.frame {n : Nat} {v : View} {sy : Synced} (h : Past n v)
    (hsy : sy.currentHandler ≠ some n) : Past n { v with synced := sy } := by
  have hover : ∀ {a b c d}, Over n v a b c d → Over n { v with synced := sy } a b c d :=
    fun ho => ⟨hsy, ho.setupError, ho.shutdown, ho.closedFuture, ho.connectFuture⟩
  cases hpc : v.attempt.pc <;> simp only [Past, hpc] at h ⊢
  case unused => exact ⟨h.1, hsy, h.2.2⟩
  case failing => exact ⟨h.1, h.2.1, hover h.2.2⟩
  case finishing =>
      obtain ⟨native, recorded, hr, hf, ho⟩ := h
      exact ⟨native, recorded, hr, hf, hover ho⟩
  case inOnDisconnect =>
      obtain ⟨ha, native, recorded, ho⟩ := h
      exact ⟨ha, native, recorded, hover ho⟩
  case ended =>
      rcases h with ⟨e, ha, ho⟩ | ⟨native, recorded, ho⟩
      · exact .inl ⟨e, ha, hover ho⟩
      · exact .inr ⟨native, recorded, hover ho⟩

theorem AttemptInv.frame {n : Nat} {v : View} {sy : Synced} (h : AttemptInv n v)
    (hv : v.synced.currentHandler ≠ some n) (hsy : sy.currentHandler ≠ some n) :
    AttemptInv n { v with synced := sy } := by
  rcases h with ⟨_, _, _, hg⟩ | hp
  · exact absurd hg.current hv
  · exact .inr (hp.frame hsy)

/-- A stage survives steps that only move the thread on or record calls. -/
theorem Serving.attempt {n : Nat} {v : View} {g : Stage} {asked : Option (Option Exn)}
    {a : Attempt} (h : Serving n v g asked) (hc : v.attempt.closeCalls ≤ a.closeCalls)
    (ha : a.accepted = v.attempt.accepted) (he : a.setupError = v.attempt.setupError)
    (hs : a.shutdown = v.attempt.shutdown) : Serving n { v with attempt := a } g asked where
  synced := h.synced
  closed := fun hasked hjoined => Nat.lt_of_lt_of_le (h.closed hasked hjoined) hc
  accepted := ha.trans h.accepted
  setupError := he.trans h.setupError
  shutdown := hs.trans h.shutdown
  connectFuture := h.connectFuture
  closedFuture := h.closedFuture

/-! ## Moves keep the invariant -/

theorem Goto.inv {n : Nat} {v : View} {a : Action} {pc : Pc} (hmove : Goto n v.attempt.pc a pc)
    (h : AttemptInv n v) : AttemptInv n { v with attempt := { v.attempt with pc := pc } } := by
  rcases h with ⟨g, asked, hat, hg⟩ | hp
  · refine .inl ⟨g, asked, ?_, hg.attempt (Nat.le_refl _) rfl rfl rfl⟩
    generalize v.attempt.pc = old at hmove hat
    cases hmove <;> simp_all [Pc.At]
    case setup hnext => rcases hnext with rfl | rfl <;> rfl
  · right
    generalize hpc : v.attempt.pc = old at hmove
    cases hmove <;> simp only [Past, hpc] at hp ⊢
    case disconnectReturned | disconnectRaised =>
        obtain ⟨ha, native, recorded, ho⟩ := hp
        refine .inr ⟨native, recorded, ho.handler, ho.setupError, ho.shutdown,
          ho.closedFuture, ?_⟩
        simpa [connectOutcome, ha] using ho.connectFuture

theorem Pc.At.told {n : Nat} {g : Stage} (h : Pc.open.At n g) :
    g.joined = true ∧ g.told = g.accepted := by
  rcases h with rfl | rfl <;> exact ⟨rfl, rfl⟩

theorem Move.inv {n : Nat} {v v' : View} {a : Action} (hmove : Move n v a v')
    (h : AttemptInv n v) : AttemptInv n v' := by
  cases hmove with
  | goto hgoto => exact hgoto.inv h
  | setupFailed asked e hpc hg =>
      exact .inr ⟨rfl, hg.accepted, by simp [Synced.free], rfl, hg.shutdown, rfl, rfl⟩
  | sendClosed amendment reason native hpc hg =>
      exact .inl ⟨.waiting, _, .inl rfl, rfl, fun _ _ => Nat.succ_pos _, hg.accepted,
        hg.setupError, hg.shutdown, hg.connectFuture, hg.closedFuture⟩
  | sendRaised amendment e hpc hg =>
      exact .inl ⟨.opening true, none, .inr rfl, rfl, by simp, hg.accepted, hg.setupError,
        hg.shutdown, hg.connectFuture, hg.closedFuture⟩
  | sent amendment hpc hg =>
      exact .inl ⟨.waiting, none, .inl rfl, rfl, by simp, hg.accepted, hg.setupError,
        hg.shutdown, hg.connectFuture, hg.closedFuture⟩
  | setupExcept joined asked e hpc hg =>
      exact .inl ⟨.waiting, _, .inl rfl, rfl, fun _ _ => Nat.succ_pos _, hg.accepted,
        hg.setupError, hg.shutdown, hg.connectFuture, hg.closedFuture⟩
  | acked m hpc hm hf hg =>
      exact .inl ⟨.established false, none, ⟨rfl, rfl⟩, rfl, by simp, rfl, hg.setupError,
        hg.shutdown, hg.connectFuture, hg.closedFuture⟩
  | rejected m hpc hm hf hg =>
      exact .inl ⟨.waiting, _, by simp [hpc, Pc.At], rfl, fun _ _ => Nat.succ_pos _, hg.accepted,
        hg.setupError, hg.shutdown, hg.connectFuture, hg.closedFuture⟩
  | pinged m hpc hm | failed m hpc hm =>
      rcases h with ⟨g, asked, hat, hg⟩ | hp
      · rw [hpc] at hat
        exact .inl ⟨g, asked, hat, hg.attempt (Nat.le_refl _) rfl rfl rfl⟩
      · simp [Past, hpc] at hp
  | shutdown g asked native hpc hat hg =>
      rw [hpc] at hat
      have hacc : v.attempt.accepted = g.accepted := hg.accepted
      refine .inr ⟨native, asked.join, rfl, by simp [hacc], by simp [Synced.free], hg.setupError,
        rfl, rfl, ?_⟩
      simp [Stage.connectFuture, hat.told.2, hacc]
  | closedAgain e g reason hpc hat hg =>
      rw [hpc] at hat
      exact .inl ⟨g, _, hat, hg.attempt (Nat.le_refl _) rfl rfl rfl⟩
  | closedSelf e g hpc hat hg =>
      rw [hpc] at hat
      exact .inl ⟨g, _, hat, rfl, fun _ _ => Nat.succ_pos _, hg.accepted, hg.setupError,
        hg.shutdown, hg.connectFuture, hg.closedFuture⟩
  | closed g reason hat hg =>
      left
      cases hj : g.joined with
      | false =>
          exact ⟨g, _, hat, rfl, by simp [hj], hg.accepted, hg.setupError, hg.shutdown,
            hg.connectFuture, hg.closedFuture⟩
      | true =>
          exact ⟨g, _, hat, rfl, fun _ _ => Nat.succ_pos _, hg.accepted, hg.setupError,
            hg.shutdown, hg.connectFuture, hg.closedFuture⟩
  | transmitted g m hat hg hconn ha =>
      exact .inl ⟨g, _, hat, hg.attempt (Nat.le_refl _) rfl rfl rfl⟩
  | toldAccepted asked hpc hg =>
      exact .inl ⟨.established true, asked, rfl, hg.synced, hg.closed, hg.accepted,
        hg.setupError, hg.shutdown, rfl, hg.closedFuture⟩
  | toldFailed e hpc hf =>
      rcases h with ⟨g, asked, hat, hg⟩ | hp
      · rw [hpc] at hat
        exact hat.elim
      · simp only [Past, hpc] at hp
        obtain ⟨_, ha, ho⟩ := hp
        exact .inr (.inl ⟨e, ha, ho.handler, ho.setupError, ho.shutdown, ho.closedFuture, rfl⟩)
  | toldShutdown reason hpc hf =>
      rcases h with ⟨g, asked, hat, hg⟩ | hp
      · rw [hpc] at hat
        exact hat.elim
      · simp only [Past, hpc] at hp
        obtain ⟨native, recorded, rfl, hnone, ho⟩ := hp
        have ha : v.attempt.accepted = false := by
          cases hacc : v.attempt.accepted with
          | false => rfl
          | true => simp [hacc] at hnone
        refine .inr (.inr ⟨native, recorded, ho.handler, ho.setupError, ho.shutdown,
          ho.closedFuture, ?_⟩)
        simp [connectOutcome, ha]
  | disconnected reason hpc =>
      rcases h with ⟨g, asked, hat, hg⟩ | hp
      · rw [hpc] at hat
        exact hat.elim
      · simp only [Past, hpc] at hp
        obtain ⟨native, recorded, rfl, hnone, ho⟩ := hp
        have ha : v.attempt.accepted = true := by
          cases hacc : v.attempt.accepted with
          | false => simp [hacc] at hnone
          | true => rfl
        refine .inr ⟨ha, native, recorded, ho.handler, ho.setupError, ho.shutdown,
          ho.closedFuture, ?_⟩
        simpa [ha] using ho.connectFuture

end IotCore.EventStream.Connection
