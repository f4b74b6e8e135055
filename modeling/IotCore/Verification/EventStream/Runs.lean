import IotCore.Verification.EventStream.Steps

/-! # Whole runs of a connection

The invariant holds in every reachable state. From it follow the contract of the shared
fields and the contract of the futures of every attempt. -/

namespace IotCore.EventStream.Connection

open Machine

/-! ## The invariant along runs -/

theorem Move.used {n : Nat} {v v' : View} {a : Action} (h : Move n v a v') :
    v.attempt.pc ≠ .unused := by
  cases h with
  | goto hgoto =>
      intro hpc
      rw [hpc] at hgoto
      cases hgoto
  | closed g reason hat hg =>
      intro hpc
      rw [hpc] at hat
      exact hat
  | transmitted g m hat hg hconn ha =>
      intro hpc
      rw [hpc] at hat
      exact hat
  | _ => simp_all

/-- Only the current attempt changes the shared fields, and it either stays the current one
or leaves them free with its closed future completed. -/
theorem Move.synced {n : Nat} {v v' : View} {a : Action} (h : Move n v a v') :
    v'.synced = v.synced ∨
      v.synced.currentHandler = some n ∧
        (v'.synced.currentHandler = some n ∨
          v'.synced = .free n ∧ v'.closedFuture.done) := by
  cases h with
  | setupFailed _ _ _ hg | shutdown _ _ _ _ _ hg => exact .inr ⟨hg.current, .inr ⟨rfl, rfl⟩⟩
  | sendClosed _ _ _ _ hg | sendRaised _ _ _ hg | sent _ _ hg | setupExcept _ _ _ _ hg
  | acked _ _ _ _ hg | rejected _ _ _ _ hg | closedSelf _ _ _ _ hg | closed _ _ _ hg =>
      exact .inr ⟨hg.current, .inl rfl⟩
  | _ => exact .inl rfl

/-- To another attempt, the shared fields stay as they are or were and are not its own. -/
theorem Move.synced_of_ne {n m : Nat} {v v' : View} {a : Action} (h : Move n v a v')
    (hm : m ≠ n) :
    v'.synced = v.synced ∨
      v.synced.currentHandler ≠ some m ∧ v'.synced.currentHandler ≠ some m := by
  have hne : ¬n = m := fun e => hm e.symm
  rcases h.synced with hsy | ⟨hcur, hcur' | ⟨hfree, _⟩⟩
  · exact .inl hsy
  · exact .inr ⟨by simpa [hcur] using hne, by simpa [hcur'] using hne⟩
  · exact .inr ⟨by simpa [hcur] using hne, by simp [hfree, Synced.free]⟩

theorem Move.closedFuture_done {n : Nat} {v v' : View} {a : Action} (h : Move n v a v')
    (hd : v.closedFuture.done) : v'.closedFuture.done := by
  cases h <;> first | exact hd | rfl

theorem Inv.put {s : State} {n : Nat} {v : View} {a : Action} (h : Inv s)
    (hmove : Move n (s.view n) a v) : Inv (s.put n v) where
  attempts := by
    intro m
    by_cases hm : m = n
    · rw [hm, State.view_put]
      exact hmove.inv (h.attempts n)
    · rw [State.view_put_of_ne s v hm]
      rcases hmove.synced_of_ne hm with hsy | ⟨hcur, hcur'⟩
      · rw [hsy]
        exact h.attempts m
      · exact (h.attempts m).frame hcur hcur'
  idle := by
    intro hnone
    rcases hmove.synced with hsy | ⟨_, hcur' | ⟨hfree, hdone⟩⟩
    · have hsy : v.synced = s.synced := hsy
      obtain ⟨k, hk, hdone⟩ := h.idle (by rw [← hsy]; exact hnone)
      refine ⟨k, hsy.trans hk, ?_⟩
      by_cases hkn : k = n
      · subst hkn
        have := hmove.closedFuture_done hdone
        simpa [State.put] using this
      · simpa [State.put, hkn] using hdone
    · exact absurd (hnone.symm.trans hcur') (by simp)
    · exact ⟨n, hfree, by simpa [State.put] using hdone⟩
  fresh := by
    intro m hm
    have hu := h.fresh m hm
    have hne : m ≠ n := by
      rintro rfl
      exact hmove.used hu
    simpa [State.put, hne] using hu
  zero := by
    have hne : 0 ≠ n := by
      rintro rfl
      exact hmove.used h.zero
    simpa [State.put, hne] using h.zero

theorem inv_init : Inv init where
  attempts := fun n => .inr ⟨rfl, by simp [State.view, init], fun hn => by
    simp [State.view, init, hn]⟩
  idle := fun _ => ⟨0, rfl, rfl⟩
  fresh := fun _ _ => rfl
  zero := rfl

/-- An attempt that has not been started has an empty record and pending futures. -/
theorem Inv.unused {s : State} (h : Inv s) {n : Nat} (hn : s.connects < n) :
    s.attempt n = {} ∧ s.future (.connect n) = .pending ∧ s.future (.closed n) = .pending := by
  have hpc := h.fresh n hn
  have hp : Past n (s.view n) := h.past fun g hg => by simp [hpc, Pc.At] at hg
  simp only [Past, State.view, hpc] at hp
  exact ⟨hp.1, hp.2.2 (Nat.ne_of_gt (Nat.zero_lt_of_lt hn))⟩

theorem inv_started {s : State} (h : Inv s) (hidle : s.synced.currentHandler = none) :
    Inv s.started := by
  obtain ⟨hrec, hconnect, hclosed⟩ := h.unused (Nat.lt_succ_self _)
  constructor
  · intro m
    by_cases hm : m = s.connects + 1
    · subst hm
      refine .inl ⟨.opening false, none, ?_, ?_⟩
      · simp [State.started, State.put, State.view, Pc.At]
      · refine ⟨rfl, by simp, ?_, ?_, ?_, ?_, ?_⟩ <;>
          simp [State.started, State.put, State.view, hrec, hconnect, hclosed, Stage.opening,
            Stage.connectFuture]
    · have hv : s.started.view m =
          { s.view m with synced := (Stage.opening false).synced (s.connects + 1) none } := by
        simp [State.started, State.put, State.view, hm]
      rw [hv]
      refine (h.attempts m).frame ?_ ?_
      · change s.synced.currentHandler ≠ some m
        simp [hidle]
      · have hne : ¬s.connects + 1 = m := fun e => hm e.symm
        simp [Stage.synced, hne]
  · intro hnone
    simp [State.started, State.put, Stage.synced] at hnone
  · intro m hm
    have hm' : s.connects + 1 < m := hm
    have hne : m ≠ s.connects + 1 := Nat.ne_of_gt hm'
    simpa [State.started, State.put, hne] using h.fresh m (Nat.lt_of_succ_lt hm')
  · simpa [State.started, State.put] using h.zero

theorem inv_step {amender : Bool} {s s' : State} {a : Action} (h : Inv s)
    (hs : step amender s a = some s') : Inv s' := by
  cases step_cases h hs with
  | same => exact h
  | move hmove => exact h.put hmove
  | started _ hidle => exact inv_started h hidle
  | refused _ _ =>
      exact ⟨h.attempts, h.idle, fun m hm => h.fresh m (Nat.lt_of_succ_lt hm), h.zero⟩

theorem inv_run {amender : Bool} {s : State} {as : List Action}
    (h : run (step amender) init as = some s) : Inv s :=
  run_invariant (fun _ _ _ hI hs => inv_step hI hs) h inv_init

/-! ## What a step does to one attempt -/

/-- A step leaves an attempt alone, moves it or starts it. -/
theorem StepCases.attempt {s s' : State} {a : Action} (h : StepCases s a s') (n : Nat) :
    s'.attempt n = s.attempt n ∨
      (∃ v, Move n (s.view n) a v ∧ s'.attempt n = v.attempt) ∨
      n = s.connects + 1 ∧ s'.attempt n = { s.attempt n with pc := .connecting } := by
  cases h with
  | same => exact .inl rfl
  | @move k v hmove =>
      by_cases hn : n = k
      · subst hn
        exact .inr (.inl ⟨v, hmove, by simp [State.put]⟩)
      · exact .inl (by simp [State.put, hn])
  | started ha hidle =>
      by_cases hn : n = s.connects + 1
      · subst hn
        exact .inr (.inr ⟨rfl, by simp [State.started, State.put]⟩)
      · exact .inl (by simp [State.started, State.put, hn])
  | refused ha hidle => exact .inl rfl

/-- The current attempt stays the current one until it leaves the shared fields free. -/
theorem StepCases.current {s s' : State} {a : Action} {n : Nat} (h : StepCases s a s')
    (hcur : s.synced.currentHandler = some n) :
    s'.synced.currentHandler = some n ∨ s'.synced.currentHandler = none := by
  cases h with
  | same => exact .inl hcur
  | refused => exact .inl hcur
  | started _ hidle => simp [hidle] at hcur
  | @move k v hmove =>
      change v.synced.currentHandler = some n ∨ v.synced.currentHandler = none
      rcases hmove.synced with hsy | ⟨hk, hk' | ⟨hfree, _⟩⟩
      · rw [hsy]
        exact .inl hcur
      · obtain rfl : k = n := Option.some.inj (hk.symm.trans hcur)
        exact .inl hk'
      · exact .inr (by simp [hfree, Synced.free])

/-! ## The shared fields -/

/-- What the fields of `_Synced` are in each of the five states. -/
structure SyncedSpec (s : State) : Prop where
  closed : s.synced.state = .disconnected ↔ (s.future s.synced.closedFuture).done
  disconnected : s.synced.state = .disconnected →
    s.synced.currentHandler = none ∧ s.synced.currentConnection = none ∧
      s.synced.connectFuture = none ∧ s.synced.closeReason = none
  closeReason : s.synced.state ≠ .disconnecting → s.synced.closeReason = none
  connecting : s.synced.state = .connectingToSocket ∨ s.synced.state = .waitingForConnectAck →
    ∃ f, s.synced.connectFuture = some f ∧ (s.future f).done = false
  joined : s.synced.state = .waitingForConnectAck ∨ s.synced.state = .connected →
    ∃ c, s.synced.currentConnection = some c
  connected : s.synced.state = .connected → s.synced.connectFuture = none
  disconnecting : s.synced.state = .disconnecting →
    ∀ c, s.synced.currentConnection = some c → 0 < (s.attempt c).closeCalls

/-- The stages of the current attempt, whatever place its thread is at. -/
theorem Pc.At.stages {n : Nat} {pc : Pc} {g : Stage} (h : pc.At n g) :
    g = .opening false ∨ g = .opening true ∨ g = .waiting ∨ ∃ told, g = .established told := by
  cases pc <;> simp only [Pc.At] at h
  case connecting | amending | sending => exact .inl h
  case sendFailed => exact h.elim .inl fun h => .inr (.inl h)
  case «open» | inOnPing | inOnError | closing =>
      exact .inr (.inr (h.imp id fun h => ⟨_, h⟩))
  case accepting => exact .inr (.inr (.inr ⟨_, h.2⟩))
  case inOnConnect => exact .inr (.inr (.inr ⟨_, h⟩))

theorem Pc.At.established {n : Nat} {pc : Pc} {g : Stage} (h : pc.At n g)
    (hg : g.base = .connected ∨ g.accepted = true) : ∃ told, g = .established told := by
  rcases h.stages with rfl | rfl | rfl | hest
  · rcases hg with hg | hg <;> cases hg
  · rcases hg with hg | hg <;> cases hg
  · rcases hg with hg | hg <;> cases hg
  · exact hest

theorem Inv.syncedSpec {s : State} (h : Inv s) : SyncedSpec s := by
  cases hcur : s.synced.currentHandler with
  | none =>
      obtain ⟨n, hsy, hdone⟩ := h.idle hcur
      constructor <;> simp [hsy, Synced.free, hdone]
  | some n =>
      obtain ⟨g, asked, hat, hg⟩ := (h.attempts n).serving hcur
      have hsy : s.synced = g.synced n asked := hg.synced
      have hconnect : s.future (.connect n) = g.connectFuture := hg.connectFuture
      have hclosed : s.future (.closed n) = .pending := hg.closedFuture
      have hcalls : asked.isSome → g.joined → 0 < (s.attempt n).closeCalls := hg.closed
      cases asked with
      | some reason =>
          constructor <;> simp [hsy, Stage.synced, hclosed]
          exact hcalls rfl
      | none =>
          rcases hat.stages with rfl | rfl | rfl | ⟨told, rfl⟩ <;> constructor <;>
            simp [hsy, Stage.synced, Stage.opening, Stage.waiting, Stage.established, hclosed,
              hconnect, Stage.connectFuture]

/-- In every reachable state of a connection, whatever is called and called back in
whatever order and over any number of attempts, the shared fields fit the state. -/
theorem syncedSpec_run {amender : Bool} {as : List Action} {s : State}
    (h : run (step amender) init as = some s) : SyncedSpec s :=
  (inv_run h).syncedSpec

/-- A close while the socket is being opened, the shutdown that follows, and a new attempt. -/
theorem syncedSpec_run_reconnect :
    let as : List Action :=
      [.connect none, .close none, .connectionSetup 1 none, .amended 1 {}, .sendConnect 1 none,
        .connectionShutdown 1 none, .connect none]
    ∃ s, run (step true) init as = some s ∧ SyncedSpec s := by
  intro as
  obtain ⟨s, hs⟩ : ∃ s, run (step true) init as = some s := ⟨_, rfl⟩
  exact ⟨s, hs, syncedSpec_run hs⟩

/-! ## A close is never lost -/

theorem Serving.asked_eq {n : Nat} {v : View} {g : Stage} {asked : Option (Option Exn)}
    (h : Serving n v g asked) (hbase : g.base ≠ .disconnecting)
    (hstate : v.synced.state = .disconnecting) : asked = some v.synced.closeReason := by
  cases asked with
  | none => simp [h.synced, Stage.synced, hbase] at hstate
  | some r => simp [h.synced, Stage.synced]

/-- The attempt is the current one, and somebody has asked for its close. -/
def Asked (n : Nat) (s : State) : Prop :=
  s.synced.currentHandler = some n ∧ s.synced.state = .disconnecting

theorem Move.asked {n : Nat} {v v' : View} {a : Action} (h : Move n v a v')
    (hcur : v.synced.currentHandler = some n) (hstate : v.synced.state = .disconnecting) :
    v'.synced.currentHandler = some n ∧ v'.synced.state = .disconnecting ∨
      v'.closedFuture.done := by
  have absurd_none : ∀ {g}, g.base ≠ .disconnecting → ¬Serving n v g none := by
    intro g hbase hg
    cases hg.asked_eq hbase hstate
  cases h with
  | setupFailed | shutdown => exact .inr rfl
  | sendClosed | setupExcept => exact .inl ⟨rfl, rfl⟩
  | sendRaised _ _ _ hg | sent _ _ hg => exact absurd hg (absurd_none (by simp [Stage.opening]))
  | acked _ _ _ _ hg | rejected _ _ _ _ hg =>
      exact absurd hg (absurd_none (by simp [Stage.waiting]))
  | closedSelf _ _ _ hat hg | closed _ _ hat hg => exact absurd hg (absurd_none hat.base.2)
  | _ => exact .inl ⟨hcur, hstate⟩

theorem StepCases.asked {s s' : State} {a : Action} {n : Nat} (h : StepCases s a s')
    (hasked : Asked n s) : Asked n s' ∨ (s'.future (.closed n)).done := by
  obtain ⟨hcur, hstate⟩ := hasked
  cases h with
  | same | refused => exact .inl ⟨hcur, hstate⟩
  | started _ hidle => simp [hidle] at hcur
  | @move k v hmove =>
      by_cases hk : n = k
      · subst hk
        exact (hmove.asked hcur hstate).imp_right fun hdone => by simpa [State.put] using hdone
      · rcases hmove.synced_of_ne hk with hsy | ⟨hother, _⟩
        · have hsy : (s.put k v).synced = s.synced := hsy
          exact .inl ⟨by rw [hsy, hcur], by rw [hsy, hstate]⟩
        · exact absurd hcur hother

/-- A future that is done stays done. -/
theorem StepCases.closed_done {s s' : State} {a : Action} {n : Nat} (hI : Inv s)
    (h : StepCases s a s') (hdone : (s.future (.closed n)).done) :
    (s'.future (.closed n)).done := by
  cases h with
  | same | refused => exact hdone
  | started _ _ =>
      by_cases hn : n = s.connects + 1
      · subst hn
        have hpending : s.future (.closed (s.connects + 1)) = .pending :=
          (hI.unused (Nat.lt_succ_self _)).2.2
        simp [hpending] at hdone
      · simpa [State.started, State.put, hn] using hdone
  | @move k v hmove =>
      by_cases hn : n = k
      · subst hn
        simpa [State.put] using hmove.closedFuture_done hdone
      · simpa [State.put, hn] using hdone

/-- `close` asks the current attempt to close. -/
theorem asked_close {amender : Bool} {s s' : State} {n : Nat} {reason : Option Exn} (hI : Inv s)
    (hcur : s.synced.currentHandler = some n) (hs : step amender s (.close reason) = some s') :
    Asked n s' := by
  obtain ⟨g, asked, hat, hg⟩ := (hI.attempts n).serving hcur
  have hsy : s.synced = g.synced n asked := hg.synced
  simp only [step, Option.some.injEq] at hs
  subst hs
  rw [Asked, close]
  split
  · have hstate : s.synced.state = .disconnected := ‹_›
    cases asked with
    | none => exact absurd (by simpa [hsy, Stage.synced] using hstate) hat.base.1
    | some reason' => simp [hsy, Stage.synced] at hstate
  · exact ⟨hcur, ‹_›⟩
  · split <;> exact ⟨hcur, rfl⟩

/-- An attempt that is asked to close stays DISCONNECTING until its closed future is
completed. -/
theorem asked_run {amender : Bool} {as : List Action} {s t : State} {n : Nat} (hI : Inv s)
    (h : run (step amender) s as = some t) (hasked : Asked n s) :
    Asked n t ∨ (t.future (.closed n)).done :=
  (run_invariant (I := fun s => Inv s ∧ (Asked n s ∨ (s.future (.closed n)).done))
    (fun _ _ _ hI hs => ⟨inv_step hI.1 hs, hI.2.elim (step_cases hI.1 hs).asked
      fun hdone => .inr ((step_cases hI.1 hs).closed_done hI.1 hdone)⟩)
    h ⟨hI, .inl hasked⟩).2

/-- However a run goes on after a call of `close`, the attempt that it closes is DISCONNECTING
until it is over, and its native connection is closed as soon as there is one. -/
theorem close_run {amender : Bool} {pre post : List Action} {s t : State} {n : Nat}
    {reason : Option Exn} (hpre : run (step amender) init pre = some s)
    (hcur : s.synced.currentHandler = some n)
    (hpost : run (step amender) s (.close reason :: post) = some t) :
    t.synced.currentHandler = some n ∧ t.synced.state = .disconnecting ∧
        (∀ c, t.synced.currentConnection = some c → 0 < (t.attempt c).closeCalls) ∨
      (t.future (.closed n)).done := by
  obtain ⟨s', hs, hrun⟩ := run_cons_eq_some.mp hpost
  have hI' := inv_step (inv_run hpre) hs
  have hspec := (inv_run (run_append_eq_some.mpr ⟨s, hpre, hpost⟩)).syncedSpec
  rcases asked_run hI' hrun (asked_close (inv_run hpre) hcur hs) with ⟨hcur', hstate'⟩ | hdone
  · exact .inl ⟨hcur', hstate', hspec.disconnecting hstate'⟩
  · exact .inr hdone

end IotCore.EventStream.Connection
