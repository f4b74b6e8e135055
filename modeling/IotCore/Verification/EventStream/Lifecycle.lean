import IotCore.Verification.EventStream.CloseReason

/-! # The callbacks of a lifecycle handler

A handler hears nothing when the attempt fails. When it succeeds, `on_connect` comes first
and `on_disconnect` last, provided that pings and errors only arrive on a connection that
has been established. -/

namespace IotCore.EventStream.Connection

open Machine

/-! ## Callback sequences -/

def Callback.isMessage : Callback → Bool
  | .onPing _ _ | .onError _ => true
  | _ => false

/-- The callbacks of an attempt that has succeeded so far. -/
def Started (cs : List Callback) : Prop :=
  ∃ mids, cs = .onConnect :: mids ∧ ∀ c ∈ mids, c.isMessage

/-- The callbacks of an attempt that has succeeded and ended. -/
def Complete (cs : List Callback) : Prop :=
  ∃ mids reason, cs = .onConnect :: (mids ++ [.onDisconnect reason]) ∧
    ∀ c ∈ mids, c.isMessage

theorem Started.message {cs : List Callback} {c : Callback} (h : Started cs)
    (hc : c.isMessage) : Started (cs ++ [c]) := by
  obtain ⟨mids, rfl, hmids⟩ := h
  refine ⟨mids ++ [c], rfl, ?_⟩
  intro d hd
  rcases List.mem_append.mp hd with hd | hd
  · exact hmids d hd
  · rw [List.mem_singleton.mp hd]
    exact hc

theorem Started.complete {cs : List Callback} (h : Started cs) (reason : Option Exn) :
    Complete (cs ++ [.onDisconnect reason]) := by
  obtain ⟨mids, rfl, hmids⟩ := h
  exact ⟨mids, reason, rfl, hmids⟩

theorem Complete.ne_nil {cs : List Callback} (h : Complete cs) : cs ≠ [] := by
  obtain ⟨mids, reason, rfl, _⟩ := h
  exact List.cons_ne_nil _ _

/-! ## The invariant -/

/-- The callbacks that fit the place at which the thread of the attempt is. -/
def Heard (a : Attempt) : Prop :=
  match a.accepted, a.pc with
  | false, _ => a.callbacks = []
  | true, .accepting _ => a.callbacks = []
  | true, .inOnDisconnect | true, .ended => Complete a.callbacks
  | true, _ => Started a.callbacks

/-- A message that reaches the handler arrives on a connection that has been established:
its `connect_future` has been handed on. -/
def OnlyEstablished (s : State) : Action → Prop
  | .protocolMessage _ m =>
      m.messageType = .ping ∨ m.messageType = .protocolError ∨ m.messageType = .internalError →
        s.synced.connectFuture = none
  | _ => True

instance (s : State) : DecidablePred (OnlyEstablished s)
  | .protocolMessage _ _ => inferInstanceAs (Decidable (_ → _))
  | .connect _ | .close _ | .sendProtocolMessage _ _ _ | .newStream _ | .connectionSetup _ _
  | .amended _ _ | .sendConnect _ _ | .connectionShutdown _ _ | .returned _ _ | .raised _ _
  | .resume _ => .isTrue trivial

/-- A message that reaches the handler finds the attempt accepted. -/
theorem Inv.established {s : State} (h : Inv s) {n : Nat} (hpc : (s.attempt n).pc = .open)
    (hf : s.synced.connectFuture = none) : (s.attempt n).accepted = true := by
  obtain ⟨g, asked, hat, hg⟩ := h.stage (n := n) (by simp [Past, State.view, hpc])
  have hsy : s.synced = g.synced n asked := hg.synced
  have hacc : (s.attempt n).accepted = g.accepted := hg.accepted
  rw [hacc]
  cases hgacc : g.accepted with
  | true => rfl
  | false => simp [hsy, Stage.synced, hgacc] at hf

theorem heard_of_not_accepted {a : Attempt} (ha : a.accepted = false) :
    Heard a ↔ a.callbacks = [] := by
  simp [Heard, ha]

/-- Places at which an accepted attempt has started and not ended. -/
theorem heard_of_accepted {a : Attempt} (ha : a.accepted = true)
    (hpc : (∀ f, a.pc ≠ .accepting f) ∧ a.pc ≠ .inOnDisconnect ∧ a.pc ≠ .ended) :
    Heard a ↔ Started a.callbacks := by
  obtain ⟨h1, h2, h3⟩ := hpc
  cases hp : a.pc <;> simp_all [Heard]

/-- A step that keeps the callbacks and stays away from the ends. -/
theorem Heard.keep {a a' : Attempt} (h : Heard a) (hc : a'.callbacks = a.callbacks)
    (ha : a'.accepted = a.accepted)
    (hpc : (∀ f, a.pc ≠ .accepting f) ∧ a.pc ≠ .inOnDisconnect ∧ a.pc ≠ .ended)
    (hpc' : (∀ f, a'.pc ≠ .accepting f) ∧ a'.pc ≠ .inOnDisconnect ∧ a'.pc ≠ .ended) :
    Heard a' := by
  cases hacc : a.accepted with
  | false =>
      rw [heard_of_not_accepted hacc] at h
      rw [heard_of_not_accepted (ha.trans hacc), hc]
      exact h
  | true =>
      rw [heard_of_accepted hacc hpc] at h
      rw [heard_of_accepted (ha.trans hacc) hpc', hc]
      exact h

theorem Heard.goto {n : Nat} {act : Action} {a : Attempt} {pc : Pc} (h : Heard a)
    (hgoto : Goto n a.pc act pc) : Heard { a with pc := pc } := by
  generalize hold : a.pc = old at hgoto
  cases hgoto with
  | setup pc hnext => rcases hnext with rfl | rfl <;> exact h.keep rfl rfl (by simp [hold]) (by simp)
  | disconnectReturned | disconnectRaised =>
      cases hacc : a.accepted with
      | false => simpa [Heard, hacc] using h
      | true => simpa [Heard, hacc, hold] using h
  | _ => exact h.keep rfl rfl (by simp [hold]) (by simp)

theorem Heard.move {n : Nat} {v v' : View} {a : Action} (hmove : Move n v a v')
    (hinv : AttemptInv n v)
    (hmsg : v.attempt.pc = .open → ∀ m, a = .protocolMessage n m →
      m.messageType = .ping ∨ m.messageType = .protocolError ∨ m.messageType = .internalError →
        v.attempt.accepted = true)
    (h : Heard v.attempt) : Heard v'.attempt := by
  have past : (∀ g, ¬v.attempt.pc.At n g) → Past n v := fun hat =>
    hinv.resolve_left fun ⟨g, _, hg, _⟩ => hat g hg
  cases hmove with
  | goto hgoto => exact h.goto hgoto
  | setupFailed _ _ hpc | sendRaised _ _ hpc | sent _ hpc | sendClosed _ _ _ hpc
  | setupExcept _ _ _ hpc | rejected _ hpc | closedAgain _ _ _ hpc | closedSelf _ _ hpc
  | shutdown _ _ _ hpc => exact h.keep rfl rfl (by simp [hpc]) (by simp [hpc])
  | closed g reason hat hg =>
      cases hj : g.joined with
      | false => simpa [hj] using h
      | true => simpa [hj, Heard] using h
  | transmitted => exact h
  | acked m hpc hm hf hg =>
      rw [heard_of_not_accepted hg.accepted] at h
      simpa [Heard] using h
  | pinged m hpc hm =>
      have hacc := hmsg hpc m rfl (.inl hm)
      rw [heard_of_accepted hacc (by simp [hpc])] at h
      refine (heard_of_accepted (by exact hacc) (by simp)).mpr ?_
      exact h.message rfl
  | failed m hpc hm =>
      have hacc := hmsg hpc m rfl (.inr hm)
      rw [heard_of_accepted hacc (by simp [hpc])] at h
      refine (heard_of_accepted (by exact hacc) (by simp)).mpr ?_
      exact h.message rfl
  | toldAccepted asked hpc hg =>
      have hacc : v.attempt.accepted = true := hg.accepted
      have hnil : v.attempt.callbacks = [] := by simpa [Heard, hacc, hpc] using h
      refine (heard_of_accepted (by exact hacc) (by simp)).mpr ?_
      exact ⟨[], by simp [hnil], by simp⟩
  | toldFailed e hpc hf =>
      have hp := past (by simp [hpc, Pc.At])
      simp only [Past, hpc] at hp
      obtain ⟨_, hacc, _⟩ := hp
      refine (heard_of_not_accepted (by exact hacc)).mpr ?_
      exact (heard_of_not_accepted hacc).mp h
  | toldShutdown reason hpc hf =>
      have hp := past (by simp [hpc, Pc.At])
      simp only [Past, hpc] at hp
      obtain ⟨_, _, _, hnone, _⟩ := hp
      have hacc : v.attempt.accepted = false := by
        by_contra hacc
        simp [hacc] at hnone
      refine (heard_of_not_accepted (by exact hacc)).mpr ?_
      exact (heard_of_not_accepted hacc).mp h
  | disconnected reason hpc =>
      have hp := past (by simp [hpc, Pc.At])
      simp only [Past, hpc] at hp
      obtain ⟨_, _, _, hnone, _⟩ := hp
      have hacc : v.attempt.accepted = true := by
        by_contra hacc
        simp [hacc] at hnone
      rw [heard_of_accepted hacc (by simp [hpc])] at h
      simpa [Heard, hacc] using h.complete reason

/-- Messages that reach a handler find an established connection, so what each handler has
heard fits the place of its thread after every step. -/
theorem Heard.step {s s' : State} {a : Action} {n : Nat} (h : Inv s) (hs : StepCases s a s')
    (hmsg : OnlyEstablished s a) (hheard : Heard (s.attempt n)) : Heard (s'.attempt n) := by
  rcases hs.attempt n with he | ⟨v, hmove, he⟩ | he
  · rw [he]
    exact hheard
  · rw [he]
    refine hheard.move hmove (h.attempts n) ?_
    rintro hpc m rfl hm
    exact h.established hpc (hmsg hm)
  · obtain ⟨rfl, he⟩ := he
    rw [he, (h.unused (Nat.lt_succ_self _)).1]
    rfl

theorem heard_run {amender : Bool} {as : List Action} {s : State} {n : Nat}
    (hrun : run (step amender) init as = some s)
    (hall : AllSteps (step amender) OnlyEstablished init as) : Heard (s.attempt n) :=
  (run_invariant_of (I := fun s => Inv s ∧ Heard (s.attempt n))
    (fun _ _ _ hI hmsg hs => ⟨inv_step hI.1 hs, hI.2.step hI.1 (step_cases hI.1 hs) hmsg⟩)
    hrun hall ⟨inv_init, rfl⟩).2

/-! ## The contract -/

/-- The callbacks are a beginning of one of the two sequences, and the connect future tells
which of the two it is. -/
structure LifecycleSpec (s : State) (n : Nat) : Prop where
  callbacks : (s.attempt n).callbacks = [] ∨ Started (s.attempt n).callbacks ∨
    Complete (s.attempt n).callbacks
  called : (s.attempt n).callbacks ≠ [] → (s.future (.connect n)).outcome = some (.ok ())
  failed : (s.attempt n).pc = .ended →
    ((s.attempt n).callbacks = [] ↔ ∃ e, (s.future (.connect n)).outcome = some (.error e))
  succeeded : (s.attempt n).pc = .ended →
    (Complete (s.attempt n).callbacks ↔ (s.future (.connect n)).outcome = some (.ok ()))

theorem Heard.callbacks {a : Attempt} (h : Heard a) :
    a.callbacks = [] ∨ Started a.callbacks ∨ Complete a.callbacks := by
  cases hacc : a.accepted with
  | false => exact .inl ((heard_of_not_accepted hacc).mp h)
  | true =>
      cases hpc : a.pc <;> simp only [Heard, hacc, hpc] at h
      case accepting => exact .inl h
      case inOnDisconnect | ended => exact .inr (.inr h)
      all_goals exact .inr (.inl h)

/-- An attempt that has called its handler has completed its connect future. -/
theorem Inv.called {s : State} (h : Inv s) {n : Nat} (hheard : Heard (s.attempt n))
    (hcalled : (s.attempt n).callbacks ≠ []) :
    (s.future (.connect n)).outcome = some (.ok ()) := by
  have hacc : (s.attempt n).accepted = true := by
    by_contra hacc
    exact hcalled ((heard_of_not_accepted (by simpa using hacc)).mp hheard)
  rcases h.attempts n with ⟨g, asked, hat, hg⟩ | hp
  · have hf : s.future (.connect n) = g.connectFuture := hg.connectFuture
    have hgacc : g.accepted = true := hg.accepted.symm.trans hacc
    have htold : g.told = true := by
      have hat : (s.attempt n).pc.At n g := hat
      cases hpc : (s.attempt n).pc <;> simp only [hpc, Pc.At] at hat
      case accepting => simp [Heard, hacc, hpc, hcalled] at hheard
      case inOnConnect => rw [hat]; rfl
      all_goals
        first
        | subst hat
          cases hgacc
        | rcases hat with rfl | rfl <;> first | rfl | cases hgacc
    rw [hf, Stage.connectFuture, htold]
    rfl
  · cases hpc : (s.attempt n).pc <;> simp only [Past, State.view, hpc, hacc] at hp
    case unused => simp [hp.1] at hcalled
    case failing => exact absurd (hacc.symm.trans hp.2.1) (by simp)
    case finishing =>
        obtain ⟨_, _, _, _, ho⟩ := hp
        exact congrArg Future.outcome ho.connectFuture
    case inOnDisconnect =>
        obtain ⟨_, _, _, ho⟩ := hp
        exact congrArg Future.outcome ho.connectFuture
    case ended =>
        rcases hp with ⟨_, hnot, _⟩ | ⟨_, _, ho⟩
        · exact absurd (hacc.symm.trans hnot) (by simp)
        · exact congrArg Future.outcome ho.connectFuture

/-- The callback protocol of a handler, provided that pings and errors only arrive on
connections that have been established. -/
theorem lifecycleSpec_run {amender : Bool} {as : List Action} {s : State} {n : Nat}
    (hrun : run (step amender) init as = some s)
    (hall : AllSteps (step amender) OnlyEstablished init as) : LifecycleSpec s n := by
  have hI := inv_run hrun
  have hheard := heard_run (n := n) hrun hall
  refine ⟨hheard.callbacks, hI.called hheard, ?_, ?_⟩
  · intro hpc
    have hf := (hI.ended hpc).1
    cases hacc : (s.attempt n).accepted with
    | false =>
        have hnil := (heard_of_not_accepted hacc).mp hheard
        simp [hf, hnil, hacc, connectOutcome]
    | true =>
        have hc : Complete (s.attempt n).callbacks := by simpa [Heard, hacc, hpc] using hheard
        simp [hf, hc.ne_nil, hacc, connectOutcome]
  · intro hpc
    have hf := (hI.ended hpc).1
    rw [hf, Option.some.injEq, connectOutcome_eq_ok]
    constructor
    · intro hc
      by_contra hacc
      exact hc.ne_nil ((heard_of_not_accepted (by simpa using hacc)).mp hheard)
    · intro hacc
      simpa [Heard, hacc, hpc] using hheard

/-- The messages that the native runtime delivers to an attempt. -/
def messages (n : Nat) (as : List Action) : List Message :=
  as.filterMap fun
    | .protocolMessage k m => if k = n then some m else none
    | _ => none

/-- The first message of every attempt is a CONNECT_ACK. -/
def AckFirst (as : List Action) : Prop :=
  ∀ n, ∀ m ∈ (messages n as).head?, m.messageType = .connectAck

/-- A close before the CONNECT_ACK, and a ping after it: the handler is called, although the
connect future fails. -/
theorem not_lifecycleSpec_run :
    ¬∀ amender as s n, run (step amender) init as = some s → AckFirst as →
      LifecycleSpec s n := by
  intro h
  have hspec := h false
    [.connect none, .connectionSetup 1 none, .sendConnect 1 none, .close none,
      .protocolMessage 1 { messageType := .connectAck, flags := { connectionAccepted := true } },
      .protocolMessage 1 { messageType := .ping }, .returned 1 none, .connectionShutdown 1 none,
      .resume 1] _ 1 rfl ?_
  · have hcalled : some (outcomeOf (some setupClosed)) = some (.ok ()) := hspec.called (by decide)
    cases hcalled
  · intro n
    by_cases hn : 1 = n <;> simp [messages, hn]

/-- A connection that is accepted, pinged and closed. -/
theorem lifecycleSpec_run_ping :
    let as : List Action :=
      [.connect none, .connectionSetup 1 none, .sendConnect 1 none,
        .protocolMessage 1 { messageType := .connectAck, flags := { connectionAccepted := true } },
        .resume 1, .returned 1 none, .protocolMessage 1 { messageType := .ping },
        .returned 1 none, .close none, .connectionShutdown 1 none, .resume 1, .returned 1 none]
    ∃ s, run (step false) init as = some s ∧ LifecycleSpec s 1 := by
  intro as
  obtain ⟨s, hs⟩ : ∃ s, run (step false) init as = some s := ⟨_, rfl⟩
  exact ⟨s, hs, lifecycleSpec_run hs (by decide)⟩

end IotCore.EventStream.Connection
