import IotCore.Verification.EventStream.Invariant

/-! # Every step of a connection is a move

Each block of the code, run from a state that satisfies the invariant, is one of the moves. -/

namespace IotCore.EventStream.Connection

/-! ## Steps are moves -/

/-- The state after a native connect has been started. -/
def State.started (s : State) : State :=
  let n := s.connects + 1
  { s.put n { s.view n with
      synced := (Stage.opening false).synced n none
      attempt := { s.attempt n with pc := .connecting } } with connects := n }

/-- What one step does: nothing, one move, or the start of an attempt. -/
inductive StepCases (s : State) (a : Action) : State → Prop where
  | same : StepCases s a s
  | move {n v} (h : Move n (s.view n) a v) : StepCases s a (s.put n v)
  | started (ha : a = .connect none) (hidle : s.synced.currentHandler = none) :
      StepCases s a s.started
  | refused {e} (ha : a = .connect (some e)) (hidle : s.synced.currentHandler = none) :
      StepCases s a { s with connects := s.connects + 1 }

theorem stepCases_modify {s : State} {a : Action} {n : Nat} {f : Attempt → Attempt}
    (h : Move n (s.view n) a { s.view n with attempt := f (s.attempt n) }) :
    StepCases s a (s.modify n f) := by
  rw [State.modify_eq_put]
  exact .move h

theorem Pc.At.base {n : Nat} {pc : Pc} {g : Stage} (h : pc.At n g) :
    g.base ≠ .disconnected ∧ g.base ≠ .disconnecting := by
  cases pc <;> simp only [Pc.At] at h
  case connecting | amending | sending | inOnConnect =>
      subst h
      simp [Stage.opening, Stage.established]
  case sendFailed | «open» | inOnPing | inOnError | closing =>
      rcases h with rfl | rfl <;> simp [Stage.opening, Stage.waiting, Stage.established]
  case accepting =>
      obtain ⟨_, rfl⟩ := h
      simp [Stage.established]

/-- The thread of an attempt that has no past is at a stage. -/
theorem Inv.stage {s : State} {n : Nat} (h : Inv s) (hpast : ¬Past n (s.view n)) :
    ∃ g asked, (s.attempt n).pc.At n g ∧ Serving n (s.view n) g asked :=
  (h.attempts n).resolve_right hpast

theorem Inv.opening {s : State} {n : Nat} (h : Inv s) (hpast : ¬Past n (s.view n))
    (hat : ∀ g, (s.attempt n).pc.At n g → g = .opening false) :
    ∃ asked, Serving n (s.view n) (.opening false) asked := by
  obtain ⟨g, asked, hg, hs⟩ := h.stage hpast
  rw [hat g hg] at hs
  exact ⟨asked, hs⟩

/-- The state is DISCONNECTED exactly when no attempt is current. -/
theorem Inv.disconnected_iff {s : State} (h : Inv s) :
    s.synced.state = .disconnected ↔ s.synced.currentHandler = none := by
  cases hcur : s.synced.currentHandler with
  | none =>
      obtain ⟨n, hsy, _⟩ := h.idle hcur
      simp [hsy, Synced.free]
  | some n =>
      obtain ⟨g, asked, hat, hg⟩ := (h.attempts n).serving hcur
      have hsy : s.synced = g.synced n asked := hg.synced
      cases asked <;> simp [hsy, Stage.synced, hat.base]

theorem stepCases_connect {s : State} {native : Option Exn} (h : Inv s) :
    StepCases s (.connect native) (connect s native).1 := by
  by_cases hstate : s.synced.state = .disconnected
  · have hnone := h.disconnected_iff.mp hstate
    obtain ⟨n, hsy, _⟩ := h.idle hnone
    cases native with
    | none =>
        have he : (connect s none).1 = s.started := by
          simp [connect, State.started, State.put, State.view, State.modify, hsy, Stage.synced,
            Stage.opening, Synced.free]
        rw [he]
        exact .started rfl hnone
    | some e =>
        have he : (connect s (some e)).1 = { s with connects := s.connects + 1 } := by
          simp [connect, hsy, Synced.free]
        rw [he]
        exact .refused rfl hnone
  · simp only [connect, hstate, ne_eq, not_false_eq_true, ↓reduceIte]
    exact .same

/-- What `close` does: nothing, or the move of the attempt that is the current one. -/
theorem close_cases {s : State} (reason : Option Exn) (h : Inv s) :
    (close s reason).1 = s ∧
        (s.synced.currentHandler = none ∨ s.synced.state = .disconnecting) ∨
      ∃ n g, (s.attempt n).pc.At n g ∧ Serving n (s.view n) g none ∧
        (close s reason).1 = s.put n
          { s.view n with
            synced := g.synced n (some reason)
            attempt :=
              if g.joined then
                { s.attempt n with closeCalls := (s.attempt n).closeCalls + 1 }
              else s.attempt n } := by
  cases hcur : s.synced.currentHandler with
  | none =>
      have hstate := h.disconnected_iff.mpr hcur
      left
      simp [close, hstate]
  | some n =>
      obtain ⟨g, asked, hat, hg⟩ := (h.attempts n).serving hcur
      have hsy : s.synced = g.synced n asked := hg.synced
      cases asked with
      | some r =>
          left
          simp [close, hsy, Stage.synced]
      | none =>
          right
          refine ⟨n, g, hat, hg, ?_⟩
          have hstate : s.synced.state = g.base := by simp [hsy, Stage.synced]
          have hne := hat.base
          cases hj : g.joined <;> cases hb : g.base <;>
            simp_all [close, Stage.synced, State.put, State.view, State.modify]

theorem stepCases_close {s : State} {reason : Option Exn} (h : Inv s) :
    StepCases s (.close reason) (close s reason).1 := by
  rcases close_cases reason h with ⟨he, _⟩ | ⟨n, g, hat, hg, he⟩
  · rw [he]; exact .same
  · rw [he]; exact .move (.closed g reason hat hg)

theorem stepCases_transmit {s s' : State} {a : Action} (result : Except Exn Unit)
    (native : Option Exn) {m : Sent} (h : Inv s)
    (ha : native = none → (∃ data messageType, a = .sendProtocolMessage data messageType none) ∨
      a = .newStream none)
    (hs : (s', result) =
      if s.synced.state ≠ .connected then (s, .error (.connectionClosedError []))
      else
        match s.synced.currentConnection, native with
        | none, _ => (s, .error .attributeError)
        | some _, some e => (s, .error e)
        | some c, none => (s.send c m, .ok ())) :
    StepCases s a s' := by
  by_cases hstate : s.synced.state = .connected
  · cases hcur : s.synced.currentHandler with
    | none =>
        obtain ⟨n, hsy, _⟩ := h.idle hcur
        simp [hsy, Synced.free] at hstate
    | some n =>
        obtain ⟨g, asked, hat, hg⟩ := (h.attempts n).serving hcur
        have hsy : s.synced = g.synced n asked := hg.synced
        cases asked with
        | some r => simp [hsy, Stage.synced] at hstate
        | none =>
            have hbase : g.base = .connected := by simpa [hsy, Stage.synced] using hstate
            cases native with
            | some e =>
                have he : s' = s := by
                  cases hj : g.joined <;> simp_all [Stage.synced]
                rw [he]; exact .same
            | none =>
                cases hj : g.joined with
                | false =>
                    have he : s' = s := by simp_all [Stage.synced]
                    rw [he]; exact .same
                | true =>
                    have he : s' = s.send n m := by simp_all [Stage.synced]
                    rw [he]
                    exact stepCases_modify (.transmitted g m hat hg hbase (ha rfl))
  · simp only [hstate, ne_eq, not_false_eq_true, ↓reduceIte, Prod.mk.injEq] at hs
    rw [hs.1]; exact .same

theorem stepCases_sendProtocolMessage {s : State} {data : Option MessageAmendment}
    {messageType : MessageType} {native : Option Exn} (h : Inv s) :
    StepCases s (.sendProtocolMessage data messageType native)
      (sendProtocolMessage s data messageType native).1 := by
  apply stepCases_transmit (sendProtocolMessage s data messageType native).2 native h
  · rintro rfl
    exact .inl ⟨_, _, rfl⟩
  · rfl

theorem stepCases_newStream {s : State} {native : Option Exn} (h : Inv s) :
    StepCases s (.newStream native) (newStream s native).1 := by
  apply stepCases_transmit (newStream s native).2 native h
  · rintro rfl
    exact .inr rfl
  · rfl

/-! ### Setup -/

theorem stepCases_setupFailed {s : State} {n : Nat} {e : Exn} (h : Inv s)
    (hpc : (s.attempt n).pc = .connecting) :
    StepCases s (.connectionSetup n (some e)) (setupFailed s n e) := by
  obtain ⟨asked, hg⟩ := h.opening (n := n) (by simp [Past, State.view, hpc])
    (fun g hat => by simpa [hpc, Pc.At] using hat)
  have hsy : s.synced = (Stage.opening false).synced n asked := hg.synced
  have hclosed : s.future (.closed n) = .pending := hg.closedFuture
  have hconnect : Function.update s.future (.connect n) .pending = s.future :=
    Function.update_eq_self_iff.mpr hg.connectFuture.symm
  have he : setupFailed s n e = s.put n
      ⟨.free n, { s.attempt n with setupError := some e, pc := .failing (some (.connect n)) e },
        .pending, .completed (.error e)⟩ := by
    simp [setupFailed, State.put, State.modify, State.setFuture, hsy, Stage.synced, hclosed,
      hconnect, Synced.free, Stage.opening]
  rw [he]
  exact .move (.setupFailed asked e hpc hg)

theorem stepCases_sendConnect {s : State} {n : Nat} {amendment : MessageAmendment}
    {native : Option Exn} (h : Inv s) (hpc : (s.attempt n).pc = .sending amendment) :
    StepCases s (.sendConnect n native) (sendConnect s n amendment native) := by
  obtain ⟨asked, hg⟩ := h.opening (n := n) (by simp [Past, State.view, hpc])
    (fun g hat => by simpa [hpc, Pc.At] using hat)
  have hsy : s.synced = (Stage.opening false).synced n asked := hg.synced
  cases asked with
  | some reason =>
      have he : sendConnect s n amendment native = s.put n
          { s.view n with
            synced := Stage.waiting.synced n (some reason)
            attempt :=
              { s.attempt n with closeCalls := (s.attempt n).closeCalls + 1, pc := .open } } := by
        simp [sendConnect, State.put, State.modify, State.view, hsy, Stage.synced, Stage.opening,
          Stage.waiting]
      rw [he]
      exact .move (.sendClosed amendment reason native hpc hg)
  | none =>
      cases native with
      | some e =>
          have he : sendConnect s n amendment (some e) = s.put n
              { s.view n with
                synced := (Stage.opening true).synced n none
                attempt := { s.attempt n with pc := .sendFailed e } } := by
            simp [sendConnect, State.put, State.modify, State.view, hsy, Stage.synced,
              Stage.opening]
          rw [he]
          exact .move (.sendRaised amendment e hpc hg)
      | none =>
          have he : sendConnect s n amendment none = s.put n
              { s.view n with
                synced := Stage.waiting.synced n none
                attempt :=
                  { s.attempt n with
                    sent := (s.attempt n).sent ++
                      [.message .connect (some (connectHeaders amendment)) amendment.payload]
                    pc := .open } } := by
            simp [sendConnect, State.put, State.modify, State.view, hsy, Stage.synced,
              Stage.opening, Stage.waiting]
          rw [he]
          exact .move (.sent amendment hpc hg)

theorem stepCases_setupExcept {s : State} {n : Nat} {e : Exn} (h : Inv s)
    (hpc : (s.attempt n).pc = .sendFailed e) :
    StepCases s (.resume n) (setupExcept s n e) := by
  obtain ⟨g, asked, hat, hg⟩ := h.stage (n := n) (by simp [Past, State.view, hpc])
  rw [hpc] at hat
  have hjoined : ∃ joined, g = .opening joined := by
    rcases hat with rfl | rfl <;> exact ⟨_, rfl⟩
  obtain ⟨joined, rfl⟩ := hjoined
  have hsy : s.synced = (Stage.opening joined).synced n asked := hg.synced
  have he : setupExcept s n e = s.put n
      { s.view n with
        synced := Stage.waiting.synced n (some (some e))
        attempt :=
          { s.attempt n with closeCalls := (s.attempt n).closeCalls + 1, pc := .open } } := by
    simp [setupExcept, State.put, State.modify, State.view, hsy, Stage.synced, Stage.opening,
      Stage.waiting]
  rw [he]
  exact .move (.setupExcept joined asked e hpc hg)

/-! ### Messages and shutdown -/

theorem stepCases_connectAck {s : State} {n : Nat} {m : Message} (h : Inv s)
    (hpc : (s.attempt n).pc = .open) (hm : m.messageType = .connectAck) :
    StepCases s (.protocolMessage n m) (connectAck s n m.flags) := by
  obtain ⟨g, asked, hat, hg⟩ := h.stage (n := n) (by simp [Past, State.view, hpc])
  rw [hpc] at hat
  have hsy : s.synced = g.synced n asked := hg.synced
  by_cases hwait : s.synced.state = .waitingForConnectAck
  · have hw : g = .waiting ∧ asked = none := by
      rcases hat with rfl | rfl <;> cases asked <;>
        simp_all [Stage.synced, Stage.waiting, Stage.established]
    obtain ⟨rfl, rfl⟩ := hw
    cases hf : m.flags.connectionAccepted with
    | true =>
        have he : connectAck s n m.flags = s.put n
            { s.view n with
              synced := (Stage.established false).synced n none
              attempt := { s.attempt n with accepted := true, pc := .accepting (.connect n) } } := by
          simp [connectAck, hf, State.put, State.modify, State.view, hsy, Stage.synced,
            Stage.waiting, Stage.established]
        rw [he]
        exact .move (.acked m hpc hm hf hg)
    | false =>
        have he : connectAck s n m.flags = s.put n
            { s.view n with
              synced := Stage.waiting.synced n (some (some accessDenied))
              attempt := { s.attempt n with closeCalls := (s.attempt n).closeCalls + 1 } } := by
          simp [connectAck, hf, State.put, State.modify, State.view, hsy, Stage.synced,
            Stage.waiting]
        rw [he]
        exact .move (.rejected m hpc hm hf hg)
  · simp only [connectAck, hwait, ne_eq, not_false_eq_true, ↓reduceIte]
    exact .same

theorem stepCases_protocolMessage {s : State} {n : Nat} {m : Message} (h : Inv s)
    (hpc : (s.attempt n).pc = .open) :
    StepCases s (.protocolMessage n m) (protocolMessage s n m) := by
  cases hm : m.messageType with
  | connectAck => simpa only [protocolMessage, hm] using stepCases_connectAck h hpc hm
  | ping =>
      simp only [protocolMessage, hm]
      exact stepCases_modify (.pinged m hpc hm)
  | protocolError | internalError =>
      have hmove := Move.failed (n := n) (v := s.view n) m hpc (by simp [hm])
      rw [hm] at hmove
      simp only [protocolMessage, hm]
      exact stepCases_modify hmove
  | applicationMessage | applicationError | pingResponse | connect =>
      simp only [protocolMessage, hm]
      exact .same

theorem stepCases_connectionShutdown {s : State} {n : Nat} {native : Option Exn} (h : Inv s)
    (hpc : (s.attempt n).pc = .open) :
    StepCases s (.connectionShutdown n native) (connectionShutdown s n native) := by
  obtain ⟨g, asked, hat, hg⟩ := h.stage (n := n) (by simp [Past, State.view, hpc])
  have hsy : s.synced = g.synced n asked := hg.synced
  have hclosed : s.future (.closed n) = .pending := hg.closedFuture
  have hconnect : Function.update s.future (.connect n) g.connectFuture = s.future :=
    Function.update_eq_self_iff.mpr hg.connectFuture.symm
  have he : connectionShutdown s n native = s.put n
      ⟨.free n,
        { s.attempt n with
          shutdown := some (native, asked.join)
          pc := .finishing (if g.accepted then none else some (.connect n))
            (native.or asked.join) },
        g.connectFuture, .completed (outcomeOf (native.or asked.join))⟩ := by
    simp [connectionShutdown, State.put, State.modify, State.setFuture, hsy, Stage.synced,
      hclosed, hconnect, Synced.free]
  rw [he]
  exact .move (.shutdown g asked native hpc hat hg)

/-! ### The handler between two blocks -/

theorem Inv.past {s : State} {n : Nat} (h : Inv s)
    (hat : ∀ g, ¬(s.attempt n).pc.At n g) : Past n (s.view n) := by
  rcases h.attempts n with ⟨g, _, hg, _⟩ | hp
  · exact absurd hg (hat g)
  · exact hp

/-- Completing the connect future of an attempt touches nothing else. -/
theorem setFuture_connect_eq_put {s : State} {n : Nat} {o : Except Exn Unit}
    (hf : s.future (.connect n) = .pending) :
    s.setFuture (.connect n) o = s.put n { s.view n with connectFuture := .completed o } := by
  simp [State.setFuture, State.put, State.view, hf]

theorem stepCases_toldFailed {s : State} {n : Nat} {f : Option FutureId} {e : Exn} (h : Inv s)
    (hpc : (s.attempt n).pc = .failing f e) :
    f = some (.connect n) ∧
      StepCases s (.resume n) ((s.setFuture (.connect n) (.error e)).goto n .ended) := by
  have hp := h.past (n := n) (by simp [hpc, Pc.At])
  simp only [Past, State.view, hpc] at hp
  obtain ⟨rfl, _, ho⟩ := hp
  refine ⟨rfl, ?_⟩
  have he : (s.setFuture (.connect n) (.error e)).goto n .ended = s.put n
      { s.view n with
        attempt := { s.attempt n with pc := .ended }
        connectFuture := .completed (.error e) } := by
    rw [setFuture_connect_eq_put ho.connectFuture]
    simp [State.put, State.modify, State.view]
  rw [he]
  exact .move (.toldFailed e hpc ho.connectFuture)

theorem stepCases_finishing {s s' : State} {n : Nat} {f : Option FutureId}
    {reason : Option Exn} (h : Inv s) (hpc : (s.attempt n).pc = .finishing f reason)
    (hs : resume s n = some s') : StepCases s (.resume n) s' := by
  have hp := h.past (n := n) (by simp [hpc, Pc.At])
  simp only [Past, State.view, hpc] at hp
  obtain ⟨native, recorded, _, hf, ho⟩ := hp
  cases hacc : (s.attempt n).accepted with
  | true =>
      obtain rfl : f = none := by simpa [hacc] using hf
      simp only [resume, hpc, Option.some.injEq] at hs
      rw [← hs]
      exact stepCases_modify (.disconnected reason hpc)
  | false =>
      have hfut : s.future (.connect n) = .pending := by simpa [hacc] using ho.connectFuture
      obtain rfl : f = some (.connect n) := by simpa [hacc] using hf
      simp only [resume, hpc, Option.some.injEq] at hs
      rw [← hs, setFuture_connect_eq_put hfut]
      have hmove := Move.toldShutdown (n := n) (v := s.view n) reason hpc hfut
      have he := StepCases.move (s := s) hmove
      simpa [State.put, State.modify, State.view] using he

theorem stepCases_accepting {s s' : State} {n : Nat} {f : FutureId} (h : Inv s)
    (hpc : (s.attempt n).pc = .accepting f) (hs : resume s n = some s') :
    StepCases s (.resume n) s' := by
  obtain ⟨g, asked, hat, hg⟩ := h.stage (n := n) (by simp [Past, State.view, hpc])
  rw [hpc] at hat
  obtain ⟨rfl, rfl⟩ := hat
  have hfut : s.future (.connect n) = .pending := hg.connectFuture
  simp only [resume, hpc, hfut, Future.done_pending, Bool.false_eq_true, ↓reduceIte,
    Option.some.injEq] at hs
  rw [← hs, setFuture_connect_eq_put hfut]
  have he := StepCases.move (s := s) (Move.toldAccepted asked hpc hg)
  simpa [State.put, State.modify, State.view] using he

theorem stepCases_closing {s : State} {n : Nat} {e : Exn} (h : Inv s)
    (hpc : (s.attempt n).pc = .closing e) :
    StepCases s (.resume n) ((close s (some e)).1.goto n .open) := by
  obtain ⟨g, asked, hat, hg⟩ := h.stage (n := n) (by simp [Past, State.view, hpc])
  rcases close_cases (some e) h with ⟨he, hquiet⟩ | ⟨m, g', hat', hg', he⟩
  · cases asked with
    | some reason =>
        rw [he]
        exact stepCases_modify (.closedAgain e g reason hpc hat hg)
    | none =>
        have hsy : s.synced = g.synced n none := hg.synced
        simp [hsy, Stage.synced, hat.base] at hquiet
  · have hnm : m = n := by
      have h1 : s.synced.currentHandler = some m := hg'.current
      have h2 : s.synced.currentHandler = some n := hg.current
      simpa [h1] using h2
    subst hnm
    have hj : g'.joined = true := by
      rw [hpc] at hat'
      rcases hat' with rfl | rfl <;> rfl
    have hc := StepCases.move (s := s) (.closedSelf e g' hpc hat' hg')
    rw [he]
    simpa [hj, State.put, State.modify, State.view] using hc

theorem stepCases_resume {s s' : State} {n : Nat} (h : Inv s) (hs : resume s n = some s') :
    StepCases s (.resume n) s' := by
  cases hpc : (s.attempt n).pc with
  | failing f e =>
      obtain ⟨rfl, hstep⟩ := stepCases_toldFailed h hpc
      simp only [resume, hpc, Option.some.injEq] at hs
      rw [← hs]
      exact hstep
  | sendFailed e =>
      simp only [resume, hpc, Option.some.injEq] at hs
      rw [← hs]
      exact stepCases_setupExcept h hpc
  | accepting f => exact stepCases_accepting h hpc hs
  | closing e =>
      simp only [resume, hpc, Option.some.injEq] at hs
      rw [← hs]
      exact stepCases_closing h hpc
  | finishing f reason => exact stepCases_finishing h hpc hs
  | unused | connecting | amending | sending | «open» | inOnConnect | inOnPing | inOnError
  | inOnDisconnect | ended => simp [resume, hpc] at hs

/-! ### User code -/

theorem stepCases_returned {s s' : State} {n : Nat} {value : Option Bool}
    (hs : returned s n value = some s') : StepCases s (.returned n value) s' := by
  have goto : ∀ {pc}, Goto n (s.attempt n).pc (.returned n value) pc →
      StepCases s (.returned n value) (s.goto n pc) := fun hgoto => stepCases_modify (.goto hgoto)
  cases hpc : (s.attempt n).pc <;> simp only [returned, hpc, Option.some.injEq] at hs
  case inOnConnect =>
      rw [← hs]
      exact goto (by rw [hpc]; exact .connectReturned value)
  case inOnPing =>
      rw [← hs]
      exact goto (by rw [hpc]; exact .pingReturned value)
  case inOnError error =>
      by_cases hv : value = some false
      · subst hv
        simp only [↓reduceIte, Option.some.injEq] at hs
        rw [← hs]
        exact goto (by rw [hpc]; exact .errorKept error)
      · simp only [hv, ↓reduceIte, Option.some.injEq] at hs
        rw [← hs]
        exact goto (by rw [hpc]; exact .errorReturned error value hv)
  case inOnDisconnect =>
      rw [← hs]
      exact goto (by rw [hpc]; exact .disconnectReturned value)
  all_goals cases hs

theorem stepCases_raised {s s' : State} {n : Nat} {e : Exn}
    (hs : raised s n e = some s') : StepCases s (.raised n e) s' := by
  have goto : ∀ {pc}, Goto n (s.attempt n).pc (.raised n e) pc →
      StepCases s (.raised n e) (s.goto n pc) := fun hgoto => stepCases_modify (.goto hgoto)
  cases hpc : (s.attempt n).pc <;> simp only [raised, hpc, Option.some.injEq] at hs
  case amending =>
      rw [← hs]
      exact goto (by rw [hpc]; exact .amenderRaised e)
  case inOnConnect =>
      rw [← hs]
      exact goto (by rw [hpc]; exact .connectRaised e)
  case inOnPing =>
      rw [← hs]
      exact goto (by rw [hpc]; exact .pingRaised e)
  case inOnError error =>
      rw [← hs]
      exact goto (by rw [hpc]; exact .errorRaised error e)
  case inOnDisconnect =>
      rw [← hs]
      exact goto (by rw [hpc]; exact .disconnectRaised e)
  all_goals cases hs

/-! ## The step relation -/

theorem step_cases {amender : Bool} {s s' : State} {a : Action} (h : Inv s)
    (hs : step amender s a = some s') : StepCases s a s' := by
  cases a with
  | connect native =>
      obtain rfl : (connect s native).1 = s' := by simpa [step] using hs
      exact stepCases_connect h
  | close reason =>
      obtain rfl : (close s reason).1 = s' := by simpa [step] using hs
      exact stepCases_close h
  | sendProtocolMessage data messageType native =>
      obtain rfl : (sendProtocolMessage s data messageType native).1 = s' := by
        simpa [step] using hs
      exact stepCases_sendProtocolMessage h
  | newStream native =>
      obtain rfl : (newStream s native).1 = s' := by simpa [step] using hs
      exact stepCases_newStream h
  | connectionSetup n error =>
      simp only [step, ne_eq, ite_not, Option.ite_none_right_eq_some] at hs
      obtain ⟨hpc, hs⟩ := hs
      cases error with
      | some e =>
          obtain rfl : setupFailed s n e = s' := by simpa using hs
          exact stepCases_setupFailed h hpc
      | none =>
          obtain rfl : s.goto n (if amender then .amending else .sending {}) = s' := by
            simpa using hs
          refine stepCases_modify (.goto ?_)
          rw [show (s.view n).attempt.pc = .connecting from hpc]
          cases amender
          · exact .setup _ (.inr rfl)
          · exact .setup _ (.inl rfl)
  | amended n amendment =>
      simp only [step, Option.ite_none_right_eq_some, Option.some.injEq] at hs
      obtain ⟨hpc, rfl⟩ := hs
      refine stepCases_modify (.goto ?_)
      rw [show (s.view n).attempt.pc = .amending from hpc]
      exact .amended amendment
  | sendConnect n native =>
      cases hpc : (s.attempt n).pc <;> simp only [step, hpc] at hs <;> try cases hs
      exact stepCases_sendConnect h hpc
  | protocolMessage n m =>
      simp only [step, Option.ite_none_right_eq_some, Option.some.injEq] at hs
      obtain ⟨hpc, rfl⟩ := hs
      exact stepCases_protocolMessage h hpc
  | connectionShutdown n reason =>
      simp only [step, Option.ite_none_right_eq_some, Option.some.injEq] at hs
      obtain ⟨hpc, rfl⟩ := hs
      exact stepCases_connectionShutdown h hpc
  | returned n value => exact stepCases_returned hs
  | raised n e => exact stepCases_raised hs
  | resume n => exact stepCases_resume h hs

end IotCore.EventStream.Connection
