import IotCore.Verification.EventStream.Runs

/-! # What is sent on a native connection

CONNECT is sent at most once and first. Everything else is sent by calls of user code, on
the native connection of the current attempt and only while it is open for them. -/

namespace IotCore.EventStream.Connection

open Machine

/-! ## Messages of one attempt -/

def connectMessage (amendment : MessageAmendment) : Sent :=
  .message .connect (some (connectHeaders amendment)) amendment.payload

/-- The thread of the attempt has not come to the block that sends CONNECT. -/
def Pc.isOpening : Pc → Bool
  | .unused | .connecting | .amending | .sending _ => true
  | _ => false

/-- What has been sent and closed by the place of the thread and by the shared fields. -/
structure Sends (n : Nat) (v : View) : Prop where
  opening : v.attempt.pc.isOpening → v.attempt.sent = []
  silent : v.attempt.accepted = false →
    v.attempt.sent = [] ∨ ∃ amendment, v.attempt.sent = [connectMessage amendment]
  accepted : v.attempt.accepted = true →
    ∃ amendment rest, v.attempt.sent = connectMessage amendment :: rest
  waiting : v.synced.currentHandler = some n → v.synced.state = .waitingForConnectAck →
    v.attempt.sent ≠ []
  unclosed : v.synced.currentHandler = some n → v.synced.state ≠ .disconnecting →
    v.attempt.closeCalls = 0

theorem Sends.frame {n : Nat} {v : View} {sy : Synced} (h : Sends n v)
    (hsy : sy.currentHandler ≠ some n) : Sends n { v with synced := sy } :=
  ⟨h.opening, h.silent, h.accepted, fun hcur => absurd hcur hsy, fun hcur => absurd hcur hsy⟩

/-- A move that sends nothing, closes nothing and accepts nothing. -/
theorem Sends.keep {n : Nat} {v : View} {a : Attempt} (h : Sends n v)
    (hopening : a.pc.isOpening → v.attempt.pc.isOpening) (hsent : a.sent = v.attempt.sent)
    (hacc : a.accepted = v.attempt.accepted) (hclose : a.closeCalls = v.attempt.closeCalls) :
    Sends n { v with attempt := a } where
  opening := fun ho => hsent.trans (h.opening (hopening ho))
  silent := fun ha => by simpa only [hsent] using h.silent (hacc.symm.trans ha)
  accepted := fun ha => by simpa only [hsent] using h.accepted (hacc.symm.trans ha)
  waiting := fun hcur hstate => by simpa only [hsent] using h.waiting hcur hstate
  unclosed := fun hcur hstate => hclose.trans (h.unclosed hcur hstate)

/-- A move that leaves the attempt closing or past. -/
theorem Sends.stop {n : Nat} {v v' : View} (h : Sends n v)
    (hpc : v'.attempt.pc.isOpening → v.attempt.pc.isOpening)
    (hsent : v'.attempt.sent = v.attempt.sent) (hacc : v'.attempt.accepted = v.attempt.accepted)
    (hstate : v'.synced.state = .disconnecting ∨ v'.synced.currentHandler = none) :
    Sends n v' where
  opening := fun ho => hsent.trans (h.opening (hpc ho))
  silent := fun ha => by simpa only [hsent] using h.silent (hacc.symm.trans ha)
  accepted := fun ha => by simpa only [hsent] using h.accepted (hacc.symm.trans ha)
  waiting := by
    intro hcur hwait
    rcases hstate with hstate | hnone
    · rw [hstate] at hwait
      cases hwait
    · rw [hnone] at hcur
      cases hcur
  unclosed := by
    intro hcur hopen
    rcases hstate with hstate | hnone
    · exact absurd hstate hopen
    · rw [hnone] at hcur
      cases hcur

theorem Goto.isOpening {n : Nat} {pc pc' : Pc} {a : Action} (h : Goto n pc a pc')
    (ho : pc'.isOpening) : pc.isOpening := by
  cases h <;> first | rfl | cases ho

theorem Move.sends {n : Nat} {v v' : View} {a : Action} (hmove : Move n v a v')
    (h : Sends n v) : Sends n v' := by
  cases hmove with
  | goto hgoto => exact h.keep hgoto.isOpening rfl rfl rfl
  | setupFailed asked e hpc hg => exact h.stop (by simp [Pc.isOpening]) rfl rfl (.inr rfl)
  | sendClosed amendment reason native hpc hg =>
      exact h.stop (by simp [Pc.isOpening]) rfl rfl (.inl rfl)
  | sendRaised amendment e hpc hg =>
      have hclosed := h.unclosed hg.current (by simp [hg.synced, Stage.synced, Stage.opening])
      refine ⟨by simp [Pc.isOpening], h.silent, h.accepted, fun _ hwait => ?_, fun _ _ => hclosed⟩
      simp [Stage.synced, Stage.opening] at hwait
  | sent amendment hpc hg =>
      have hclosed := h.unclosed hg.current (by simp [hg.synced, Stage.synced, Stage.opening])
      have hnil : v.attempt.sent = [] := h.opening (by rw [hpc]; rfl)
      have hacc : v.attempt.accepted = false := hg.accepted
      refine ⟨by simp [Pc.isOpening], fun _ => .inr ⟨amendment, by simp [hnil, connectMessage]⟩,
        fun ha => ?_, fun _ _ => by simp, fun _ _ => hclosed⟩
      rw [hacc] at ha
      cases ha
  | setupExcept joined asked e hpc hg =>
      exact h.stop (by simp [Pc.isOpening]) rfl rfl (.inl rfl)
  | acked m hpc hm hf hg =>
      have hsy : v.synced = Stage.waiting.synced n none := hg.synced
      have hclosed := h.unclosed hg.current (by simp [hsy, Stage.synced, Stage.waiting])
      have hne := h.waiting hg.current (by simp [hsy, Stage.synced, Stage.waiting])
      have hacc : v.attempt.accepted = false := hg.accepted
      obtain ⟨amendment, hsent⟩ := (h.silent hacc).resolve_left hne
      refine ⟨by simp [Pc.isOpening], by simp, fun _ => ⟨amendment, [], hsent⟩,
        fun _ hwait => ?_, fun _ _ => hclosed⟩
      simp [Stage.synced, Stage.established] at hwait
  | rejected m hpc hm hf hg => exact h.stop id rfl rfl (.inl rfl)
  | pinged m hpc hm | failed m hpc hm | disconnected reason hpc =>
      exact h.keep (by simp [Pc.isOpening]) rfl rfl rfl
  | shutdown g asked native hpc hat hg => exact h.stop (by simp [Pc.isOpening]) rfl rfl (.inr rfl)
  | closedAgain e g reason hpc hat hg => exact h.keep (by simp [Pc.isOpening]) rfl rfl rfl
  | closedSelf e g hpc hat hg => exact h.stop (by simp [Pc.isOpening]) rfl rfl (.inl rfl)
  | closed g reason hat hg =>
      apply h.stop _ _ _ (.inl rfl) <;> cases g.joined <;> simp
  | transmitted g m hat hg hconn ha =>
      have hsy : v.synced = g.synced n none := hg.synced
      have hstate : v.synced.state = .connected := by simp [hsy, Stage.synced, hconn]
      have hclosed := h.unclosed hg.current (by simp [hstate])
      obtain ⟨told, rfl⟩ := hat.established (.inl hconn)
      have hacc : v.attempt.accepted = true := hg.accepted
      obtain ⟨amendment, rest, hsent⟩ := h.accepted hacc
      refine ⟨fun ho => ?_, fun ha => ?_, fun _ => ⟨amendment, rest ++ [m], by simp [hsent]⟩,
        fun _ _ => by simp, fun _ _ => hclosed⟩
      · have hnil := h.opening ho
        rw [hsent] at hnil
        cases hnil
      · have ha : v.attempt.accepted = false := ha
        rw [hacc] at ha
        cases ha
  | toldAccepted asked hpc hg =>
      exact ⟨by simp [Pc.isOpening], h.silent, h.accepted, h.waiting, h.unclosed⟩
  | toldFailed e hpc hf | toldShutdown reason hpc hf =>
      exact ⟨by simp [Pc.isOpening], h.silent, h.accepted, h.waiting, h.unclosed⟩

/-! ## Runs -/

theorem sends_init (n : Nat) : Sends n (init.view n) :=
  ⟨fun _ => rfl, fun _ => .inl rfl, by simp [State.view, init], by simp [State.view, init],
    by simp [State.view, init]⟩

theorem StepCases.sends {s s' : State} {a : Action} (hcases : StepCases s a s') (hI : Inv s)
    (h : ∀ n, Sends n (s.view n)) : ∀ n, Sends n (s'.view n) := by
  intro n
  cases hcases with
  | same => exact h n
  | @move k v hmove =>
      by_cases hn : n = k
      · subst hn
        rw [State.view_put]
        exact hmove.sends (h n)
      · rw [State.view_put_of_ne s v hn]
        rcases hmove.synced_of_ne hn with hsy | ⟨_, hcur⟩
        · rw [hsy]
          exact h n
        · exact (h n).frame hcur
  | started ha hidle =>
      by_cases hn : n = s.connects + 1
      · subst hn
        obtain ⟨hrec, _, _⟩ := hI.unused (Nat.lt_succ_self _)
        constructor <;> simp [State.started, State.put, State.view, hrec, Stage.synced,
          Stage.opening]
      · have hv : s.started.view n =
            { s.view n with synced := (Stage.opening false).synced (s.connects + 1) none } := by
          simp [State.started, State.put, State.view, hn]
        rw [hv]
        exact (h n).frame (by simpa [Stage.synced] using fun e => hn e.symm)
  | refused ha hidle => exact h n

theorem sends_run {amender : Bool} {s : State} {as : List Action}
    (h : run (step amender) init as = some s) : ∀ n, Sends n (s.view n) := by
  have hboth : Inv s ∧ ∀ n, Sends n (s.view n) := by
    refine run_invariant (I := fun s => Inv s ∧ ∀ n, Sends n (s.view n)) ?_ h
      ⟨inv_init, sends_init⟩
    rintro s a s' ⟨hI, hsends⟩ hs
    exact ⟨inv_step hI hs, (step_cases hI hs).sends hI hsends⟩
  exact hboth.2

/-! ## Calls of user code -/

/-- The native connection of the attempt is ready: its CONNECT_ACK was accepted, and it is
neither closed nor shut down. -/
structure Ready (s : State) (n : Nat) : Prop where
  current : s.synced.currentHandler = some n
  connection : s.synced.currentConnection = some n
  accepted : (s.attempt n).accepted = true
  unclosed : (s.attempt n).closeCalls = 0
  running : (s.attempt n).shutdown = none

/-- What a call that sends `m` does and returns. -/
structure CallSpec (s : State) (m : Sent) (native : Option Exn) (r : State × Except Exn Unit) :
    Prop where
  /-- some connection is ready: the message is handed to it, and it may refuse it -/
  ready : ∀ n, Ready s n →
    r = match native with
      | none => (s.send n m, .ok ())
      | some e => (s, .error e)
  otherwise : (∀ n, ¬Ready s n) → r = (s, .error (.connectionClosedError []))

theorem ready_of_connected {s : State} (hI : Inv s) (h : ∀ n, Sends n (s.view n))
    (hstate : s.synced.state = .connected) : ∃ n, Ready s n := by
  cases hcur : s.synced.currentHandler with
  | none =>
      have hstate' := hI.disconnected_iff.mpr hcur
      rw [hstate] at hstate'
      cases hstate'
  | some n =>
      obtain ⟨g, asked, hat, hg⟩ := (hI.attempts n).serving hcur
      have hsy : s.synced = g.synced n asked := hg.synced
      cases asked with
      | some reason => simp [hsy, Stage.synced] at hstate
      | none =>
          have hbase : g.base = .connected := by simpa [hsy, Stage.synced] using hstate
          obtain ⟨told, rfl⟩ := hat.established (.inl hbase)
          refine ⟨n, hcur, by simp [hsy, Stage.synced, Stage.established], hg.accepted, ?_,
            hg.shutdown⟩
          exact (h n).unclosed hcur (by simp [State.view, hstate])

theorem Ready.connected {s : State} {n : Nat} (h : Ready s n) (hI : Inv s) :
    s.synced.state = .connected := by
  obtain ⟨g, asked, hat, hg⟩ := (hI.attempts n).serving h.current
  have hsy : s.synced = g.synced n asked := hg.synced
  have hacc : g.accepted = true := hg.accepted.symm.trans h.accepted
  obtain ⟨told, rfl⟩ := hat.established (.inr hacc)
  cases asked with
  | none => simp [hsy, Stage.synced, Stage.established]
  | some reason =>
      have hpos : 0 < (s.attempt n).closeCalls := hg.closed rfl rfl
      rw [h.unclosed] at hpos
      cases hpos

theorem Ready.unique {s : State} {n k : Nat} (h : Ready s n) (hk : Ready s k) : n = k :=
  Option.some.inj (h.current.symm.trans hk.current)

/-- The two methods that send share their text up to what they hand to the connection. -/
theorem callSpec_of_eq {s : State} {m : Sent} {native : Option Exn} {r : State × Except Exn Unit}
    (hI : Inv s) (h : ∀ n, Sends n (s.view n))
    (hr : r =
      if s.synced.state ≠ .connected then (s, .error (.connectionClosedError []))
      else
        match s.synced.currentConnection, native with
        | none, _ => (s, .error .attributeError)
        | some _, some e => (s, .error e)
        | some c, none => (s.send c m, .ok ())) :
    CallSpec s m native r where
  ready := by
    intro n hn
    rw [hr, if_neg (by simp [hn.connected hI]), hn.connection]
    cases native <;> rfl
  otherwise := by
    intro hnone
    rw [hr, if_pos]
    intro hstate
    obtain ⟨n, hn⟩ := ready_of_connected hI h hstate
    exact hnone n hn

/-! ## A close before the socket is there -/

/-- Nothing has been sent on the connection of the attempt, and nothing will be. -/
structure Silenced (n : Nat) (v : View) : Prop where
  used : v.attempt.pc ≠ .unused
  sent : v.attempt.sent = []
  closing : v.synced.currentHandler = some n → v.synced.state = .disconnecting

theorem Serving.asked {n : Nat} {v : View} {g : Stage} (hg : Serving n v g none)
    (h : Silenced n v) : g.base = .disconnecting := by
  have hstate := h.closing hg.current
  rw [hg.synced] at hstate
  simpa [Stage.synced] using hstate

theorem Move.silenced {n : Nat} {v v' : View} {a : Action} (hmove : Move n v a v')
    (h : Silenced n v) : Silenced n v' := by
  cases hmove with
  | goto hgoto => exact ⟨hgoto.target, h.sent, h.closing⟩
  | sendRaised amendment e hpc hg | sent amendment hpc hg | acked m hpc hm hf hg
  | rejected m hpc hm hf hg => cases hg.asked h
  | transmitted g m hat hg hconn ha =>
      have hbase := hg.asked h
      rw [hconn] at hbase
      cases hbase
  | closed g reason hat hg => exact absurd (hg.asked h) hat.base.2
  | closedSelf e g hpc hat hg => exact absurd (hg.asked h) hat.base.2
  | setupFailed | shutdown => exact ⟨by simp, h.sent, by simp [Synced.free]⟩
  | sendClosed | setupExcept =>
      exact ⟨by simp, h.sent, fun _ => by simp [Stage.synced]⟩
  | _ => exact ⟨by simp, h.sent, h.closing⟩

theorem StepCases.silenced {s s' : State} {a : Action} {n : Nat} (hcases : StepCases s a s')
    (hI : Inv s) (h : Silenced n (s.view n)) : Silenced n (s'.view n) := by
  cases hcases with
  | same => exact h
  | @move k v hmove =>
      by_cases hn : n = k
      · subst hn
        rw [State.view_put]
        exact hmove.silenced h
      · rw [State.view_put_of_ne s v hn]
        refine ⟨h.used, h.sent, fun hcur => ?_⟩
        rcases hmove.synced_of_ne hn with hsy | ⟨_, hother⟩
        · rw [hsy] at hcur ⊢
          exact h.closing hcur
        · exact absurd hcur hother
  | started ha hidle =>
      have hn : n ≠ s.connects + 1 := by
        rintro rfl
        exact h.used (hI.fresh _ (Nat.lt_succ_self _))
      have hne : ¬s.connects + 1 = n := fun e => hn e.symm
      refine ⟨?_, ?_, ?_⟩
      · simpa [State.started, State.put, State.view, hn] using h.used
      · simpa [State.started, State.put, State.view, hn] using h.sent
      · simp [State.started, State.put, State.view, Stage.synced, hne]
  | refused ha hidle => exact h

/-- A close that comes before the block that sends CONNECT. -/
theorem silenced_close {s : State} {n : Nat} (reason : Option Exn) (hI : Inv s)
    (h : Sends n (s.view n)) (hcur : s.synced.currentHandler = some n)
    (hpc : (s.attempt n).pc.isOpening) : Silenced n ((close s reason).1.view n) := by
  have hsent : (s.attempt n).sent = [] := h.opening hpc
  have hused : (s.attempt n).pc ≠ .unused := by
    obtain ⟨g, asked, hat, _⟩ := (hI.attempts n).serving hcur
    intro hu
    simp only [State.view, hu, Pc.At] at hat
  rcases close_cases reason hI with ⟨he, hquiet⟩ | ⟨m, g, hat, hg, he⟩
  · rw [he]
    refine ⟨hused, hsent, fun _ => ?_⟩
    rcases hquiet with hnone | hstate
    · rw [hcur] at hnone
      cases hnone
    · exact hstate
  · obtain rfl : m = n := by
      have hm : s.synced.currentHandler = some m := hg.current
      exact Option.some.inj (hm.symm.trans hcur)
    rw [he, State.view_put]
    refine ⟨?_, ?_, fun _ => by simp [Stage.synced]⟩
    · cases g.joined <;> exact hused
    · cases g.joined <;> exact hsent

/-! ## The contract -/

/-- What is sent, for a run `as` that ends in `s`. -/
structure SendingSpec (amender : Bool) (as : List Action) (s : State) : Prop where
  message : ∀ data messageType native,
    CallSpec s (.message messageType (data.bind (·.headers)) (data.bind (·.payload))) native
      (sendProtocolMessage s data messageType native)
  stream : ∀ native, CallSpec s .stream native (newStream s native)
  ready : ∀ n k, Ready s n → Ready s k → n = k
  /-- before its CONNECT_ACK, a connection is sent at most the CONNECT message -/
  connect : ∀ n, (s.attempt n).accepted = false →
    (s.attempt n).sent = [] ∨ ∃ amendment, (s.attempt n).sent = [connectMessage amendment]
  /-- after a close that comes before its socket is established, it is sent nothing -/
  closedEarly : ∀ pre reason post s₀ n, as = pre ++ .close reason :: post →
    run (step amender) init pre = some s₀ → s₀.synced.currentHandler = some n →
    (s₀.attempt n).pc.isOpening → (s.attempt n).sent = []

/-- In every run, calls of user code send on the native connection that is ready and raise
`ConnectionClosedError` when none is. -/
theorem sendingSpec_run {amender : Bool} {as : List Action} {s : State}
    (h : run (step amender) init as = some s) : SendingSpec amender as s where
  message := fun data messageType native => callSpec_of_eq (inv_run h) (sends_run h) rfl
  stream := fun native => callSpec_of_eq (inv_run h) (sends_run h) rfl
  ready := fun n k hn hk => hn.unique hk
  connect := fun n => (sends_run h n).silent
  closedEarly := by
    rintro pre reason post s₀ n rfl hpre hcur hpc
    obtain ⟨s₁, hs₁, hrest⟩ := run_append_eq_some.mp h
    obtain rfl : s₀ = s₁ := Option.some.inj (hpre.symm.trans hs₁)
    obtain ⟨s₂, hs₂, hpost⟩ := run_cons_eq_some.mp hrest
    obtain rfl : (close s₀ reason).1 = s₂ := by simpa [step] using hs₂
    have hI := inv_run hpre
    have hstart := silenced_close reason hI (sends_run hpre n) hcur hpc
    have hboth : Inv s ∧ Silenced n (s.view n) := by
      refine run_invariant (I := fun s => Inv s ∧ Silenced n (s.view n)) ?_ hpost
        ⟨inv_step hI hs₂, hstart⟩
      rintro s a s' ⟨hI, hsilent⟩ hs
      exact ⟨inv_step hI hs, (step_cases hI hs).silenced hI hsilent⟩
    exact hboth.2.sent

/-- A connection that is used, closed and replaced by a second one. -/
theorem sendingSpec_run_reconnect :
    let as : List Action :=
      [.connect none, .connectionSetup 1 none, .sendConnect 1 none,
        .protocolMessage 1
          { messageType := .connectAck, flags := { connectionAccepted := true } },
        .newStream none, .resume 1, .returned 1 none, .close none, .connectionShutdown 1 none,
        .resume 1, .connect none]
    ∃ s, run (step false) init as = some s ∧ SendingSpec false as s := by
  intro as
  obtain ⟨s, hs⟩ : ∃ s, run (step false) init as = some s := ⟨_, rfl⟩
  exact ⟨s, hs, sendingSpec_run hs⟩

end IotCore.EventStream.Connection
