import IotCore.Library.Machine
import IotCore.Model.EventStream.Connection

/-! # What one step of a connection can do

Seen from one attempt, a step either leaves everything as it is or makes one of the moves
below. The moves state the guards and the effects of every path of the code, so the
results about whole runs are case splits over them and never unfold the code again. -/

namespace IotCore.EventStream.Connection

/-! ## What one attempt sees -/

/-- The shared fields, the record of the attempt and its two futures. -/
structure View where
  synced : Synced
  attempt : Attempt
  connectFuture : Future Unit Exn
  closedFuture : Future Unit Exn

def State.view (s : State) (n : Nat) : View :=
  ⟨s.synced, s.attempt n, s.future (.connect n), s.future (.closed n)⟩

/-- The state after a step on behalf of one attempt. -/
def State.put (s : State) (n : Nat) (v : View) : State where
  synced := v.synced
  future := Function.update (Function.update s.future (.connect n) v.connectFuture)
    (.closed n) v.closedFuture
  attempt := Function.update s.attempt n v.attempt
  connects := s.connects

@[simp] theorem State.put_view (s : State) (n : Nat) : s.put n (s.view n) = s := by
  simp [State.put, State.view]

@[simp] theorem State.view_put (s : State) (n : Nat) (v : View) : (s.put n v).view n = v := by
  simp [State.put, State.view]

/-- Another attempt only sees the shared fields change. -/
theorem State.view_put_of_ne (s : State) {n m : Nat} (v : View) (h : m ≠ n) :
    (s.put n v).view m = { s.view m with synced := v.synced } := by
  simp [State.put, State.view, h]

theorem State.modify_eq_put (s : State) (n : Nat) (f : Attempt → Attempt) :
    s.modify n f = s.put n { s.view n with attempt := f (s.attempt n) } := by
  simp [State.put, State.view, State.modify]

/-! ## Stages -/

/-- How far the current attempt has come: `base` is its state as long as nobody asks for a
close, `joined` tells whether its native connection is stored, `told` whether its connect
future has been completed. -/
structure Stage where
  base : ClientState
  joined : Bool
  accepted : Bool
  told : Bool

namespace Stage

def opening (joined : Bool) : Stage := ⟨.connectingToSocket, joined, false, false⟩

def waiting : Stage := ⟨.waitingForConnectAck, true, false, false⟩

def established (told : Bool) : Stage := ⟨.connected, true, true, told⟩

/-- The shared fields at a stage. `asked` is the reason of the close that was asked for. -/
def synced (g : Stage) (n : Nat) (asked : Option (Option Exn)) : Synced where
  state := if asked.isSome then .disconnecting else g.base
  currentHandler := some n
  currentConnection := if g.joined then some n else none
  connectFuture := if g.accepted then none else some (.connect n)
  closeReason := asked.join
  closedFuture := .closed n

def connectFuture (g : Stage) : Future Unit Exn :=
  if g.told then .completed (.ok ()) else .pending

end Stage

/-- The shared fields between two attempts. -/
def Synced.free (n : Nat) : Synced := { closedFuture := .closed n }

/-- The attempt is the current one and has reached the stage. -/
structure Serving (n : Nat) (v : View) (g : Stage) (asked : Option (Option Exn)) : Prop where
  synced : v.synced = g.synced n asked
  closed : asked.isSome → g.joined → 0 < v.attempt.closeCalls
  accepted : v.attempt.accepted = g.accepted
  setupError : v.attempt.setupError = none
  shutdown : v.attempt.shutdown = none
  connectFuture : v.connectFuture = g.connectFuture
  closedFuture : v.closedFuture = .pending

/-- The stages that the current attempt can have reached when its thread is at a place. -/
def Pc.At (n : Nat) : Pc → Stage → Prop
  | .connecting, g | .amending, g | .sending _, g => g = .opening false
  | .sendFailed _, g => g = .opening false ∨ g = .opening true
  | .open, g | .inOnPing, g | .inOnError _, g | .closing _, g =>
      g = .waiting ∨ g = .established true
  | .accepting f, g => f = .connect n ∧ g = .established false
  | .inOnConnect, g => g = .established true
  | _, _ => False

/-! ## Moves -/

/-- Steps that only move the program counter. -/
inductive Goto (n : Nat) : Pc → Action → Pc → Prop where
  | setup (pc) (h : pc = .amending ∨ pc = .sending {}) :
      Goto n .connecting (.connectionSetup n none) pc
  | amended (amendment) : Goto n .amending (.amended n amendment) (.sending amendment)
  | amenderRaised (e) : Goto n .amending (.raised n e) (.sendFailed e)
  | connectReturned (value) : Goto n .inOnConnect (.returned n value) .open
  | pingReturned (value) : Goto n .inOnPing (.returned n value) .open
  | errorKept (error) : Goto n (.inOnError error) (.returned n (some false)) .open
  | errorReturned (error value) (h : value ≠ some false) :
      Goto n (.inOnError error) (.returned n value) (.closing error)
  | connectRaised (e) : Goto n .inOnConnect (.raised n e) (.closing e)
  | pingRaised (e) : Goto n .inOnPing (.raised n e) (.closing e)
  | errorRaised (error e) : Goto n (.inOnError error) (.raised n e) (.closing e)
  | disconnectReturned (value) : Goto n .inOnDisconnect (.returned n value) .ended
  | disconnectRaised (e) : Goto n .inOnDisconnect (.raised n e) .ended

theorem Goto.target {n : Nat} {pc pc' : Pc} {a : Action} (h : Goto n pc a pc') :
    pc' ≠ .unused := by
  cases h with
  | setup pc hnext => rcases hnext with rfl | rfl <;> simp
  | _ => simp

/-- The moves of one attempt. -/
inductive Move (n : Nat) : View → Action → View → Prop where
  | goto {v a pc} (h : Goto n v.attempt.pc a pc) :
      Move n v a { v with attempt := { v.attempt with pc := pc } }
  | setupFailed {v} (asked e) (hpc : v.attempt.pc = .connecting)
      (hg : Serving n v (.opening false) asked) :
      Move n v (.connectionSetup n (some e))
        ⟨.free n, { v.attempt with setupError := some e, pc := .failing (some (.connect n)) e },
          .pending, .completed (.error e)⟩
  | sendClosed {v} (amendment reason native) (hpc : v.attempt.pc = .sending amendment)
      (hg : Serving n v (.opening false) (some reason)) :
      Move n v (.sendConnect n native)
        { v with
          synced := Stage.waiting.synced n (some reason)
          attempt := { v.attempt with closeCalls := v.attempt.closeCalls + 1, pc := .open } }
  | sendRaised {v} (amendment e) (hpc : v.attempt.pc = .sending amendment)
      (hg : Serving n v (.opening false) none) :
      Move n v (.sendConnect n (some e))
        { v with
          synced := (Stage.opening true).synced n none
          attempt := { v.attempt with pc := .sendFailed e } }
  | sent {v} (amendment) (hpc : v.attempt.pc = .sending amendment)
      (hg : Serving n v (.opening false) none) :
      Move n v (.sendConnect n none)
        { v with
          synced := Stage.waiting.synced n none
          attempt :=
            { v.attempt with
              sent := v.attempt.sent ++
                [.message .connect (some (connectHeaders amendment)) amendment.payload]
              pc := .open } }
  | setupExcept {v} (joined asked e) (hpc : v.attempt.pc = .sendFailed e)
      (hg : Serving n v (.opening joined) asked) :
      Move n v (.resume n)
        { v with
          synced := Stage.waiting.synced n (some (some e))
          attempt := { v.attempt with closeCalls := v.attempt.closeCalls + 1, pc := .open } }
  | acked {v} (m) (hpc : v.attempt.pc = .open) (hm : m.messageType = .connectAck)
      (hf : m.flags.connectionAccepted) (hg : Serving n v .waiting none) :
      Move n v (.protocolMessage n m)
        { v with
          synced := (Stage.established false).synced n none
          attempt := { v.attempt with accepted := true, pc := .accepting (.connect n) } }
  | rejected {v} (m) (hpc : v.attempt.pc = .open) (hm : m.messageType = .connectAck)
      (hf : m.flags.connectionAccepted = false) (hg : Serving n v .waiting none) :
      Move n v (.protocolMessage n m)
        { v with
          synced := Stage.waiting.synced n (some (some accessDenied))
          attempt := { v.attempt with closeCalls := v.attempt.closeCalls + 1 } }
  | pinged {v} (m) (hpc : v.attempt.pc = .open) (hm : m.messageType = .ping) :
      Move n v (.protocolMessage n m)
        { v with
          attempt :=
            { v.attempt with
              callbacks := v.attempt.callbacks ++ [.onPing m.headers m.payload]
              pc := .inOnPing } }
  | failed {v} (m) (hpc : v.attempt.pc = .open)
      (hm : m.messageType = .protocolError ∨ m.messageType = .internalError) :
      Move n v (.protocolMessage n m)
        { v with
          attempt :=
            { v.attempt with
              callbacks := v.attempt.callbacks ++
                [.onError (.eventStreamError m.messageType m.headers m.payload)]
              pc := .inOnError (.eventStreamError m.messageType m.headers m.payload) } }
  | shutdown {v} (g asked native) (hpc : v.attempt.pc = .open) (hat : v.attempt.pc.At n g)
      (hg : Serving n v g asked) :
      Move n v (.connectionShutdown n native)
        ⟨.free n,
          { v.attempt with
            shutdown := some (native, asked.join)
            pc := .finishing (if g.accepted then none else some (.connect n))
              (native.or asked.join) },
          g.connectFuture, .completed (outcomeOf (native.or asked.join))⟩
  | closedAgain {v} (e g reason) (hpc : v.attempt.pc = .closing e) (hat : v.attempt.pc.At n g)
      (hg : Serving n v g (some reason)) :
      Move n v (.resume n) { v with attempt := { v.attempt with pc := .open } }
  | closedSelf {v} (e g) (hpc : v.attempt.pc = .closing e) (hat : v.attempt.pc.At n g)
      (hg : Serving n v g none) :
      Move n v (.resume n)
        { v with
          synced := g.synced n (some (some e))
          attempt := { v.attempt with closeCalls := v.attempt.closeCalls + 1, pc := .open } }
  | closed {v} (g reason) (hat : v.attempt.pc.At n g) (hg : Serving n v g none) :
      Move n v (.close reason)
        { v with
          synced := g.synced n (some reason)
          attempt :=
            if g.joined then { v.attempt with closeCalls := v.attempt.closeCalls + 1 }
            else v.attempt }
  | transmitted {v a} (g) (m : Sent) (hat : v.attempt.pc.At n g) (hg : Serving n v g none)
      (hconn : g.base = .connected)
      (ha : (∃ data messageType, a = .sendProtocolMessage data messageType none) ∨
        a = .newStream none) :
      Move n v a { v with attempt := { v.attempt with sent := v.attempt.sent ++ [m] } }
  | toldAccepted {v} (asked) (hpc : v.attempt.pc = .accepting (.connect n))
      (hg : Serving n v (.established false) asked) :
      Move n v (.resume n)
        { v with
          attempt :=
            { v.attempt with
              callbacks := v.attempt.callbacks ++ [.onConnect]
              pc := .inOnConnect }
          connectFuture := .completed (.ok ()) }
  | toldFailed {v} (e) (hpc : v.attempt.pc = .failing (some (.connect n)) e)
      (hf : v.connectFuture = .pending) :
      Move n v (.resume n)
        { v with
          attempt := { v.attempt with pc := .ended }
          connectFuture := .completed (.error e) }
  | toldShutdown {v} (reason) (hpc : v.attempt.pc = .finishing (some (.connect n)) reason)
      (hf : v.connectFuture = .pending) :
      Move n v (.resume n)
        { v with
          attempt := { v.attempt with pc := .ended }
          connectFuture := .completed (.error (reason.getD setupClosed)) }
  | disconnected {v} (reason) (hpc : v.attempt.pc = .finishing none reason) :
      Move n v (.resume n)
        { v with
          attempt :=
            { v.attempt with
              callbacks := v.attempt.callbacks ++ [.onDisconnect reason]
              pc := .inOnDisconnect } }

end IotCore.EventStream.Connection
