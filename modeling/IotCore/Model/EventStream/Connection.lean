import Mathlib.Logic.Function.Basic
import IotCore.Library.Future

/-! # `awsiot.eventstreamrpc.Connection`

Every body of a `with self._synced` block is one function of the shared state, and so is
every stretch of code between two of them. A native connection attempt runs its callbacks
one at a time, so the place its thread is at is a single program counter. -/

namespace IotCore.EventStream

/-! ## Messages of the native runtime -/

inductive HeaderValue where
  | string (value : String)
  /-- every header type other than `HeaderType.STRING` -/
  | other (type : Nat) (value : List UInt8)
  deriving DecidableEq, Repr

structure Header where
  name : String
  value : HeaderValue
  deriving DecidableEq, Repr

/-- `str.lower` on the characters that header names of the protocol use. -/
def lower (name : String) : List Char := name.toList.map Char.toLower

inductive MessageType where
  | applicationMessage
  | applicationError
  | ping
  | pingResponse
  | connect
  | connectAck
  | protocolError
  | internalError
  deriving DecidableEq, Repr

/-- The bits of `MessageFlag` that the client reads. -/
structure MessageFlags where
  connectionAccepted : Bool := false
  terminateStream : Bool := false
  deriving DecidableEq, Repr

structure Message where
  headers : List Header := []
  payload : List UInt8 := []
  messageType : MessageType
  flags : MessageFlags := {}
  deriving DecidableEq, Repr

structure MessageAmendment where
  headers : Option (List Header) := none
  payload : Option (List UInt8) := none
  deriving DecidableEq, Repr

namespace Connection

/-- Exceptions are values: those of user code and of the native runtime are opaque. -/
inductive Exn where
  | external (id : Nat)
  | accessDeniedError (args : List String)
  | connectionClosedError (args : List String)
  | eventStreamError (messageType : MessageType) (headers : List Header) (payload : List UInt8)
  | runtimeError (message : String)
  | invalidStateError
  | attributeError
  deriving DecidableEq, Repr

/-! ## Shared state -/

/-- `_ClientState`. -/
inductive ClientState where
  | disconnected
  | connectingToSocket
  | waitingForConnectAck
  | connected
  | disconnecting
  deriving DecidableEq, Repr

/-- The two futures created by the `n`-th call of `connect`. `closed 0` is the one that
`_Synced.__init__` creates and completes. -/
inductive FutureId where
  | connect (n : Nat)
  | closed (n : Nat)
  deriving DecidableEq, Repr

/-- `Connection._Synced`. Handlers and native connections are named by their attempt. -/
structure Synced where
  state : ClientState := .disconnected
  currentHandler : Option Nat := none
  currentConnection : Option Nat := none
  connectFuture : Option FutureId := none
  closeReason : Option Exn := none
  closedFuture : FutureId := .closed 0
  deriving DecidableEq, Repr

/-- Calls of the methods of a `LifecycleHandler`. -/
inductive Callback where
  | onConnect
  | onPing (headers : List Header) (payload : List UInt8)
  | onError (error : Exn)
  | onDisconnect (reason : Option Exn)
  deriving DecidableEq, Repr

/-- What is handed to a native connection. -/
inductive Sent where
  | message (messageType : MessageType) (headers : Option (List Header))
      (payload : Option (List UInt8))
  | stream
  deriving DecidableEq, Repr

/-- Where the thread that runs the native callbacks of one attempt is. -/
inductive Pc where
  /-- no native connect was started under this number -/
  | unused
  /-- the native connect is running, `on_connection_setup` has not been called -/
  | connecting
  /-- failed setup, lock released: the popped `connect_future` is completed next -/
  | failing (connectFuture : Option FutureId) (error : Exn)
  /-- inside `connect_message_amender` -/
  | amending
  /-- before the block that sends the CONNECT message -/
  | sending (amendment : MessageAmendment)
  /-- in the `except` clause of `on_connection_setup`, before it takes the lock -/
  | sendFailed (error : Exn)
  /-- between two native callbacks -/
  | open
  /-- CONNECT_ACK accepted, lock released: the popped `connect_future` is completed next -/
  | accepting (connectFuture : FutureId)
  | inOnConnect
  | inOnPing
  | inOnError (error : Exn)
  /-- about to call `self.owner.close(error)` -/
  | closing (error : Exn)
  /-- shutdown, lock released -/
  | finishing (connectFuture : Option FutureId) (reason : Option Exn)
  | inOnDisconnect
  /-- the last native callback has returned -/
  | ended
  deriving DecidableEq, Repr

/-- One native connect: its thread, its native connection and its handler. -/
structure Attempt where
  pc : Pc := .unused
  /-- calls of `close()` on the native connection -/
  closeCalls : Nat := 0
  sent : List Sent := []
  callbacks : List Callback := []
  /-- history: the error that `on_connection_setup` was given -/
  setupError : Option Exn := none
  /-- history: a CONNECT_ACK with CONNECTION_ACCEPTED came while waiting for it -/
  accepted : Bool := false
  /-- history: the native reason of the shutdown and `close_reason` at that time -/
  shutdown : Option (Option Exn × Option Exn) := none
  deriving DecidableEq, Repr

structure State where
  synced : Synced
  future : FutureId → Future Unit Exn
  attempt : Nat → Attempt
  /-- calls of `connect` that created futures -/
  connects : Nat

def init : State where
  synced := {}
  future := fun f => if f = .closed 0 then .completed (.ok ()) else .pending
  attempt := fun _ => {}
  connects := 0

def State.modify (s : State) (n : Nat) (f : Attempt → Attempt) : State :=
  { s with attempt := Function.update s.attempt n (f (s.attempt n)) }

def State.goto (s : State) (n : Nat) (pc : Pc) : State := s.modify n ({ · with pc := pc })

def State.setFuture (s : State) (f : FutureId) (o : Except Exn Unit) : State :=
  { s with future := Function.update s.future f ((s.future f).set o) }

/-- `close()` on the native connection of an attempt. -/
def State.closeNative (s : State) (n : Nat) : State :=
  s.modify n fun a => { a with closeCalls := a.closeCalls + 1 }

def State.send (s : State) (n : Nat) (m : Sent) : State :=
  s.modify n fun a => { a with sent := a.sent ++ [m] }

def State.call (s : State) (n : Nat) (c : Callback) (pc : Pc) : State :=
  s.modify n fun a => { a with callbacks := a.callbacks ++ [c], pc := pc }

section Fields

variable (s : State) (n : Nat) (f : Attempt → Attempt) (g : FutureId) (o : Except Exn Unit)

@[simp] theorem State.modify_synced : (s.modify n f).synced = s.synced := rfl

@[simp] theorem State.modify_future : (s.modify n f).future = s.future := rfl

@[simp] theorem State.modify_connects : (s.modify n f).connects = s.connects := rfl

@[simp] theorem State.modify_attempt :
    (s.modify n f).attempt = Function.update s.attempt n (f (s.attempt n)) := rfl

@[simp] theorem State.setFuture_synced : (s.setFuture g o).synced = s.synced := rfl

@[simp] theorem State.setFuture_attempt : (s.setFuture g o).attempt = s.attempt := rfl

@[simp] theorem State.setFuture_connects : (s.setFuture g o).connects = s.connects := rfl

@[simp] theorem State.setFuture_future :
    (s.setFuture g o).future = Function.update s.future g ((s.future g).set o) := rfl

end Fields

attribute [simp] State.goto State.closeNative State.send State.call

/-- `set_result(None)` for no reason, `set_exception(reason)` otherwise. -/
def outcomeOf : Option Exn → Except Exn Unit
  | none => .ok ()
  | some e => .error e

/-! ## The methods of `Connection` -/

/-- `connect`; `native` is what `ClientConnection.connect` raises, if it raises. -/
def connect (s : State) (native : Option Exn) : State × Except Exn FutureId :=
  let oldClosedFuture := s.synced.closedFuture
  if s.synced.state ≠ .disconnected then
    (s, .error (.runtimeError "Connection already in progress"))
  else
    let n := s.connects + 1
    match native with
    | none =>
        ({ s with
            connects := n
            synced :=
              { s.synced with
                currentHandler := some n
                connectFuture := some (.connect n)
                state := .connectingToSocket
                closedFuture := .closed n } }.goto n .connecting,
          .ok (.connect n))
    | some e =>
        ({ s with
            connects := n
            synced :=
              { s.synced with
                currentHandler := none
                connectFuture := none
                closedFuture := oldClosedFuture
                state := .disconnected } },
          .error e)

def close (s : State) (reason : Option Exn) : State × FutureId :=
  match s.synced.state with
  | .disconnected => (s, s.synced.closedFuture)
  | .disconnecting => (s, s.synced.closedFuture)
  | _ =>
      let s' := { s with synced :=
        { s.synced with closeReason := reason, state := .disconnecting } }
      match s.synced.currentConnection with
      | some c => (s'.closeNative c, s.synced.closedFuture)
      | none => (s', s.synced.closedFuture)

/-- `_send_protocol_message`; `native` is what the native call raises, if it raises. -/
def sendProtocolMessage (s : State) (data : Option MessageAmendment) (messageType : MessageType)
    (native : Option Exn) : State × Except Exn Unit :=
  if s.synced.state ≠ .connected then (s, .error (.connectionClosedError []))
  else
    match s.synced.currentConnection, native with
    | none, _ => (s, .error .attributeError)
    | some _, some e => (s, .error e)
    | some c, none =>
        (s.send c (.message messageType (data.bind (·.headers)) (data.bind (·.payload))), .ok ())

/-- `_new_stream`. -/
def newStream (s : State) (native : Option Exn) : State × Except Exn Unit :=
  if s.synced.state ≠ .connected then (s, .error (.connectionClosedError []))
  else
    match s.synced.currentConnection, native with
    | none, _ => (s, .error .attributeError)
    | some _, some e => (s, .error e)
    | some c, none => (s.send c .stream, .ok ())

/-! ## The native callbacks of `_ProtocolConnectionHandler` -/

/-- The error path of `on_connection_setup`, up to the release of the lock. -/
def setupFailed (s : State) (n : Nat) (error : Exn) : State :=
  let connectFuture := s.synced.connectFuture
  let s' := { s with synced :=
    { s.synced with connectFuture := none, currentHandler := none, closeReason := none } }
  let s' := s'.setFuture s.synced.closedFuture (.error error)
  let s' := s'.modify n ({ · with setupError := some error })
  -- a closed future that is done already makes `set_exception` raise out of the callback
  if (s.future s.synced.closedFuture).done then s'.goto n .ended
  else
    { s' with synced := { s'.synced with state := .disconnected } }.goto n
      (.failing connectFuture error)

def versionHeader : Header := ⟨":version", .string "0.1.0"⟩

/-- The headers of CONNECT: an amendment cannot override the required ones. -/
def connectHeaders (amendment : MessageAmendment) : List Header :=
  let headers := [versionHeader]
  let existingNames := headers.map fun h => lower h.name
  headers ++ (amendment.headers.getD []).filter fun h => !existingNames.contains (lower h.name)

/-- The block of `on_connection_setup` that sends CONNECT; `native` is what building and
sending the message raises, if it raises. -/
def sendConnect (s : State) (n : Nat) (amendment : MessageAmendment) (native : Option Exn) :
    State :=
  let s' := { s with synced := { s.synced with currentConnection := some n } }
  if s.synced.state = .disconnecting then (s'.closeNative n).goto n .open
  else
    match native with
    | some e => s'.goto n (.sendFailed e)
    | none =>
        let s' := s'.send n (.message .connect (some (connectHeaders amendment)) amendment.payload)
        { s' with synced := { s'.synced with state := .waitingForConnectAck } }.goto n .open

/-- The `except` clause of `on_connection_setup`. -/
def setupExcept (s : State) (n : Nat) (e : Exn) : State :=
  ({ s with synced :=
      { s.synced with
        state := .disconnecting
        currentConnection := some n
        closeReason := some e } }.closeNative n).goto n .open

/-- `on_connection_shutdown`, up to the release of the lock. -/
def connectionShutdown (s : State) (n : Nat) (nativeReason : Option Exn) : State :=
  let connectFuture := s.synced.connectFuture
  let reason := nativeReason.or s.synced.closeReason
  let s' := { s with synced :=
    { s.synced with
      connectFuture := none
      state := .disconnected
      currentHandler := none
      currentConnection := none
      closeReason := none } }
  let s' := s'.setFuture s.synced.closedFuture (outcomeOf reason)
  let s' := s'.modify n ({ · with shutdown := some (nativeReason, s.synced.closeReason) })
  if (s.future s.synced.closedFuture).done then s'.goto n .ended
  else s'.goto n (.finishing connectFuture reason)

def accessDenied : Exn :=
  .accessDeniedError
    ["aws#AccessDenied", "Connection access denied to event stream RPC server"]

/-- The CONNECT_ACK branch of `on_protocol_message`, up to the release of the lock. -/
def connectAck (s : State) (n : Nat) (flags : MessageFlags) : State :=
  if s.synced.state ≠ .waitingForConnectAck then s
  else if flags.connectionAccepted then
    let s' := { s with synced := { s.synced with connectFuture := none, state := .connected } }
    let s' := s'.modify n ({ · with accepted := true })
    match s.synced.connectFuture with
    | none => s'
    | some f => s'.goto n (.accepting f)
  else
    let s' := { s with synced :=
      { s.synced with state := .disconnecting, closeReason := some accessDenied } }
    match s.synced.currentConnection with
    | some c => s'.closeNative c
    | none => s'.goto n (.closing .attributeError)

/-- `on_protocol_message`, up to the release of the lock or to the call of user code. -/
def protocolMessage (s : State) (n : Nat) (m : Message) : State :=
  match m.messageType with
  | .connectAck => connectAck s n m.flags
  | .ping => s.call n (.onPing m.headers m.payload) .inOnPing
  | .protocolError | .internalError =>
      let error := Exn.eventStreamError m.messageType m.headers m.payload
      s.call n (.onError error) (.inOnError error)
  | _ => s

def setupClosed : Exn := .connectionClosedError ["close() called during connection setup"]

/-- The code of the handler between two locked blocks or calls of user code, where it has
nothing to wait for. -/
def resume (s : State) (n : Nat) : Option State :=
  match (s.attempt n).pc with
  | .failing (some f) error => some ((s.setFuture f (.error error)).goto n .ended)
  | .failing none _ => some (s.goto n .ended)
  | .sendFailed e => some (setupExcept s n e)
  | .accepting f =>
      if (s.future f).done then some ((s.setFuture f (.ok ())).goto n (.closing .invalidStateError))
      else some ((s.setFuture f (.ok ())).call n .onConnect .inOnConnect)
  | .closing e => some ((close s (some e)).1.goto n .open)
  | .finishing (some f) reason =>
      some ((s.setFuture f (.error (reason.getD setupClosed))).goto n .ended)
  | .finishing none reason => some (s.call n (.onDisconnect reason) .inOnDisconnect)
  | _ => none

/-- User code called by the handler returns; `none` is Python's `None`. -/
def returned (s : State) (n : Nat) (value : Option Bool) : Option State :=
  match (s.attempt n).pc with
  | .inOnConnect | .inOnPing => some (s.goto n .open)
  | .inOnError error =>
      if value = some false then some (s.goto n .open) else some (s.goto n (.closing error))
  | .inOnDisconnect => some (s.goto n .ended)
  | _ => none

/-- User code called by the handler raises. -/
def raised (s : State) (n : Nat) (e : Exn) : Option State :=
  match (s.attempt n).pc with
  | .amending => some (s.goto n (.sendFailed e))
  | .inOnConnect | .inOnPing | .inOnError _ => some (s.goto n (.closing e))
  | .inOnDisconnect => some (s.goto n .ended)
  | _ => none

/-! ## The system -/

inductive Action where
  | connect (native : Option Exn)
  | close (reason : Option Exn)
  | sendProtocolMessage (data : Option MessageAmendment) (messageType : MessageType)
      (native : Option Exn)
  | newStream (native : Option Exn)
  | connectionSetup (n : Nat) (error : Option Exn)
  | amended (n : Nat) (amendment : MessageAmendment)
  | sendConnect (n : Nat) (native : Option Exn)
  | protocolMessage (n : Nat) (message : Message)
  | connectionShutdown (n : Nat) (reason : Option Exn)
  | returned (n : Nat) (value : Option Bool)
  | raised (n : Nat) (e : Exn)
  | resume (n : Nat)
  deriving DecidableEq, Repr

/-- One step of the system. `amender` tells whether the connection has a
`connect_message_amender`. The guards on the program counter are what the native runtime
guarantees: one setup for each native connect, messages and one shutdown after a setup
without error, and one callback of an attempt at a time. -/
def step (amender : Bool) (s : State) : Action → Option State
  | .connect native => some (connect s native).1
  | .close reason => some (close s reason).1
  | .sendProtocolMessage data messageType native =>
      some (sendProtocolMessage s data messageType native).1
  | .newStream native => some (newStream s native).1
  | .connectionSetup n error =>
      if (s.attempt n).pc ≠ .connecting then none
      else
        match error with
        | some e => some (setupFailed s n e)
        | none => some (s.goto n (if amender then .amending else .sending {}))
  | .amended n amendment =>
      if (s.attempt n).pc = .amending then some (s.goto n (.sending amendment)) else none
  | .sendConnect n native =>
      match (s.attempt n).pc with
      | .sending amendment => some (sendConnect s n amendment native)
      | _ => none
  | .protocolMessage n m =>
      if (s.attempt n).pc = .open then some (protocolMessage s n m) else none
  | .connectionShutdown n reason =>
      if (s.attempt n).pc = .open then some (connectionShutdown s n reason) else none
  | .returned n value => returned s n value
  | .raised n e => raised s n e
  | .resume n => resume s n

end Connection

end IotCore.EventStream
