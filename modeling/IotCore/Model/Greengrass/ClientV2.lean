import IotCore.Library.Executor
import IotCore.Model.EventStream.Operation

/-! # `awsiot.greengrasscoreipc.clientv2`

The stream handler that the second client makes of callbacks, its executor, and the future that
combines the write of the request with the response. -/

namespace IotCore.Greengrass.ClientV2

open EventStream EventStream.Operation

variable {τ ι : Type}

/-! ## Stream handlers -/

/-- What runs in the executor. -/
inductive Task (ι : Type) where
  | onStreamEvent (event : ι)
  | onStreamClosed
  /-- of another operation of the client -/
  | other (id : Nat)
  deriving DecidableEq, Repr

def Task.isOwn : Task ι → Bool
  | .other _ => false
  | _ => true

/-- The callbacks that `__create_stream_handler` is given; `none` is None. They share a state. -/
structure Callbacks (τ ι : Type) where
  onStreamEvent : Option (τ → ι → τ × Except (Error ι) Unit)
  onStreamError : Option (τ → Error ι → τ × Except (Error ι) (Option Bool))
  onStreamClosed : Option (τ → τ × Except (Error ι) Unit)

structure HandlerState (τ ι : Type) where
  user : τ
  executor : Option (Executor (Task ι))
  /-- the tracebacks that `__handle_error` prints in the networking thread -/
  printed : List (Error ι) := []

/-- The RuntimeError of `submit` after the shutdown. -/
def cannotSchedule : Error ι := .external 5

/-- `__wrap_error`. -/
def wrapError {ρ : Type} (s : HandlerState τ ι) (result : τ × Except (Error ι) ρ) :
    HandlerState τ ι × Except (Error ι) ρ :=
  match result with
  | (user, .ok value) => ({ s with user }, .ok value)
  | (user, .error e) => ({ s with user, printed := s.printed ++ [e] }, .error e)

/-- In the executor if there is one, else here. -/
def dispatch (s : HandlerState τ ι) (task : Task ι) (callback : τ → τ × Except (Error ι) Unit) :
    HandlerState τ ι × Except (Error ι) Unit :=
  match s.executor with
  | none => wrapError s (callback s.user)
  | some executor =>
      match executor.submit task with
      | some executor => ({ s with executor := some executor }, .ok ())
      | none => (s, .error cannotSchedule)

/-- `__create_stream_handler`; a callback that is None leaves the method of the base class. -/
def createStreamHandler (callbacks : Callbacks τ ι) :
    StreamResponseHandler (HandlerState τ ι) ι where
  onStreamEvent s event :=
    match callbacks.onStreamEvent with
    | none => (s, .ok ())
    | some callback => dispatch s (.onStreamEvent event) fun user => callback user event
  onStreamError s error :=
    match callbacks.onStreamError with
    | none => (s, .ok (some true))
    | some callback => wrapError s (callback s.user error)
  onStreamClosed s :=
    match callbacks.onStreamClosed with
    | none => (s, .ok ())
    | some callback => dispatch s .onStreamClosed callback

/-- A handler of the user, as it is. -/
def plainHandler (handler : StreamResponseHandler τ ι) :
    StreamResponseHandler (HandlerState τ ι) ι where
  onStreamEvent s event :=
    let (user, result) := handler.onStreamEvent s.user event
    ({ s with user }, result)
  onStreamError s error :=
    let (user, result) := handler.onStreamError s.user error
    ({ s with user }, result)
  onStreamClosed s :=
    let (user, result) := handler.onStreamClosed s.user
    ({ s with user }, result)
  truthy := handler.truthy

def handlerCallbacks (handler : StreamResponseHandler τ ι) : Callbacks τ ι where
  onStreamEvent := some handler.onStreamEvent
  onStreamError := some handler.onStreamError
  onStreamClosed := some handler.onStreamClosed

def mustChoose : String :=
  "Must choose either stream_handler or on_stream_event/on_stream_error/on_stream_closed"

/-- `__handle_stream_handler`; the error is a ValueError. -/
def handleStreamHandler (hasExecutor : Bool) (streamHandler : Option (StreamResponseHandler τ ι))
    (callbacks : Callbacks τ ι) :
    Except String (StreamResponseHandler (HandlerState τ ι) ι) :=
  match streamHandler with
  | some handler =>
      if callbacks.onStreamEvent.isSome || callbacks.onStreamError.isSome ||
          callbacks.onStreamClosed.isSome then .error mustChoose
      else if hasExecutor then .ok (createStreamHandler (handlerCallbacks handler))
      else .ok (plainHandler handler)
  | none => .ok (createStreamHandler callbacks)

/-! ## The client and its operation -/

/-- `__combine_futures`: the callback on the future of the write. -/
def combineFutures {σ : Type} (s : State σ ι) (written : Except (Error ι) Unit) : State σ ι :=
  match written with
  | .ok () => s
  | .error e => (s.setInitialResponse (.error e)).1

structure Client (τ ι : Type) where
  phase : Phase := .streaming
  operation : State (HandlerState τ ι) ι
  /-- the future of `activate` is done -/
  written : Bool := false

inductive Act (ι : Type) where
  /-- a callback of the continuation, on the networking thread -/
  | network (action : Action)
  /-- the write of the request is done -/
  | written (outcome : Except (Error ι) Unit)
  /-- another operation of the client submits a task -/
  | other (id : Nat)
  /-- a worker takes a task -/
  | begin
  /-- `close` shuts the executor down -/
  | shutdown

def Client.setExecutor (c : Client τ ι) (executor : Executor (Task ι)) : Client τ ι :=
  { c with
    operation := { c.operation with
      handlerState := { c.operation.handlerState with executor := some executor } } }

/-- The client, its operation and the workers of its executor. -/
def step (op : ClientOperation (HandlerState τ ι) ι) (c : Client τ ι) :
    Act ι → Option (Client τ ι)
  | .network action =>
      (Operation.step op (c.phase, c.operation) action).map fun (phase, operation) =>
        { c with phase, operation }
  | .written outcome =>
      if c.written then none
      else some { c with operation := combineFutures c.operation outcome, written := true }
  | .other id =>
      c.operation.handlerState.executor.map fun executor =>
        c.setExecutor ((executor.submit (.other id)).getD executor)
  | .begin =>
      c.operation.handlerState.executor.bind fun executor =>
        executor.begin.map c.setExecutor
  | .shutdown =>
      c.operation.handlerState.executor.map fun executor => c.setExecutor executor.shutdown

end IotCore.Greengrass.ClientV2
