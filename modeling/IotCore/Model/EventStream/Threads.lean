import IotCore.Model.EventStream.Connection

/-! # The lock of a connection and the threads that take it

The blocks of `Connection` once more, with the lock made explicit. A thread that reaches a
`with self._synced` waits for the lock, which is not reentrant. Completing a future runs its
done-callbacks in the completing thread, before that thread goes on. -/

namespace IotCore.EventStream.Threads

open Connection

inductive Thread where
  | user (i : Nat)
  /-- the thread that runs the native callbacks of an attempt -/
  | native (n : Nat)
  deriving DecidableEq, Repr

/-- What a thread is doing; a thread has one frame for each call it is inside of. -/
inductive Frame where
  /-- at the `with` statement of a block -/
  | waiting (block : Action)
  /-- inside a block, before its body -/
  | entered (block : Action)
  /-- inside a block, after its body; a call will return the future, if there is one -/
  | leaving (future : Option FutureId)
  /-- inside `set_result` or `set_exception`, with done-callbacks left to run -/
  | completing (future : FutureId) (left : Nat)
  /-- inside a done-callback -/
  | callback
  deriving DecidableEq, Repr

structure System where
  core : State
  lock : Option Thread
  stack : Thread → List Frame
  /-- done-callbacks that wait for a future -/
  registered : FutureId → Nat
  /-- futures that calls of `connect` and `close` have returned -/
  handed : List FutureId

def start : System where
  core := Connection.init
  lock := none
  stack := fun _ => []
  registered := fun _ => 0
  handed := []

/-! ## The blocks -/

/-- The methods that user code calls. -/
def isCall : Action → Bool
  | .connect _ | .close _ | .sendProtocolMessage _ _ _ | .newStream _ => true
  | _ => false

/-- The attempt whose thread takes the step. -/
def attemptOf : Action → Option Nat
  | .connectionSetup n _ | .amended n _ | .sendConnect n _ | .protocolMessage n _
  | .connectionShutdown n _ | .returned n _ | .raised n _ | .resume n => some n
  | _ => none

/-- The step is the body of a `with self._synced` block. -/
def isBlock (s : State) : Action → Bool
  | .connect _ | .close _ | .sendProtocolMessage _ _ _ | .newStream _ => true
  | .connectionSetup _ error => error.isSome
  | .sendConnect _ _ | .connectionShutdown _ _ => true
  | .protocolMessage _ m => m.messageType = .connectAck
  | .resume n =>
      match (s.attempt n).pc with
      | .sendFailed _ | .closing _ => true
      | _ => false
  | .amended _ _ | .returned _ _ | .raised _ _ => false

/-- The future that the step calls `set_result` or `set_exception` on. -/
def sets (s : State) : Action → Option FutureId
  | .connectionSetup _ (some _) | .connectionShutdown _ _ => some s.synced.closedFuture
  | .resume n =>
      match (s.attempt n).pc with
      | .failing f _ | .finishing f _ => f
      | .accepting f => some f
      | _ => none
  | _ => none

/-- The future that the step completes: a second call only raises `InvalidStateError`. -/
def completes (s : State) (a : Action) : Option FutureId :=
  (sets s a).filter fun f => !(s.future f).done

/-- The future that a call returns. -/
def result (s : State) : Action → Option FutureId
  | .connect native => (connect s native).2.toOption
  | .close reason => some (close s reason).2
  | _ => none

/-- Places at which an attempt is inside user code. -/
def isUser : Pc → Bool
  | .amending | .inOnConnect | .inOnPing | .inOnError _ | .inOnDisconnect => true
  | _ => false

/-! ## The system -/

/-- The thread runs user code: a done-callback, a function that the handler called, or code
of the application outside of every call. -/
def System.inUser (b : System) (t : Thread) : Bool :=
  match b.stack t, t with
  | .callback :: _, _ => true
  | [], .user _ => true
  | [], .native n => isUser (b.core.attempt n).pc
  | _, _ => false

def System.setStack (b : System) (t : Thread) (frames : List Frame) : System :=
  { b with stack := Function.update b.stack t frames }

/-- The frames of a thread after a step: the done-callbacks of the future that the step
completes come first. -/
def System.framesAfter (b : System) (a : Action) (rest : List Frame) : List Frame :=
  match completes b.core a with
  | some f => .completing f (b.registered f) :: rest
  | none => rest

/-- Takes a step of the connection. `on_connection_setup` completes a future before its last
assignment; the whole body is taken at once here, as no other thread gets to see the fields
in between. -/
def System.perform (b : System) (amender : Bool) (t : Thread) (a : Action) (rest : List Frame) :
    Option System :=
  (step amender b.core a).map fun core =>
    { b with core := core }.setStack t (b.framesAfter a rest)

inductive Event where
  /-- user code calls a method -/
  | call (t : Thread) (a : Action)
  /-- the thread of an attempt goes on -/
  | native (n : Nat) (a : Action)
  | acquire (t : Thread)
  | body (t : Thread)
  | release (t : Thread)
  | runCallback (t : Thread)
  | callbackReturned (t : Thread)
  | completed (t : Thread)
  /-- user code calls `add_done_callback` on a future that it was given -/
  | addDoneCallback (t : Thread) (f : FutureId)
  deriving DecidableEq, Repr

def next (amender : Bool) (b : System) : Event → Option System
  | .call t a =>
      if b.inUser t && isCall a then some (b.setStack t (.waiting a :: b.stack t)) else none
  | .native n a =>
      if b.stack (.native n) ≠ [] ∨ attemptOf a ≠ some n then none
      else if isBlock b.core a then
        if (step amender b.core a).isSome then some (b.setStack (.native n) [.waiting a]) else none
      else b.perform amender (.native n) a []
  | .acquire t =>
      match b.lock, b.stack t with
      | none, .waiting a :: rest => some ({ b with lock := some t }.setStack t (.entered a :: rest))
      | _, _ => none
  | .body t =>
      match b.stack t with
      | .entered a :: rest => b.perform amender t a (.leaving (result b.core a) :: rest)
      | _ => none
  | .release t =>
      match b.stack t with
      | .leaving future :: rest =>
          some ({ b with lock := none, handed := future.toList ++ b.handed }.setStack t rest)
      | _ => none
  | .runCallback t =>
      match b.stack t with
      | .completing f (k + 1) :: rest =>
          some (b.setStack t (.callback :: .completing f k :: rest))
      | _ => none
  | .callbackReturned t =>
      match b.stack t with
      | .callback :: rest => some (b.setStack t rest)
      | _ => none
  | .completed t =>
      match b.stack t with
      | .completing _ 0 :: rest => some (b.setStack t rest)
      | _ => none
  | .addDoneCallback t f =>
      if b.inUser t && b.handed.contains f then
        if (b.core.future f).done then some (b.setStack t (.callback :: b.stack t))
        else some { b with registered := Function.update b.registered f (b.registered f + 1) }
      else none

end IotCore.EventStream.Threads
