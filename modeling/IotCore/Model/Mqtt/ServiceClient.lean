import IotCore.Library.CancellableFuture
import IotCore.Library.MqttTopic
import IotCore.Model.Mqtt.ModeledClass

/-! # `awsiot.MqttServiceClient`

The three ways in which a service client uses its MQTT connection, and the generated methods
that publish a request or subscribe to a response. The futures of the connection, and the
messages that it receives, are actions of the environment. -/

namespace IotCore.Mqtt

open Json
open Greengrass (Exc)
open JsonText (encodeUtf8)

variable {ε : Type}

inductive Error (ε : Type) where
  | valueError (message : String)
  | builtin (e : Exc)
  | keyError
  | invalidStateError
  /-- of the MQTT connection -/
  | connection (e : ε)
  deriving DecidableEq, Repr

/-! ## Operations -/

/-- A format string, as `str.format` takes it apart. -/
inductive Piece where
  | text (s : String)
  /-- `0.attr` in braces -/
  | attr (attr : String)
  deriving DecidableEq, Repr

/-- A method `publish_…`. -/
structure PublishOperation where
  name : String
  request : RequestClass
  /-- the attributes that are checked, in order -/
  required : List String
  topic : List Piece
  /-- the payload is `request.to_payload()`, else None -/
  hasPayload : Bool := true
  deriving DecidableEq, Repr

/-- A method `subscribe_to_…`. -/
structure SubscribeOperation where
  name : String
  request : RequestClass
  required : List String
  topic : List Piece
  response : ModeledClass

def checkRequired (request : Request) : List String → Except (Error ε) Unit
  | [] => .ok ()
  | attr :: attrs =>
      match request.getattr attr with
      | .error e => .error (.builtin e)
      | .ok x =>
          if x.truthy then checkRequired request attrs
          else .error (.valueError ("request." ++ attr ++ " is required"))

section

variable (B : Builtins)

/-- A string in a format is itself. -/
def format : Obj → List Char
  | .json (.str s) => s.toList
  | x => B.format x

/-- `topic.format(request)`. -/
def formatTopic (request : Request) : List Piece → Except Exc (List Char)
  | [] => .ok []
  | .text s :: pieces => do return s.toList ++ (← formatTopic request pieces)
  | .attr attr :: pieces => do
      let x ← request.getattr attr
      return format B x ++ (← formatTopic request pieces)

/-- The arguments of `_publish_operation`. -/
def PublishOperation.prepare (op : PublishOperation) (request : Request) :
    Except (Error ε) (List Char × Option (List (String × Obj))) := do
  checkRequired request op.required
  let topic ← (formatTopic B request op.topic).mapError .builtin
  let payload ←
    if op.hasPayload then (request.toPayload.map some).mapError .builtin else .ok none
  return (topic, payload)

/-- The topic argument of `_subscribe_operation`. -/
def SubscribeOperation.prepare (op : SubscribeOperation) (request : Request) (callable : Bool) :
    Except (Error ε) (List Char) := do
  checkRequired request op.required
  if callable then (formatTopic B request op.topic).mapError .builtin
  else .error (.valueError "callback is required")

/-- `payload_str` of `_publish_operation`. -/
def payloadStr : Option (List (String × Obj)) → Except Exc (List Char)
  | none => .ok []
  | some payload => do
      return dumps B.toInterpreter (.obj (← jsonFields B.toInterpreter payload))

/-- What `callback_wrapper` calls the callback with: an event, or None if the payload cannot be
delivered. -/
def callbackWrapper (cls : ModeledClass) (payload : List UInt8) : Option Obj :=
  match payload.toByteArray.utf8Decode? with
  | none => none
  | some text =>
      match loads B.toInterpreter text.toList with
      | none => none
      | some payloadObj =>
          match fromPayload B cls payloadObj with
          | .error _ => none
          | .ok event => some event

end

/-! ## Futures -/

/-- A future that a method returned. Its result is None or a quality of service. -/
abbrev ClientFuture (ε : Type) := CancellableFuture (Option Nat) (Error ε)

/-- The outcome of a future of the connection: an exception, or the member `qos` of its
result. -/
abbrev Ack (ε : Type) := Except ε (Option Nat)

/-- `on_puback` and `on_unsuback`; what they raise is logged by the future that calls them. -/
def onPuback (future : ClientFuture ε) : Ack ε → ClientFuture ε
  | .error e => (future.set (.error (.connection e))).getD future
  | .ok _ => (future.set (.ok none)).getD future

/-- `on_suback`. -/
def onSuback (future : ClientFuture ε) (ack : Ack ε) : ClientFuture ε :=
  match ack with
  | .error e => (future.set (.error (.connection e))).getD future
  | .ok none => (future.set (.error .keyError)).getD future
  | .ok (some qos) =>
      match future.set (.ok (some qos)) with
      | some future => future
      | none => (future.set (.error .invalidStateError)).getD future

/-- What a method adds to the future of the connection. -/
inductive DoneCallback where
  /-- also `on_unsuback` -/
  | onPuback
  | onSuback
  deriving DecidableEq, Repr

def DoneCallback.run : DoneCallback → ClientFuture ε → Ack ε → ClientFuture ε
  | .onPuback => Mqtt.onPuback
  | .onSuback => Mqtt.onSuback

/-! ## Methods -/

/-- What the connection is asked for. -/
inductive Sent where
  | publish (topic payload : List Char) (qos : Nat)
  | subscribe (topic : List Char) (qos : Nat)
  | unsubscribe (topic : List Char)
  deriving DecidableEq, Repr

/-- How the connection takes a call: it raises, or returns a future. -/
inductive Reply (ε : Type) where
  | raises (e : ε)
  | future (ack : Option (Ack ε))

/-- A subscription that the connection holds, and the class of its events. -/
structure Subscription where
  topic : List Char
  response : ModeledClass

/-- A call of a method that returned a future. -/
structure Call (ε : Type) where
  subscription : Option Subscription := none
  /-- the future of the connection is not done -/
  waiting : Option DoneCallback := none
  future : ClientFuture ε := .pending

/-- The rest of a method after the connection took the call. -/
def Call.start (subscription : Option Subscription) (callback : DoneCallback) : Reply ε → Call ε
  | .raises e => { future := .done (.error (.connection e)) }
  | .future none => { subscription, waiting := some callback }
  | .future (some ack) => { subscription, future := callback.run .pending ack }

/-- `_publish_operation`; what `json.dumps` raises is the exception of the future. -/
def publishOperation (B : Builtins) (topic : List Char) (payload : Option (List (String × Obj)))
    (qos : Nat) (reply : Reply ε) : Option Sent × Call ε :=
  match payloadStr B payload with
  | .error e => (none, { future := .done (.error (.builtin e)) })
  | .ok text => (some (.publish topic text qos), .start none .onPuback reply)

/-- `_subscribe_operation`. -/
def subscribeOperation (topic : List Char) (qos : Nat) (response : ModeledClass)
    (reply : Reply ε) : Option Sent × Call ε :=
  (some (.subscribe topic qos), .start (some ⟨topic, response⟩) .onSuback reply)

def unsubscribe (topic : List Char) (reply : Reply ε) : Option Sent × Call ε :=
  (some (.unsubscribe topic), .start none .onPuback reply)

/-- A call of a method, with how the connection takes it. -/
inductive Method (ε : Type) where
  | publish (op : PublishOperation) (request : Request) (qos : Nat) (reply : Reply ε)
  | subscribe (op : SubscribeOperation) (request : Request) (qos : Nat) (callable : Bool)
      (reply : Reply ε)
  | unsubscribe (topic : List Char) (reply : Reply ε)

def Method.run (B : Builtins) : Method ε → Except (Error ε) (Option Sent × Call ε)
  | .publish op request qos reply => do
      let (topic, payload) ← op.prepare B request
      return publishOperation B topic payload qos reply
  | .subscribe op request qos callable reply => do
      let topic ← op.prepare B request callable
      return subscribeOperation topic qos op.response reply
  | .unsubscribe topic reply => .ok (Mqtt.unsubscribe topic reply)

/-! ## The client -/

structure State (ε : Type) where
  calls : List (Call ε) := []
  sent : List Sent := []
  /-- what the methods raised -/
  raised : List (Error ε) := []
  /-- the calls of the callbacks, each with the index of its subscription -/
  heard : List (Nat × Option Obj) := []

inductive Act (ε : Type) where
  | call (method : Method ε)
  /-- the user cancels the future of a call -/
  | cancel (i : Nat)
  /-- the future of the connection is done -/
  | complete (i : Nat) (ack : Ack ε)
  /-- the connection has a message for a subscription -/
  | deliver (i : Nat) (topic : List Char) (payload : List UInt8)

def step (B : Builtins) (s : State ε) : Act ε → Option (State ε)
  | .call method =>
      match method.run B with
      | .error e => some { s with raised := s.raised ++ [e] }
      | .ok (sent, call) =>
          some { s with calls := s.calls ++ [call], sent := s.sent ++ sent.toList }
  | .cancel i =>
      s.calls[i]?.map fun call =>
        { s with calls := s.calls.set i { call with future := call.future.cancel } }
  | .complete i ack =>
      s.calls[i]?.bind fun call => call.waiting.map fun callback =>
        { s with calls :=
            s.calls.set i { call with waiting := none, future := callback.run call.future ack } }
  | .deliver i topic payload =>
      s.calls[i]?.bind fun call => call.subscription.bind fun subscription =>
        if matchTopic subscription.topic topic then
          some { s with heard := s.heard ++ [(i, callbackWrapper B subscription.response payload)] }
        else none

end IotCore.Mqtt
