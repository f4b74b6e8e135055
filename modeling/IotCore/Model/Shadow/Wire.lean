import IotCore.Model.Mqtt.IotShadow
import IotCore.Model.Shadow.Session

/-! # `shadow.py`: a session and its MQTT connection

The subscriptions that the main thread makes first, the requests as they are handed to the
connection, and the messages as the connection hands them to the handlers. -/

namespace IotCore.Shadow.Wire

open Mqtt (Obj Builtins ClientFuture Reply Ack)

/-! ## Requests -/

/-- A request as an instance of its class. -/
def updateInstance (request : UpdateShadowRequest) : Mqtt.Request where
  cls := Mqtt.IotShadow.updateShadowRequest
  attributes :=
    [request.clientToken.elim .none fun token => .json (.str token),
      request.state.elim .none .state, .json (.str request.thingName),
      request.version.elim .none fun version => .json (.int version)]

def getInstance (request : GetShadowRequest) : Mqtt.Request where
  cls := Mqtt.IotShadow.getShadowRequest
  attributes :=
    [request.clientToken.elim .none fun token => .json (.str token),
      .json (.str request.thingName)]

/-- What the body of a block publishes. -/
def requestOf (cfg : Config) (session : Shadow.State) (token : String) :
    Block → Option (Mqtt.PublishOperation × Mqtt.Request)
  | .change value _ =>
      if session.data.shadowValue.pyEq value then none
      else
        some (Mqtt.IotShadow.publishUpdateShadow, updateInstance (updateRequest cfg value token))
  | .query =>
      some (Mqtt.IotShadow.publishGetShadow,
        getInstance { thingName := cfg.shadowThingName, clientToken := some token })
  | _ => none

/-! ## Handlers -/

inductive Handler where
  | onUpdateShadowAccepted
  | onUpdateShadowRejected
  | onGetShadowAccepted
  | onGetShadowRejected
  | onShadowDeltaUpdated
  deriving DecidableEq, Repr

/-- In the order of their subscriptions. -/
def handlers : List Handler :=
  [.onUpdateShadowAccepted, .onUpdateShadowRejected, .onGetShadowAccepted, .onGetShadowRejected,
    .onShadowDeltaUpdated]

def Handler.operation : Handler → Mqtt.SubscribeOperation
  | .onUpdateShadowAccepted => Mqtt.IotShadow.subscribeToUpdateShadowAccepted
  | .onUpdateShadowRejected => Mqtt.IotShadow.subscribeToUpdateShadowRejected
  | .onGetShadowAccepted => Mqtt.IotShadow.subscribeToGetShadowAccepted
  | .onGetShadowRejected => Mqtt.IotShadow.subscribeToGetShadowRejected
  | .onShadowDeltaUpdated => Mqtt.IotShadow.subscribeToShadowDeltaUpdatedEvents

def Handler.request (cfg : Config) (handler : Handler) : Mqtt.Request :=
  ⟨handler.operation.request, [.json (.str cfg.shadowThingName)]⟩

/-- An attribute that `from_payload` takes as it is. -/
def jsonAttr (x : Obj) (attr : String) : Json :=
  match x.getattr attr with
  | .ok (.json j) => j
  | _ => .null

def getShadowResponse (x : Obj) : GetShadowResponse where
  clientToken := jsonAttr x "client_token"
  state :=
    match x.getattr "state" with
    | .ok (.instance cls attributes) =>
        some
          { delta := jsonAttr (.instance cls attributes) "delta"
            reported := jsonAttr (.instance cls attributes) "reported" }
    | _ => none

def updateShadowResponse (x : Obj) : UpdateShadowResponse where
  clientToken := jsonAttr x "client_token"
  state :=
    match x.getattr "state" with
    | .ok (.state state) => some state
    | _ => none

def errorResponse (x : Obj) : ErrorResponse where
  clientToken := jsonAttr x "client_token"
  code := jsonAttr x "code"

def shadowDeltaUpdatedEvent (x : Obj) : ShadowDeltaUpdatedEvent where
  clientToken := jsonAttr x "client_token"
  state := jsonAttr x "state"
  version := jsonAttr x "version"

/-- What a handler is called with. -/
def Handler.task : Handler → Option Obj → Task
  | .onUpdateShadowAccepted, event => .updateAccepted (event.map updateShadowResponse)
  | .onUpdateShadowRejected, event => .updateRejected (event.map errorResponse)
  | .onGetShadowAccepted, event => .getAccepted (event.map getShadowResponse)
  | .onGetShadowRejected, event => .getRejected (event.map errorResponse)
  | .onShadowDeltaUpdated, event => .delta (event.map shadowDeltaUpdatedEvent)

/-! ## The program -/

structure State where
  session : Shadow.State := {}
  client : Mqtt.State Nat := {}
  /-- the calls of the subscriptions -/
  subscriptions : List Nat := []
  /-- the calls of the publishes -/
  publishes : List Nat := []
  /-- the main thread has left its `try` statement with an exception of a subscription -/
  abandoned : Bool := false

def State.future (s : State) (call : Nat) : ClientFuture Nat :=
  (s.client.calls[call]?.map (·.future)).getD .pending

/-- What `result()` returns or raises; nobody cancels a future. -/
def result : ClientFuture Nat → Option (Except Exn Unit)
  | .pending | .cancelled => none
  | .done (.ok _) => some (.ok ())
  | .done (.error (.connection id)) => some (.error (.external id))
  | .done (.error (.valueError message)) => some (.error (.valueError message))
  | .done (.error .keyError) => some (.error .keyError)
  | .done (.error _) => some (.error .typeError)

/-- `result()` of one future after the other. -/
def State.results (s : State) : List Nat → Option (Except Exn Unit)
  | [] => some (.ok ())
  | call :: calls =>
      match result (s.future call) with
      | some (.ok ()) => s.results calls
      | outcome => outcome

/-- The main thread subscribes twice, waits, subscribes twice, waits, subscribes and waits. -/
def State.awaited (s : State) : List Nat :=
  if s.subscriptions.length < handlers.length then
    s.subscriptions.take (s.subscriptions.length / 2 * 2)
  else s.subscriptions

inductive Action where
  /-- the next subscription of the main thread -/
  | subscribe (reply : Reply Nat)
  /-- a subscription is acknowledged or fails -/
  | suback (n : Nat) (ack : Ack Nat)
  /-- a subscription has failed; the main thread is `t` -/
  | abandon (t : Nat)
  /-- a message for a subscription, in thread `t` -/
  | message (t n : Nat) (topic : List Char) (payload : List UInt8)
  | typed (t : Nat) (value : String)
  | query (t : Nat)
  | acquire (t : Nat)
  | body (t : Nat) (token : String) (reply : Reply Nat)
  | advance (t : Nat)
  | release (t : Nat)
  | puback (t f : Nat) (ack : Ack Nat)

/-- A step of the session. -/
def State.take (cfg : Config) (s : State) (a : Shadow.Action) : Option State :=
  (Shadow.step cfg s.session a).map fun session => { s with session }

/-- A step of the client. -/
def State.act (B : Builtins) (s : State) (a : Mqtt.Act Nat) : Option State :=
  (Mqtt.step B s.client a).map fun client => { s with client }

def step (B : Builtins) (cfg : Config) (s : State) : Action → Option State
  | .subscribe reply =>
      match handlers[s.subscriptions.length]?, s.abandoned, s.results s.awaited with
      | some handler, false, some (.ok ()) =>
          { s with subscriptions := s.subscriptions ++ [s.client.calls.length] }.act B
            (.call (.subscribe handler.operation (handler.request cfg) 1 true reply))
      | _, _, _ => none
  | .suback n ack => s.subscriptions[n]?.bind fun call => s.act B (.complete call ack)
  | .abandon t =>
      match s.session.pc t, s.abandoned, s.results s.awaited with
      | .idle, false, some (.error _) =>
          some { s with session := s.session.goto t (.waiting .exit), abandoned := true }
      | _, _, _ => none
  | .message t n topic payload =>
      match handlers[n]?, s.subscriptions[n]? with
      | some handler, some call =>
          (s.act B (.deliver call topic payload)).bind fun s =>
            s.client.heard.getLast?.bind fun heard => s.take cfg (.start t (handler.task heard.2))
      | _, _ => none
  | .typed t value => s.take cfg (.start t (.typed value))
  | .query t =>
      match handlers[s.subscriptions.length]?, s.abandoned, s.results s.awaited with
      | none, false, some (.ok ()) => s.take cfg (.start t .query)
      | _, _, _ => none
  | .acquire t => s.take cfg (.acquire t)
  | .body t token reply =>
      match s.session.pc t with
      | .inside block =>
          match requestOf cfg s.session token block with
          | none => s.take cfg (.body t token none)
          | some (op, request) =>
              (s.act B (.call (.publish op request 1 reply))).bind fun s' =>
                { s' with publishes := s.publishes ++ [s.client.calls.length] }.take cfg
                  (.body t token (result (s'.future s.client.calls.length)))
      | _ => none
  | .advance t => s.take cfg (.advance t)
  | .release t => s.take cfg (.release t)
  | .puback t f ack =>
      s.publishes[f]?.bind fun call =>
        (s.act B (.complete call ack)).bind fun s =>
          (result (s.future call)).bind fun outcome => s.take cfg (.puback t f outcome)

end IotCore.Shadow.Wire
