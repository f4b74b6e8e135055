import IotCore.Model.Mqtt.IotIdentity

/-! # `fleetprovisioning.py`

The main thread subscribes, asks for a certificate, polls for the response and registers the
thing. The callbacks run on the thread of the connection, but that of a future which is done when
it is added runs at once, on the main thread. `exit` is called on both. -/

namespace IotCore.FleetProvisioning

open Mqtt
open Greengrass (Exc)

/-! ## Requests -/

/-- The arguments of the command line that decide the run. -/
structure Args where
  /-- `--csr`: the text of the file, if it can be read -/
  csr : Option (Option String)
  templateName : Option String
  /-- what `json.loads` makes of `--template_parameters`, if it does not raise -/
  templateParameters : Option Json

def Args.template (args : Args) : Obj :=
  match args.templateName with
  | none => .none
  | some name => .json (.str name)

/-- The subscriptions, in order: a certificate accepted and rejected, a thing accepted and
rejected. -/
def Args.subscriptions (args : Args) : List (SubscribeOperation × Request) :=
  (if args.csr.isNone then
    [(IotIdentity.subscribeToCreateKeysAndCertificateAccepted,
        ⟨IotIdentity.createKeysAndCertificateSubscriptionRequest, []⟩),
      (IotIdentity.subscribeToCreateKeysAndCertificateRejected,
        ⟨IotIdentity.createKeysAndCertificateSubscriptionRequest, []⟩)]
  else
    [(IotIdentity.subscribeToCreateCertificateFromCsrAccepted,
        ⟨IotIdentity.createCertificateFromCsrSubscriptionRequest, []⟩),
      (IotIdentity.subscribeToCreateCertificateFromCsrRejected,
        ⟨IotIdentity.createCertificateFromCsrSubscriptionRequest, []⟩)]) ++
  [(IotIdentity.subscribeToRegisterThingAccepted,
      ⟨IotIdentity.registerThingSubscriptionRequest, [args.template]⟩),
    (IotIdentity.subscribeToRegisterThingRejected,
      ⟨IotIdentity.registerThingSubscriptionRequest, [args.template]⟩)]

/-- The request for a certificate; `none` if the file cannot be read. -/
def Args.certificateRequest (args : Args) : Option (PublishOperation × Request) :=
  match args.csr with
  | none =>
      some (IotIdentity.publishCreateKeysAndCertificate,
        ⟨IotIdentity.createKeysAndCertificateRequest, []⟩)
  | some none => none
  | some (some csr) =>
      some (IotIdentity.publishCreateCertificateFromCsr,
        ⟨IotIdentity.createCertificateFromCsrRequest, [.json (.str csr)]⟩)

def Args.registerRequest (args : Args) (token : Obj) (parameters : Json) :
    PublishOperation × Request :=
  (IotIdentity.publishRegisterThing,
    ⟨IotIdentity.registerThingRequest, [token, .json parameters, args.template]⟩)

/-- `response.certificate_ownership_token`, of a response that may be None. -/
def ownershipToken : Option Obj → Except Exc Obj
  | none => .error .attributeError
  | some response => response.getattr "certificate_ownership_token"

/-! ## State -/

inductive Failure where
  /-- raised by a method of the client -/
  | client (e : Error Unit)
  | subscription
  /-- the exception of the future of a publish -/
  | publish (e : Error Unit)
  | file
  /-- by `json.dumps` of a response -/
  | notSerializable
  | apiDidNotSucceed
  | builtin (e : Exc)
  | templateParameters
  deriving DecidableEq, Repr

/-- The argument of `exit`. -/
inductive Exit where
  | success
  | rejected
  | error (e : Failure)
  deriving DecidableEq, Repr

/-- Where `exit` is called from. -/
inductive Caller where
  | main
  | callback
  deriving DecidableEq, Repr

/-- Where the callback `on_publish_…` of a future is. -/
inductive Callback where
  /-- before `add_done_callback` -/
  | notAdded
  | added
  | ran (caller : Caller)
  deriving DecidableEq, Repr

/-- A request whose method `publish_…` has returned. -/
structure Publish where
  request : PublishOperation × Request
  future : ClientFuture Unit
  callback : Callback := .notAdded

/-- The two loops that wait for a response. -/
inductive Wait where
  | certificate
  | thing
  deriving DecidableEq, Repr

def Wait.bound : Wait → Nat
  | .certificate => 10
  | .thing => 20

/-- Where the main thread is. -/
inductive Pc where
  /-- in `connected_future.result()` -/
  | connecting
  /-- before the subscription `k` -/
  | subscribe (k : Nat)
  /-- in `result()` of the subscription `k` -/
  | subscribing (k : Nat)
  /-- before the publish of the request for a certificate -/
  | request
  /-- at `add_done_callback` of the future of a publish -/
  | addCallback (w : Wait)
  /-- at the condition of a loop -/
  | poll (w : Wait) (loopCount : Nat)
  /-- at the test of the response inside the loop -/
  | retest (w : Wait) (loopCount : Nat)
  /-- at `json.dumps` of the response -/
  | report (w : Wait) (loopCount : Nat)
  /-- in `time.sleep(1)` -/
  | sleep (w : Wait) (loopCount : Nat)
  /-- at the test of the response after the loop -/
  | check
  /-- where the request to register the thing is made -/
  | prepare
  /-- before its publish -/
  | register (request : PublishOperation × Request)
  /-- at `exit` -/
  | exiting (e : Exit)
  /-- in `is_sample_done.wait()` -/
  | waiting
  | finished
  /-- by an exception outside the `try` -/
  | aborted

structure State where
  pc : Pc := .connecting
  /-- subscriptions that were called for -/
  called : Nat := 0
  /-- subscriptions that have succeeded -/
  subscribed : Nat := 0
  publishes : List Publish := []
  /-- `createKeysAndCertificateResponse` or `createCertificateFromCsrResponse` -/
  certificate : Option Obj := none
  /-- `registerThingResponse` -/
  thing : Option Obj := none
  /-- the event that `createcertificatefromcsr_execution_accepted` has stored, before it reads the
  token -/
  accepting : Option (Option Obj) := none
  exits : List (Caller × Exit) := []
  disconnectCalled : Bool := false
  /-- calls of `mqtt_connection.disconnect` -/
  disconnects : Nat := 0
  isSampleDone : Bool := false

def State.requests (s : State) : List (PublishOperation × Request) :=
  s.publishes.map Publish.request

def State.response (s : State) : Wait → Option Obj
  | .certificate => s.certificate
  | .thing => s.thing

/-- `exit`; its block is atomic. -/
def exit (s : State) (caller : Caller) (e : Exit) : State :=
  let s := { s with exits := s.exits ++ [(caller, e)] }
  if s.disconnectCalled then s
  else { s with disconnectCalled := true, disconnects := s.disconnects + 1 }

/-- `on_publish_…`, called with a future that is done. -/
def onPublish (s : State) (caller : Caller) : ClientFuture Unit → State
  | .done (.error e) => exit s caller (.error (.publish e))
  | _ => s

/-! ## The main thread -/

/-- What follows a loop. -/
def Wait.after : Wait → Pc
  | .certificate => .check
  | .thing => .exiting .success

section

variable (B : Builtins) (args : Args)

/-- What the main thread does next, where it does not wait. -/
def mainStep (s : State) : Option State :=
  match s.pc with
  | .subscribe k =>
      match args.subscriptions[k]? with
      | none => some { s with pc := .request }
      | some (op, request) =>
          match op.prepare B request true with
          | .error e => some { s with pc := .exiting (.error (.client e)) }
          | .ok _ => some { s with called := k + 1, pc := .subscribing k }
  | .addCallback w =>
      s.publishes.getLast?.map fun p =>
        let added (callback : Callback) : State :=
          { s with
            publishes := s.publishes.dropLast ++ [{ p with callback }], pc := .poll w 0 }
        match p.future with
        | .pending => added .added
        | future => onPublish (added (.ran .main)) .main future
  | .poll w n =>
      if n < w.bound ∧ (s.response w).isNone then some { s with pc := .retest w n }
      else some { s with pc := w.after }
  | .retest w n =>
      if (s.response w).isSome then some { s with pc := w.after }
      else some { s with pc := .report w n }
  | .report w n =>
      if (s.response w).isSome then some { s with pc := .exiting (.error .notSerializable) }
      else some { s with pc := .sleep w n }
  | .sleep w n => some { s with pc := .poll w (n + 1) }
  | .check =>
      if s.certificate.isNone then some { s with pc := .exiting (.error .apiDidNotSucceed) }
      else some { s with pc := .prepare }
  | .prepare =>
      match ownershipToken s.certificate with
      | .error e => some { s with pc := .exiting (.error (.builtin e)) }
      | .ok token =>
          match args.templateParameters with
          | none => some { s with pc := .exiting (.error .templateParameters) }
          | some parameters =>
              some { s with pc := .register (args.registerRequest token parameters) }
  | .exiting e => some { exit s .main e with pc := .waiting }
  | .waiting => if s.isSampleDone then some { s with pc := .finished } else none
  | .connecting | .subscribing _ | .request | .register _ | .finished | .aborted => none

/-- A method `publish_…`; the connection takes its call with `reply`. -/
def publish (s : State) (w : Wait) (request : PublishOperation × Request) (reply : Reply Unit) :
    State :=
  match (Method.publish request.1 request.2 1 reply).run B with
  | .error e => { s with pc := .exiting (.error (.client e)) }
  | .ok (_, call) =>
      { s with
        publishes := s.publishes ++ [{ request, future := call.future }], pc := .addCallback w }

/-- What the main thread does where it makes a request. -/
def publishStep (s : State) (reply : Reply Unit) : Option State :=
  match s.pc with
  | .request =>
      match args.certificateRequest with
      | none => some { s with pc := .exiting (.error .file) }
      | some request => some (publish B s .certificate request reply)
  | .register request => some (publish B s .thing request reply)
  | _ => none

/-! ## The system -/

/-- The callback of the subscription `k`, with an event or None. -/
def onMessage (s : State) (k : Nat) (event : Option Obj) : Option State :=
  match k with
  | 0 =>
      some { s with
        certificate := event, accepting := if args.csr.isSome then some event else none }
  | 2 => some { s with thing := event }
  | 1 | 3 =>
      -- the attributes of None: an AttributeError that the connection gets
      match event with
      | none => some s
      | some _ => some (exit s .callback .rejected)
  | _ => none

/-- The connection has an outcome for the publish `i`; `add_done_callback` and the completion of
a future exclude each other. -/
def puback (s : State) (i : Nat) (ack : Ack Unit) : Option State :=
  s.publishes[i]?.bind fun p =>
    match p.future with
    | .pending =>
        let future := Mqtt.onPuback p.future ack
        match p.callback with
        | .added =>
            let p := { p with future, callback := .ran .callback }
            some (onPublish { s with publishes := s.publishes.set i p } .callback future)
        | _ => some { s with publishes := s.publishes.set i { p with future } }
    | _ => none

inductive Action where
  | connected (ok : Bool)
  | subscribed (ok : Bool)
  /-- the main thread goes on -/
  | main
  /-- it makes a request -/
  | publish (reply : Reply Unit)
  /-- a message for the subscription `k` -/
  | message (k : Nat) (event : Option Obj)
  /-- the rest of `createcertificatefromcsr_execution_accepted` -/
  | accepted
  | puback (i : Nat) (ack : Ack Unit)
  /-- `on_disconnected` -/
  | disconnected

def step (s : State) : Action → Option State
  | .connected ok =>
      match s.pc with
      | .connecting => some { s with pc := if ok then .subscribe 0 else .aborted }
      | _ => none
  | .subscribed ok =>
      match s.pc with
      | .subscribing k =>
          if ok then some { s with subscribed := k + 1, pc := .subscribe (k + 1) }
          else some { s with pc := .exiting (.error .subscription) }
      | _ => none
  | .main => mainStep B args s
  | .publish reply => publishStep B args s reply
  | .message k event =>
      if s.accepting.isNone ∧ k < s.called then onMessage args s k event else none
  | .accepted =>
      match s.accepting with
      | none => none
      | some event =>
          let s := { s with accepting := none }
          match ownershipToken event with
          | .error e => some (exit s .callback (.error (.builtin e)))
          | .ok _ => some s
  | .puback i ack => FleetProvisioning.puback s i ack
  | .disconnected =>
      if 0 < s.disconnects ∧ s.isSampleDone = false then
        some { s with isSampleDone := true }
      else none

end

end IotCore.FleetProvisioning
