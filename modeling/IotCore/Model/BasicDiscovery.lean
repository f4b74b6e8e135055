import IotCore.Model.Discovery

/-! # `basic_discovery.py`

The sample tries the endpoints of a discovery response until it connects to one, and publishes
there. -/

namespace IotCore.BasicDiscovery

open Json
open Mqtt (Obj Builtins)
open Greengrass (Exc)

/-- The arguments of the command line that decide the run. -/
structure Args where
  printDiscoverRespOnly : Bool := false
  mode : String := "both"
  message : String := "Hello World!"
  maxPubOps : Int := 10

def Args.publishes (args : Args) : Bool := args.mode = "both" ∨ args.mode = "publish"

def Args.subscribes (args : Args) : Bool := args.mode = "both" ∨ args.mode = "subscribe"

def messageJson (B : Builtins) (args : Args) (loopCount : Nat) : List Char :=
  dumps B.toInterpreter (.obj [("message", .str args.message), ("sequence", .int loopCount)])

/-! ## Endpoints -/

/-- What `mtls_from_path` is called with. -/
structure Endpoint where
  endpoint : Obj
  port : Obj
  caBytes : List UInt8

/-- `gg_group.certificate_authorities[0].encode('utf-8')`; `none` if it raises. -/
def caBytes (ggGroup : Obj) : Option (List UInt8) :=
  match ggGroup.getattr "certificate_authorities" with
  | .ok (.json (.arr (.str ca :: _))) => some (JsonText.encodeUtf8 ca.toList)
  | .ok (.json (.str cas)) => cas.toList.head?.map fun c => JsonText.encodeUtf8 [c]
  | _ => none

/-- The part of the `try` before the builder; `none` if it raises. -/
def endpoint (ggGroup ggCore connectivityInfo : Obj) : Option Endpoint := do
  let _ ← (ggCore.getattr "thing_arn").toOption
  let host ← (connectivityInfo.getattr "host_address").toOption
  let port ← (connectivityInfo.getattr "port").toOption
  let ca ← caBytes ggGroup
  return ⟨host, port, ca⟩

/-- `for … in x`. -/
def iterate : Obj → Except Exc (List Obj)
  | .list items => .ok items
  | .json j => (Greengrass.iterate j).map fun values => values.map .json
  | .dict items => .ok (items.map fun item => .json (.str item.1))
  | _ => .error .typeError

/-- `for … in x.attr`. -/
def members (x : Obj) (attr : String) : Except Exc (List Obj) := do
  let value ← x.getattr attr
  iterate value

/-! ## State -/

inductive Abort where
  | builtin (e : Exc)
  | subscription
  | publish
  deriving DecidableEq, Repr

/-- Where the main thread is, with what the loops have left. -/
inductive Pc where
  | groups (ggGroups : List Obj)
  | cores (ggGroup : Obj) (cores ggGroups : List Obj)
  | infos (ggGroup ggCore : Obj) (infos cores ggGroups : List Obj)
  /-- in the builder or in `connect_future.result()` -/
  | connecting (e : Endpoint) (ggGroup ggCore : Obj) (infos cores ggGroups : List Obj)
  | connected
  /-- in `subscribe_future.result()` -/
  | subscribing
  /-- at the condition of the loop -/
  | loop (loopCount : Nat)
  /-- in `pub_future.result()` -/
  | publishing (loopCount : Nat)
  | sleep (loopCount : Nat)
  | finished
  /-- with "All connection attempts failed" -/
  | exited
  | aborted (e : Abort)

structure State where
  pc : Pc
  tried : List Endpoint := []
  mqttConnection : Option Endpoint := none
  published : List (List Char) := []

section

variable (B : Builtins) (args : Args)

/-- After the response was printed. -/
def start (discoverResponse : Obj) : State :=
  if args.printDiscoverRespOnly then { pc := .finished }
  else
    match members discoverResponse "gg_groups" with
    | .error e => { pc := .aborted (.builtin e) }
    | .ok ggGroups => { pc := .groups ggGroups }

/-- What the main thread does next, where it does not wait. -/
def mainStep (s : State) : Option State :=
  match s.pc with
  | .groups [] => some { s with pc := .exited }
  | .groups (ggGroup :: ggGroups) =>
      match members ggGroup "cores" with
      | .error e => some { s with pc := .aborted (.builtin e) }
      | .ok cores => some { s with pc := .cores ggGroup cores ggGroups }
  | .cores _ [] ggGroups => some { s with pc := .groups ggGroups }
  | .cores ggGroup (ggCore :: cores) ggGroups =>
      match members ggCore "connectivity" with
      | .error e => some { s with pc := .aborted (.builtin e) }
      | .ok infos => some { s with pc := .infos ggGroup ggCore infos cores ggGroups }
  | .infos ggGroup _ [] cores ggGroups => some { s with pc := .cores ggGroup cores ggGroups }
  | .infos ggGroup ggCore (connectivityInfo :: infos) cores ggGroups =>
      match endpoint ggGroup ggCore connectivityInfo with
      | none => some { s with pc := .infos ggGroup ggCore infos cores ggGroups }
      | some e =>
          some { s with
            tried := s.tried ++ [e], pc := .connecting e ggGroup ggCore infos cores ggGroups }
  | .connected => some { s with pc := if args.subscribes then .subscribing else .loop 0 }
  | .loop n =>
      if n < args.maxPubOps then
        if args.publishes then
          some { s with published := s.published ++ [messageJson B args n], pc := .publishing n }
        else some { s with pc := .sleep n }
      else some { s with pc := .finished }
  | .sleep n => some { s with pc := .loop n }
  | _ => none

inductive Action where
  | main
  /-- the connection is made, or an exception is raised -/
  | attempt (ok : Bool)
  | subscribed (ok : Bool)
  | published (ok : Bool)
  deriving DecidableEq, Repr

def step (s : State) : Action → Option State
  | .main => mainStep B args s
  | .attempt ok =>
      match s.pc with
      | .connecting e ggGroup ggCore infos cores ggGroups =>
          if ok then some { s with mqttConnection := some e, pc := .connected }
          else some { s with pc := .infos ggGroup ggCore infos cores ggGroups }
      | _ => none
  | .subscribed ok =>
      match s.pc with
      | .subscribing => some { s with pc := if ok then .loop 0 else .aborted .subscription }
      | _ => none
  | .published ok =>
      match s.pc with
      | .publishing n => some { s with pc := if ok then .sleep (n + 1) else .aborted .publish }
      | _ => none

end

end IotCore.BasicDiscovery
