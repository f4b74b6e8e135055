import IotCore.Library.CancellableFuture
import IotCore.Model.Mqtt.ModeledClass

/-! # `awsiot.greengrass_discovery`

One call of `discover`: a connection, a request, and a response in chunks. What the HTTP client
does is an action of the environment. -/

namespace IotCore.Discovery

open Json
open Mqtt (ModeledClass Obj Builtins fromPayload)
open Greengrass (Exc)

variable {ε : Type}

/-! ## The response -/

def connectivityInfo : ModeledClass :=
  ⟨"ConnectivityInfo", [⟨"id", "Id", .plain⟩, ⟨"host_address", "HostAddress", .plain⟩,
    ⟨"metadata", "Metadata", .plain⟩, ⟨"port", "PortNumber", .plain⟩]⟩

def ggCore : ModeledClass :=
  ⟨"GGCore", [⟨"thing_arn", "thingArn", .plain⟩,
    ⟨"connectivity", "Connectivity", .list connectivityInfo⟩]⟩

def ggGroup : ModeledClass :=
  ⟨"GGGroup", [⟨"gg_group_id", "GGGroupId", .plain⟩, ⟨"cores", "Cores", .list ggCore⟩,
    ⟨"certificate_authorities", "CAs", .plain⟩]⟩

def discoverResponse : ModeledClass :=
  ⟨"DiscoverResponse", [⟨"gg_groups", "GGGroups", .list ggGroup⟩]⟩

inductive Error (ε : Type) where
  /-- of the HTTP client -/
  | http (e : ε)
  | unicodeDecodeError
  /-- also the ValueError of an integer that is too long -/
  | jsonDecodeError
  | builtin (e : Exc)
  | discovery (message : String) (httpResponseCode : Int)
  | invalidStateError

/-! ## State -/

/-- How far `on_connection_completed` is. -/
inductive Pc where
  /-- not called yet -/
  | connecting
  /-- before the request -/
  | requesting
  /-- the stream is active, and `on_request_complete` not added yet -/
  | activated
  | added
  /-- it has set an exception -/
  | failed
  deriving DecidableEq, Repr

structure State (ε : Type) where
  pc : Pc := .connecting
  responseBody : List UInt8 := []
  /-- of the HTTP stream: an exception or a response code -/
  completionFuture : Option (Except ε Int) := none
  future : CancellableFuture Obj (Error ε) := .pending

/-- `discovery['future'].set_exception(e)`; what it raises is logged by the future that called
the callback. -/
def State.setException (s : State ε) (e : Error ε) : State ε :=
  { s with future := (s.future.set (.error e)).getD s.future }

section

variable (B : Builtins)

def readResponse (responseBody : List UInt8) : Except (Error ε) Obj :=
  match responseBody.toByteArray.utf8Decode? with
  | none => .error .unicodeDecodeError
  | some payloadStr =>
      match loads B.toInterpreter payloadStr.toList with
      | none => .error .jsonDecodeError
      | some payload => (fromPayload B discoverResponse payload).mapError .builtin

def discoveryException (responseCode : Int) : Error ε :=
  .discovery ("Error during discover call: response_code=" ++ toString responseCode) responseCode

def onRequestComplete (s : State ε) : Except ε Int → State ε
  | .error e => s.setException (.http e)
  | .ok responseCode =>
      if responseCode = 200 then
        match readResponse B s.responseBody with
        | .error e => s.setException e
        | .ok discoverRes =>
            match s.future.set (.ok discoverRes) with
            | some future => { s with future }
            | none => s.setException .invalidStateError
      else s.setException (discoveryException responseCode)

inductive Act (ε : Type) where
  /-- `conn_future` is done -/
  | connected (outcome : Except ε Unit)
  /-- `connection.request` and `http_stream.activate` return or raise -/
  | requested (outcome : Except ε Unit)
  /-- `add_done_callback(on_request_complete)` -/
  | added
  /-- `on_incoming_body` -/
  | chunk (chunk : List UInt8)
  /-- the HTTP stream ends -/
  | completed (outcome : Except ε Int)
  /-- the user cancels the future -/
  | cancel

def step (s : State ε) : Act ε → Option (State ε)
  | .connected outcome =>
      if s.pc = .connecting then
        match outcome with
        | .error e => some { s.setException (.http e) with pc := .failed }
        | .ok () => some { s with pc := .requesting }
      else none
  | .requested outcome =>
      if s.pc = .requesting then
        match outcome with
        | .error e => some { s.setException (.http e) with pc := .failed }
        | .ok () => some { s with pc := .activated }
      else none
  | .added =>
      if s.pc = .activated then
        match s.completionFuture with
        | none => some { s with pc := .added }
        | some outcome => some { onRequestComplete B s outcome with pc := .added }
      else none
  | .chunk chunk =>
      if (s.pc = .activated ∨ s.pc = .added) ∧ s.completionFuture.isNone then
        some { s with responseBody := s.responseBody ++ chunk }
      else none
  | .completed outcome =>
      if s.completionFuture.isSome then none
      else
        match s.pc with
        | .activated => some { s with completionFuture := some outcome }
        | .added =>
            some { onRequestComplete B s outcome with completionFuture := some outcome }
        | _ => none
  | .cancel => some { s with future := s.future.cancel }

end

end IotCore.Discovery
