import IotCore.Model.EventStream.Connection
import IotCore.Model.Json

/-! # `awsiot.eventstreamrpc.ClientOperation`

The messages of one continuation, from its activation to its closed callback. Exceptions are
the control flow of the source: a function that may raise returns an `Except` beside the
state that it leaves behind. -/

namespace IotCore.EventStream.Operation

/-! ## Shapes -/

/-- Exceptions of an operation over the shapes of a service. -/
inductive Error (ι : Type) where
  | unmappedDataError (message : String) (headers : Option (List Header)) (payload : List UInt8)
  | deserializeError (message : String) (cause : Error ι) (payload : List UInt8)
  /-- an error shape of the service -/
  | shape (s : ι)
  | streamClosedError
  | invalidStateError
  | attributeError
  /-- what other code raises -/
  | external (id : Nat)
  deriving Repr

/-- A subclass of `Shape`. -/
structure ShapeType (ι : Type) where
  modelName : String
  /-- it is a subclass of `Exception` -/
  isException : Bool
  fromPayload : Json → Except (Error ι) ι

/-- The catalog of the service; a later type replaces an earlier one of the same name. -/
structure ShapeIndex (ι : Type) where
  shapeTypes : List (ShapeType ι)

def ShapeIndex.findShapeType {ι : Type} (index : ShapeIndex ι) (modelName : String) :
    Option (ShapeType ι) :=
  index.shapeTypes.reverse.find? fun t => t.modelName = modelName

/-- `bytes.decode` and `json.loads`. -/
structure Codec (ι : Type) where
  decode : List UInt8 → Except (Error ι) String
  loads : String → Except (Error ι) Json

/-- A `StreamResponseHandler` with an internal state. Each callback may raise; a returned
`none` of `onStreamError` is Python's `None`. -/
structure StreamResponseHandler (σ ι : Type) where
  onStreamEvent : σ → ι → σ × Except (Error ι) Unit
  onStreamError : σ → Error ι → σ × Except (Error ι) (Option Bool)
  onStreamClosed : σ → σ × Except (Error ι) Unit
  /-- its truth value -/
  truthy : Bool := true

/-- One operation type, its handler and the catalog that it was created with. -/
structure ClientOperation (σ ι : Type) where
  codec : Codec ι
  shapeIndex : ShapeIndex ι
  responseType : ShapeType ι
  responseStreamType : Option (ShapeType ι)
  streamHandler : Option (StreamResponseHandler σ ι)

/-! ## The state of an operation -/

/-- What an operation does to the outside, in order. -/
inductive Effect (ι : Type) where
  | initialResponse (outcome : Except (Error ι) ι)
  | closedFuture
  | onStreamEvent (event : ι)
  | onStreamError (error : Error ι)
  | onStreamClosed
  /-- `send_message` with TERMINATE_STREAM -/
  | terminate

structure State (σ ι : Type) where
  messageCount : Nat := 0
  initialResponseFuture : Future ι (Error ι) := .pending
  closedFuture : Future Unit (Error ι) := .pending
  handlerState : σ
  effects : List (Effect ι) := []

section Handling

variable {σ ι : Type}

/-- `set_result` and `set_exception` of `_initial_response_future`. -/
def State.setInitialResponse (s : State σ ι) (outcome : Except (Error ι) ι) :
    State σ ι × Except (Error ι) Unit :=
  if s.initialResponseFuture.done then
    ({ s with initialResponseFuture := s.initialResponseFuture.set outcome },
      .error .invalidStateError)
  else
    ({ s with
        initialResponseFuture := s.initialResponseFuture.set outcome
        effects := s.effects ++ [.initialResponse outcome] },
      .ok ())

/-- `close`; an exception of `send_message` is ignored. -/
def State.close (s : State σ ι) : State σ ι := { s with effects := s.effects ++ [.terminate] }

def serviceModelTypeHeader : String := "service-model-type"

def contentTypeHeader : String := ":content-type"

def contentTypeApplicationJson : String := "application/json"

/-- `_find_header` for headers of type STRING. -/
def findHeader (headers : List Header) (name : String) : Option String :=
  headers.findSome? fun header =>
    if lower header.name = lower name then
      match header.value with
      | .string value => some value
      | .other _ _ => none
    else none

variable (op : ClientOperation σ ι)

/-- `_shape_from_json_payload`. -/
def shapeFromJsonPayload (payloadBytes : List UInt8) (shapeType : ShapeType ι) :
    Except (Error ι) ι :=
  let result := do
    let payloadStr ← op.codec.decode payloadBytes
    let payloadObj ← op.codec.loads payloadStr
    shapeType.fromPayload payloadObj
  match result with
  | .ok shape => .ok shape
  | .error e =>
      .error (.deserializeError ("Failed to deserialize " ++ shapeType.modelName) e payloadBytes)

/-- `_handle_data`. -/
def handleData (s : State σ ι) (modelName : String) (payload : List UInt8) :
    State σ ι × Except (Error ι) Unit :=
  if s.messageCount = 1 then
    let expectedName := op.responseType.modelName
    if modelName ≠ expectedName then
      let msg := "Unexpected response type: " ++ modelName ++ ", expected: " ++ expectedName
      (s, .error (.unmappedDataError msg none payload))
    else
      match shapeFromJsonPayload op payload op.responseType with
      | .error e => (s, .error e)
      | .ok shape => s.setInitialResponse (.ok shape)
  else
    match op.responseStreamType with
    | none =>
        let msg :=
          "Operation does not support response stream events, received type: " ++ modelName
        (s, .error (.unmappedDataError msg none payload))
    | some expectedType =>
        if modelName ≠ expectedType.modelName then
          let msg :=
            "Unexpected response stream event type: " ++ modelName ++ ", expected: " ++
              expectedType.modelName
          (s, .error (.unmappedDataError msg none payload))
        else
          match shapeFromJsonPayload op payload expectedType with
          | .error e => (s, .error e)
          | .ok shape =>
              match op.streamHandler with
              | none => (s, .error .attributeError)
              | some handler =>
                  let (handlerState, result) := handler.onStreamEvent s.handlerState shape
                  ({ s with
                      handlerState := handlerState
                      effects := s.effects ++ [.onStreamEvent shape] },
                    result)

/-- `_handle_error`; exceptions inside it are only logged. -/
def handleError (s : State σ ι) (error : Error ι) (flags : MessageFlags) : State σ ι :=
  if s.messageCount = 1 then
    match s.setInitialResponse (.error error) with
    | (s, .error _) => s
    | (s, .ok ()) => if flags.terminateStream then s else s.close
  else
    match op.streamHandler with
    | none => s
    | some handler =>
        let (handlerState, result) := handler.onStreamError s.handlerState error
        let s :=
          { s with
            handlerState := handlerState
            effects := s.effects ++ [.onStreamError error] }
        match result with
        | .error _ => s
        | .ok returned =>
            if returned ≠ some false then
              if flags.terminateStream then s else s.close
            else s

/-- The body of the `try` block of `_on_continuation_message`. -/
def handleMessage (s : State σ ι) (m : Message) : State σ ι × Except (Error ι) Unit :=
  match findHeader m.headers serviceModelTypeHeader with
  | none =>
      if m.flags.terminateStream then (s, .ok ())
      else
        let msg := "Missing header: " ++ serviceModelTypeHeader
        (s, .error (.unmappedDataError msg m.headers m.payload))
  | some modelName =>
      match findHeader m.headers contentTypeHeader with
      | none =>
          let msg := "Missing header: " ++ contentTypeHeader
          (s, .error (.unmappedDataError msg m.headers m.payload))
      | some contentType =>
          if contentType ≠ contentTypeApplicationJson then
            let msg :=
              "Unexpected " ++ contentTypeHeader ++ ": '" ++ contentType ++ "', expected: '" ++
                contentTypeApplicationJson ++ "'"
            (s, .error (.unmappedDataError msg m.headers m.payload))
          else if m.messageType = .applicationMessage then handleData op s modelName m.payload
          else
            match op.shapeIndex.findShapeType modelName with
            | none =>
                let msg := "Unknown error type: " ++ modelName
                (s, .error (.unmappedDataError msg none m.payload))
            | some foundType =>
                if !foundType.isException then
                  let msg :=
                    "Unexpected type: " ++ modelName ++
                      " sent as APPLICATION_ERROR, expected subclass of Exception"
                  (s, .error (.unmappedDataError msg none m.payload))
                else
                  match shapeFromJsonPayload op m.payload foundType with
                  | .error e => (s, .error e)
                  | .ok shape => (s, .error (.shape shape))

/-- `_on_continuation_message`. -/
def onContinuationMessage (s : State σ ι) (m : Message) : State σ ι :=
  match handleMessage op { s with messageCount := s.messageCount + 1 } m with
  | (s, .ok ()) => s
  | (s, .error e) => handleError op s e m.flags

/-- `_on_continuation_closed`. -/
def onContinuationClosed (s : State σ ι) : State σ ι :=
  let s :=
    if s.initialResponseFuture.done then s
    else (s.setInitialResponse (.error .streamClosedError)).1
  let s :=
    { s with
      closedFuture := s.closedFuture.set (.ok ())
      effects := s.effects ++ [.closedFuture] }
  match op.streamHandler with
  | none => s
  | some handler =>
      if handler.truthy then
        { s with
          handlerState := (handler.onStreamClosed s.handlerState).1
          effects := s.effects ++ [.onStreamClosed] }
      else s

end Handling

/-! ## The callbacks of one continuation -/

inductive Action where
  | message (m : Message)
  | closed
  deriving DecidableEq, Repr

/-- How far the native continuation has come. -/
inductive Phase where
  | streaming
  /-- a message with TERMINATE_STREAM has been delivered -/
  | terminated
  | closed
  deriving DecidableEq, Repr

/-- The operation as the native runtime drives it: messages one at a time, none after one
with TERMINATE_STREAM, and one closed callback. -/
def step {σ ι : Type} (op : ClientOperation σ ι) :
    Phase × State σ ι → Action → Option (Phase × State σ ι)
  | (.streaming, s), .message m =>
      let phase := if m.flags.terminateStream then .terminated else .streaming
      some (phase, onContinuationMessage op s m)
  | (.streaming, s), .closed | (.terminated, s), .closed =>
      some (.closed, onContinuationClosed op s)
  | _, _ => none

end IotCore.EventStream.Operation
