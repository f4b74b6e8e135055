import IotCore.Model.EventStream.Operation
import IotCore.Model.Greengrass.Model

/-! # Operations of the Greengrass service

The client operations over the generated shapes, and the messages that an operation sends. -/

namespace IotCore.Greengrass

open EventStream EventStream.Operation JsonText

/-! ## Receiving -/

/-- Exceptions of the builtins, as an operation sees them. -/
def Exc.error : Exc → Error Obj
  | .typeError => .external 0
  | .attributeError => .attributeError
  | .valueError => .external 1
  | .overflowError => .external 2

def unicodeDecodeError : Error Obj := .external 3

def jsonDecodeError : Error Obj := .external 4

section

variable (B : Builtins)

/-- `bytes.decode` and `json.loads`. -/
def codec : Codec Obj where
  decode payload :=
    match payload.toByteArray.utf8Decode? with
    | some text => .ok (String.ofList text.toList)
    | none => .error unicodeDecodeError
  loads text :=
    match Json.loads B.toInterpreter text.toList with
    | some payload => .ok payload
    | none => .error jsonDecodeError

def ShapeClass.shapeType (cls : ShapeClass) : ShapeType Obj where
  modelName := cls.modelName
  isException := cls.isException
  fromPayload payload := (fromPayload B cls payload).mapError Exc.error

/-- `GreengrassCoreIPCClient._new_operation`. -/
def OperationType.new {σ : Type} (operation : OperationType)
    (streamHandler : Option (StreamResponseHandler σ Obj)) : ClientOperation σ Obj where
  codec := codec B
  shapeIndex := ⟨shapeIndex.map (ShapeClass.shapeType B)⟩
  responseType := operation.responseType.shapeType B
  responseStreamType := operation.responseStreamType.map (ShapeClass.shapeType B)
  streamHandler := streamHandler

/-! ## Sending -/

inductive SendError where
  | attributeError
  | serializeError (message : String) (shape : Obj) (cause : Exc)

/-- `_json_payload_from_shape`. -/
def jsonPayloadFromShape (shape : Obj) : Except SendError (List UInt8) :=
  match toPayload B shape with
  | .ok payload =>
      if Json.convertible B.toInterpreter payload then
        .ok (encodeUtf8 (Json.dumps B.toInterpreter payload))
      else .error (.serializeError "Failed to serialize" shape .valueError)
  | .error e => .error (.serializeError "Failed to serialize" shape e)

/-- The headers of `_activate` and `_send_stream_event`. -/
def shapeHeaders (modelName : String) : List Header :=
  [⟨contentTypeHeader, .string contentTypeApplicationJson⟩,
    ⟨serviceModelTypeHeader, .string modelName⟩]

/-- `_model_name()` of an object that may not have it. -/
def modelName : Obj → Except SendError String
  | .shape cls _ => .ok cls.modelName
  | _ => .error .attributeError

/-- The message that `_send_stream_event` hands to the continuation. -/
def sendStreamEvent (event : Obj) : Except SendError Message := do
  let name ← modelName event
  let payload ← jsonPayloadFromShape B event
  return { headers := shapeHeaders name, payload, messageType := .applicationMessage }

/-- The name of the operation and the message that `_activate` hands to the continuation. -/
def activate (operation : OperationType) (request : Obj) : Except SendError (String × Message) := do
  let message ← sendStreamEvent B request
  return (operation.modelName, message)

end

end IotCore.Greengrass
