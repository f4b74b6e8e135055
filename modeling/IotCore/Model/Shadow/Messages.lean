import IotCore.Model.Json

/-! # `awsiot.iotshadow`

The requests and the events of the device shadow service that `shadow.py` uses. A Python
`None` in a field that may hold any JSON value is `Json.null`. -/

namespace IotCore.Shadow

inductive Exn where
  | valueError (message : String)
  | attributeError
  | typeError
  | keyError
  /-- what the MQTT connection raises or completes a future with -/
  | external (id : Nat)
  deriving DecidableEq, Repr

/-! ## Requests -/

structure ShadowState where
  desired : Json := .null
  reported : Json := .null
  desiredIsNullable : Bool := false
  reportedIsNullable : Bool := false
  deriving Repr

/-- A member of a payload: a nullable one is always there. -/
def ShadowState.member (name : String) (value : Json) (nullable : Bool) : List (String × Json) :=
  if nullable then [(name, value)]
  else
    match value with
    | .null => []
    | value => [(name, value)]

def ShadowState.toPayload (s : ShadowState) : Json :=
  .obj (member "desired" s.desired s.desiredIsNullable ++
    member "reported" s.reported s.reportedIsNullable)

structure UpdateShadowRequest where
  clientToken : Option String := none
  state : Option ShadowState := none
  thingName : String
  version : Option Int := none
  deriving Repr

def UpdateShadowRequest.toPayload (r : UpdateShadowRequest) : Json :=
  .obj ((r.clientToken.map fun token => ("clientToken", .str token)).toList ++
    (r.state.map fun state => ("state", state.toPayload)).toList ++
    (r.version.map fun version => ("version", .int version)).toList)

structure GetShadowRequest where
  clientToken : Option String := none
  thingName : String
  deriving Repr

def GetShadowRequest.toPayload (r : GetShadowRequest) : Json :=
  .obj (r.clientToken.map fun token => ("clientToken", .str token)).toList

/-- What `_publish_operation` hands to the MQTT connection, before it is encoded. -/
structure Publish where
  topic : String
  payload : Json
  deriving Repr

/-- `publish_update_shadow`, up to the call of `_publish_operation`. -/
def publishUpdateShadow (request : UpdateShadowRequest) : Except Exn Publish :=
  if request.thingName = "" then .error (.valueError "request.thing_name is required")
  else .ok ⟨"$aws/things/" ++ request.thingName ++ "/shadow/update", request.toPayload⟩

/-- `publish_get_shadow`, up to the call of `_publish_operation`. -/
def publishGetShadow (request : GetShadowRequest) : Except Exn Publish :=
  if request.thingName = "" then .error (.valueError "request.thing_name is required")
  else .ok ⟨"$aws/things/" ++ request.thingName ++ "/shadow/get", request.toPayload⟩

/-! ## Events -/

structure ShadowStateWithDelta where
  delta : Json := .null
  reported : Json := .null
  deriving Repr

structure GetShadowResponse where
  clientToken : Json := .null
  state : Option ShadowStateWithDelta := none
  deriving Repr

structure ErrorResponse where
  clientToken : Json := .null
  code : Json := .null
  deriving Repr

structure ShadowDeltaUpdatedEvent where
  clientToken : Json := .null
  state : Json := .null
  /-- the version of the shadow document -/
  version : Json := .null
  deriving Repr

structure UpdateShadowResponse where
  clientToken : Json := .null
  state : Option ShadowState := none
  deriving Repr

end IotCore.Shadow
