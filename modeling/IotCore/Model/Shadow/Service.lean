import IotCore.Model.Shadow.Session

/-! # The device and the shadow service

After its initial query the device is composed with a service that keeps the reported and the
desired value of `shadow_property`. A handler runs as a whole, and the updates and the delta
events travel on FIFO channels. -/

namespace IotCore.Shadow

/-! ## Values -/

/-- Words that the device does not treat as values. -/
def reservedWords : List String := ["none", "clear_shadow", "exit", "quit"]

abbrev PlainValue := { s : String // s ∉ reservedWords }

/-! ## The service -/

structure Service where
  reported : String
  desired : Option String

/-- What a payload reports for `shadow_property`, if it is a string. -/
def reportedValue (cfg : Config) (publish : Publish) : Option String :=
  match publish.payload with
  | .obj payload =>
      match payload.lookup "state" with
      | some (.obj state) =>
          match state.lookup "reported" with
          | some (.obj reported) =>
              match reported.lookup cfg.shadowProperty with
              | some (.str value) => some value
              | _ => none
          | _ => none
      | _ => none
  | _ => none

def deltaEvent (cfg : Config) (value : String) (clientToken : Option String) :
    ShadowDeltaUpdatedEvent where
  clientToken := match clientToken with
    | none => .null
    | some token => .str token
  state := .obj [(cfg.shadowProperty, .str value)]

/-- The delta that the service emits once it has taken over a value. -/
def Service.emit (cfg : Config) (s : Service) (clientToken : Option String) :
    List ShadowDeltaUpdatedEvent :=
  match s.desired with
  | none => []
  | some d => if d = s.reported then [] else [deltaEvent cfg d clientToken]

/-! ## The system -/

structure World where
  data : LockedData
  service : Service
  /-- in flight from the device to the service -/
  updates : List Publish := []
  /-- in flight from the service to the device -/
  deltas : List ShadowDeltaUpdatedEvent := []

namespace World

/-- The device has learned the reported value, and the service desires no other one. -/
structure Initial (w : World) : Prop where
  value : ∃ value : PlainValue, w.data.shadowValue = .str value ∧ w.service.reported = value
  desired : w.service.desired = none ∨ w.service.desired = some w.service.reported
  updates : w.updates = []
  deltas : w.deltas = []

inductive Action where
  /-- a line of input; `token` is what `uuid4` returns -/
  | typed (value : PlainValue) (token : String)
  /-- an external write of the desired value -/
  | desire (value : PlainValue) (clientToken : Option String)
  | deliverUpdate (clientToken : Option String)
  | deliverDelta (token : String)

/-- A handler that calls `change_shadow_value`, from its start to its end. -/
def handle (cfg : Config) (w : World) (block : Option Block) (token : String) : World :=
  match block with
  | some (.change value _) =>
      match changeShadowValue cfg w.data value token with
      | (data, some (.ok publish)) =>
          { w with
            data := { data with requestTokens := insert token data.requestTokens }
            updates := w.updates ++ [publish] }
      | (data, _) => { w with data := data }
  | _ => w

def notify (cfg : Config) (w : World) (clientToken : Option String) : World :=
  { w with deltas := w.deltas ++ w.service.emit cfg clientToken }

def step (cfg : Config) (w : World) : Action → Option World
  | .typed value token => some (w.handle cfg (firstBlock cfg (.typed value)) token)
  | .desire value clientToken =>
      some ({ w with service := { w.service with desired := some value } }.notify cfg clientToken)
  | .deliverUpdate clientToken =>
      match w.updates with
      | [] => none
      | update :: updates =>
          match reportedValue cfg update with
          | none => some { w with updates := updates }
          | some value =>
              some ({ w with
                updates := updates
                service := { w.service with reported := value } }.notify cfg clientToken)
  | .deliverDelta token =>
      match w.deltas with
      | [] => none
      | event :: deltas =>
          some ({ w with deltas := deltas }.handle cfg (firstBlock cfg (.delta (some event))) token)

end World

end IotCore.Shadow
