import IotCore.Model.Greengrass.Shapes
import IotCore.Model.Shadow.Messages

/-! # Modeled classes of the MQTT services

The generated requests, responses and events of `awsiot.iotshadow`, `awsiot.iotjobs` and
`awsiot.iotidentity`: the responses and events by their `from_payload`, the requests by their
`to_payload`. -/

namespace IotCore.Mqtt

open Json Raising
open Greengrass (Exc contains getItem iterate items)

/-! ## Responses and events -/

mutual

structure ModeledClass where
  name : String
  slots : List Slot

/-- An attribute, which is None by default, and its key in the payload. -/
structure Slot where
  attr : String
  key : String
  kind : Kind

/-- How `from_payload` reads an attribute that is not None. -/
inductive Kind where
  /-- as it is -/
  | plain
  /-- by `datetime.datetime.fromtimestamp` -/
  | datetime
  /-- by `ShadowState.from_payload` -/
  | state
  | instance (cls : ModeledClass)
  | list (cls : ModeledClass)
  /-- a `dict` from strings to lists of instances of a class -/
  | dict (cls : ModeledClass)

end

/-- The values of attributes. What JSON can express is `json`, and None is its `null`. -/
inductive Obj where
  | json (j : Json)
  /-- a naive `datetime`, in microseconds of local time -/
  | datetime (microseconds : Int)
  | state (state : Shadow.ShadowState)
  /-- the attributes in the order of the slots of the class -/
  | instance (cls : ModeledClass) (attributes : List Obj)
  | list (items : List Obj)
  | dict (items : List (String × Obj))

def Obj.none : Obj := .json .null

/-- `bool`. -/
def Obj.truthy : Obj → Bool
  | .json j => j.truthy
  | .list items => !items.isEmpty
  | .dict items => !items.isEmpty
  | _ => true

def Obj.getattr : Obj → String → Except Exc Obj
  | .instance cls attributes, attr =>
      (((cls.slots.map Slot.attr).zip attributes).lookup attr).elim (.error .attributeError) .ok
  | _, _ => .error .attributeError

/-- `datetime.datetime.fromtimestamp` in the local time zone, and what `str.format` makes of an
object. -/
structure Builtins extends Interpreter where
  fromtimestamp : Rat → Except Exc Int
  format : Obj → List Char

/-- Enough where no float, no time and no text of an object but a string occurs. -/
def Builtins.noText : Builtins where
  repr _ := []
  parse _ := none
  fromtimestamp _ := .error .valueError
  format _ := []

/-- `payload.get(key)`. -/
def get : Json → String → Except Exc Json
  | .obj fields, key => .ok ((fields.lookup key).getD .null)
  | _, _ => .error .attributeError

/-- `is None`. -/
def isNone : Json → Bool
  | .null => true
  | _ => false

/-- A member of `ShadowState.from_payload`: its value, and whether it is nullable. -/
def nullableMember (key : String) (payload : Json) : Except Exc (Json × Bool) := do
  if ← contains payload key then
    let value ← getItem payload key
    return (value, isNone value)
  else return (.null, false)

def shadowStateFromPayload (payload : Json) : Except Exc Shadow.ShadowState := do
  let (desired, desiredIsNullable) ← nullableMember "desired" payload
  let (reported, reportedIsNullable) ← nullableMember "reported" payload
  return { desired, reported, desiredIsNullable, reportedIsNullable }

section

variable (B : Builtins)

def fromtimestamp : Json → Except Exc Obj
  | .float q => do return .datetime (← B.fromtimestamp q)
  | .int i => do return .datetime (← B.fromtimestamp i)
  | .bool b => do return .datetime (← B.fromtimestamp (if b then 1 else 0))
  | .inf _ => .error .overflowError
  | .nan => .error .valueError
  | _ => .error .typeError

/-- An attribute stays None if the value is. -/
def readUnlessNone (read : Json → Except Exc Obj) (value : Json) : Except Exc Obj :=
  if isNone value then .ok .none else read value

/-- `[read(i) for i in value]`. -/
def readList (read : Json → Except Exc Obj) (value : Json) : Except Exc Obj := do
  let values ← iterate value
  return .list (← values.mapM read)

mutual

/-- `from_payload`. -/
def fromPayload : ModeledClass → Json → Except Exc Obj
  | ⟨name, slots⟩, payload => do
      let attributes ← fromSlots slots payload
      return .instance ⟨name, slots⟩ attributes

def fromSlots : List Slot → Json → Except Exc (List Obj)
  | [], _ => .ok []
  | ⟨_, key, kind⟩ :: slots, payload => do
      let value ← get payload key
      let x ← readUnlessNone (fun v => fromValue kind v) value
      let xs ← fromSlots slots payload
      return x :: xs

def fromValue : Kind → Json → Except Exc Obj
  | .plain, value => .ok (.json value)
  | .datetime, value => fromtimestamp B value
  | .state, value => do return .state (← shadowStateFromPayload value)
  | .instance cls, value => fromPayload cls value
  | .list cls, value => readList (fun v => fromPayload cls v) value
  | .dict cls, value => do
      let fields ← items value
      return .dict (← mapItemsM (fun v => readList (fun i => fromPayload cls i) v) fields)

end

end

/-! ## Requests -/

/-- What becomes of an attribute of a request. -/
inductive Use where
  /-- it is not part of the payload -/
  | topic
  /-- `payload[key] = self.attr` -/
  | plain (key : String)
  /-- `payload[key] = self.attr.to_payload()` -/
  | payload (key : String)
  deriving DecidableEq, Repr

structure RequestClass where
  name : String
  slots : List (String × Use)
  deriving DecidableEq, Repr

/-- An instance of a class, with its attributes in the order of the slots. -/
structure Request where
  cls : RequestClass
  attributes : List Obj

def Request.getattr (request : Request) (attr : String) : Except Exc Obj :=
  (((request.cls.slots.map Prod.fst).zip request.attributes).lookup attr).elim
    (.error .attributeError) .ok

/-- `to_payload` of the attribute `state`. -/
def statePayload : Obj → Except Exc Json
  | .state state => .ok state.toPayload
  | _ => .error .attributeError

def Obj.isNone : Obj → Bool
  | .json j => Mqtt.isNone j
  | _ => false

/-- The payload is a `dict` of any objects, JSON or not. -/
def writeSlots : List (String × Use) → List Obj → Except Exc (List (String × Obj))
  | (_, use) :: slots, x :: xs =>
      if x.isNone then writeSlots slots xs
      else
        match use with
        | .topic => writeSlots slots xs
        | .plain key => do return (key, x) :: (← writeSlots slots xs)
        | .payload key => do
            let payload ← statePayload x
            return (key, .json payload) :: (← writeSlots slots xs)
  | _, _ => .ok []

def Request.toPayload (request : Request) : Except Exc (List (String × Obj)) :=
  writeSlots request.cls.slots request.attributes

/-- The objects that `json.dumps` accepts in a payload. -/
def jsonFields (F : Interpreter) : List (String × Obj) → Except Exc (List (String × Json))
  | [] => .ok []
  | (key, .json j) :: fields =>
      if convertible F j then do return (key, j) :: (← jsonFields F fields)
      else .error .valueError
  | _ :: _ => .error .typeError

end IotCore.Mqtt
