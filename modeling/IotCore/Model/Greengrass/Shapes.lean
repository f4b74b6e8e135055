import IotCore.Library.Base64
import IotCore.Library.Raising
import IotCore.Model.JsonCodec

/-! # The generated `_to_payload` and `_from_payload`

Every generated subclass of `Shape` has the same two methods, up to the members it declares. An
instance is its class and the values of its attributes. -/

namespace IotCore.Greengrass

open Json Raising

/-! ## Classes -/

mutual

/-- A generated subclass of `Shape`. -/
structure ShapeClass where
  modelName : String
  /-- it is a subclass of `GreengrassCoreIPCError` -/
  isException : Bool
  members : List Member

/-- An attribute, which is None by default, and its key in the payload. -/
structure Member where
  attr : String
  key : String
  kind : Kind

/-- How the generated code writes and reads an attribute that is not None. -/
inductive Kind where
  /-- as it is -/
  | plain
  /-- written as it is, read by `int` -/
  | int
  /-- written as it is, read by `float` -/
  | float
  /-- `bytes`, in base64 -/
  | blob
  /-- `datetime.datetime`, by its `timestamp()` -/
  | timestamp
  | shape (cls : ShapeClass)
  | list (cls : ShapeClass)
  /-- a `dict` from strings to instances of a class -/
  | map (cls : ShapeClass)

end

/-! ## Objects -/

/-- The values of attributes. What JSON can express is `json`, and None is its `null`; a list or
a `dict` of instances is `list` or `dict`. -/
inductive Obj where
  | json (j : Json)
  | bytes (bytes : List UInt8)
  /-- an aware `datetime`, in microseconds since the epoch -/
  | datetime (microseconds : Int)
  /-- the attributes in the order of the members of the class -/
  | shape (cls : ShapeClass) (attributes : List Obj)
  | list (items : List Obj)
  | dict (items : List (String × Obj))

def Obj.none : Obj := .json .null

def Obj.isNone : Obj → Bool
  | .json .null => true
  | _ => false

/-- Exceptions of the builtins that the generated code uses. -/
inductive Exc where
  | typeError
  | attributeError
  /-- also `binascii.Error` -/
  | valueError
  | overflowError
  deriving DecidableEq, Repr

/-- `int` and `float` of what is not a float already, and the two conversions of a `datetime`. -/
structure Builtins extends Interpreter where
  intOfStr : String → Except Exc Int
  /-- a float, which may be an infinity or a NaN -/
  floatOfStr : String → Except Exc Json
  floatOfInt : Int → Except Exc Rat
  timestamp : Int → Rat
  /-- with `datetime.timezone.utc` -/
  fromtimestamp : Rat → Except Exc Int

/-- Enough for a text with no float but 1.5. -/
def Builtins.oneFloat : Builtins where
  repr q := if q = 3 / 2 then ['1', '.', '5'] else []
  parse text := if text = ['1', '.', '5'] then some (3 / 2) else none
  intOfStr _ := .error .valueError
  floatOfStr _ := .error .valueError
  floatOfInt i := .ok i
  timestamp microseconds := microseconds / 1000000
  fromtimestamp q := .ok (q * 1000000).floor

/-! ## Builtins on JSON values -/

def hasInfix (part : List Char) : List Char → Bool
  | [] => part.isEmpty
  | c :: text => part.isPrefixOf (c :: text) || hasInfix part text

/-- `key in payload`. -/
def contains : Json → String → Except Exc Bool
  | .obj fields, key => .ok (key ∈ fields.map Prod.fst)
  | .arr values, key => .ok (values.any fun value => pyEq value (.str key))
  | .str s, key => .ok (hasInfix key.toList s.toList)
  | _, _ => .error .typeError

/-- `payload[key]`, after `key in payload`. -/
def getItem : Json → String → Except Exc Json
  | .obj fields, key => (fields.lookup key).elim (.error .typeError) .ok
  | _, _ => .error .typeError

/-- `for i in payload`. -/
def iterate : Json → Except Exc (List Json)
  | .arr values => .ok values
  | .obj fields => .ok (fields.map fun field => .str field.1)
  | .str s => .ok (s.toList.map fun c => .str (String.ofList [c]))
  | _ => .error .typeError

/-- `payload.items()`. -/
def items : Json → Except Exc (List (String × Json))
  | .obj fields => .ok fields
  | _ => .error .attributeError

/-- `base64.b64decode`. -/
def b64decode : Json → Except Exc (List UInt8)
  | .str s =>
      if s.toList.all fun c => c.toNat < 128 then
        (Base64.decode s.toList).elim (.error .valueError) .ok
      else .error .valueError
  | _ => .error .typeError

section Payloads

variable (B : Builtins)

def pyInt : Json → Except Exc Int
  | .int i => .ok i
  | .bool b => .ok (if b then 1 else 0)
  | .float q => .ok (q.num.tdiv q.den)
  | .inf _ => .error .overflowError
  | .nan => .error .valueError
  | .str s => B.intOfStr s
  | _ => .error .typeError

def pyFloat : Json → Except Exc Json
  | .float q => .ok (.float q)
  | .inf negative => .ok (.inf negative)
  | .nan => .ok .nan
  | .int i => do return .float (← B.floatOfInt i)
  | .bool b => .ok (.float (if b then 1 else 0))
  | .str s => B.floatOfStr s
  | _ => .error .typeError

def pyFromtimestamp : Json → Except Exc Int
  | .float q => B.fromtimestamp q
  | .int i => B.fromtimestamp i
  | .bool b => B.fromtimestamp (if b then 1 else 0)
  | .inf _ => .error .overflowError
  | .nan => .error .valueError
  | _ => .error .typeError

/-! ## Writing -/

mutual

/-- `_to_payload`, of an object that may not have it. -/
def toPayload : Obj → Except Exc Json
  | .shape cls attributes => do return .obj (← toFields cls.members attributes)
  | _ => .error .attributeError

def toFields : List Member → List Obj → Except Exc (List (String × Json))
  | m :: ms, x :: xs =>
      if x.isNone then toFields ms xs
      else do
        let value ← toValue m.kind x
        let fields ← toFields ms xs
        return (m.key, value) :: fields
  | _, _ => .ok []

/-- What is not JSON here is refused by `json.dumps` at the latest. -/
def toValue : Kind → Obj → Except Exc Json
  | .plain, .json j | .int, .json j | .float, .json j => .ok j
  | .plain, _ | .int, _ | .float, _ => .error .typeError
  | .blob, .bytes bytes => .ok (.str (String.ofList (Base64.encode bytes)))
  | .blob, _ => .error .typeError
  | .timestamp, .datetime t => .ok (.float (B.timestamp t))
  | .timestamp, _ => .error .attributeError
  -- `_to_payload` of the attribute, whatever its class
  | .shape _, .shape cls attributes => do return .obj (← toFields cls.members attributes)
  | .shape _, _ => .error .attributeError
  | .list _, .list items => do return .arr (← toPayloads items)
  | .list _, _ => .error .attributeError
  | .map _, .dict items => do return .obj (← toItems items)
  | .map _, _ => .error .attributeError

def toPayloads : List Obj → Except Exc (List Json)
  | [] => .ok []
  | x :: xs => do
      let payload ← toPayload x
      let payloads ← toPayloads xs
      return payload :: payloads

def toItems : List (String × Obj) → Except Exc (List (String × Json))
  | [] => .ok []
  | (key, x) :: items => do
      let payload ← toPayload x
      let payloads ← toItems items
      return (key, payload) :: payloads

end

/-! ## Reading -/

mutual

/-- `_from_payload`. -/
def fromPayload : ShapeClass → Json → Except Exc Obj
  | ⟨modelName, isException, members⟩, payload => do
      let attributes ← fromFields members payload
      return .shape ⟨modelName, isException, members⟩ attributes

def fromFields : List Member → Json → Except Exc (List Obj)
  | [], _ => .ok []
  | ⟨_, key, kind⟩ :: ms, payload => do
      let x ←
        if ← contains payload key then do fromValue kind (← getItem payload key)
        else .ok Obj.none
      let xs ← fromFields ms payload
      return x :: xs

def fromValue : Kind → Json → Except Exc Obj
  | .plain, value => .ok (.json value)
  | .int, value => do return .json (.int (← pyInt B value))
  | .float, value => do return .json (← pyFloat B value)
  | .blob, value => do return .bytes (← b64decode value)
  | .timestamp, value => do return .datetime (← pyFromtimestamp B value)
  | .shape cls, value => fromPayload cls value
  | .list cls, value => do
      let values ← iterate value
      return .list (← values.mapM fun v => fromPayload cls v)
  | .map cls, value => do
      let fields ← items value
      return .dict (← mapItemsM (fun v => fromPayload cls v) fields)

end

end Payloads

end IotCore.Greengrass
