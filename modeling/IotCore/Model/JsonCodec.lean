import Mathlib.Algebra.Group.Nat.Defs
import IotCore.Library.JsonWriter
import IotCore.Model.Json

/-! # `json.dumps` and `json.loads`

`json.dumps` with its defaults: ASCII, and a space after each comma and colon. `json.loads`
makes a number without a fraction and an exponent an integer, and of two members of one name
keeps the last. The limit on recursion is left out. -/

namespace IotCore.Json

open JsonText

/-! ## Numbers -/

/-- `float.__repr__` of a finite float, `float` of the text of a number, which is an infinity if
the number is too large, and `sys.get_int_max_str_digits`. -/
structure Interpreter where
  repr : Rat → List Char
  parse : List Char → Option Rat
  maxStrDigits : Option Nat := some 4300

/-- `str` and `int` convert integers up to a number of digits. -/
def Interpreter.converts (F : Interpreter) (i : Int) : Bool :=
  F.maxStrDigits.all fun digits => i.natAbs < 10 ^ digits

/-- Neither a fraction nor an exponent. -/
def isIntText (text : List Char) : Bool := text.all fun c => c = '-' || c.isDigit

def intText : Int → List Char
  | .ofNat n => Nat.toDigits 10 n
  | .negSucc n => '-' :: Nat.toDigits 10 (n + 1)

def intOfText : List Char → Int
  | '-' :: text => -(Nat.ofDigitChars 10 text 0 : Int)
  | text => Nat.ofDigitChars 10 text 0

/-! ## Dictionaries -/

/-- `d[key] = value`: a key that is there keeps its place. -/
def setItem (fields : List (String × Json)) (key : String) (value : Json) :
    List (String × Json) :=
  if key ∈ fields.map Prod.fst then
    fields.map fun field => if field.1 = key then (key, value) else field
  else fields ++ [(key, value)]

/-- A `dict` of the members of an object. -/
def dictOf (members : List (String × Json)) : List (String × Json) :=
  members.foldl (fun fields member => setItem fields member.1 member.2) []

/-! ## The two functions -/

section Codec

variable (F : Interpreter)

def strValue (s : String) : Str := Str.ofChars s.toList

mutual

def toValue : Json → Value
  | .null => .null
  | .bool b => .bool b
  | .int i => .number (intText i)
  | .float q => .number (F.repr q)
  | .inf negative => .number (if negative then '-' :: infinityText else infinityText)
  | .nan => .number nanText
  | .str s => .string (strValue s)
  | .arr values => .array (toValues values)
  | .obj fields => .object (toMembers fields)

def toValues : List Json → List Value
  | [] => []
  | x :: xs => toValue x :: toValues xs

def toMembers : List (String × Json) → List (Str × Value)
  | [] => []
  | (key, x) :: fields => (strValue key, toValue x) :: toMembers fields

end

/-- `json.dumps`, of what it can convert. -/
def dumps (j : Json) : List Char := write (toValue F j)

mutual

/-- `json.dumps` raises no ValueError. -/
def convertible : Json → Bool
  | .int i => F.converts i
  | .arr values => convertibleList values
  | .obj fields => convertibleDict fields
  | _ => true

def convertibleList : List Json → Bool
  | [] => true
  | x :: xs => convertible x && convertibleList xs

def convertibleDict : List (String × Json) → Bool
  | [] => true
  | (_, x) :: fields => convertible x && convertibleDict fields

end

/-- `float` of a text that is a number or a constant. -/
def floatOfText (text : List Char) : Json :=
  if text = nanText then .nan
  else if isConstant text then .inf (text.head? = some '-')
  else
    match F.parse text with
    | some q => .float q
    | none => .inf (text.head? = some '-')

/-- A `String` has no surrogates that belong to no pair. -/
def strOf : Str → Option (List Char)
  | [] => some []
  | .char c :: s => (strOf s).map (c :: ·)
  | .surrogate _ :: _ => none

mutual

def ofValue : Value → Option Json
  | .null => some .null
  | .bool b => some (.bool b)
  | .number text =>
      if isIntText text then
        if F.converts (intOfText text) then some (.int (intOfText text)) else none
      else some (floatOfText F text)
  | .string s => (strOf s).map fun cs => .str (String.ofList cs)
  | .array values => (ofValues values).map .arr
  | .object members => (ofMembers members).map fun fields => .obj (dictOf fields)

def ofValues : List Value → Option (List Json)
  | [] => some []
  | v :: vs => do
      let x ← ofValue v
      let xs ← ofValues vs
      return x :: xs

def ofMembers : List (Str × Value) → Option (List (String × Json))
  | [] => some []
  | (key, v) :: ms => do
      let cs ← strOf key
      let x ← ofValue v
      let fields ← ofMembers ms
      return (String.ofList cs, x) :: fields

end

/-- `json.loads`; `none` is a ValueError. It is also what comes of a string with a surrogate that
belongs to no pair, of which Python makes a string that no `String` is. -/
def loads (text : List Char) : Option Json := (read text).bind (ofValue F)

end Codec

end IotCore.Json
