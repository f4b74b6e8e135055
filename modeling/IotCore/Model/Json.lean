/-! # JSON values as Python sees them

The objects that `json.loads` returns, with Python's `==` and truth value. The numbers of
JSON are Python integers and floats, and `True`, `1` and `1.0` are all equal. Strings with
surrogates that belong to no pair are left out. -/

namespace IotCore

inductive Json where
  | null
  | bool (b : Bool)
  | int (i : Int)
  /-- a finite float, by its value -/
  | float (q : Rat)
  /-- an infinite float -/
  | inf (negative : Bool)
  | nan
  | str (s : String)
  | arr (values : List Json)
  /-- a `dict`, in the order of its keys, which are distinct -/
  | obj (fields : List (String × Json))
  deriving BEq, Repr

namespace Json

/-- The value of a finite number; `bool` is a subclass of `int`. -/
def number : Json → Option Rat
  | .bool b => some (if b then 1 else 0)
  | .int i => some i
  | .float q => some q
  | _ => none

def isNan : Json → Bool
  | .nan => true
  | _ => false

mutual

/-- Python's `==`. -/
def pyEq : Json → Json → Bool
  | .null, .null => true
  | .str s, .str t => s = t
  | .arr xs, .arr ys => pyEqList xs ys
  | .obj fs, .obj gs => fs.length = gs.length && pyEqDict fs gs
  | .bool b, y => number y = some (if b then 1 else 0)
  | .int i, y => number y = some (i : Rat)
  | .float q, y => number y = some q
  | .inf a, .inf b => a = b
  | _, _ => false

/-- Of two items that are the same object, Python does not ask whether they are equal; there is
one NaN for all texts. -/
def pyEqList : List Json → List Json → Bool
  | [], [] => true
  | x :: xs, y :: ys => (pyEq x y || x.isNan && y.isNan) && pyEqList xs ys
  | _, _ => false

def pyEqDict : List (String × Json) → List (String × Json) → Bool
  | [], _ => true
  | (key, x) :: fs, gs =>
      match gs.lookup key with
      | some y => (pyEq x y || x.isNan && y.isNan) && pyEqDict fs gs
      | none => false

end

/-- Python's `bool`. -/
def truthy : Json → Bool
  | .null => false
  | .bool b => b
  | .int i => i ≠ 0
  | .float q => q ≠ 0
  | .inf _ | .nan => true
  | .str s => s ≠ ""
  | .arr values => !values.isEmpty
  | .obj fields => !fields.isEmpty

@[simp] theorem pyEq_str_iff (x : Json) (s : String) : pyEq x (.str s) = true ↔ x = .str s := by
  cases x <;> simp [pyEq, number]

@[simp] theorem pyEq_null (x : Json) : pyEq .null x = true ↔ x = .null := by
  cases x <;> simp [pyEq]

mutual

/-- There is no NaN and no infinity inside, so that `json.dumps` writes JSON. -/
def finite : Json → Bool
  | .inf _ | .nan => false
  | .arr values => finiteList values
  | .obj fields => finiteDict fields
  | _ => true

def finiteList : List Json → Bool
  | [] => true
  | x :: xs => finite x && finiteList xs

def finiteDict : List (String × Json) → Bool
  | [] => true
  | (_, x) :: fs => finite x && finiteDict fs

end

example : pyEq (.arr [.int 1, .str "on"]) (.arr [.bool true, .str "on"]) = true := by decide

end Json

end IotCore
