import Mathlib.Data.List.Nodup
import IotCore.Model.Json

/-! # JSON values and Python's `==`

Two texts have the same JSON value if they differ in the order of members and in the way
numbers are written. Python's `==` also takes `true` for 1 and `false` for 0. -/

namespace IotCore.Json

/-! ## Values -/

mutual

/-- The keys of every `dict` are distinct. -/
def wf : Json → Bool
  | .arr values => wfList values
  | .obj fields => (fields.map Prod.fst).Nodup && wfDict fields
  | _ => true

def wfList : List Json → Bool
  | [] => true
  | x :: xs => wf x && wfList xs

def wfDict : List (String × Json) → Bool
  | [] => true
  | (_, x) :: fs => wf x && wfDict fs

end

mutual

/-- The same JSON value. -/
def same : Json → Json → Bool
  | .null, .null => true
  | .bool b, .bool c => b = c
  | .int i, .int j => i = j
  | .int i, .float q => i = q
  | .float q, .int i => q = i
  | .float q, .float r => q = r
  | .inf a, .inf b => a = b
  | .nan, .nan => true
  | .str s, .str t => s = t
  | .arr xs, .arr ys => sameList xs ys
  | .obj fs, .obj gs => fs.length = gs.length && sameDict fs gs
  | _, _ => false

def sameList : List Json → List Json → Bool
  | [], [] => true
  | x :: xs, y :: ys => same x y && sameList xs ys
  | _, _ => false

def sameDict : List (String × Json) → List (String × Json) → Bool
  | [], _ => true
  | (key, x) :: fs, gs =>
      match gs.lookup key with
      | some y => same x y && sameDict fs gs
      | none => false

end

example : same (.obj [("a", .int 1), ("b", .null)]) (.obj [("b", .null), ("a", .float 1)]) := by
  decide +kernel

@[simp] theorem same_str_iff (x : Json) (s : String) : same x (.str s) = true ↔ x = .str s := by
  cases x <;> simp [same]

@[simp] theorem null_same (x : Json) : same .null x = true ↔ x = .null := by
  cases x <;> simp [same]

/-! ## Reflexivity -/

theorem lookup_of_mem {fields : List (String × Json)} {key : String} {x : Json}
    (hkeys : (fields.map Prod.fst).Nodup) (hmem : (key, x) ∈ fields) :
    fields.lookup key = some x := by
  obtain ⟨fs, gs, rfl⟩ := List.append_of_mem hmem
  refine List.lookup_eq_some_iff.mpr ⟨fs, gs, rfl, fun p hp => ?_⟩
  rw [List.map_append, List.nodup_append] at hkeys
  have hne := hkeys.2.2 p.1 (List.mem_map_of_mem hp) key (by simp)
  simpa using fun e : key = p.1 => hne e.symm

mutual

theorem same_refl : ∀ x : Json, x.wf = true → same x x = true
  | .null, _ => rfl
  | .bool _, _ => by simp [same]
  | .int _, _ => by simp [same]
  | .float _, _ => by simp [same]
  | .inf _, _ => by simp [same]
  | .nan, _ => rfl
  | .str _, _ => by simp [same]
  | .arr xs, h => by
      rw [same]
      exact sameList_refl xs (by simpa [wf] using h)
  | .obj fs, h => by
      simp only [wf, Bool.and_eq_true, decide_eq_true_eq] at h
      simp only [same, decide_true, Bool.true_and]
      exact sameDict_refl fs fs h.2 fun key x hmem => lookup_of_mem h.1 hmem

theorem sameList_refl : ∀ xs : List Json, wfList xs = true → sameList xs xs = true
  | [], _ => rfl
  | x :: xs, h => by
      simp only [wfList, Bool.and_eq_true] at h
      simp [sameList, same_refl x h.1, sameList_refl xs h.2]

/-- Some members of a `dict`, compared with all of them. -/
theorem sameDict_refl : ∀ fs gs : List (String × Json), wfDict fs = true →
    (∀ key x, (key, x) ∈ fs → gs.lookup key = some x) → sameDict fs gs = true
  | [], _, _, _ => rfl
  | (key, x) :: fs, gs, h, hlookup => by
      simp only [wfDict, Bool.and_eq_true] at h
      have hrest := sameDict_refl fs gs h.2 fun k y hmem => hlookup k y (List.mem_cons_of_mem _ hmem)
      simp [sameDict, hlookup key x (List.mem_cons_self ..), same_refl x h.1, hrest]

end

/-! ## Python's `==` -/

mutual

/-- The same value is equal for Python, but a NaN is not even equal to itself. -/
theorem pyEq_of_same : ∀ x y : Json, same x y = true → x ≠ .nan → pyEq x y = true
  | .null, y, h, _ => by cases y <;> simp_all [same, pyEq]
  | .bool b, y, h, _ => by cases y <;> simp_all [same, pyEq, number]
  | .int i, y, h, _ => by cases y <;> simp_all [same, pyEq, number]
  | .float q, y, h, _ => by cases y <;> simp_all [same, pyEq, number]
  | .inf a, y, h, _ => by cases y <;> simp_all [same, pyEq]
  | .nan, _, _, hnan => absurd rfl hnan
  | .str s, y, h, _ => by cases y <;> simp_all [same, pyEq]
  | .arr xs, y, h, _ => by
      cases y <;> simp only [same, Bool.false_eq_true] at h
      rename_i ys
      rw [pyEq]
      exact pyEqList_of_same xs ys h
  | .obj fs, y, h, _ => by
      cases y <;> simp only [same, Bool.false_eq_true, Bool.and_eq_true] at h
      rename_i gs
      simp only [pyEq, h.1, Bool.true_and]
      exact pyEqDict_of_same fs gs h.2

/-- Items of a list or a `dict`. -/
theorem item_of_same (x y : Json) (h : same x y = true) :
    (pyEq x y || x.isNan && y.isNan) = true := by
  by_cases hnan : x = .nan
  · subst x
    cases y <;> simp_all [same, isNan]
  · simp [pyEq_of_same x y h hnan]

theorem pyEqList_of_same : ∀ xs ys : List Json, sameList xs ys = true → pyEqList xs ys = true
  | [], [], _ => rfl
  | x :: xs, y :: ys, h => by
      simp only [sameList, Bool.and_eq_true] at h
      rw [pyEqList, item_of_same x y h.1, pyEqList_of_same xs ys h.2]
      rfl
  | [], _ :: _, h => by simp [sameList] at h
  | _ :: _, [], h => by simp [sameList] at h

theorem pyEqDict_of_same : ∀ fs gs : List (String × Json), sameDict fs gs = true →
    pyEqDict fs gs = true
  | [], _, _ => rfl
  | (key, x) :: fs, gs, h => by
      cases hlookup : gs.lookup key with
      | none => simp [sameDict, hlookup] at h
      | some y =>
          simp only [sameDict, hlookup, Bool.and_eq_true] at h
          simp only [pyEqDict, hlookup]
          rw [item_of_same x y h.1, pyEqDict_of_same fs gs h.2]
          rfl

end

theorem pyEq_of_same_of_ne {x y : Json} (h : same x y = true) (hnan : y ≠ .nan) :
    pyEq x y = true := by
  refine pyEq_of_same x y h ?_
  rintro rfl
  cases y <;> simp_all [same]

end IotCore.Json
