import IotCore.Model.Greengrass.Shapes
import IotCore.Verification.JsonCodec

/-! # What `_to_payload` writes is what `_from_payload` reads

The round trip of one class, for instances whose attributes have the declared types and values
that JSON can carry. The payload may gain members and change their order on the way. -/

namespace IotCore.Greengrass

open Json Raising

/-! ## Instances -/

mutual

/-- The keys of a class, and of the classes it refers to, are distinct. -/
def ShapeClass.distinct : ShapeClass → Bool
  | ⟨_, _, members⟩ => (members.map Member.key).Nodup && distinctMembers members

def distinctMembers : List Member → Bool
  | [] => true
  | ⟨_, _, kind⟩ :: ms => kind.distinct && distinctMembers ms

def Kind.distinct : Kind → Bool
  | .shape cls | .list cls | .map cls => cls.distinct
  | _ => true

end

mutual

/-- An instance of the class with attributes of the declared types. -/
def ShapeClass.HasInstance : ShapeClass → Obj → Prop
  | ⟨modelName, isException, members⟩, .shape cls attributes =>
      cls = ⟨modelName, isException, members⟩ ∧ HasAttributes members attributes
  | _, _ => False

def HasAttributes : List Member → List Obj → Prop
  | [], [] => True
  | ⟨_, _, kind⟩ :: ms, x :: xs => (x = .none ∨ kind.HasValue x) ∧ HasAttributes ms xs
  | _, _ => False

def Kind.HasValue : Kind → Obj → Prop
  | .plain, .json _ => True
  | .int, .json j => ∃ i, j = .int i
  | .float, .json j => (∃ q, j = .float q) ∨ (∃ negative, j = .inf negative) ∨ j = .nan
  | .blob, .bytes _ => True
  | .timestamp, .datetime _ => True
  | .shape cls, x => cls.HasInstance x
  | .list cls, .list items => ∀ x ∈ items, cls.HasInstance x
  | .map cls, .dict items =>
      (items.map Prod.fst).Nodup ∧ ∀ item ∈ items, cls.HasInstance item.2
  | _, _ => False

end

section

variable (B : Builtins)

/-- `datetime.fromtimestamp(t.timestamp(), utc)` is `t` again, and JSON carries the float between
them. For times of the far future a float has not enough digits. -/
structure Builtins.Timestamp (B : Builtins) (t : Int) : Prop where
  reads : B.Reads (B.timestamp t)
  fromtimestamp : B.fromtimestamp (B.timestamp t) = .ok t

mutual

/-- JSON can carry the values in the object, and each `datetime` comes back from its timestamp. -/
def Obj.Survives : Obj → Prop
  | .json j => j.Survives B.toInterpreter
  | .bytes _ => True
  | .datetime t => B.Timestamp t
  | .shape _ attributes => SurviveAll attributes
  | .list items => SurviveAll items
  | .dict items => ItemsSurvive items

def SurviveAll : List Obj → Prop
  | [] => True
  | x :: xs => x.Survives ∧ SurviveAll xs

def ItemsSurvive : List (String × Obj) → Prop
  | [] => True
  | (_, x) :: items => x.Survives ∧ ItemsSurvive items

end

/-- An instance of the class that JSON can carry. -/
structure ShapeClass.Sendable (cls : ShapeClass) (x : Obj) : Prop where
  hasInstance : cls.HasInstance x
  survives : x.Survives B

/-! ## Comprehensions -/

/-- An object that is written as a payload, and read from it as the same object. -/
structure Carried (cls : ShapeClass) (x : Obj) (payload : Json) : Prop where
  writes : toPayload B x = .ok payload
  survives : payload.Survives B.toInterpreter
  reads : fromPayload B cls payload = .ok x

theorem carried_list {cls : ShapeClass} {xs : List Obj}
    (h : ∀ x ∈ xs, ∃ payload, Carried B cls x payload) :
    ∃ payloads, toPayloads B xs = .ok payloads ∧
      (∀ payload ∈ payloads, payload.Survives B.toInterpreter) ∧
      payloads.mapM (fun v => fromPayload B cls v) = .ok xs := by
  induction xs with
  | nil => exact ⟨[], rfl, by simp, rfl⟩
  | cons x xs ih =>
      obtain ⟨payload, hx⟩ := h x List.mem_cons_self
      obtain ⟨payloads, hwrites, hsurvive, hreads⟩ :=
        ih fun y hy => h y (List.mem_cons_of_mem x hy)
      refine ⟨payload :: payloads, ?_, List.forall_mem_cons.mpr ⟨hx.survives, hsurvive⟩, ?_⟩
      · simp [toPayloads, hx.writes, hwrites]
      · simp [hx.reads, hreads]

theorem carried_items {cls : ShapeClass} {items : List (String × Obj)}
    (h : ∀ item ∈ items, ∃ payload, Carried B cls item.2 payload) :
    ∃ fields, toItems B items = .ok fields ∧
      (∀ field ∈ fields, field.2.Survives B.toInterpreter) ∧
      fields.map Prod.fst = items.map Prod.fst ∧
      mapItemsM (fun v => fromPayload B cls v) fields = .ok items := by
  induction items with
  | nil => exact ⟨[], rfl, by simp, rfl, rfl⟩
  | cons item items ih =>
      obtain ⟨key, x⟩ := item
      obtain ⟨payload, hx⟩ := h (key, x) List.mem_cons_self
      obtain ⟨fields, hwrites, hsurvive, hkeys, hreads⟩ :=
        ih fun y hy => h y (List.mem_cons_of_mem _ hy)
      rw [mapItemsM_eq_ok fun _ _ => Iff.rfl] at hreads
      refine ⟨(key, payload) :: fields, ?_, List.forall_mem_cons.mpr ⟨hx.survives, hsurvive⟩,
        ?_, ?_⟩
      · simp [toItems, hx.writes, hwrites]
      · simp [hkeys]
      · exact (mapItemsM_eq_ok fun _ _ => Iff.rfl).mpr (.cons ⟨rfl, hx.reads⟩ hreads)

/-! ## Members -/

/-- The payload says the same as the fields, about the keys of some members. -/
def Agrees (ms : List Member) (payload fields : List (String × Json)) : Prop :=
  ∀ m ∈ ms, payload.lookup m.key = fields.lookup m.key

theorem contains_obj (fields : List (String × Json)) (key : String) :
    contains (.obj fields) key = .ok (fields.lookup key).isSome := by
  have hmem : (key ∈ fields.map Prod.fst) ↔ (fields.lookup key).isSome = true := by
    induction fields with
    | nil => simp
    | cons field fields ih =>
        obtain ⟨k, x⟩ := field
        rw [List.map_cons, List.mem_cons, List.lookup_cons]
        by_cases h : key = k
        · simp [h]
        · simp [h, beq_eq_false_iff_ne.mpr h, ih]
  simp only [contains, Except.ok.injEq]
  cases h : (fields.lookup key).isSome with
  | false => simpa [h] using hmem
  | true => simpa [h] using hmem

theorem fromFields_absent {m : Member} {ms : List Member} {fields : List (String × Json)}
    {xs : List Obj} (h : fields.lookup m.key = none) (hxs : fromFields B ms (.obj fields) = .ok xs) :
    fromFields B (m :: ms) (.obj fields) = .ok (.none :: xs) := by
  obtain ⟨attr, key, kind⟩ := m
  simp only at h
  simp [fromFields, contains_obj, h, hxs]

theorem fromFields_present {m : Member} {ms : List Member} {fields : List (String × Json)}
    {value : Json} {x : Obj} {xs : List Obj} (h : fields.lookup m.key = some value)
    (hx : fromValue B m.kind value = .ok x) (hxs : fromFields B ms (.obj fields) = .ok xs) :
    fromFields B (m :: ms) (.obj fields) = .ok (x :: xs) := by
  obtain ⟨attr, key, kind⟩ := m
  simp only at h hx
  simp [fromFields, contains_obj, h, hxs, getItem, hx]

theorem toFields_some {m : Member} {ms : List Member} {x : Obj} {xs : List Obj} {value : Json}
    {fields : List (String × Json)} (hx : x.isNone = false) (hvalue : toValue B m.kind x = .ok value)
    (hfields : toFields B ms xs = .ok fields) :
    toFields B (m :: ms) (x :: xs) = .ok ((m.key, value) :: fields) := by
  simp [toFields, hx, hvalue, hfields]

theorem isNone_iff (x : Obj) : x.isNone = true ↔ x = .none := by
  constructor
  · intro h
    rw [Obj.isNone.eq_def] at h
    split at h
    · rfl
    · cases h
  · rintro rfl
    rfl

/-- The keys of the fields are keys of the members, so a new key is none of them. -/
theorem lookup_fresh {ms : List Member} {fields : List (String × Json)} {key : String}
    (hkeys : (fields.map Prod.fst).Sublist (ms.map Member.key)) (hnew : key ∉ ms.map Member.key) :
    fields.lookup key = none := by
  rw [List.lookup_eq_none_iff]
  intro field hfield
  have hmem := hkeys.subset (List.mem_map_of_mem (f := Prod.fst) hfield)
  simpa using fun e : key = field.1 => hnew (e ▸ hmem)

theorem Agrees.tail {m : Member} {ms : List Member} {payload fields : List (String × Json)}
    {value : Json} (hnew : m.key ∉ ms.map Member.key)
    (h : Agrees (m :: ms) payload ((m.key, value) :: fields)) : Agrees ms payload fields := by
  intro n hn
  have hne : n.key ≠ m.key := fun e => hnew (e ▸ List.mem_map_of_mem hn)
  rw [h n (List.mem_cons_of_mem m hn), List.lookup_cons, beq_eq_false_iff_ne.mpr hne]

/-! ## The round trip -/

theorem survives_of_mem {xs : List Obj} (h : SurviveAll B xs) : ∀ x ∈ xs, x.Survives B := by
  induction xs with
  | nil => simp
  | cons x xs ih =>
      intro y hy
      rcases List.mem_cons.mp hy with rfl | hy
      · exact h.1
      · exact ih h.2 y hy

theorem item_survives_of_mem {items : List (String × Obj)} (h : ItemsSurvive B items) :
    ∀ item ∈ items, item.2.Survives B := by
  induction items with
  | nil => simp
  | cons item items ih =>
      intro other hother
      rcases List.mem_cons.mp hother with rfl | hother
      · exact h.1
      · exact ih h.2 other hother

mutual

theorem carried_instance : ∀ cls : ShapeClass, cls.distinct = true → ∀ x, cls.HasInstance x →
    x.Survives B → ∃ payload, Carried B cls x payload
  | ⟨modelName, isException, members⟩, hdistinct, .shape cls attributes, h, hsurvives => by
      obtain ⟨rfl, hattributes⟩ := h
      simp only [ShapeClass.distinct, Bool.and_eq_true, decide_eq_true_eq] at hdistinct
      obtain ⟨fields, hwrites, hsurvive, hkeys, hreads⟩ :=
        carried_members members hdistinct.2 hdistinct.1 attributes hattributes hsurvives
      refine ⟨.obj fields, ?_, (survives_obj _ _).mpr ⟨hkeys.nodup hdistinct.1, hsurvive⟩, ?_⟩
      · simp [toPayload, hwrites]
      · simp [fromPayload, hreads fields fun _ _ => rfl]
  | ⟨_, _, _⟩, _, .json _, h, _ | ⟨_, _, _⟩, _, .bytes _, h, _ | ⟨_, _, _⟩, _, .datetime _, h, _
  | ⟨_, _, _⟩, _, .list _, h, _ | ⟨_, _, _⟩, _, .dict _, h, _ => h.elim

theorem carried_members : ∀ ms : List Member, distinctMembers ms = true →
    (ms.map Member.key).Nodup → ∀ xs, HasAttributes ms xs → SurviveAll B xs →
    ∃ fields, toFields B ms xs = .ok fields ∧
      (∀ field ∈ fields, field.2.Survives B.toInterpreter) ∧
      (fields.map Prod.fst).Sublist (ms.map Member.key) ∧
      ∀ payload, Agrees ms payload fields → fromFields B ms (.obj payload) = .ok xs
  | [], _, _, [], _, _ => ⟨[], rfl, by simp, .slnil, fun _ _ => rfl⟩
  | ⟨attr, key, kind⟩ :: ms, hdistinct, hnodup, x :: xs, h, hsurvive => by
      simp only [distinctMembers, Bool.and_eq_true] at hdistinct
      rw [List.map_cons, List.nodup_cons] at hnodup
      obtain ⟨fields, hwrites, hfields, hkeys, hreads⟩ :=
        carried_members ms hdistinct.2 hnodup.2 xs h.2 hsurvive.2
      cases hnone : x.isNone with
      | true =>
          obtain rfl := (isNone_iff x).mp hnone
          refine ⟨fields, hwrites, hfields, hkeys.cons _, fun payload hagrees => ?_⟩
          have habsent := hagrees _ List.mem_cons_self
          rw [lookup_fresh hkeys hnodup.1] at habsent
          exact fromFields_absent B habsent
            (hreads payload fun n hn => hagrees n (List.mem_cons_of_mem _ hn))
      | false =>
          have hvalue : kind.HasValue x := by
            refine h.1.resolve_left fun e => ?_
            rw [(isNone_iff x).mpr e] at hnone
            cases hnone
          obtain ⟨value, hto, hsurvives, hfrom⟩ :=
            carried_value kind hdistinct.1 x hvalue hsurvive.1
          refine ⟨(key, value) :: fields, toFields_some B hnone hto hwrites,
            List.forall_mem_cons.mpr ⟨hsurvives, hfields⟩, hkeys.cons_cons _,
            fun payload hagrees => ?_⟩
          have hpresent := hagrees _ List.mem_cons_self
          rw [List.lookup_cons_self] at hpresent
          exact fromFields_present B hpresent hfrom (hreads payload (hagrees.tail hnodup.1))
  | [], _, _, _ :: _, h, _ => h.elim
  | ⟨_, _, _⟩ :: _, _, _, [], h, _ => h.elim

theorem carried_value : ∀ kind : Kind, kind.distinct = true → ∀ x, kind.HasValue x →
    x.Survives B → ∃ value, toValue B kind x = .ok value ∧ value.Survives B.toInterpreter ∧
      fromValue B kind value = .ok x
  | .plain, _, .json j, _, hsurvives => ⟨j, rfl, hsurvives, rfl⟩
  | .int, _, .json j, h, hsurvives => by
      obtain ⟨i, rfl⟩ := h
      exact ⟨.int i, rfl, hsurvives, rfl⟩
  | .float, _, .json j, h, hsurvives => by
      have hfinite := hsurvives.finite
      obtain ⟨q, rfl⟩ | ⟨negative, rfl⟩ | rfl := h
      · exact ⟨.float q, rfl, hsurvives, rfl⟩
      · simp [finite] at hfinite
      · simp [finite] at hfinite
  | .blob, _, .bytes bytes, _, _ => by
      refine ⟨.str (String.ofList (Base64.encode bytes)), rfl, ⟨trivial, rfl⟩, ?_⟩
      have hascii : (Base64.encode bytes).all (fun c => c.toNat < 128) = true := by
        simpa using Base64.encode_ascii bytes
      simp [fromValue, b64decode, Base64.decode_encode, hascii]
  | .timestamp, _, .datetime t, _, hsurvives => by
      refine ⟨.float (B.timestamp t), rfl, ⟨hsurvives.reads, rfl⟩, ?_⟩
      simp [fromValue, pyFromtimestamp, hsurvives.fromtimestamp]
  | .shape cls, hdistinct, x, h, hsurvives => by
      obtain ⟨payload, hx⟩ := carried_instance cls hdistinct x h hsurvives
      refine ⟨payload, ?_, hx.survives, hx.reads⟩
      rw [← hx.writes]
      cases x <;> rfl
  | .list cls, hdistinct, .list items, h, hsurvives => by
      obtain ⟨payloads, hwrites, hsurvive, hreads⟩ := carried_list B fun x hx =>
        carried_instance cls hdistinct x (h x hx) (survives_of_mem B hsurvives x hx)
      refine ⟨.arr payloads, ?_, (survives_arr _ _).mpr hsurvive, ?_⟩
      · simp [toValue, hwrites]
      · simp [fromValue, iterate, hreads]
  | .map cls, hdistinct, .dict entries, h, hsurvives => by
      obtain ⟨fields, hwrites, hsurvive, hkeys, hreads⟩ := carried_items B fun item hitem =>
        carried_instance cls hdistinct item.2 (h.2 item hitem)
          (item_survives_of_mem B hsurvives item hitem)
      refine ⟨.obj fields, ?_, (survives_obj _ _).mpr ⟨hkeys ▸ h.1, hsurvive⟩, ?_⟩
      · simp [toValue, hwrites]
      · simp [fromValue, items, hreads]

end

end

end IotCore.Greengrass
