import IotCore.Verification.JsonCodec
import IotCore.Verification.Mqtt.ServiceClient
import IotCore.Verification.Mqtt.Topics

/-! # The requests that a client publishes

A published text is a document with the attributes of the request that are not None, and nothing
of the names in its topic, which are never empty. -/

namespace IotCore.Mqtt

open Json Machine Raising
open Greengrass (Exc)

variable {ε : Type}

/-! ## Documents of requests -/

def publishes : List PublishOperation :=
  IotShadow.publishes ++ IotJobs.publishes ++ IotIdentity.publishes

def Use.key : Use → Option String
  | .topic => none
  | .plain key => some key
  | .payload key => some key

/-- What an attribute is in the document. -/
def memberOf : Obj → Option Json
  | .json .null => none
  | .json j => some j
  | .state state => some state.toPayload
  | _ => none

def Obj.Survives (F : Interpreter) : Obj → Prop
  | .json j => Json.Survives F j
  | .state s => Json.Survives F s.desired ∧ Json.Survives F s.reported
  | _ => True

def keysOf (slots : List (String × Use)) : List String := slots.filterMap fun slot => slot.2.key

theorem keysOf_cons_none {slot : String × Use} (h : slot.2.key = none)
    (slots : List (String × Use)) : keysOf (slot :: slots) = keysOf slots := by
  simp [keysOf, h]

theorem keysOf_cons_some {slot : String × Use} {key : String} (h : slot.2.key = some key)
    (slots : List (String × Use)) : keysOf (slot :: slots) = key :: keysOf slots := by
  simp [keysOf, h]

/-- The attributes are written under their keys, and nothing else. -/
structure Documents (slots : List (String × Use)) (xs : List Obj)
    (fields : List (String × Json)) : Prop where
  lookup : ∀ slot x key, (slot, x) ∈ slots.zip xs → slot.2.key = some key →
    fields.lookup key = memberOf x
  keys : (fields.map Prod.fst).Sublist (keysOf slots)

section

variable {B : Builtins} {slots : List (String × Use)} {xs : List Obj}
  {fields : List (String × Json)}

theorem survives_statePayload {F : Interpreter} {state : Shadow.ShadowState}
    (hdesired : Json.Survives F state.desired) (hreported : Json.Survives F state.reported) :
    Json.Survives F state.toPayload := by
  have hmember : ∀ name value nullable, Json.Survives F value →
      (∀ field ∈ Shadow.ShadowState.member name value nullable, Json.Survives F field.2) ∧
      ((Shadow.ShadowState.member name value nullable).map Prod.fst).Sublist [name] := by
    intro name value nullable hvalue
    cases nullable <;> cases value <;> simp_all [Shadow.ShadowState.member]
  have hd := hmember "desired" state.desired state.desiredIsNullable hdesired
  have hr := hmember "reported" state.reported state.reportedIsNullable hreported
  rw [Shadow.ShadowState.toPayload, survives_obj, List.map_append]
  refine ⟨(hd.2.append hr.2).nodup (by decide), fun field hfield => ?_⟩
  rcases List.mem_append.mp hfield with h | h
  · exact hd.1 field h
  · exact hr.1 field h

theorem Documents.skip {slot : String × Use} {x : Obj}
    (h : Documents slots xs fields) (hnodup : (keysOf (slot :: slots)).Nodup)
    (hx : ∀ key, slot.2.key = some key → memberOf x = none) :
    Documents (slot :: slots) (x :: xs) fields where
  lookup slot' x' key hmem hkey := by
    rcases List.mem_cons.mp hmem with heq | hmem
    · obtain ⟨rfl, rfl⟩ := Prod.mk.inj heq
      rw [hx key hkey, List.lookup_eq_none_iff]
      intro field hfield
      have hin := h.keys.subset (List.mem_map_of_mem (f := Prod.fst) hfield)
      rw [keysOf_cons_some hkey, List.nodup_cons] at hnodup
      simpa using fun e : key = field.1 => hnodup.1 (e ▸ hin)
    · exact h.lookup slot' x' key hmem hkey
  keys := by
    cases hkey : slot.2.key with
    | none => exact keysOf_cons_none hkey slots ▸ h.keys
    | some key => exact keysOf_cons_some hkey slots ▸ h.keys.cons key

theorem Documents.write {slot : String × Use} {x : Obj} {key : String} {value : Json}
    (h : Documents slots xs fields) (hnodup : (keysOf (slot :: slots)).Nodup)
    (hkey : slot.2.key = some key) (hx : memberOf x = some value) :
    Documents (slot :: slots) (x :: xs) ((key, value) :: fields) where
  lookup slot' x' key' hmem hkey' := by
    rcases List.mem_cons.mp hmem with heq | hmem
    · obtain ⟨rfl, rfl⟩ := Prod.mk.inj heq
      obtain rfl : key = key' := Option.some.inj (hkey.symm.trans hkey')
      rw [List.lookup_cons_self, hx]
    · have hin : key' ∈ keysOf slots :=
        List.mem_filterMap.mpr ⟨slot', (List.of_mem_zip hmem).1, hkey'⟩
      rw [keysOf_cons_some hkey, List.nodup_cons] at hnodup
      have hne : key' ≠ key := fun e => hnodup.1 (e ▸ hin)
      rw [List.lookup_cons, beq_eq_false_iff_ne.mpr hne]
      exact h.lookup slot' x' key' hmem hkey'
  keys := by
    rw [keysOf_cons_some hkey]
    exact h.keys.cons_cons key

theorem memberOf_of_isNone {x : Obj} (h : x.isNone = true) : memberOf x = none := by
  cases x with
  | json j => cases j <;> first | rfl | cases h
  | _ => cases h

theorem jsonFields_cons {F : Interpreter} {key : String} {x : Obj} {payload : List (String × Obj)}
    (h : jsonFields F ((key, x) :: payload) = .ok fields) :
    ∃ j rest, x = .json j ∧ jsonFields F payload = .ok rest ∧ fields = (key, j) :: rest := by
  cases x with
  | json j =>
      rw [jsonFields] at h
      split at h
      · obtain ⟨rest, hrest, h⟩ := bind_eq_ok.mp h
        cases h
        exact ⟨j, rest, rfl, hrest, rfl⟩
      · cases h
  | _ => cases h

/-- One attribute that is written. -/
theorem writeSlots_cons {attr : String} {use : Use} {x : Obj} {payload : List (String × Obj)}
    (hx : x.isNone = false) (h : writeSlots ((attr, use) :: slots) (x :: xs) = .ok payload) :
    ∃ rest, writeSlots slots xs = .ok rest ∧
      (use.key = none ∧ payload = rest ∨
        ∃ key y, use.key = some key ∧ payload = (key, y) :: rest ∧
          (y = x ∨ ∃ state, x = .state state ∧ y = .json state.toPayload)) := by
  cases use with
  | topic => exact ⟨payload, by simpa [writeSlots, hx] using h, .inl ⟨rfl, rfl⟩⟩
  | plain key =>
      cases hrest : writeSlots slots xs with
      | error e => simp [writeSlots, hx, hrest, bind, Except.bind] at h
      | ok rest =>
          refine ⟨rest, rfl, .inr ⟨key, x, rfl, ?_, .inl rfl⟩⟩
          simpa [writeSlots, hx, hrest, bind, Except.bind, pure, Except.pure, eq_comm] using h
  | payload key =>
      cases x with
      | state state =>
          cases hrest : writeSlots slots xs with
          | error e => simp [writeSlots, hx, hrest, statePayload, bind, Except.bind] at h
          | ok rest =>
              refine ⟨rest, rfl, .inr ⟨key, _, rfl, ?_, .inr ⟨state, rfl, rfl⟩⟩⟩
              simpa [writeSlots, hx, hrest, statePayload, bind, Except.bind, pure, Except.pure,
                eq_comm] using h
      | _ => simp [writeSlots, hx, statePayload, bind, Except.bind] at h

theorem documents_write {F : Interpreter} (hnodup : (keysOf slots).Nodup)
    (hsurvive : ∀ x ∈ xs, x.Survives F) {payload : List (String × Obj)}
    (hpayload : writeSlots slots xs = .ok payload) (hfields : jsonFields F payload = .ok fields) :
    Documents slots xs fields ∧ ∀ field ∈ fields, Json.Survives F field.2 := by
  induction slots generalizing xs payload fields with
  | nil =>
      cases hpayload
      cases hfields
      exact ⟨⟨by simp, List.nil_sublist _⟩, by simp⟩
  | cons slot slots ih =>
      cases xs with
      | nil =>
          cases hpayload
          cases hfields
          exact ⟨⟨by simp, List.nil_sublist _⟩, by simp⟩
      | cons x xs =>
          obtain ⟨attr, use⟩ := slot
          have hsurvive' : ∀ y ∈ xs, y.Survives F := fun y hy =>
            hsurvive y (List.mem_cons_of_mem x hy)
          have hsub : (keysOf slots).Sublist (keysOf ((attr, use) :: slots)) :=
            (List.sublist_cons_self _ _).filterMap _
          have ih := @ih xs
          cases hx : x.isNone with
          | true =>
              have hrest : writeSlots slots xs = .ok payload := by
                simpa [writeSlots, hx] using hpayload
              obtain ⟨hdocument, hread⟩ := ih (hsub.nodup hnodup) hsurvive' hrest hfields
              exact ⟨hdocument.skip hnodup fun _ _ => memberOf_of_isNone hx, hread⟩
          | false =>
              obtain ⟨rest, hrest, ⟨hkey, rfl⟩ | ⟨key, y, hkey, rfl, hy⟩⟩ :=
                writeSlots_cons hx hpayload
              · obtain ⟨hdocument, hread⟩ := ih (hsub.nodup hnodup) hsurvive' hrest hfields
                refine ⟨hdocument.skip hnodup fun key h => ?_, hread⟩
                rw [hkey] at h
                cases h
              · obtain ⟨j, fs, rfl, hfs, rfl⟩ := jsonFields_cons hfields
                obtain ⟨hdocument, hread⟩ := ih (hsub.nodup hnodup) hsurvive' hrest hfs
                have hself := hsurvive x List.mem_cons_self
                rcases hy with rfl | ⟨state, rfl, hj⟩
                · refine ⟨hdocument.write hnodup hkey ?_, List.forall_mem_cons.mpr ⟨hself, hread⟩⟩
                  cases j <;> first | rfl | cases hx
                · obtain rfl : j = state.toPayload := by simpa using hj
                  have hstate := survives_statePayload hself.1 hself.2
                  exact ⟨hdocument.write hnodup hkey rfl,
                    List.forall_mem_cons.mpr ⟨hstate, hread⟩⟩

end

/-! ## Published requests -/

theorem publishes_keys : publishes.all (fun op => (keysOf op.request.slots).Nodup) = true := by
  decide +kernel

def Piece.checked (required : List String) : Piece → Bool
  | .text _ => true
  | .attr name => required.contains name

/-- The names in a topic are checked. -/
theorem publishes_required :
    publishes.all (fun op => op.topic.all (Piece.checked op.required)) = true := by
  decide +kernel

theorem truthy_of_checkRequired {request : Request} {attrs : List String}
    (h : (checkRequired request attrs : Except (Error ε) Unit) = .ok ()) :
    ∀ attr ∈ attrs, ∃ x, request.getattr attr = .ok x ∧ x.truthy = true := by
  induction attrs with
  | nil => simp
  | cons attr attrs ih =>
      rw [checkRequired] at h
      split at h
      · cases h
      · rename_i x hx
        split at h
        · rename_i htruthy
          rw [List.forall_mem_cons]
          exact ⟨⟨x, hx, htruthy⟩, ih h⟩
        · cases h

/-- What is published for a request. -/
structure Publication (B : Builtins) (op : PublishOperation) (request : Request)
    (topic text : List Char) : Prop where
  topic : formatTopic B request op.topic = .ok topic
  /-- no name in the topic is empty or None -/
  names : ∀ attr, Piece.attr attr ∈ op.topic →
    ∃ x, request.getattr attr = .ok x ∧ x.truthy = true
  /-- the text is JSON of the attributes -/
  document : op.hasPayload = true → ∃ fields,
    JsonText.Decodes text (Json.toValue B.toInterpreter (.obj fields)) ∧
    loads B.toInterpreter text = some (.obj fields) ∧
    Documents op.request.slots request.attributes fields
  empty : op.hasPayload = false → text = []

section

variable {B : Builtins} {op : PublishOperation} {request : Request} {topic text : List Char}

theorem prepare_eq_ok {payload : Option (List (String × Obj))}
    (h : (op.prepare B request : Except (Error ε) _) = .ok (topic, payload)) :
    (checkRequired request op.required : Except (Error ε) Unit) = .ok () ∧
      formatTopic B request op.topic = .ok topic ∧
      (op.hasPayload = true → ∃ fields, request.toPayload = .ok fields ∧ payload = some fields) ∧
      (op.hasPayload = false → payload = none) := by
  rw [PublishOperation.prepare] at h
  cases hrequired : (checkRequired request op.required : Except (Error ε) Unit) with
  | error e => simp [hrequired, bind, Except.bind] at h
  | ok _ =>
      cases htopic : formatTopic B request op.topic with
      | error e => simp [hrequired, htopic, bind, Except.bind, Except.mapError] at h
      | ok _ =>
          cases hflag : op.hasPayload with
          | false =>
              obtain ⟨rfl, rfl⟩ : _ = topic ∧ none = payload := by
                simpa [hrequired, htopic, hflag, bind, Except.bind, Except.mapError, pure,
                  Except.pure] using h
              simp
          | true =>
              cases hpayload : request.toPayload with
              | error e =>
                  simp [hrequired, htopic, hflag, hpayload, bind, Except.bind, Except.mapError,
                    Except.map] at h
              | ok fields =>
                  obtain ⟨rfl, rfl⟩ : _ = topic ∧ some fields = payload := by
                    simpa [hrequired, htopic, hflag, hpayload, bind, Except.bind, Except.mapError,
                      Except.map, pure, Except.pure] using h
                  simp

theorem publication_of_prepare (hop : op ∈ publishes) (hcls : request.cls = op.request)
    (hsurvive : ∀ x ∈ request.attributes, x.Survives B.toInterpreter)
    {payload : Option (List (String × Obj))}
    (hprepare : (op.prepare B request : Except (Error ε) _) = .ok (topic, payload))
    (htext : payloadStr B payload = .ok text) : Publication B op request topic text := by
  obtain ⟨hrequired, htopic, hpayload, hnone⟩ := prepare_eq_ok hprepare
  refine ⟨htopic, fun attr hattr => ?_, fun hflag => ?_, fun hflag => ?_⟩
  · have hchecked := List.all_eq_true.mp (List.all_eq_true.mp publishes_required op hop) _ hattr
    exact truthy_of_checkRequired hrequired attr (by simpa [Piece.checked] using hchecked)
  · obtain ⟨objs, hobjs, rfl⟩ := hpayload hflag
    have hnodup := List.all_eq_true.mp publishes_keys op hop
    rw [decide_eq_true_eq] at hnodup
    rw [Request.toPayload, hcls] at hobjs
    obtain ⟨fields, hfields, htext⟩ := bind_eq_ok.mp htext
    cases htext
    obtain ⟨hdocument, hfield⟩ := documents_write hnodup hsurvive hobjs hfields
    have hsurvives : Json.Survives B.toInterpreter (.obj fields) :=
      (survives_obj _ _).mpr ⟨hdocument.keys.nodup hnodup, hfield⟩
    exact ⟨fields, decodes_dumps hsurvives, loads_dumps hsurvives.readable, hdocument⟩
  · obtain rfl := hnone hflag
    cases htext
    rfl

theorem publisher_run {as : List (Act ε)} {s : State ε} (hrun : run (step B) {} as = some s)
    (hown : ∀ op request qos reply, Act.call (.publish op request qos reply) ∈ as →
      op ∈ publishes ∧ request.cls = op.request ∧
        ∀ x ∈ request.attributes, x.Survives B.toInterpreter)
    {qos : Nat} (hsent : Sent.publish topic text qos ∈ s.sent) :
    ∃ op request reply, Act.call (.publish op request qos reply) ∈ as ∧
      Publication B op request topic text := by
  rw [(logInv_run hrun).sent, List.mem_flatMap] at hsent
  obtain ⟨⟨sent, call⟩, hmade, hsent⟩ := hsent
  obtain rfl : sent = some (.publish topic text qos) := Option.mem_toList.mp hsent
  obtain ⟨a, ha, hcall⟩ := List.mem_filterMap.mp hmade
  cases a with
  | call method =>
      have hmethod : method.run B = .ok (some (.publish topic text qos), call) := by
        cases hresult : method.run B with
        | error e => simp [hresult, Except.toOption] at hcall
        | ok result => simpa [hresult, Except.toOption] using hcall
      cases method with
      | publish op request qos' reply =>
          obtain ⟨hop, hcls, hsurvive⟩ := hown op request qos' reply ha
          cases hprepare : (op.prepare B request : Except (Error ε) _) with
          | error e => simp [Method.run, hprepare, bind, Except.bind] at hmethod
          | ok prepared =>
              obtain ⟨topic', payload⟩ := prepared
              cases htext : payloadStr B payload with
              | error e =>
                  simp [Method.run, hprepare, publishOperation, htext, bind, Except.bind, pure,
                    Except.pure] at hmethod
              | ok text' =>
                  obtain ⟨⟨rfl, rfl, rfl⟩, _⟩ : (topic' = topic ∧ text' = text ∧ qos' = qos) ∧
                      Call.start none .onPuback reply = call := by
                    simpa [Method.run, hprepare, publishOperation, htext, bind, Except.bind, pure,
                      Except.pure] using hmethod
                  exact ⟨op, request, reply, ha,
                    publication_of_prepare hop hcls hsurvive hprepare htext⟩
      | subscribe op request qos' callable reply =>
          cases hprepare : (op.prepare B request callable : Except (Error ε) _) <;>
            simp [Method.run, hprepare, subscribeOperation, bind, Except.bind, pure,
              Except.pure] at hmethod
      | unsubscribe topic' reply => simp [Method.run, unsubscribe] at hmethod
  | _ => cases hcall

end

/-- An update that clears the desired state. -/
theorem publisher_run_clear :
    let B : Builtins := .noText
    let request : Request :=
      ⟨IotShadow.updateShadowRequest, [.json (.str "t1"),
        .state { reported := .obj [("light", .str "on")], desiredIsNullable := true },
        .json (.str "lamp"), .none]⟩
    let as : List (Act Unit) :=
      [.call (.publish IotShadow.publishUpdateShadow request 1 (.future none))]
    ∃ s topic text, run (step B) {} as = some s ∧ Sent.publish topic text 1 ∈ s.sent ∧
      ∃ op request reply, Act.call (.publish op request 1 reply) ∈ as ∧
        Publication B op request topic text := by
  intro B request as
  have hown : ∀ op request' qos reply, Act.call (.publish op request' qos reply) ∈ as →
      op ∈ publishes ∧ request'.cls = op.request ∧
        ∀ x ∈ request'.attributes, x.Survives B.toInterpreter := by
    intro op request' qos reply h
    obtain ⟨rfl, rfl, rfl, rfl⟩ : op = IotShadow.publishUpdateShadow ∧ request' = request ∧
        qos = 1 ∧ reply = .future none := by simpa [as] using h
    refine ⟨by simp [publishes, IotShadow.publishes], rfl, ?_⟩
    have hnull : Json.Survives B.toInterpreter .null := ⟨trivial, rfl⟩
    have hstr : ∀ text, Json.Survives B.toInterpreter (.str text) := fun _ => ⟨trivial, rfl⟩
    simp [request, Obj.Survives, Obj.none, survives_obj, hnull, hstr]
  obtain ⟨s, topic, text, hs, hsent⟩ : ∃ s topic text, run (step B) {} as = some s ∧
      Sent.publish topic text 1 ∈ s.sent := ⟨_, _, _, rfl, List.mem_singleton.mpr rfl⟩
  exact ⟨s, topic, text, hs, hsent, publisher_run hs hown hsent⟩

end IotCore.Mqtt
