import IotCore.Model.Shadow.Wire
import IotCore.Verification.Mqtt.Events
import IotCore.Verification.Shadow.Publishing

/-! # Messages of a session

The requests of the session model are what the generated classes hand to the connection, and
a handler starts with what the document of a message says. -/

namespace IotCore.Shadow.Wire

open Json (dumps convertible convertibleDict Document)
open Mqtt (Obj Builtins Reply)

variable {B : Builtins} {cfg : Config}

/-! ## Requests -/

/-- What is handed to the connection for a publish. -/
def sentOf (B : Builtins) (publish : Publish) : Mqtt.Sent :=
  .publish publish.topic.toList (dumps B.toInterpreter publish.payload) 1

section

variable {request : Mqtt.Request} {name suffix : String}

theorem checkRequired_thingName
    (hname : request.getattr "thing_name" = .ok (.json (.str name))) :
    (Mqtt.checkRequired request ["thing_name"] : Except (Mqtt.Error Nat) Unit) =
      if name = "" then .error (.valueError "request.thing_name is required") else .ok () := by
  by_cases h : name = "" <;>
    simp [Mqtt.checkRequired, hname, Obj.truthy, Json.truthy, h]

theorem formatTopic_thingName (hname : request.getattr "thing_name" = .ok (.json (.str name))) :
    Mqtt.formatTopic B request [.text "$aws/things/", .attr "thing_name", .text suffix] =
      .ok ("$aws/things/" ++ name ++ suffix).toList := by
  simp [Mqtt.formatTopic, hname, Mqtt.format, bind, Except.bind, pure, Except.pure]

theorem jsonFields_json {F : Json.Interpreter} {fields : List (String × Json)}
    (h : convertibleDict F fields = true) :
    Mqtt.jsonFields F (fields.map fun field => (field.1, Obj.json field.2)) = .ok fields := by
  induction fields with
  | nil => rfl
  | cons field fields ih =>
      obtain ⟨key, x⟩ := field
      rw [convertibleDict, Bool.and_eq_true] at h
      simp [Mqtt.jsonFields, h.1, ih h.2, pure, Except.pure]

/-- A publish of a thing's request whose payload is a document. -/
theorem run_publish {op : Mqtt.PublishOperation} {fields : List (String × Json)}
    (hrequired : op.required = ["thing_name"])
    (htopic : op.topic = [.text "$aws/things/", .attr "thing_name", .text suffix])
    (hflag : op.hasPayload = true)
    (hname : request.getattr "thing_name" = .ok (.json (.str name)))
    (hpayload : request.toPayload = .ok (fields.map fun field => (field.1, Obj.json field.2)))
    (hconvertible : convertibleDict B.toInterpreter fields = true) (reply : Reply Nat) :
    (Mqtt.Method.publish op request 1 reply).run B =
      if name = "" then .error (.valueError "request.thing_name is required")
      else
        .ok (some (sentOf B ⟨"$aws/things/" ++ name ++ suffix, .obj fields⟩),
          .start none .onPuback reply) := by
  rw [Mqtt.Method.run, Mqtt.PublishOperation.prepare, hrequired, htopic, hflag, hpayload,
    checkRequired_thingName hname, formatTopic_thingName hname]
  by_cases h : name = ""
  · simp [h, bind, Except.bind]
  · simp [h, bind, Except.bind, Except.mapError, Except.map, pure, Except.pure,
      Mqtt.publishOperation, Mqtt.payloadStr, jsonFields_json hconvertible, sentOf]

end

/-- The generated classes publish what the models of the requests do. -/
theorem run_publishUpdate {request : UpdateShadowRequest} {publish : Publish}
    (h : publishUpdateShadow request = .ok publish)
    (hconvertible : convertible B.toInterpreter publish.payload = true) (reply : Reply Nat) :
    (Mqtt.Method.publish Mqtt.IotShadow.publishUpdateShadow (updateInstance request) 1 reply).run B
      = .ok (some (sentOf B publish), .start none .onPuback reply) := by
  have hpayload : (updateInstance request).toPayload = .ok
      (((request.clientToken.map fun token => ("clientToken", Json.str token)).toList ++
        (request.state.map fun state => ("state", state.toPayload)).toList ++
        (request.version.map fun version => ("version", Json.int version)).toList).map
          fun field => (field.1, Obj.json field.2)) := by
    obtain ⟨token, state, name, version⟩ := request
    cases token <;> cases state <;> cases version <;> rfl
  rw [publishUpdateShadow] at h
  split at h <;> cases h
  rename_i hname
  rw [run_publish rfl rfl rfl rfl hpayload hconvertible, if_neg hname]
  rfl

theorem run_publishGet {request : GetShadowRequest} {publish : Publish}
    (h : publishGetShadow request = .ok publish) (reply : Reply Nat) :
    (Mqtt.Method.publish Mqtt.IotShadow.publishGetShadow (getInstance request) 1 reply).run B =
      .ok (some (sentOf B publish), .start none .onPuback reply) := by
  have hpayload : (getInstance request).toPayload = .ok
      ((request.clientToken.map fun token => ("clientToken", Json.str token)).toList.map
        fun field => (field.1, Obj.json field.2)) := by
    obtain ⟨token, name⟩ := request
    cases token <;> rfl
  have hconvertible : convertibleDict B.toInterpreter
      (request.clientToken.map fun token => ("clientToken", Json.str token)).toList = true := by
    cases request.clientToken <;> rfl
  rw [publishGetShadow] at h
  split at h <;> cases h
  rename_i hname
  rw [run_publish rfl rfl rfl rfl hpayload hconvertible, if_neg hname]
  rfl

/-- What a subscription listens to. -/
def Handler.suffix : Handler → String
  | .onUpdateShadowAccepted => "/shadow/update/accepted"
  | .onUpdateShadowRejected => "/shadow/update/rejected"
  | .onGetShadowAccepted => "/shadow/get/accepted"
  | .onGetShadowRejected => "/shadow/get/rejected"
  | .onShadowDeltaUpdated => "/shadow/update/delta"

def Handler.filter (cfg : Config) (handler : Handler) : List Char :=
  ("$aws/things/" ++ cfg.shadowThingName ++ handler.suffix).toList

theorem run_subscribe (handler : Handler) (reply : Reply Nat) :
    (Mqtt.Method.subscribe handler.operation (handler.request cfg) 1 true reply).run B =
      .ok (some (.subscribe (handler.filter cfg) 1),
        .start (some ⟨handler.filter cfg, handler.operation.response⟩) .onSuback reply) := by
  have hrequired : handler.operation.required = ["thing_name"] := by cases handler <;> rfl
  have htopic : handler.operation.topic =
      [.text "$aws/things/", .attr "thing_name", .text handler.suffix] := by
    cases handler <;> rfl
  have hname : (handler.request cfg).getattr "thing_name" =
      .ok (.json (.str cfg.shadowThingName)) := by
    cases handler <;> rfl
  rw [Mqtt.Method.run, Mqtt.SubscribeOperation.prepare, hrequired, htopic,
    checkRequired_thingName hname, formatTopic_thingName hname, if_neg cfg.shadowThingName_ne]
  rfl

/-! ## Documents -/

def member (fields : List (String × Json)) (key : String) : Json :=
  (fields.lookup key).getD .null

/-- What a handler is meant to be called with. -/
def Handler.read : Handler → List (String × Json) → Task
  | .onUpdateShadowAccepted, fields =>
      .updateAccepted (some
        { clientToken := member fields "clientToken"
          state :=
            match member fields "state" with
            | .null => none
            | state => (Mqtt.shadowStateFromPayload state).toOption })
  | .onUpdateShadowRejected, fields =>
      .updateRejected (some ⟨member fields "clientToken", member fields "code"⟩)
  | .onGetShadowAccepted, fields =>
      .getAccepted (some
        { clientToken := member fields "clientToken"
          state :=
            match member fields "state" with
            | .obj state => some ⟨member state "delta", member state "reported"⟩
            | _ => none })
  | .onGetShadowRejected, fields =>
      .getRejected (some ⟨member fields "clientToken", member fields "code"⟩)
  | .onShadowDeltaUpdated, fields =>
      .delta (some ⟨member fields "clientToken", member fields "state", member fields "version"⟩)

/-- What a handler is called with for a payload. -/
def Handler.hears (B : Builtins) (handler : Handler) (payload : List UInt8) : Task :=
  handler.task (Mqtt.callbackWrapper B handler.operation.response payload)

section

variable {fields : List (String × Json)} {x : Obj}

/-- An instance of a class with attributes is read from a `dict`. -/
theorem represents_fields {cls : Mqtt.ModeledClass} {slot : Mqtt.Slot} {slots : List Mqtt.Slot}
    {document : Json} (h : cls.Represents B document x) (hslots : cls.slots = slot :: slots) :
    (∃ fields, document = .obj fields) ∧ ∃ attributes, x = .instance cls attributes := by
  obtain ⟨name, slots'⟩ := cls
  obtain ⟨attr, key, kind⟩ := slot
  obtain rfl : slots' = _ := hslots
  cases x with
  | «instance» cls attributes =>
      rw [Mqtt.ModeledClass.Represents] at h
      obtain ⟨rfl, h⟩ := h
      refine ⟨?_, attributes, rfl⟩
      cases attributes with
      | nil => simp [Mqtt.RepresentsSlots] at h
      | cons y attributes =>
          rw [Mqtt.RepresentsSlots] at h
          obtain ⟨⟨value, ⟨fields, hfields, _⟩, _⟩, _⟩ := h
          exact ⟨fields, hfields⟩
  | _ => simp [Mqtt.ModeledClass.Represents] at h

/-- The attribute of a slot, and what it was read from. -/
theorem getattr_slot {cls : Mqtt.ModeledClass} (attr key : String) {kind : Mqtt.Kind}
    (h : cls.Represents B (.obj fields) x) (hnodup : (cls.slots.map Mqtt.Slot.attr).Nodup)
    (hslot : ⟨attr, key, kind⟩ ∈ cls.slots) :
    ∃ y, x.getattr attr = .ok y ∧
      (member fields key = .null ∧ y = .none ∨
        member fields key ≠ .null ∧ kind.Represents B (member fields key) y) := by
  obtain ⟨y, hy, value, ⟨_, heq, hvalue⟩, hreads⟩ := Mqtt.getattr_of_represents h hnodup hslot
  cases heq
  obtain rfl : member fields key = value := hvalue
  exact ⟨y, hy, hreads⟩

theorem jsonAttr_eq {cls : Mqtt.ModeledClass} (attr key : String)
    (h : cls.Represents B (.obj fields) x) (hnodup : (cls.slots.map Mqtt.Slot.attr).Nodup)
    (hslot : ⟨attr, key, .plain⟩ ∈ cls.slots) : jsonAttr x attr = member fields key := by
  obtain ⟨y, hy, ⟨hnull, rfl⟩ | ⟨_, hreads⟩⟩ := getattr_slot attr key h hnodup hslot
  · rw [jsonAttr, hy, hnull]
    rfl
  · rw [Mqtt.Kind.Represents] at hreads
    rw [jsonAttr, hy, hreads]

theorem errorResponse_eq (h : Mqtt.IotShadow.errorResponse.Represents B (.obj fields) x) :
    errorResponse x = ⟨member fields "clientToken", member fields "code"⟩ := by
  rw [errorResponse, jsonAttr_eq "client_token" "clientToken" h (by decide) (.head _),
    jsonAttr_eq "code" "code" h (by decide) (.tail _ (.head _))]

theorem shadowDeltaUpdatedEvent_eq
    (h : Mqtt.IotShadow.shadowDeltaUpdatedEvent.Represents B (.obj fields) x) :
    shadowDeltaUpdatedEvent x =
      ⟨member fields "clientToken", member fields "state", member fields "version"⟩ := by
  rw [shadowDeltaUpdatedEvent, jsonAttr_eq "client_token" "clientToken" h (by decide) (.head _),
    jsonAttr_eq "state" "state" h (by decide) (.tail _ (.tail _ (.head _))),
    jsonAttr_eq "version" "version" h (by decide)
      (.tail _ (.tail _ (.tail _ (.tail _ (.head _)))))]

theorem updateShadowResponse_eq
    (h : Mqtt.IotShadow.updateShadowResponse.Represents B (.obj fields) x) :
    Task.updateAccepted (some (updateShadowResponse x)) =
      Handler.onUpdateShadowAccepted.read fields := by
  obtain ⟨y, hy, hreads⟩ :=
    getattr_slot "state" "state" h (by decide) (.tail _ (.tail _ (.head _)))
  rw [updateShadowResponse, jsonAttr_eq "client_token" "clientToken" h (by decide) (.head _), hy,
    Handler.read]
  rcases hreads with ⟨hnull, rfl⟩ | ⟨hne, hreads⟩
  · rw [hnull]
    rfl
  · rw [Mqtt.Kind.Represents] at hreads
    obtain ⟨state, hstate, rfl⟩ := hreads
    rw [← Mqtt.shadowState_eq_ok] at hstate
    cases hmember : member fields "state" with
    | null => exact absurd hmember hne
    | _ =>
        rw [hmember] at hstate
        simp only [hstate]
        rfl

theorem getShadowResponse_eq
    (h : Mqtt.IotShadow.getShadowResponse.Represents B (.obj fields) x) :
    Task.getAccepted (some (getShadowResponse x)) = Handler.onGetShadowAccepted.read fields := by
  obtain ⟨y, hy, hreads⟩ :=
    getattr_slot "state" "state" h (by decide) (.tail _ (.tail _ (.head _)))
  rw [getShadowResponse, jsonAttr_eq "client_token" "clientToken" h (by decide) (.head _), hy,
    Handler.read]
  rcases hreads with ⟨hnull, rfl⟩ | ⟨_, hreads⟩
  · rw [hnull]
    rfl
  · rw [Mqtt.Kind.Represents] at hreads
    obtain ⟨⟨state, hstate⟩, attributes, rfl⟩ := represents_fields hreads rfl
    rw [hstate] at hreads ⊢
    simp only
    rw [jsonAttr_eq "delta" "delta" hreads (by decide) (.head _),
      jsonAttr_eq "reported" "reported" hreads (by decide) (.tail _ (.tail _ (.head _)))]

theorem task_eq_read {handler : Handler}
    (h : handler.operation.response.Represents B (.obj fields) x) :
    handler.task (some x) = handler.read fields := by
  cases handler with
  | onUpdateShadowAccepted => exact updateShadowResponse_eq h
  | onGetShadowAccepted => exact getShadowResponse_eq h
  | onUpdateShadowRejected | onGetShadowRejected =>
      rw [Handler.task, Option.map_some, errorResponse_eq h, Handler.read]
  | onShadowDeltaUpdated =>
      rw [Handler.task, Option.map_some, shadowDeltaUpdatedEvent_eq h, Handler.read]

/-! ### The values in a document -/

/-- `json.dumps` can write the value. -/
def Converts (B : Builtins) (x : Json) : Prop := convertible B.toInterpreter x = true

theorem converts_lookup {key : String} {value : Json} (h : Converts B (.obj fields))
    (hlookup : fields.lookup key = some value) : Converts B value := by
  obtain ⟨before, after, rfl, _⟩ := List.lookup_eq_some_iff.mp hlookup
  exact (Json.convertibleDict_iff _).mp h (key, value) (by simp)

theorem converts_member {key : String} (h : Converts B (.obj fields)) :
    Converts B (member fields key) := by
  rw [member]
  cases hlookup : fields.lookup key with
  | none => rfl
  | some value => exact converts_lookup h hlookup

theorem converts_getMember {d value : Json} {key : String} (h : Converts B d)
    (hget : getMember d key = .ok value) : Converts B value := by
  unfold getMember at hget
  split at hget
  · split at hget
    · cases hget
      exact converts_member h
    · cases hget
  · cases hget
    rfl

theorem converts_decideGetAccepted {response : GetShadowResponse} {value : Json}
    (h : ∀ state, response.state = some state → Converts B state.delta)
    (hdecide : decideGetAccepted cfg response = .ok (.change value)) : Converts B value := by
  rw [decideGetAccepted] at hdecide
  split at hdecide
  · cases hdecide
    rfl
  · rename_i state hstate
    split at hdecide
    · cases hdecide
    · rename_i delta hdelta
      split at hdecide
      · cases hdecide
        exact converts_getMember (h state hstate) hdelta
      · split at hdecide
        · cases hdecide
        · split at hdecide <;> cases hdecide
          rfl

theorem converts_decideDelta {event : ShadowDeltaUpdatedEvent} {value : Json}
    (h : Converts B event.state) (hdecide : decideDelta cfg event = .ok (some value)) :
    Converts B value := by
  rw [decideDelta] at hdecide
  split at hdecide
  · cases hdecide
  · split at hdecide
    · cases hdecide
    · cases hdecide
    · cases hdecide
      rfl
    · rename_i value' _ hmember
      have hvalue : Converts B value' := by
        unfold deltaMember at hmember
        split at hmember
        · rename_i fields hstate
          rw [hstate] at h
          exact converts_lookup h (Except.ok.inj hmember)
        · split at hmember <;> cases hmember
        · split at hmember <;> cases hmember
        · cases hmember
      split at hdecide <;> cases hdecide
      · exact hvalue
      · exact hvalue

/-- A handler that starts with a document publishes nothing but values of it, and the default. -/
theorem values_read {handler : Handler} {block : Block} (h : Converts B (.obj fields))
    (hblock : firstBlock cfg (handler.read fields) = some block) :
    BlockValues cfg (Converts B) block := by
  cases handler with
  | onUpdateShadowAccepted | onUpdateShadowRejected | onGetShadowRejected =>
      cases hblock
      trivial
  | onGetShadowAccepted =>
      cases hblock
      intro value hdecide
      refine converts_decideGetAccepted (fun state hstate => ?_) hdecide
      have hmember : Converts B (member fields "state") := converts_member h
      cases hvalue : member fields "state" <;> simp only [hvalue, Option.some.injEq, reduceCtorEq]
        at hstate
      subst hstate
      rw [hvalue] at hmember
      exact converts_member hmember
  | onShadowDeltaUpdated =>
      simp only [Handler.read, firstBlock] at hblock
      split at hblock
      · cases hblock
      · rename_i value hdecide
        cases hblock
        exact converts_decideDelta (converts_member h) hdecide
      · cases hblock
        trivial

theorem values_hears {handler : Handler} {payload : List UInt8} {block : Block}
    (hblock : firstBlock cfg (handler.hears B payload) = some block) :
    BlockValues cfg (Converts B) block := by
  rw [Handler.hears] at hblock
  cases hevent : Mqtt.callbackWrapper B handler.operation.response payload with
  | none =>
      rw [hevent] at hblock
      cases handler <;> cases hblock <;> trivial
  | some x =>
      obtain ⟨document, hdocument, hrepresents⟩ := Mqtt.callbackWrapper_eq_some.mp hevent
      have hdict : ∃ fields, document = .obj fields := by
        cases handler <;> exact (represents_fields hrepresents rfl).1
      obtain ⟨fields, rfl⟩ := hdict
      rw [hevent, task_eq_read hrepresents] at hblock
      exact values_read hdocument.convertible hblock

theorem convertible_payload {value : Json} {token : String} {publish : Publish}
    (h : publishUpdateShadow (updateRequest cfg value token) = .ok publish)
    (hvalue : Converts B value) : convertible B.toInterpreter publish.payload = true := by
  rw [Converts] at hvalue
  simp only [publishUpdateShadow, updateRequest_thingName, cfg.shadowThingName_ne, ↓reduceIte,
    Except.ok.injEq] at h
  rw [← h, updateRequest]
  split
  · rfl
  · split <;> simp [UpdateShadowRequest.toPayload, ShadowState.toPayload, ShadowState.member,
      convertible, convertibleDict, hvalue]

/-! ### Handlers -/

/-- The payload is a document that the handler reads, or the handler is called with None. -/
inductive Handler.Hears (B : Builtins) (handler : Handler) (payload : List UInt8) : Task → Prop where
  | event (fields : List (String × Json)) (x : Obj)
      (hdocument : Document B.toInterpreter payload (.obj fields))
      (hevent : handler.operation.response.Represents B (.obj fields) x) :
      Hears B handler payload (handler.read fields)
  | none (h : Mqtt.Unreadable B handler.operation.response payload) :
      Hears B handler payload (handler.task none)

theorem hears_hears (handler : Handler) {payload : List UInt8}
    (hpaired : Json.PairedUtf8 payload) :
    handler.Hears B payload (handler.hears B payload) := by
  rw [Handler.hears]
  cases hevent : Mqtt.callbackWrapper B handler.operation.response payload with
  | none =>
      refine .none ((Mqtt.unreadable_iff hpaired).mpr fun x hx => ?_)
      rw [Mqtt.callbackWrapper_eq_some.mpr hx] at hevent
      cases hevent
  | some x =>
      obtain ⟨document, hdocument, hrepresents⟩ := Mqtt.callbackWrapper_eq_some.mp hevent
      have hdict : ∃ fields, document = .obj fields := by
        cases handler <;> exact (represents_fields hrepresents rfl).1
      obtain ⟨fields, rfl⟩ := hdict
      rw [task_eq_read hrepresents]
      exact .event fields x hdocument hrepresents

end

end IotCore.Shadow.Wire
