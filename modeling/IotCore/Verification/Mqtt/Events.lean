import Mathlib.Data.List.Forall2
import IotCore.Verification.Greengrass.RoundTrip
import IotCore.Verification.Mqtt.ServiceClient
import IotCore.Verification.Mqtt.Topics

/-! # The events of a subscription

What a payload must be for the callback to get an event, and which event. With the topics and
the runs of a client: a subscriber hears its own messages, each of them once, in order. -/

namespace IotCore.Mqtt

open Json JsonText Raising
open Greengrass (Exc contains contains_obj getItem iterate items)

/-! ## Documents -/

/-- The member of a `dict`, or null. -/
def Member (payload : Json) (key : String) (value : Json) : Prop :=
  ∃ fields, payload = .obj fields ∧ (fields.lookup key).getD .null = value

/-- A member of a shadow state, null or absent. What is no `dict` can only be without it. -/
def NullableMember (payload : Json) (key : String) (value : Json) (nullable : Bool) : Prop :=
  (∃ fields, payload = .obj fields ∧ fields.lookup key = some value ∧
    (nullable = true ↔ value = .null)) ∨
  (contains payload key = .ok false ∧ value = .null ∧ nullable = false)

structure RepresentsState (payload : Json) (state : Shadow.ShadowState) : Prop where
  desired : NullableMember payload "desired" state.desired state.desiredIsNullable
  reported : NullableMember payload "reported" state.reported state.reportedIsNullable

section

variable (B : Builtins)

mutual

/-- The payload stands for the instance. -/
def ModeledClass.Represents : ModeledClass → Json → Obj → Prop
  | ⟨name, slots⟩, payload, .instance cls attributes =>
      cls = ⟨name, slots⟩ ∧ RepresentsSlots slots payload attributes
  | _, _, _ => False

def RepresentsSlots : List Slot → Json → List Obj → Prop
  | [], _, [] => True
  | ⟨_, key, kind⟩ :: slots, payload, x :: xs =>
      (∃ value, Member payload key value ∧
        (value = .null ∧ x = .none ∨ value ≠ .null ∧ kind.Represents value x)) ∧
      RepresentsSlots slots payload xs
  | _, _, _ => False

def Kind.Represents : Kind → Json → Obj → Prop
  | .plain, value, x => x = .json value
  | .datetime, value, x =>
      ∃ q t, value.number = some q ∧ B.fromtimestamp q = .ok t ∧ x = .datetime t
  | .state, value, x => ∃ state, RepresentsState value state ∧ x = .state state
  | .instance cls, value, x => cls.Represents value x
  | .list cls, value, x =>
      ∃ values xs, iterate value = .ok values ∧
        List.Forall₂ (fun v y => cls.Represents v y) values xs ∧ x = .list xs
  | .dict cls, value, x =>
      ∃ fields entries, value = .obj fields ∧
        List.Forall₂ (fun field entry => field.1 = entry.1 ∧
          ∃ values xs, iterate field.2 = .ok values ∧
            List.Forall₂ (fun v y => cls.Represents v y) values xs ∧ entry.2 = .list xs)
          fields entries ∧
        x = .dict entries

end

end

/-! ## Reading -/

theorem get_eq_ok {payload value : Json} {key : String} :
    get payload key = .ok value ↔ Member payload key value := by
  cases payload <;> simp [get, Member]

theorem isNone_iff (value : Json) : isNone value = true ↔ value = .null := by
  cases value <;> simp [isNone]

theorem nullableMember_eq_ok {payload value : Json} {key : String} {nullable : Bool} :
    nullableMember key payload = .ok (value, nullable) ↔
      NullableMember payload key value nullable := by
  have hmember : nullableMember key payload = .ok (value, nullable) ↔
      (contains payload key = .ok true ∧ getItem payload key = .ok value ∧
        isNone value = nullable) ∨
      (contains payload key = .ok false ∧ value = .null ∧ nullable = false) := by
    rw [nullableMember, bind_eq_ok]
    constructor
    · rintro ⟨found, hfound, h⟩
      cases found with
      | false => exact .inr ⟨hfound, by simpa [pure, Except.pure, eq_comm] using h⟩
      | true =>
          obtain ⟨v, hv, h⟩ := bind_eq_ok.mp h
          obtain ⟨rfl, rfl⟩ : v = value ∧ isNone v = nullable := by
            simpa [pure, Except.pure] using h
          exact .inl ⟨hfound, hv, rfl⟩
    · rintro (⟨hfound, hvalue, rfl⟩ | ⟨hfound, rfl, rfl⟩)
      · exact ⟨true, hfound, bind_eq_ok.mpr ⟨value, hvalue, rfl⟩⟩
      · exact ⟨false, hfound, rfl⟩
  have hnone : isNone value = nullable ↔ (nullable = true ↔ value = .null) := by
    rw [← isNone_iff]
    cases nullable <;> simp
  rw [hmember, NullableMember, hnone]
  refine or_congr_left ?_
  cases payload with
  | obj fields =>
      cases hlookup : fields.lookup key with
      | none => simp [contains_obj, hlookup]
      | some v => simp [contains_obj, hlookup, getItem]
  | _ => simp [getItem]

section

variable {B : Builtins}

theorem shadowState_eq_ok {payload : Json} {state : Shadow.ShadowState} :
    shadowStateFromPayload payload = .ok state ↔ RepresentsState payload state := by
  simp only [shadowStateFromPayload, bind_eq_ok, pure, Except.pure, Except.ok.injEq, Prod.exists,
    nullableMember_eq_ok]
  constructor
  · rintro ⟨_, _, hdesired, _, _, hreported, rfl⟩
    exact ⟨hdesired, hreported⟩
  · intro h
    exact ⟨_, _, h.desired, _, _, h.reported, rfl⟩

theorem fromtimestamp_eq_ok {value : Json} {x : Obj} :
    fromtimestamp B value = .ok x ↔
      ∃ q t, value.number = some q ∧ B.fromtimestamp q = .ok t ∧ x = .datetime t := by
  cases value <;> simp [fromtimestamp, number, bind_eq_ok, @eq_comm _ x, pure, Except.pure]

theorem readUnlessNone_eq_ok {read : Json → Except Exc Obj} {R : Json → Obj → Prop}
    (hread : ∀ v x, read v = .ok x ↔ R v x) (value : Json) (x : Obj) :
    readUnlessNone read value = .ok x ↔
      value = .null ∧ x = .none ∨ value ≠ .null ∧ R value x := by
  rw [readUnlessNone]
  by_cases h : value = .null
  · simp [h, isNone, eq_comm]
  · simp [h, isNone_iff, hread]

theorem readList_eq_ok {read : Json → Except Exc Obj} {R : Json → Obj → Prop}
    (hread : ∀ v x, read v = .ok x ↔ R v x) (value : Json) (x : Obj) :
    readList read value = .ok x ↔
      ∃ values xs, iterate value = .ok values ∧ List.Forall₂ R values xs ∧ x = .list xs := by
  simp [readList, bind_eq_ok, pure, Except.pure, mapM_eq_ok hread, @eq_comm _ x]

mutual

theorem fromPayload_eq_ok : ∀ (cls : ModeledClass) (payload : Json) (x : Obj),
    fromPayload B cls payload = .ok x ↔ cls.Represents B payload x
  | ⟨name, slots⟩, payload, .instance cls attributes => by
      rw [fromPayload, ModeledClass.Represents, bind_eq_ok]
      simp only [fromSlots_eq_ok slots, pure, Except.pure, Except.ok.injEq, Obj.instance.injEq]
      constructor
      · rintro ⟨_, hattributes, rfl, rfl⟩
        exact ⟨rfl, hattributes⟩
      · rintro ⟨rfl, hattributes⟩
        exact ⟨_, hattributes, rfl, rfl⟩
  | ⟨_, _⟩, _, .json _ | ⟨_, _⟩, _, .datetime _ | ⟨_, _⟩, _, .state _ | ⟨_, _⟩, _, .list _
  | ⟨_, _⟩, _, .dict _ => by
      simp [fromPayload, ModeledClass.Represents, bind_eq_ok, pure, Except.pure]

theorem fromSlots_eq_ok : ∀ (slots : List Slot) (payload : Json) (xs : List Obj),
    fromSlots B slots payload = .ok xs ↔ RepresentsSlots B slots payload xs
  | [], _, [] => by simp [fromSlots, RepresentsSlots]
  | [], _, _ :: _ => by simp [fromSlots, RepresentsSlots]
  | ⟨_, _, _⟩ :: _, _, [] => by
      simp [fromSlots, RepresentsSlots, bind_eq_ok, pure, Except.pure]
  | ⟨_, key, kind⟩ :: slots, payload, x :: xs => by
      simp only [fromSlots, RepresentsSlots, bind_eq_ok, get_eq_ok, fromSlots_eq_ok slots, pure,
        Except.pure, Except.ok.injEq, List.cons.injEq,
        readUnlessNone_eq_ok (fromValue_eq_ok kind)]
      constructor
      · rintro ⟨value, hvalue, _, hx, _, hxs, rfl, rfl⟩
        exact ⟨⟨value, hvalue, hx⟩, hxs⟩
      · rintro ⟨⟨value, hvalue, hx⟩, hxs⟩
        exact ⟨value, hvalue, _, hx, _, hxs, rfl, rfl⟩

theorem fromValue_eq_ok : ∀ (kind : Kind) (value : Json) (x : Obj),
    fromValue B kind value = .ok x ↔ kind.Represents B value x
  | .plain, value, x => by simp [fromValue, Kind.Represents, eq_comm]
  | .datetime, value, x => by simp [fromValue, Kind.Represents, fromtimestamp_eq_ok]
  | .state, value, x => by
      simp only [fromValue, Kind.Represents, bind_eq_ok, shadowState_eq_ok, pure, Except.pure,
        Except.ok.injEq, @eq_comm _ x]
  | .instance cls, value, x => fromPayload_eq_ok cls value x
  | .list cls, value, x => by
      rw [fromValue, Kind.Represents, readList_eq_ok (fromPayload_eq_ok cls)]
  | .dict cls, value, x => by
      simp only [fromValue, Kind.Represents, bind_eq_ok, pure, Except.pure, Except.ok.injEq,
        mapItemsM_eq_ok (readList_eq_ok (fromPayload_eq_ok cls)), @eq_comm _ x]
      cases value <;> simp [items]

end

end

/-! ## Attributes -/

section

variable {B : Builtins} {payload : Json}

/-- What the attribute of a slot stands for. -/
def Slot.Reads (B : Builtins) (slot : Slot) (payload : Json) (x : Obj) : Prop :=
  ∃ value, Member payload slot.key value ∧
    (value = .null ∧ x = .none ∨ value ≠ .null ∧ slot.kind.Represents B value x)

theorem lookup_of_represents {slots : List Slot} {xs : List Obj} {slot : Slot}
    (h : RepresentsSlots B slots payload xs) (hnodup : (slots.map Slot.attr).Nodup)
    (hslot : slot ∈ slots) :
    ∃ x, ((slots.map Slot.attr).zip xs).lookup slot.attr = some x ∧ slot.Reads B payload x := by
  induction slots generalizing xs with
  | nil => cases hslot
  | cons first slots ih =>
      obtain ⟨attr, key, kind⟩ := first
      cases xs with
      | nil => exact absurd h (by simp [RepresentsSlots])
      | cons x xs =>
          rw [RepresentsSlots] at h
          rw [List.map_cons, List.nodup_cons] at hnodup
          rcases List.mem_cons.mp hslot with rfl | htail
          · exact ⟨x, by simp, h.1⟩
          · obtain ⟨y, hlookup, hreads⟩ := ih h.2 hnodup.2 htail
            refine ⟨y, ?_, hreads⟩
            have hne : slot.attr ≠ attr := by
              rintro rfl
              exact hnodup.1 (List.mem_map.mpr ⟨slot, htail, rfl⟩)
            have hbeq : (slot.attr == attr) = false := by simpa using hne
            simpa [List.lookup_cons, hbeq] using hlookup

theorem getattr_of_represents {cls : ModeledClass} {x : Obj} {slot : Slot}
    (h : cls.Represents B payload x) (hnodup : (cls.slots.map Slot.attr).Nodup)
    (hslot : slot ∈ cls.slots) :
    ∃ y, x.getattr slot.attr = .ok y ∧ slot.Reads B payload y := by
  obtain ⟨name, slots⟩ := cls
  cases x with
  | «instance» cls attributes =>
      rw [ModeledClass.Represents] at h
      obtain ⟨rfl, h⟩ := h
      obtain ⟨y, hlookup, hreads⟩ := lookup_of_represents h hnodup hslot
      exact ⟨y, by simp [Obj.getattr, hlookup], hreads⟩
  | json _ | datetime _ | state _ | list _ | dict _ => simp [ModeledClass.Represents] at h

end

/-! ## Subscribers -/

/-- The bytes are a document that stands for the event. -/
def Carries (B : Builtins) (cls : ModeledClass) (payload : List UInt8) (event : Obj) : Prop :=
  ∃ document, Document B.toInterpreter payload document ∧ cls.Represents B document event

theorem callbackWrapper_eq_some {B : Builtins} {cls : ModeledClass} {payload : List UInt8}
    {event : Obj} :
    callbackWrapper B cls payload = some event ↔ Carries B cls payload event := by
  simp only [Carries, ← loads_utf8, ← fromPayload_eq_ok, callbackWrapper]
  cases payload.toByteArray.utf8Decode? with
  | none => simp
  | some text =>
      cases hloads : loads B.toInterpreter text.toList with
      | none => simp [hloads]
      | some document => cases hevent : fromPayload B cls document <;> simp [hloads, hevent]

/-- Why bytes may carry no event: what they are is not UTF-8 of a text that `json.loads` takes for
JSON, or has an integer of too many digits, or does not stand for an instance. -/
inductive Unreadable (B : Builtins) (cls : ModeledClass) (payload : List UInt8) : Prop where
  | noText (h : ∀ v, ¬ReadsUtf8 payload v)
  | tooLong (v : Value) (h : ReadsUtf8 payload v) (hlong : fits B.toInterpreter v = false)
  | noInstance (document : Json) (h : Document B.toInterpreter payload document)
      (hno : ∀ x, ¬cls.Represents B document x)

theorem unreadable_iff {B : Builtins} {cls : ModeledClass} {payload : List UInt8}
    (hpaired : PairedUtf8 payload) :
    Unreadable B cls payload ↔ ∀ x, ¬Carries B cls payload x := by
  constructor
  · rintro h x ⟨document, hdocument, hx⟩
    cases h with
    | noText hno =>
        obtain ⟨v, hv, _⟩ := hdocument
        exact hno v hv
    | tooLong v hv hlong =>
        rw [hdocument.fits hv] at hlong
        cases hlong
    | noInstance other hother hno =>
        obtain rfl := hdocument.unique hother
        exact hno x hx
  · intro hnone
    by_cases htext : ∃ v, ReadsUtf8 payload v
    · obtain ⟨v, hv⟩ := htext
      cases hfits : fits B.toInterpreter v with
      | false => exact .tooLong v hv hfits
      | true =>
          obtain ⟨document, hdocument⟩ := exists_document hpaired hv hfits
          exact .noInstance document hdocument fun x hx => hnone x ⟨document, hdocument, hx⟩
    · exact .noText fun v hv => htext ⟨v, hv⟩

/-- What the subscriber of an operation hears of the messages that the connection has for it. -/
structure Hears (B : Builtins) (op : SubscribeOperation) (request : Request)
    (messages : List (List Char × List UInt8)) (heard : List (Option Obj)) : Prop where
  /-- the callback is called once for each message, in order, with its event or with None -/
  events : List.Forall₂ (fun message event =>
    (∀ x, event = some x ↔ Carries B op.response message.2 x) ∧
    (event = none ↔ Unreadable B op.response message.2)) messages heard
  /-- a message of the three services is one of the operation, for the names of the request -/
  own : ∀ message ∈ messages, ∀ o ∈ operations, ∀ request', SingleLevels B request' o.topic →
    formatTopic B request' o.topic = .ok message.1 →
    o = .subscribe op ∧ ∀ attr, Piece.attr attr ∈ op.topic →
      nameOf B request attr = ['+'] ∨ nameOf B request attr = nameOf B request' attr

theorem formatTopic_of_prepare {ε : Type} {B : Builtins} {op : SubscribeOperation}
    {request : Request} {callable : Bool} {filter : List Char}
    (h : (op.prepare B request callable : Except (Error ε) (List Char)) = .ok filter) :
    formatTopic B request op.topic = .ok filter := by
  rw [SubscribeOperation.prepare] at h
  cases hrequired : (checkRequired request op.required : Except (Error ε) Unit) with
  | error e => simp [hrequired, bind, Except.bind] at h
  | ok _ =>
      cases callable with
      | false => simp [hrequired, bind, Except.bind] at h
      | true =>
          cases htopic : formatTopic B request op.topic with
          | error e => simp [hrequired, htopic, bind, Except.bind, Except.mapError] at h
          | ok topic => simpa [hrequired, htopic, bind, Except.bind, Except.mapError] using h

theorem subscriber_run {ε : Type} {B : Builtins} {s : State ε} {pre post : List (Act ε)}
    {op : SubscribeOperation} {request : Request} {qos : Nat} {callable : Bool} {reply : Reply ε}
    {filter : List Char} (hop : op ∈ subscribes)
    (hrun : Machine.run (step B) {}
      (pre ++ .call (.subscribe op request qos callable reply) :: post) = some s)
    (hfilter : (op.prepare B request callable : Except (Error ε) (List Char)) = .ok filter)
    (hrequest : Subscribes B request op.topic)
    (hpaired : ∀ delivery ∈ deliveries (made B pre).length post, PairedUtf8 delivery.2) :
    Hears B op request (deliveries (made B pre).length post)
      (heardBy (made B pre).length s.heard) := by
  have hmethod : (Method.subscribe op request qos callable reply).run B =
      .ok (subscribeOperation filter qos op.response reply) := by
    simp [Method.run, hfilter, bind, Except.bind, pure, Except.pure]
  have hspec := callSpec_run hrun hmethod
  have hsubscription : ∀ delivery ∈ deliveries (made B pre).length post,
      (Call.start (some ⟨filter, op.response⟩) .onSuback reply).subscription =
        some ⟨filter, op.response⟩ ∧ matchTopic filter delivery.1 = true := by
    intro delivery hdelivery
    obtain ⟨subscription, hsubscription, hmatch⟩ := hspec.matching delivery hdelivery
    obtain rfl : subscription = ⟨filter, op.response⟩ := by
      cases reply with
      | raises e => cases hsubscription
      | future ack => cases ack <;> exact (Option.some.inj hsubscription).symm
    exact ⟨hsubscription, hmatch⟩
  have hformat := formatTopic_of_prepare hfilter
  refine ⟨?_, fun message hmessage o ho request' hsingle htopic => ?_⟩
  · rw [hspec.heard, List.forall₂_map_right_iff, List.forall₂_same]
    intro delivery hdelivery
    rw [(hsubscription delivery hdelivery).1]
    refine ⟨fun x => callbackWrapper_eq_some, ?_⟩
    rw [unreadable_iff (hpaired delivery hdelivery)]
    simp only [← callbackWrapper_eq_some]
    exact Option.eq_none_iff_forall_ne_some
  · have hmatch := (hsubscription message hmessage).2
    by_cases heq : o = .subscribe op
    · subst o
      exact ⟨rfl, (matchTopic_own hop hformat htopic hrequest hsingle).mp hmatch⟩
    · rw [matchTopic_other hop ho heq hformat htopic hrequest hsingle] at hmatch
      cases hmatch

/-- A shadow that was deleted, and a message that is no `dict`. -/
theorem subscriber_run_deleted :
    let B : Builtins := .noText
    let op := IotShadow.subscribeToDeleteShadowAccepted
    let request : Request :=
      ⟨IotShadow.deleteShadowSubscriptionRequest, [.json (.str "lamp")]⟩
    let topic := "$aws/things/lamp/shadow/delete/accepted".toList
    let text := fun j => encodeUtf8 (dumps B.toInterpreter j)
    let post : List (Act Unit) :=
      [.deliver 0 topic (text (.obj [("version", .int 3)])), .complete 0 (.ok (some 1)),
        .deliver 0 topic (text (.arr []))]
    ∃ s, Machine.run (step B) {} (.call (.subscribe op request 1 true (.future none)) :: post) =
        some s ∧
      Hears B op request (deliveries 0 post) (heardBy 0 s.heard) := by
  intro B op request topic text post
  have hop : op ∈ subscribes := by simp [subscribes, IotShadow.subscribes, op]
  have hfilter : (op.prepare B request true : Except (Error Unit) (List Char)) = .ok _ := rfl
  have hlamp : ∀ attr, Piece.attr attr ∈ op.topic →
      nameOf B request attr = ['l', 'a', 'm', 'p'] := by
    simp [op, IotShadow.subscribeToDeleteShadowAccepted, nameOf, request, Request.getattr,
      IotShadow.deleteShadowSubscriptionRequest, format]
  have hversion : Readable B.toInterpreter (.obj [("version", .int 3)]) := by
    have hconverts : B.toInterpreter.converts 3 = true := by decide +kernel
    exact ⟨by simp, hconverts, trivial⟩
  obtain ⟨s, hs⟩ : ∃ s, Machine.run (step B) {}
      ([] ++ .call (.subscribe op request 1 true (.future none)) :: post) = some s := ⟨_, rfl⟩
  refine ⟨s, hs, subscriber_run hop hs hfilter ⟨?_, ?_⟩ ?_⟩
  · intro attr h
    rw [hlamp attr h]
    decide
  · intro attr h
    rw [hlamp attr h]
    decide
  · intro delivery hdelivery
    obtain rfl | rfl : delivery = (topic, text (.obj [("version", .int 3)])) ∨
        delivery = (topic, text (.arr [])) := by simpa [deliveries, post, made, eq_comm] using hdelivery
    · exact pairedUtf8_dumps hversion
    · exact pairedUtf8_dumps trivial

end IotCore.Mqtt
