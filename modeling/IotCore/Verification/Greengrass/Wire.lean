import Mathlib.Data.List.Forall2
import IotCore.Model.Greengrass.Client
import IotCore.Verification.EventStream.Stream
import IotCore.Verification.Greengrass.RoundTrip

/-! # Shapes on the wire

What one side sends of a shape is what the other side gets, for every operation of the service:
its request and response, the events of its stream and its errors. -/

namespace IotCore.Greengrass

open Json JsonText EventStream EventStream.Operation Machine

/-! ## The catalog -/

theorem operations_distinct {operation : OperationType} (h : operation ∈ operations) :
    operation.requestType.distinct = true ∧ operation.responseType.distinct = true ∧
      ∀ cls ∈ operation.responseStreamType, cls.distinct = true := by
  have hall : operations.all (fun o => o.requestType.distinct && o.responseType.distinct &&
      o.responseStreamType.all ShapeClass.distinct) = true := by decide +kernel
  have hop := List.all_eq_true.mp hall operation h
  simp only [Bool.and_eq_true, Option.all_eq_true] at hop
  exact ⟨hop.1.1, hop.1.2, hop.2⟩

theorem shapes_distinct {cls : ShapeClass} (h : cls ∈ shapes) : cls.distinct = true := by
  have hall : shapes.all ShapeClass.distinct = true := by decide +kernel
  exact List.all_eq_true.mp hall cls h

theorem shapeIndex_distinct {cls : ShapeClass} (h : cls ∈ shapeIndex) : cls.distinct = true := by
  have hall : shapeIndex.all ShapeClass.distinct = true := by decide +kernel
  exact List.all_eq_true.mp hall cls h

/-- No other class of the catalog has the name of an error. -/
theorem named_error {cls : ShapeClass} (h : cls ∈ shapeIndex) (hexn : cls.isException = true) :
    shapeIndex.filter (fun t => t.modelName = cls.modelName) = [cls] := by
  have hall : shapeIndex.all (fun c => !c.isException ||
      (shapeIndex.filter fun t => t.modelName = c.modelName).length == 1) = true := by
    decide +kernel
  have hone := List.all_eq_true.mp hall cls h
  simp only [hexn, Bool.not_true, Bool.false_or, beq_iff_eq] at hone
  have hmem : cls ∈ shapeIndex.filter fun t => t.modelName = cls.modelName := by simp [h]
  obtain ⟨t, ht⟩ := List.length_eq_one_iff.mp hone
  rw [ht] at hmem ⊢
  rw [List.mem_singleton.mp hmem]

section

variable (B : Builtins) {σ : Type}

/-- The client finds the class of an error by its name. -/
theorem findShapeType_error {cls : ShapeClass} (h : cls ∈ shapeIndex)
    (hexn : cls.isException = true) (operation : OperationType)
    (handler : Option (StreamResponseHandler σ Obj)) :
    (operation.new B handler).shapeIndex.findShapeType cls.modelName =
      some (cls.shapeType B) := by
  have hfind : shapeIndex.reverse.find? (fun t => t.modelName = cls.modelName) = some cls := by
    rw [← List.head?_filter, List.filter_reverse, named_error h hexn]
    rfl
  simp only [OperationType.new, ShapeIndex.findShapeType, ← List.map_reverse, List.find?_map]
  rw [show ((fun t : ShapeType Obj => decide (t.modelName = cls.modelName)) ∘
    ShapeClass.shapeType B) = fun t => decide (t.modelName = cls.modelName) from rfl, hfind]
  rfl

/-! ## One shape -/

theorem oneFloat_reads : Builtins.oneFloat.Reads (3 / 2) where
  isNumber := by decide +kernel
  notInt := by decide +kernel
  parse := by decide +kernel

/-- One second and a half after the epoch. -/
theorem oneFloat_timestamp : Builtins.oneFloat.Timestamp 1500000 := by
  have hfloat : Builtins.oneFloat.timestamp 1500000 = 3 / 2 := by decide +kernel
  constructor
  · rw [hfloat]
    exact oneFloat_reads
  · decide +kernel

/-- The bytes of an instance are a JSON text of its members. Whoever sends these members, in any
order and among any others, sends the instance. -/
structure Portable (cls : ShapeClass) (x : Obj) (fields : List (String × Json))
    (bytes : List UInt8) : Prop where
  sends : jsonPayloadFromShape B x = .ok bytes
  decodes : DecodesUtf8 bytes (Json.toValue B.toInterpreter (.obj fields))
  reads : ∀ payload, Agrees cls.members payload fields →
    fromPayload B cls (.obj payload) = .ok x

theorem shape_portable {cls : ShapeClass} (hcls : cls ∈ shapes) {x : Obj}
    (hx : cls.Sendable B x) : ∃ fields bytes, Portable B cls x fields bytes := by
  obtain ⟨hinstance, hsurvives⟩ := hx
  have hdistinct := shapes_distinct hcls
  obtain ⟨name, isException, members⟩ := cls
  cases x with
  | shape cls attributes =>
      obtain ⟨rfl, hattributes⟩ := hinstance
      simp only [ShapeClass.distinct, Bool.and_eq_true, decide_eq_true_eq] at hdistinct
      obtain ⟨fields, hwrites, hsurvive, hkeys, hreads⟩ :=
        carried_members B members hdistinct.2 hdistinct.1 attributes hattributes hsurvives
      have hpayload : Json.Survives B.toInterpreter (.obj fields) :=
        (survives_obj _ _).mpr ⟨hkeys.nodup hdistinct.1, hsurvive⟩
      refine ⟨fields, _, ?_, decodesUtf8_encodeUtf8.mpr (decodes_dumps hpayload), ?_⟩
      · simp [jsonPayloadFromShape, toPayload, hwrites, convertible_of_readable _ hpayload.readable]
      · intro payload hagrees
        simp [fromPayload, hreads payload hagrees]
  | _ => exact hinstance.elim

/-- A page of names, with a time. -/
theorem shape_portable_page :
    let x : Obj := .shape listNamedShadowsForThingResponse
      [.json (.arr [.str "door", .str "lamp"]), .datetime 1500000, .none]
    ∃ fields bytes,
      Portable .oneFloat listNamedShadowsForThingResponse x fields bytes := by
  intro x
  have hx : listNamedShadowsForThingResponse.Sendable .oneFloat x :=
    ⟨⟨rfl, .inr trivial, .inr trivial, .inl rfl, trivial⟩,
      ⟨⟨trivial, trivial, trivial⟩, rfl⟩, oneFloat_timestamp, ⟨trivial, rfl⟩, trivial⟩
  exact shape_portable .oneFloat (by simp [shapes]) hx

/-! ## One message -/

/-- The message of a shape, as the service builds it. -/
def IsMessage (type : MessageType) (x : Obj) (m : Message) : Prop :=
  ∃ message, sendStreamEvent B x = .ok message ∧
    m = { message with messageType := type, flags := m.flags }

theorem decodes_payload {cls : ShapeClass} (hcls : cls.distinct = true) {x : Obj}
    (hx : cls.Sendable B x) :
    ∃ payload, jsonPayloadFromShape B x = .ok payload ∧
      ∀ (operation : OperationType) (handler : Option (StreamResponseHandler σ Obj)),
        Operation.Decodes (operation.new B handler) payload (cls.shapeType B) x := by
  obtain ⟨payload, h⟩ := carried_instance B cls hcls x hx.hasInstance hx.survives
  refine ⟨encodeUtf8 (dumps B.toInterpreter payload), ?_, fun operation handler => ?_⟩
  · simp [jsonPayloadFromShape, h.writes, convertible_of_readable _ h.survives.readable]
  · refine ⟨String.ofList (dumps B.toInterpreter payload), payload, ?_, ?_, ?_⟩
    · simp [OperationType.new, codec, utf8Decode?_encodeUtf8]
    · simp [OperationType.new, codec, loads_dumps h.survives.readable]
    · simp [ShapeClass.shapeType, h.reads, Except.mapError]

theorem hasInstance_modelName {cls : ShapeClass} {x : Obj} (hx : cls.HasInstance x) :
    modelName x = .ok cls.modelName := by
  obtain ⟨name, isException, members⟩ := cls
  cases x with
  | shape cls attributes =>
      obtain ⟨rfl, _⟩ := hx
      rfl
  | _ => exact hx.elim

theorem sendStreamEvent_ok {cls : ShapeClass} (hcls : cls.distinct = true) {x : Obj}
    (hx : cls.Sendable B x) :
    ∃ payload, sendStreamEvent B x =
        .ok { headers := shapeHeaders cls.modelName, payload,
              messageType := .applicationMessage } ∧
      ∀ (operation : OperationType) (handler : Option (StreamResponseHandler σ Obj)),
        Operation.Decodes (operation.new B handler) payload (cls.shapeType B) x := by
  obtain ⟨payload, hpayload, hdecodes⟩ := decodes_payload (σ := σ) B hcls hx
  refine ⟨payload, ?_, hdecodes⟩
  simp [sendStreamEvent, hasInstance_modelName hx.hasInstance, hpayload, bind, Except.bind, pure, Except.pure]

theorem findHeader_shapeHeaders (name : String) :
    findHeader (shapeHeaders name) serviceModelTypeHeader = some name ∧
      findHeader (shapeHeaders name) contentTypeHeader = some contentTypeApplicationJson := by
  have hlower : lower contentTypeHeader ≠ lower serviceModelTypeHeader := by decide
  simp [findHeader, shapeHeaders, hlower]

theorem IsMessage.carries {type : MessageType} {cls : ShapeClass} (hcls : cls.distinct = true)
    {x : Obj} (hx : cls.Sendable B x) {m : Message} (hm : IsMessage B type x m)
    (operation : OperationType) (handler : Option (StreamResponseHandler σ Obj)) :
    m.messageType = type ∧ Carries (operation.new B handler) m (cls.shapeType B) x := by
  obtain ⟨payload, hsend, hdecodes⟩ := sendStreamEvent_ok (σ := σ) B hcls hx
  obtain ⟨message, hmessage, hm⟩ := hm
  rw [hsend] at hmessage
  cases hmessage
  rw [hm]
  obtain ⟨hname, hjson⟩ := findHeader_shapeHeaders cls.modelName
  exact ⟨rfl, hname, hjson, hdecodes operation handler⟩

/-! ## What the service sends -/

/-- A response or an event, or an error. -/
inductive Item where
  | data (x : Obj)
  | error (x : Obj)

def Item.outcome : Item → Except (Error Obj) Obj
  | .data x => .ok x
  | .error x => .error (.shape x)

/-- An error of the catalog. -/
def IsError (x : Obj) : Prop :=
  ∃ cls ∈ shapeIndex, cls.isException = true ∧ cls.Sendable B x

/-- The first message of the service. -/
def Answers (operation : OperationType) : Item → Message → Prop
  | .data x, m => operation.responseType.Sendable B x ∧ IsMessage B .applicationMessage x m
  | .error x, m => IsError B x ∧ IsMessage B .applicationError x m

/-- A later one. -/
def Continues (operation : OperationType) : Item → Message → Prop
  | .data x, m =>
      (∃ cls ∈ operation.responseStreamType, cls.Sendable B x) ∧
        IsMessage B .applicationMessage x m
  | .error x, m => IsError B x ∧ IsMessage B .applicationError x m

section

variable {operation : OperationType} {handler : Option (StreamResponseHandler σ Obj)} {x : Obj}
  {m : Message}

theorem IsError.isErrorShape (hx : IsError B x) (hm : IsMessage B .applicationError x m) :
    IsErrorShape (operation.new B handler) m x := by
  obtain ⟨cls, hcls, hexn, hx⟩ := hx
  obtain ⟨htype, hcarries⟩ := hm.carries B (shapeIndex_distinct hcls) hx operation handler
  refine ⟨by simp [htype], cls.shapeType B, ?_, hexn, hcarries⟩
  exact findShapeType_error B hcls hexn operation handler

theorem IsMessage.not_emptyEnd {type : MessageType} (hm : IsMessage B type x m) :
    ¬IsEmptyEnd m := by
  obtain ⟨message, hsend, hm⟩ := hm
  have hheaders : ∃ name, message.headers = shapeHeaders name := by
    simp only [sendStreamEvent, bind, Except.bind, pure, Except.pure] at hsend
    split at hsend
    · cases hsend
    · split at hsend
      · cases hsend
      · cases hsend
        exact ⟨_, rfl⟩
  obtain ⟨name, hname⟩ := hheaders
  rintro ⟨hnone, _⟩
  rw [hm] at hnone
  simp only [hname, (findHeader_shapeHeaders name).1] at hnone
  cases hnone

end

/-! ## The first message -/

/-- An error ends the stream, unless its message did. -/
def Item.closing : Item → MessageFlags → List (Effect Obj)
  | .data _, _ => []
  | .error _, flags => if flags.terminateStream then [] else [.terminate]

theorem onContinuationMessage_answers {operation : OperationType} (hop : operation ∈ operations)
    (handler : Option (StreamResponseHandler σ Obj)) {first : Item} {m : Message}
    (hm : Answers B operation first m) (h₀ : σ) :
    onContinuationMessage (operation.new B handler) { handlerState := h₀ } m =
      { messageCount := 1
        initialResponseFuture := .completed first.outcome
        handlerState := h₀
        effects := .initialResponse first.outcome :: first.closing m.flags } := by
  have hhandled := handleMessage_handled (operation.new B handler)
    { messageCount := 1, handlerState := h₀ } m
  simp only [onContinuationMessage, Nat.zero_add]
  generalize handleMessage (operation.new B handler)
    { messageCount := 1, handlerState := h₀ } m = r at hhandled
  cases first with
  | data x =>
      obtain ⟨hx, hmessage⟩ := hm
      obtain ⟨htype, hcarries⟩ :=
        hmessage.carries B (operations_distinct hop).2.1 hx operation handler
      have hresponse : IsResponse (operation.new B handler) m x := ⟨htype, hcarries⟩
      cases hhandled with
      | emptyEnd hempty => exact absurd hempty (hmessage.not_emptyEnd B)
      | response y _ hy =>
          rw [hy.unique hresponse]
          rfl
      | event y handler hlater => exact absurd rfl hlater
      | failed e _ hno => exact absurd hresponse (hno rfl x)
  | error x =>
      obtain ⟨hx, hmessage⟩ := hm
      have herror : IsErrorShape (operation.new B handler) m x := hx.isErrorShape B hmessage
      cases hhandled with
      | emptyEnd hempty => exact absurd hempty (hmessage.not_emptyEnd B)
      | response y _ hy => exact absurd hy.1 herror.1
      | event y handler hlater => exact absurd rfl hlater
      | failed e _ _ _ hshape =>
          obtain rfl := (hshape x).mpr herror
          cases hend : m.flags.terminateStream <;>
            simp [handleError, State.setInitialResponse, hend, State.close, Item.outcome,
              Item.closing]

/-- A request that the client activates, and the first message that the service sends. The other
side can decode the request, and the response future gets what was sent. -/
structure RoundTrip (operation : OperationType) (handler : Option (StreamResponseHandler σ Obj))
    (h₀ : σ) (request : Obj) (first : Item) (m : Message) : Prop where
  activates : ∃ message, activate B operation request = .ok (operation.modelName, message) ∧
    message.messageType = .applicationMessage ∧
    Carries (operation.new B handler) message (operation.requestType.shapeType B) request
  answered : onContinuationMessage (operation.new B handler) { handlerState := h₀ } m =
    { messageCount := 1
      initialResponseFuture := .completed first.outcome
      handlerState := h₀
      effects := .initialResponse first.outcome :: first.closing m.flags }

/-- Requests, responses and errors of every operation reach the other side as they are. -/
theorem operation_roundTrip {operation : OperationType} (hop : operation ∈ operations)
    (handler : Option (StreamResponseHandler σ Obj)) (h₀ : σ) {request : Obj}
    (hrequest : operation.requestType.Sendable B request) {first : Item} {m : Message}
    (hm : Answers B operation first m) : RoundTrip B operation handler h₀ request first m where
  activates := by
    have hdistinct := (operations_distinct hop).1
    obtain ⟨payload, hsend, _⟩ := sendStreamEvent_ok (σ := σ) B hdistinct hrequest
    refine ⟨_, by rw [activate, hsend]; rfl, ?_⟩
    have hmessage : IsMessage B .applicationMessage request
        { headers := shapeHeaders operation.requestType.modelName, payload,
          messageType := .applicationMessage } := ⟨_, hsend, rfl⟩
    exact hmessage.carries B hdistinct hrequest operation handler
  answered := onContinuationMessage_answers B hop handler hm h₀

/-- A configuration of a certain time, and an empty response. -/
theorem operation_roundTrip_configuration :
    let request : Obj := .shape updateConfigurationRequest
      [.none, .datetime 1500000, .json (.obj [("mode", .str "auto")])]
    let reply : Message :=
      { headers := shapeHeaders updateConfigurationResponse.modelName, payload := [123, 125],
        messageType := .applicationMessage }
    RoundTrip .oneFloat updateConfiguration (none : Option (StreamResponseHandler Unit Obj)) ()
      request (.data (.shape updateConfigurationResponse [])) reply := by
  intro request reply
  have hnodup : (List.map Prod.fst [("mode", Json.str "auto")]).Nodup := by decide
  have hrequest : updateConfigurationRequest.Sendable .oneFloat request :=
    ⟨⟨rfl, .inl rfl, .inr trivial, .inr trivial, trivial⟩,
      ⟨trivial, rfl⟩, oneFloat_timestamp, ⟨⟨hnodup, trivial, trivial⟩, rfl⟩, trivial⟩
  have hreply : Answers .oneFloat updateConfiguration
      (.data (.shape updateConfigurationResponse [])) reply :=
    ⟨⟨⟨rfl, trivial⟩, trivial⟩, reply, rfl, rfl⟩
  exact operation_roundTrip .oneFloat (by simp [operations]) none () hrequest hreply

/-! ## The stream -/

/-- What the handler hears of an item; a callback that raises makes a stream error. -/
def Hears : Item → List (Effect Obj) → Prop
  | .data x, cs => cs = [.onStreamEvent x] ∨ ∃ e, cs = [.onStreamEvent x, .onStreamError e]
  | .error x, cs => cs = [.onStreamError (.shape x)]

theorem Reaction.hears {operation : OperationType} (hop : operation ∈ operations)
    {handler : StreamResponseHandler σ Obj} {item : Item} {m : Message} {h h' : σ}
    {cs : List (Effect Obj)} (hm : Continues B operation item m)
    (hr : Reaction (operation.new B (some handler)) handler m h cs h') : Hears item cs := by
  cases item with
  | data x =>
      obtain ⟨⟨cls, hcls, hx⟩, hmessage⟩ := hm
      obtain ⟨htype, hcarries⟩ := hmessage.carries B ((operations_distinct hop).2.2 cls hcls) hx
        operation (some handler)
      have hevent : IsEvent (operation.new B (some handler)) m x :=
        ⟨htype, cls.shapeType B, Option.mem_map_of_mem (ShapeClass.shapeType B) hcls, hcarries⟩
      have hunique : ∀ y, IsEvent (operation.new B (some handler)) m y → y = x := by
        rintro y ⟨_, t, ht, hy⟩
        obtain rfl : t = cls.shapeType B := by
          rw [show (operation.new B (some handler)).responseStreamType =
            operation.responseStreamType.map (ShapeClass.shapeType B) from rfl] at ht
          rw [show operation.responseStreamType = some cls from hcls] at ht
          simpa using ht.symm
        exact hy.2.2.unique hcarries.2.2
      cases hr with
      | nothing hempty => exact absurd hempty (hmessage.not_emptyEnd B)
      | event y hy _ =>
          obtain rfl := hunique y hy
          exact .inl rfl
      | raised y e hy _ =>
          obtain rfl := hunique y hy
          exact .inr ⟨e, rfl⟩
      | error e _ hno => exact absurd hevent (hno x)
  | error x =>
      obtain ⟨hx, hmessage⟩ := hm
      have herror : IsErrorShape (operation.new B (some handler)) m x :=
        hx.isErrorShape B hmessage
      cases hr with
      | nothing hempty => exact absurd hempty (hmessage.not_emptyEnd B)
      | event y hy _ => exact absurd hy.1 herror.1
      | raised y e hy _ => exact absurd hy.1 herror.1
      | error e _ _ hshape =>
          obtain rfl := (hshape x).mpr herror
          rfl

/-- The callbacks come in groups, one for each message. -/
theorem Reactions.groups {op : ClientOperation σ Obj} {handler : StreamResponseHandler σ Obj}
    {h₀ h : σ} {ms : List Message} {cs : List (Effect Obj)} (hr : Reactions op handler h₀ ms cs h) :
    ∃ groups, cs = groups.flatten ∧
      List.Forall₂ (fun m group => ∃ h h', Reaction op handler m h group h') ms groups := by
  induction hr with
  | nil => exact ⟨[], rfl, .nil⟩
  | snoc _ hm ih =>
      obtain ⟨groups, rfl, hgroups⟩ := ih
      exact ⟨groups ++ [_], by simp, List.rel_append hgroups (.cons ⟨_, _, hm⟩ .nil)⟩

end

end IotCore.Greengrass
