import IotCore.Model.EventStream.Operation

/-! # How an operation handles one message

The first message decides the initial response. Every later one is an event, an error or an
empty end of the stream, and the handler hears of it accordingly. -/

namespace IotCore.EventStream.Operation

variable {σ ι : Type}

/-! ## What a message is -/

/-- A message without a model name that ends the stream. -/
def IsEmptyEnd (m : Message) : Prop :=
  findHeader m.headers serviceModelTypeHeader = none ∧ m.flags.terminateStream = true

/-- The payload decodes to a shape of the type. -/
def Decodes (op : ClientOperation σ ι) (payload : List UInt8) (t : ShapeType ι) (x : ι) : Prop :=
  ∃ str obj, op.codec.decode payload = .ok str ∧ op.codec.loads str = .ok obj ∧
    t.fromPayload obj = .ok x

/-- The message has the model name of the type, JSON content, and a payload that decodes. -/
def Carries (op : ClientOperation σ ι) (m : Message) (t : ShapeType ι) (x : ι) : Prop :=
  findHeader m.headers serviceModelTypeHeader = some t.modelName ∧
    findHeader m.headers contentTypeHeader = some contentTypeApplicationJson ∧
    Decodes op m.payload t x

def IsResponse (op : ClientOperation σ ι) (m : Message) (x : ι) : Prop :=
  m.messageType = .applicationMessage ∧ Carries op m op.responseType x

def IsEvent (op : ClientOperation σ ι) (m : Message) (x : ι) : Prop :=
  m.messageType = .applicationMessage ∧ ∃ t ∈ op.responseStreamType, Carries op m t x

/-- An error shape that the catalog knows. -/
def IsErrorShape (op : ClientOperation σ ι) (m : Message) (x : ι) : Prop :=
  m.messageType ≠ .applicationMessage ∧
    ∃ t ∈ op.shapeIndex.findShapeType t.modelName, t.isException = true ∧ Carries op m t x

/-! ## What handling a message does -/

theorem shapeFromJsonPayload_eq_ok {op : ClientOperation σ ι} {payload : List UInt8}
    {t : ShapeType ι} {x : ι} :
    shapeFromJsonPayload op payload t = .ok x ↔ Decodes op payload t x := by
  unfold shapeFromJsonPayload Decodes
  cases hd : op.codec.decode payload with
  | error e => simp [bind, Except.bind]
  | ok str =>
      cases hl : op.codec.loads str with
      | error e => simp [bind, Except.bind, hl]
      | ok obj =>
          cases hf : t.fromPayload obj <;> simp [bind, Except.bind, hl, hf]

theorem Decodes.unique {op : ClientOperation σ ι} {payload : List UInt8} {t : ShapeType ι}
    {x y : ι} (hx : Decodes op payload t x) (hy : Decodes op payload t y) : x = y := by
  rw [← shapeFromJsonPayload_eq_ok] at hx hy
  exact Except.ok.inj (hx.symm.trans hy)

theorem not_decodes {op : ClientOperation σ ι} {payload : List UInt8} {t : ShapeType ι}
    {e : Error ι} (h : shapeFromJsonPayload op payload t = .error e) (x : ι) :
    ¬Decodes op payload t x := by
  rw [← shapeFromJsonPayload_eq_ok, h]
  simp

theorem shapeFromJsonPayload_ne_shape {op : ClientOperation σ ι} {payload : List UInt8}
    {t : ShapeType ι} {e : Error ι} (h : shapeFromJsonPayload op payload t = .error e) (x : ι) :
    e ≠ .shape x := by
  dsimp only [shapeFromJsonPayload] at h
  split at h
  · cases h
  · cases h
    simp

theorem ShapeIndex.modelName_of_find {index : ShapeIndex ι} {name : String} {t : ShapeType ι}
    (h : index.findShapeType name = some t) : t.modelName = name := by
  simpa using List.find?_some h

/-- What the `try` block of `_on_continuation_message` does. -/
inductive Handled (op : ClientOperation σ ι) (s : State σ ι) (m : Message) :
    State σ ι × Except (Error ι) Unit → Prop where
  | emptyEnd (h : IsEmptyEnd m) : Handled op s m (s, .ok ())
  | response (x) (hcount : s.messageCount = 1) (h : IsResponse op m x) :
      Handled op s m (s.setInitialResponse (.ok x))
  | event (x handler) (hcount : s.messageCount ≠ 1) (h : IsEvent op m x)
      (hhandler : op.streamHandler = some handler) :
      Handled op s m
        ({ s with
            handlerState := (handler.onStreamEvent s.handlerState x).1
            effects := s.effects ++ [.onStreamEvent x] },
          (handler.onStreamEvent s.handlerState x).2)
  | failed (e) (hempty : ¬IsEmptyEnd m) (hresponse : s.messageCount = 1 → ∀ x, ¬IsResponse op m x)
      (hevent : s.messageCount ≠ 1 → ∀ x, IsEvent op m x → op.streamHandler = none)
      (hshape : ∀ x, e = .shape x ↔ IsErrorShape op m x) : Handled op s m (s, .error e)

/-- A message whose handling fails without an error shape. -/
theorem Handled.unmapped {op : ClientOperation σ ι} {s : State σ ι} {m : Message} {e : Error ι}
    (hempty : ¬IsEmptyEnd m) (hresponse : s.messageCount = 1 → ∀ x, ¬IsResponse op m x)
    (hevent : s.messageCount ≠ 1 → ∀ x, IsEvent op m x → op.streamHandler = none)
    (herror : ∀ x, ¬IsErrorShape op m x) (he : ∀ x, e ≠ .shape x) :
    Handled op s m (s, .error e) :=
  .failed e hempty hresponse hevent fun x => ⟨fun h => absurd h (he x), fun h => absurd h (herror x)⟩

theorem not_carries {op : ClientOperation σ ι} {m : Message}
    (h : ∀ t x, ¬Carries op m t x) (x : ι) :
    ¬IsResponse op m x ∧ ¬IsEvent op m x ∧ ¬IsErrorShape op m x :=
  ⟨fun ⟨_, hc⟩ => h _ _ hc, fun ⟨_, _, _, hc⟩ => h _ _ hc, fun ⟨_, _, _, _, hc⟩ => h _ _ hc⟩

theorem handleData_handled {op : ClientOperation σ ι} {s : State σ ι} {m : Message} {name : String}
    (hname : findHeader m.headers serviceModelTypeHeader = some name)
    (hjson : findHeader m.headers contentTypeHeader = some contentTypeApplicationJson)
    (htype : m.messageType = .applicationMessage) :
    Handled op s m (handleData op s name m.payload) := by
  have hempty : ¬IsEmptyEnd m := fun h => by simp [IsEmptyEnd, hname] at h
  have herror : ∀ x, ¬IsErrorShape op m x := fun x h => h.1 htype
  have carries : ∀ {t x}, Carries op m t x ↔ name = t.modelName ∧ Decodes op m.payload t x := by
    intro t x
    simp [Carries, hname, hjson]
  unfold handleData
  by_cases hcount : s.messageCount = 1
  · have hevent : s.messageCount ≠ 1 → ∀ x, IsEvent op m x → op.streamHandler = none :=
      fun h => absurd hcount h
    simp only [hcount, ↓reduceIte]
    by_cases hexpected : name = op.responseType.modelName
    · simp only [hexpected, ne_eq, not_true_eq_false, ↓reduceIte]
      cases hshape : shapeFromJsonPayload op m.payload op.responseType with
      | error e =>
          refine .unmapped hempty (fun _ x h => ?_) hevent herror
            (shapeFromJsonPayload_ne_shape hshape)
          exact not_decodes hshape x (carries.mp h.2).2
      | ok x =>
          have hd := shapeFromJsonPayload_eq_ok.mp hshape
          exact .response x hcount ⟨htype, carries.mpr ⟨hexpected, hd⟩⟩
    · simp only [hexpected, ne_eq, not_false_eq_true, ↓reduceIte]
      exact .unmapped hempty (fun _ x h => hexpected (carries.mp h.2).1) hevent herror (by simp)
  · have hresponse : s.messageCount = 1 → ∀ x, ¬IsResponse op m x := fun h => absurd h hcount
    simp only [hcount, ↓reduceIte]
    cases hstream : op.responseStreamType with
    | none =>
        refine .unmapped hempty hresponse (fun _ x h => ?_) herror (by simp)
        obtain ⟨_, t, ht, _⟩ := h
        simp [hstream] at ht
    | some t =>
        have event : ∀ {x}, IsEvent op m x ↔ name = t.modelName ∧ Decodes op m.payload t x := by
          intro x
          simp [IsEvent, htype, hstream, carries]
        by_cases hexpected : name = t.modelName
        · simp only [hexpected, ne_eq, not_true_eq_false, ↓reduceIte]
          cases hshape : shapeFromJsonPayload op m.payload t with
          | error e =>
              refine .unmapped hempty hresponse (fun _ x h => ?_) herror
                (shapeFromJsonPayload_ne_shape hshape)
              exact absurd (event.mp h).2 (not_decodes hshape x)
          | ok x =>
              cases hhandler : op.streamHandler with
              | none =>
                  exact .unmapped hempty hresponse (fun _ _ _ => hhandler) herror (by simp)
              | some handler =>
                  have hd := shapeFromJsonPayload_eq_ok.mp hshape
                  exact .event x handler hcount (event.mpr ⟨hexpected, hd⟩) hhandler
        · simp only [hexpected, ne_eq, not_false_eq_true, ↓reduceIte]
          exact .unmapped hempty hresponse (fun _ x h => absurd (event.mp h).1 hexpected) herror
            (by simp)

/-- An APPLICATION_ERROR with a model name and JSON content. -/
theorem handleShape_handled {op : ClientOperation σ ι} {s : State σ ι} {m : Message} {name : String}
    (hname : findHeader m.headers serviceModelTypeHeader = some name)
    (hjson : findHeader m.headers contentTypeHeader = some contentTypeApplicationJson)
    (htype : m.messageType ≠ .applicationMessage) (e : Error ι)
    (hshape : ∀ x, e = .shape x ↔ ∃ t, op.shapeIndex.findShapeType name = some t ∧
      t.isException = true ∧ Decodes op m.payload t x) :
    Handled op s m (s, .error e) := by
  refine .failed e (fun h => by simp [IsEmptyEnd, hname] at h) (fun _ x h => htype h.1)
    (fun _ x h => absurd h.1 htype) fun x => (hshape x).trans ?_
  constructor
  · rintro ⟨t, hfind, hexn, hd⟩
    obtain rfl := ShapeIndex.modelName_of_find hfind
    exact ⟨htype, t, hfind, hexn, hname, hjson, hd⟩
  · rintro ⟨_, t, hfind, hexn, hcarries⟩
    obtain rfl : name = t.modelName := Option.some.inj (hname.symm.trans hcarries.1)
    exact ⟨t, hfind, hexn, hcarries.2.2⟩

theorem handleMessage_handled (op : ClientOperation σ ι) (s : State σ ι) (m : Message) :
    Handled op s m (handleMessage op s m) := by
  unfold handleMessage
  cases hname : findHeader m.headers serviceModelTypeHeader with
  | none =>
      have hno : ∀ t x, ¬Carries op m t x := fun t x h => by simp [Carries, hname] at h
      cases hend : m.flags.terminateStream with
      | true => exact .emptyEnd ⟨hname, hend⟩
      | false =>
          refine .unmapped (fun h => by simp [IsEmptyEnd, hend] at h) (fun _ x => ?_)
            (fun _ x h => ?_) (fun x => (not_carries hno x).2.2) (by simp)
          · exact (not_carries hno x).1
          · exact absurd h (not_carries hno x).2.1
  | some name =>
      have hempty : ¬IsEmptyEnd m := fun h => by simp [IsEmptyEnd, hname] at h
      have unmapped : ∀ {e}, (∀ t x, ¬Carries op m t x) → (∀ x, e ≠ .shape x) →
          Handled op s m (s, .error e) := by
        intro e hno he
        refine .unmapped hempty (fun _ x => ?_) (fun _ x h => ?_) (fun x => ?_) he
        · exact (not_carries hno x).1
        · exact absurd h (not_carries hno x).2.1
        · exact (not_carries hno x).2.2
      cases hjson : findHeader m.headers contentTypeHeader with
      | none => exact unmapped (fun t x h => by simp [Carries, hjson] at h) (by simp)
      | some contentType =>
          by_cases hct : contentType = contentTypeApplicationJson
          · subst hct
            by_cases htype : m.messageType = .applicationMessage
            · simp only [htype, ne_eq, not_true_eq_false, ↓reduceIte]
              exact handleData_handled hname hjson htype
            · simp only [htype, ne_eq, not_true_eq_false, ↓reduceIte]
              cases hfind : op.shapeIndex.findShapeType name with
              | none => exact handleShape_handled hname hjson htype _ (by simp [hfind])
              | some t =>
                  cases hexn : t.isException with
                  | false =>
                      simp only [hexn, Bool.not_false, ↓reduceIte]
                      exact handleShape_handled hname hjson htype _ (by simp [hfind, hexn])
                  | true =>
                      simp only [hexn, Bool.not_true, Bool.false_eq_true, ↓reduceIte]
                      cases hshape : shapeFromJsonPayload op m.payload t with
                      | error e =>
                          refine handleShape_handled hname hjson htype e fun x => ⟨fun he => ?_, ?_⟩
                          · exact absurd he (shapeFromJsonPayload_ne_shape hshape x)
                          · rintro ⟨t', ht', _, hd⟩
                            obtain rfl : t = t' := Option.some.inj (hfind.symm.trans ht')
                            exact absurd hd (not_decodes hshape x)
                      | ok y =>
                          have hy := shapeFromJsonPayload_eq_ok.mp hshape
                          refine handleShape_handled hname hjson htype _ fun x => ⟨?_, ?_⟩
                          · rintro ⟨⟩
                            exact ⟨t, hfind, hexn, hy⟩
                          · rintro ⟨t', ht', _, hd⟩
                            obtain rfl : t = t' := Option.some.inj (hfind.symm.trans ht')
                            rw [hy.unique hd]
          · simp only [hct, ne_eq, not_false_eq_true, ↓reduceIte]
            exact unmapped (fun t x h => by simp [Carries, hjson, hct] at h) (by simp)

/-! ## What the handler hears -/

def Effect.isCallback : Effect ι → Bool
  | .onStreamEvent _ | .onStreamError _ | .onStreamClosed => true
  | _ => false

/-- What a message after the first one makes the handler hear. -/
inductive Reaction (op : ClientOperation σ ι) (handler : StreamResponseHandler σ ι) (m : Message)
    (h : σ) : List (Effect ι) → σ → Prop where
  | nothing (hm : IsEmptyEnd m) : Reaction op handler m h [] h
  | event (x) (hm : IsEvent op m x) (hok : (handler.onStreamEvent h x).2 = .ok ()) :
      Reaction op handler m h [.onStreamEvent x] (handler.onStreamEvent h x).1
  | raised (x e) (hm : IsEvent op m x) (hraised : (handler.onStreamEvent h x).2 = .error e) :
      Reaction op handler m h [.onStreamEvent x, .onStreamError e]
        (handler.onStreamError (handler.onStreamEvent h x).1 e).1
  | error (e) (hempty : ¬IsEmptyEnd m) (hevent : ∀ x, ¬IsEvent op m x)
      (hshape : ∀ x, e = .shape x ↔ IsErrorShape op m x) :
      Reaction op handler m h [.onStreamError e] (handler.onStreamError h e).1

theorem handleError_first (op : ClientOperation σ ι) {s : State σ ι} (e : Error ι)
    (flags : MessageFlags) (hcount : s.messageCount = 1)
    (hpending : s.initialResponseFuture = .pending) :
    ∃ closing, (closing = [] ∨ closing = [.terminate]) ∧ handleError op s e flags =
      { s with
        initialResponseFuture := .completed (.error e)
        effects := s.effects ++ .initialResponse (.error e) :: closing } := by
  cases hend : flags.terminateStream with
  | true =>
      refine ⟨[], .inl rfl, ?_⟩
      simp [handleError, hcount, State.setInitialResponse, hpending, hend]
  | false =>
      refine ⟨[.terminate], .inr rfl, ?_⟩
      simp [handleError, hcount, State.setInitialResponse, hpending, hend, State.close]

theorem handleError_later {op : ClientOperation σ ι} {handler : StreamResponseHandler σ ι}
    {s : State σ ι} (e : Error ι) (flags : MessageFlags) (hcount : s.messageCount ≠ 1)
    (hhandler : op.streamHandler = some handler) :
    ∃ closing, (closing = [] ∨ closing = [.terminate]) ∧ handleError op s e flags =
      { s with
        handlerState := (handler.onStreamError s.handlerState e).1
        effects := s.effects ++ .onStreamError e :: closing } := by
  simp only [handleError, hcount, ↓reduceIte, hhandler]
  split
  · exact ⟨[], .inl rfl, rfl⟩
  · split
    · split
      · exact ⟨[], .inl rfl, rfl⟩
      · exact ⟨[.terminate], .inr rfl, by simp [State.close]⟩
    · exact ⟨[], .inl rfl, rfl⟩

theorem IsResponse.not_emptyEnd {op : ClientOperation σ ι} {m : Message} {x : ι}
    (h : IsResponse op m x) : ¬IsEmptyEnd m := by
  intro hempty
  cases hempty.1.symm.trans h.2.1

theorem IsResponse.unique {op : ClientOperation σ ι} {m : Message} {x y : ι}
    (hx : IsResponse op m x) (hy : IsResponse op m y) : x = y :=
  hx.2.2.2.unique hy.2.2.2

/-- The first message completes the initial response, unless it is an empty end. -/
theorem onContinuationMessage_first (op : ClientOperation σ ι) {s : State σ ι} (m : Message)
    (hcount : s.messageCount = 0) (hpending : s.initialResponseFuture = .pending) :
    IsEmptyEnd m ∧ onContinuationMessage op s m = { s with messageCount := 1 } ∨
      ¬IsEmptyEnd m ∧ ∃ o closing, (∀ x, o = .ok x ↔ IsResponse op m x) ∧
        (closing = [] ∨ closing = [.terminate]) ∧
        onContinuationMessage op s m =
          { s with
            messageCount := 1
            initialResponseFuture := .completed o
            effects := s.effects ++ .initialResponse o :: closing } := by
  have hhandled := handleMessage_handled op { s with messageCount := s.messageCount + 1 } m
  unfold onContinuationMessage
  generalize handleMessage op { s with messageCount := s.messageCount + 1 } m = r at hhandled
  rw [hcount] at hhandled
  cases hhandled with
  | emptyEnd hm => exact .inl ⟨hm, rfl⟩
  | response x _ hm =>
      refine .inr ⟨hm.not_emptyEnd, .ok x, [], fun y => ⟨?_, fun hy => ?_⟩, .inl rfl, ?_⟩
      · rintro ⟨⟩
        exact hm
      · rw [hm.unique hy]
      · simp [State.setInitialResponse, hpending]
  | event x handler hlater => exact absurd rfl hlater
  | failed e hempty hresponse =>
      obtain ⟨closing, hclosing, he⟩ := handleError_first op
        (s := { s with messageCount := 1 }) e m.flags rfl hpending
      refine .inr ⟨hempty, .error e, closing, fun x => ⟨?_, fun hm => ?_⟩, hclosing, he⟩
      · rintro ⟨⟩
      · exact absurd hm (hresponse rfl x)

/-- A message after the first one: the handler hears its reaction, and nothing else changes
but a closing message. -/
theorem onContinuationMessage_later {op : ClientOperation σ ι}
    {handler : StreamResponseHandler σ ι} {s : State σ ι} {m : Message}
    (hcount : s.messageCount ≠ 0) (hhandler : op.streamHandler = some handler) :
    ∃ cs closing h, Reaction op handler m s.handlerState cs h ∧
      (closing = [] ∨ closing = [.terminate]) ∧
      onContinuationMessage op s m =
        { s with
          messageCount := s.messageCount + 1
          handlerState := h
          effects := s.effects ++ (cs ++ closing) } := by
  have hlater : s.messageCount + 1 ≠ 1 := by omega
  have hhandled := handleMessage_handled op { s with messageCount := s.messageCount + 1 } m
  unfold onContinuationMessage
  generalize handleMessage op { s with messageCount := s.messageCount + 1 } m = r at hhandled
  cases hhandled with
  | emptyEnd hm => exact ⟨[], [], _, .nothing hm, .inl rfl, by simp⟩
  | response x hfirst => exact absurd hfirst hlater
  | event x handler' _ hm hhandler' =>
      obtain rfl : handler = handler' := Option.some.inj (hhandler.symm.trans hhandler')
      cases hr : (handler.onStreamEvent s.handlerState x).2 with
      | ok u => exact ⟨[.onStreamEvent x], [], _, .event x hm hr, .inl rfl, by simp⟩
      | error e =>
          obtain ⟨closing, hclosing, he⟩ := handleError_later
            (s := { s with
              messageCount := s.messageCount + 1
              handlerState := (handler.onStreamEvent s.handlerState x).1
              effects := s.effects ++ [.onStreamEvent x] })
            e m.flags hlater hhandler
          exact ⟨_, closing, _, .raised x e hm hr, hclosing, by simp [he]⟩
  | failed e hempty _ hevent hshape =>
      have hno : ∀ x, ¬IsEvent op m x := by
        intro x hm
        rw [hevent hlater x hm] at hhandler
        cases hhandler
      obtain ⟨closing, hclosing, he⟩ := handleError_later
        (s := { s with messageCount := s.messageCount + 1 }) e m.flags hlater hhandler
      exact ⟨_, closing, _, .error e hempty hno hshape, hclosing, by simp [he]⟩

end IotCore.EventStream.Operation
