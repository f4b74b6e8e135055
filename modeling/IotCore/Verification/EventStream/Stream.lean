import IotCore.Library.Machine
import IotCore.Verification.EventStream.Messages

/-! # The stream protocol of an operation

The callbacks that a handler hears are the reactions to the messages after the first one, in
the order of arrival, and none comes before the initial response. -/

namespace IotCore.EventStream.Operation

open Machine

variable {σ ι : Type}

/-- What a sequence of messages after the first one makes the handler hear. -/
inductive Reactions (op : ClientOperation σ ι) (handler : StreamResponseHandler σ ι) (h₀ : σ) :
    List Message → List (Effect ι) → σ → Prop where
  | nil : Reactions op handler h₀ [] [] h₀
  | snoc {ms m cs cs' h h'} (hms : Reactions op handler h₀ ms cs h)
      (hm : Reaction op handler m h cs' h') :
      Reactions op handler h₀ (ms ++ [m]) (cs ++ cs') h'

/-! ## The invariant -/

/-- The messages that the native runtime has delivered. -/
def messages (as : List Action) : List Message :=
  as.filterMap fun
    | .message m => some m
    | .closed => none

/-- The state of an operation after some messages. -/
structure StreamInv (op : ClientOperation σ ι) (handler : StreamResponseHandler σ ι) (h₀ : σ)
    (ms : List Message) (phase : Phase) (s : State σ ι) : Prop where
  count : s.messageCount = ms.length
  effects : s.initialResponseFuture = .pending ∧ s.effects = [] ∨
    ∃ o rest, s.initialResponseFuture = .completed o ∧ s.effects = .initialResponse o :: rest
  first : ∀ m ∈ ms.head?, ¬IsEmptyEnd m →
    ∃ o, s.initialResponseFuture = .completed o ∧ ∀ x, o = .ok x ↔ IsResponse op m x
  empty : (∀ m ∈ ms.head?, IsEmptyEnd m) → (phase = .streaming → ms = []) ∧
    s.initialResponseFuture =
      if phase = .closed then .completed (.error .streamClosedError) else .pending
  callbacks : ∃ cs h, Reactions op handler h₀ ms.tail cs h ∧
    s.effects.filter Effect.isCallback =
      cs ++ (if phase = .closed ∧ handler.truthy then [.onStreamClosed] else []) ∧
    (phase ≠ .closed → s.handlerState = h)

theorem Reaction.isCallback {op : ClientOperation σ ι} {handler : StreamResponseHandler σ ι}
    {m : Message} {h h' : σ} {cs : List (Effect ι)} (hr : Reaction op handler m h cs h') :
    cs.filter Effect.isCallback = cs := by
  cases hr <;> rfl

theorem filter_closing {closing : List (Effect ι)}
    (h : closing = [] ∨ closing = [.terminate]) : closing.filter Effect.isCallback = [] := by
  rcases h with rfl | rfl <;> rfl

theorem streamInv_init (op : ClientOperation σ ι) (handler : StreamResponseHandler σ ι) (h₀ : σ) :
    StreamInv op handler h₀ [] .streaming { handlerState := h₀ } where
  count := rfl
  effects := .inl ⟨rfl, rfl⟩
  first := by simp
  empty := fun _ => ⟨fun _ => rfl, rfl⟩
  callbacks := ⟨[], h₀, .nil, rfl, fun _ => rfl⟩

/-- The first message of an operation. -/
theorem StreamInv.firstMessage {op : ClientOperation σ ι} {handler : StreamResponseHandler σ ι}
    {h₀ : σ} {s : State σ ι} (h : StreamInv op handler h₀ [] .streaming s) (m : Message) :
    StreamInv op handler h₀ [m] (if m.flags.terminateStream then .terminated else .streaming)
      (onContinuationMessage op s m) := by
  have hpending : s.initialResponseFuture = .pending := (h.empty (by simp)).2
  have hnone : s.effects = [] := by
    rcases h.effects with ⟨_, hnone⟩ | ⟨o, _, hdone, _⟩
    · exact hnone
    · rw [hpending] at hdone
      cases hdone
  obtain ⟨cs, hs, hreactions, hcs, hstate⟩ := h.callbacks
  have hopen : (if m.flags.terminateStream then Phase.terminated else .streaming) ≠ .closed := by
    split <;> simp
  rcases onContinuationMessage_first op m h.count hpending with
    ⟨hm, he⟩ | ⟨hm, o, closing, ho, hclosing, he⟩
  · rw [he]
    refine ⟨rfl, .inl ⟨hpending, hnone⟩, ?_, ?_, cs, hs, hreactions, ?_, fun _ => hstate (by simp)⟩
    · intro m' hm' hne
      obtain rfl : m = m' := by simpa using hm'
      exact absurd hm hne
    · intro _
      simp [hm.2, hpending]
    · simpa [hopen] using hcs
  · rw [he]
    refine ⟨rfl, .inr ⟨o, closing, rfl, by simp [hnone]⟩, ?_, ?_, cs, hs, hreactions, ?_,
      fun _ => hstate (by simp)⟩
    · intro m' hm' _
      obtain rfl : m = m' := by simpa using hm'
      exact ⟨o, rfl, ho⟩
    · intro hempty
      exact absurd (hempty m rfl) hm
    · have hfilter := filter_closing hclosing
      simpa [hopen, hfilter, Effect.isCallback] using hcs

/-- A later message of an operation. -/
theorem StreamInv.laterMessage {op : ClientOperation σ ι} {handler : StreamResponseHandler σ ι}
    {h₀ : σ} {first : Message} {rest : List Message} {s : State σ ι}
    (hhandler : op.streamHandler = some handler)
    (h : StreamInv op handler h₀ (first :: rest) .streaming s) (m : Message) :
    StreamInv op handler h₀ (first :: (rest ++ [m]))
      (if m.flags.terminateStream then .terminated else .streaming)
      (onContinuationMessage op s m) := by
  have hfirst : ¬IsEmptyEnd first := by
    intro hempty
    have hnil := (h.empty (by simpa using hempty)).1 rfl
    cases hnil
  have hopen : (if m.flags.terminateStream then Phase.terminated else .streaming) ≠ .closed := by
    split <;> simp
  obtain ⟨o, hdone, ho⟩ := h.first first rfl hfirst
  obtain ⟨cs, hs, hreactions, hcs, hstate⟩ := h.callbacks
  have hstate : s.handlerState = hs := hstate (by simp)
  obtain ⟨cs', closing, hs', hreaction, hclosing, he⟩ :=
    onContinuationMessage_later (s := s) (m := m) (by simp [h.count]) hhandler
  rw [hstate] at hreaction
  rw [he]
  refine ⟨?_, ?_, ?_, ?_, cs ++ cs', hs', hreactions.snoc hreaction, ?_, fun _ => rfl⟩
  · simp [h.count]
  · rcases h.effects with ⟨hpending, _⟩ | ⟨o, tail, hfuture, htail⟩
    · rw [hpending] at hdone
      cases hdone
    · exact .inr ⟨o, tail ++ (cs' ++ closing), hfuture, by simp [htail]⟩
  · intro m' hm' _
    obtain rfl : first = m' := by simpa using hm'
    exact ⟨o, hdone, ho⟩
  · intro hempty
    exact absurd (hempty first rfl) hfirst
  · have hfilter := filter_closing hclosing
    have hcs : s.effects.filter Effect.isCallback = cs := by simpa using hcs
    simp [hopen, hcs, hreaction.isCallback, hfilter]

/-- What the closed callback does after it has seen to the initial response. -/
def closingEffects (handler : StreamResponseHandler σ ι) : List (Effect ι) :=
  .closedFuture :: if handler.truthy then [.onStreamClosed] else []

theorem onContinuationClosed_eq {op : ClientOperation σ ι} {handler : StreamResponseHandler σ ι}
    {s : State σ ι} (hhandler : op.streamHandler = some handler) :
    onContinuationClosed op s =
      { s with
        initialResponseFuture :=
          if s.initialResponseFuture.done then s.initialResponseFuture
          else s.initialResponseFuture.set (.error .streamClosedError)
        closedFuture := s.closedFuture.set (.ok ())
        handlerState :=
          if handler.truthy then (handler.onStreamClosed s.handlerState).1 else s.handlerState
        effects :=
          s.effects ++
            ((if s.initialResponseFuture.done then []
              else [.initialResponse (.error .streamClosedError)]) ++ closingEffects handler) } := by
  cases ht : handler.truthy <;> cases hd : s.initialResponseFuture.done <;>
    simp [onContinuationClosed, hhandler, ht, hd, State.setInitialResponse, closingEffects]

theorem StreamInv.closed {op : ClientOperation σ ι} {handler : StreamResponseHandler σ ι}
    {h₀ : σ} {ms : List Message} {phase : Phase} {s : State σ ι}
    (hhandler : op.streamHandler = some handler) (hphase : phase ≠ .closed)
    (h : StreamInv op handler h₀ ms phase s) :
    StreamInv op handler h₀ ms .closed (onContinuationClosed op s) := by
  obtain ⟨cs, hs, hreactions, hcs, _⟩ := h.callbacks
  have hcs : s.effects.filter Effect.isCallback = cs := by simpa [hphase] using hcs
  have hclosing : (closingEffects handler).filter Effect.isCallback =
      if handler.truthy then [.onStreamClosed] else [] := by
    cases ht : handler.truthy <;> simp [closingEffects, ht, Effect.isCallback]
  rw [onContinuationClosed_eq hhandler]
  rcases h.effects with ⟨hpending, hnone⟩ | ⟨o, rest, hdone, heffects⟩
  · refine ⟨h.count, .inr ⟨.error .streamClosedError, closingEffects handler, ?_, ?_⟩, ?_, ?_, cs,
      hs, hreactions, ?_, by simp⟩
    · simp [hpending]
    · simp [hpending, hnone]
    · intro m hm hne
      obtain ⟨o, hdone, _⟩ := h.first m hm hne
      rw [hpending] at hdone
      cases hdone
    · intro _
      simp [hpending]
    · simp [hpending, hcs, hclosing, Effect.isCallback]
  · refine ⟨h.count, .inr ⟨o, rest ++ closingEffects handler, ?_, ?_⟩, ?_, ?_, cs, hs, hreactions,
      ?_, by simp⟩
    · simp [hdone]
    · simp [hdone, heffects]
    · intro m hm hne
      obtain ⟨o', hdone', ho'⟩ := h.first m hm hne
      exact ⟨o', by simp [hdone'], ho'⟩
    · intro hempty
      have hpending := (h.empty hempty).2
      rw [if_neg hphase, hdone] at hpending
      cases hpending
    · simp [hdone, hcs, hclosing]

/-! ## Runs -/

theorem streamInv_run {op : ClientOperation σ ι} {handler : StreamResponseHandler σ ι} {h₀ : σ}
    {as : List Action} {phase : Phase} {s : State σ ι} (hhandler : op.streamHandler = some handler)
    (hrun : run (step op) (.streaming, { handlerState := h₀ }) as = some (phase, s)) :
    StreamInv op handler h₀ (messages as) phase s := by
  refine run_history
    (I := fun as (p : Phase × State σ ι) => StreamInv op handler h₀ (messages as) p.1 p.2) ?_ hrun
    (streamInv_init op handler h₀)
  rintro as ⟨phase, s⟩ a p h hstep
  unfold step at hstep
  split at hstep
  · rename_i s m heq
    cases heq
    cases hstep
    have hms : messages (as ++ [.message m]) = messages as ++ [m] := by simp [messages]
    rw [hms]
    generalize messages as = ms at h
    cases ms with
    | nil => exact h.firstMessage m
    | cons first rest => exact h.laterMessage hhandler m
  · rename_i s heq
    cases heq
    cases hstep
    simpa [messages] using h.closed hhandler (by simp)
  · rename_i s heq
    cases heq
    cases hstep
    simpa [messages] using h.closed hhandler (by simp)
  · cases hstep

/-! ## The contract -/

/-- The stream protocol, for an operation whose handler started in `h₀` and that was sent the
messages `ms`. -/
structure StreamSpec (op : ClientOperation σ ι) (handler : StreamResponseHandler σ ι) (h₀ : σ)
    (ms : List Message) (phase : Phase) (s : State σ ι) : Prop where
  once : s.initialResponseFuture.setCalls ≤ 1
  byFirst : ∀ m ∈ ms.head?, ¬IsEmptyEnd m → s.initialResponseFuture.done
  atClose : (∀ m ∈ ms.head?, IsEmptyEnd m) → s.initialResponseFuture =
    if phase = .closed then .completed (.error .streamClosedError) else .pending
  succeeds : ∀ x, s.initialResponseFuture.outcome = some (.ok x) ↔
    ∃ m ∈ ms.head?, IsResponse op m x
  responseFirst : ∀ pre c post, s.effects = pre ++ c :: post → c.isCallback →
    ∃ o, .initialResponse o ∈ pre
  callbacks : ∃ cs h, Reactions op handler h₀ ms.tail cs h ∧
    s.effects.filter Effect.isCallback =
      cs ++ if phase = .closed ∧ handler.truthy then [.onStreamClosed] else []

/-- Every run of an operation with a stream handler follows the stream protocol. -/
theorem streamSpec_run {op : ClientOperation σ ι} {handler : StreamResponseHandler σ ι} {h₀ : σ}
    {as : List Action} {phase : Phase} {s : State σ ι} (hhandler : op.streamHandler = some handler)
    (hrun : run (step op) (.streaming, { handlerState := h₀ }) as = some (phase, s)) :
    StreamSpec op handler h₀ (messages as) phase s := by
  have h := streamInv_run hhandler hrun
  refine ⟨?_, ?_, fun hempty => (h.empty hempty).2, ?_, ?_, ?_⟩
  · rcases h.effects with ⟨hpending, _⟩ | ⟨o, _, hdone, _⟩
    · simp [hpending, Future.pending]
    · simp [hdone]
  · intro m hm hne
    obtain ⟨o, hdone, _⟩ := h.first m hm hne
    simp [hdone]
  · intro x
    by_cases hempty : ∀ m ∈ (messages as).head?, IsEmptyEnd m
    · have hno : ¬∃ m ∈ (messages as).head?, IsResponse op m x :=
        fun ⟨m, hm, hx⟩ => hx.not_emptyEnd (hempty m hm)
      refine iff_of_false ?_ hno
      rw [(h.empty hempty).2]
      split <;> simp
    · simp only [not_forall] at hempty
      obtain ⟨m, hm, hne⟩ := hempty
      obtain ⟨o, hdone, ho⟩ := h.first m hm hne
      have hhead : (messages as).head? = some m := hm
      simp [hdone, hhead, ho]
  · intro pre c post hsplit hc
    rcases h.effects with ⟨_, hnone⟩ | ⟨o, rest, _, heffects⟩
    · rw [hnone] at hsplit
      simp at hsplit
    · rw [heffects] at hsplit
      cases pre with
      | nil =>
          simp only [List.nil_append, List.cons.injEq] at hsplit
          rw [← hsplit.1] at hc
          simp [Effect.isCallback] at hc
      | cons d pre =>
          simp only [List.cons_append, List.cons.injEq] at hsplit
          exact ⟨o, by simp [hsplit.1]⟩
  · obtain ⟨cs, h', hreactions, hcs, _⟩ := h.callbacks
    exact ⟨cs, h', hreactions, hcs⟩

/-- A response, an event whose callback raises, and a message without headers. -/
theorem streamSpec_run_raising :
    let shapeType : String → ShapeType Nat := fun name => ⟨name, false, fun _ => .ok 7⟩
    let handler : StreamResponseHandler Nat Nat :=
      { onStreamEvent := fun h _ => (h + 1, .error (.external h))
        onStreamError := fun h _ => (h + 1, .ok (some false))
        onStreamClosed := fun h => (h, .ok ()) }
    let op : ClientOperation Nat Nat :=
      { codec := ⟨fun _ => .ok "null", fun _ => .ok .null⟩
        shapeIndex := ⟨[]⟩
        responseType := shapeType "Response"
        responseStreamType := some (shapeType "Event")
        streamHandler := some handler }
    let json : String → List Header := fun name =>
      [⟨"Service-Model-Type", .string name⟩, ⟨":content-type", .string "application/json"⟩]
    let as : List Action :=
      [.message { headers := json "Response", messageType := .applicationMessage },
        .message { headers := json "Event", messageType := .applicationMessage },
        .message { messageType := .applicationMessage }, .closed]
    ∃ s, run (step op) (.streaming, { handlerState := 0 }) as = some (.closed, s) ∧
      StreamSpec op handler 0 (messages as) .closed s := by
  intro shapeType handler op json as
  obtain ⟨s, hs⟩ : ∃ s, run (step op) (.streaming, { handlerState := 0 }) as = some (.closed, s) :=
    ⟨_, rfl⟩
  exact ⟨s, hs, streamSpec_run rfl hs⟩

end IotCore.EventStream.Operation
