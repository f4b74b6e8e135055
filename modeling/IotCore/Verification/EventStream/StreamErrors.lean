import IotCore.Verification.EventStream.Stream

/-! # Errors that end a stream

An error ends the stream with a TERMINATE_STREAM message, unless the handler keeps it. A
handler that raises instead of deciding leaves the stream as it is. -/

namespace IotCore.EventStream.Operation

open Machine

variable {σ ι : Type}

/-! ## Messages that fail -/

/-- Handling the message ends in the error `e` and leaves `st` behind. -/
def Fails (op : ClientOperation σ ι) (s : State σ ι) (m : Message) (st : State σ ι)
    (e : Error ι) : Prop :=
  handleMessage op { s with messageCount := s.messageCount + 1 } m = (st, .error e)

def Effect.isTerminate : Effect ι → Bool
  | .terminate => true
  | _ => false

/-- The number of TERMINATE_STREAM messages that were sent. -/
def terminations (s : State σ ι) : Nat := s.effects.countP Effect.isTerminate

theorem Handled.terminations {op : ClientOperation σ ι} {s : State σ ι} {m : Message}
    {r : State σ ι × Except (Error ι) Unit} (h : Handled op s m r) :
    Operation.terminations r.1 = Operation.terminations s := by
  cases h with
  | emptyEnd | failed => rfl
  | response x =>
      unfold State.setInitialResponse
      split <;> simp [Operation.terminations, Effect.isTerminate]
  | event => simp [Operation.terminations, Effect.isTerminate]

theorem Handled.messageCount {op : ClientOperation σ ι} {s : State σ ι} {m : Message}
    {r : State σ ι × Except (Error ι) Unit} (h : Handled op s m r) :
    r.1.messageCount = s.messageCount := by
  cases h with
  | emptyEnd | failed | event => rfl
  | response x =>
      unfold State.setInitialResponse
      split <;> rfl

/-- The first message of a stream fails before its response is set. -/
theorem Handled.pending {op : ClientOperation σ ι} {s st : State σ ι} {m : Message} {e : Error ι}
    (h : Handled op s m (st, .error e)) (hcount : s.messageCount = 1)
    (hpending : s.initialResponseFuture = .pending) : st.initialResponseFuture = .pending := by
  generalize hr : (st, Except.error e) = r at h
  cases h with
  | emptyEnd => cases hr
  | response x => simp [State.setInitialResponse, hpending] at hr
  | event x handler hlater => exact absurd hcount hlater
  | failed =>
      cases hr
      exact hpending

/-- Handling fails exactly when the message is neither an empty end, nor the response that is
expected first, nor an event that its callback takes. -/
theorem fails_iff {op : ClientOperation σ ι} {handler : StreamResponseHandler σ ι} {s : State σ ι}
    {m : Message} (hhandler : op.streamHandler = some handler)
    (hpending : s.messageCount = 0 → s.initialResponseFuture = .pending) :
    (∃ st e, Fails op s m st e) ↔
      ¬IsEmptyEnd m ∧ (s.messageCount = 0 → ∀ x, ¬IsResponse op m x) ∧
        (s.messageCount ≠ 0 → ∀ x, IsEvent op m x →
          ∃ e, (handler.onStreamEvent s.handlerState x).2 = .error e) := by
  have hcount : s.messageCount + 1 = 1 ↔ s.messageCount = 0 := by omega
  have hhandled := handleMessage_handled op { s with messageCount := s.messageCount + 1 } m
  simp only [Fails]
  generalize handleMessage op { s with messageCount := s.messageCount + 1 } m = r at hhandled
  cases hhandled with
  | emptyEnd h => simp [h]
  | response x hfirst h =>
      have hzero := hcount.mp hfirst
      simp only [State.setInitialResponse, hpending hzero]
      refine iff_of_false (by simp) fun hfail => hfail.2.1 hzero x h
  | event x handler' hlater h hhandler' =>
      obtain rfl : handler = handler' := Option.some.inj (hhandler.symm.trans hhandler')
      have hne : s.messageCount ≠ 0 := fun hzero => hlater (hcount.mpr hzero)
      have hempty : ¬IsEmptyEnd m := fun hempty => by
        obtain ⟨_, t, _, hcarries⟩ := h
        cases hempty.1.symm.trans hcarries.1
      have hunique : ∀ y, IsEvent op m y → x = y := by
        rintro y ⟨_, t', ht', hy⟩
        obtain ⟨_, t, ht, hx⟩ := h
        obtain rfl : t = t' := Option.mem_unique ht ht'
        exact hx.2.2.unique hy.2.2
      constructor
      · rintro ⟨st, e, heq⟩
        refine ⟨hempty, fun hzero => absurd hzero hne, fun _ y hy => ⟨e, ?_⟩⟩
        rw [← hunique y hy]
        exact congrArg Prod.snd heq
      · rintro ⟨_, _, hraises⟩
        obtain ⟨e, he⟩ := hraises hne x h
        exact ⟨_, e, Prod.ext rfl he⟩
  | failed e hempty hresponse hevent =>
      refine iff_of_true ⟨_, e, rfl⟩ ⟨hempty, fun hzero => hresponse (hcount.mpr hzero), ?_⟩
      intro hne x h
      have hnone := hevent (fun hone => hne (hcount.mp hone)) x h
      rw [hnone] at hhandler
      cases hhandler

/-! ## What an error does to the stream -/

/-- The handler was asked about the error of a later message, and it keeps the stream. -/
def Keeps (handler : StreamResponseHandler σ ι) (s st : State σ ι) (e : Error ι) : Prop :=
  s.messageCount ≠ 0 ∧ (handler.onStreamError st.handlerState e).2 = .ok (some false)

/-- What handling the message `m` in the state `s` sends. -/
structure TerminateSpec (op : ClientOperation σ ι) (handler : StreamResponseHandler σ ι)
    (s : State σ ι) (m : Message) : Prop where
  ended : ∀ st e, Fails op s m st e → m.flags.terminateStream = false → ¬Keeps handler s st e →
    terminations (onContinuationMessage op s m) = terminations s + 1
  kept : ∀ st e, Fails op s m st e → m.flags.terminateStream = false → Keeps handler s st e →
    terminations (onContinuationMessage op s m) = terminations s
  terminated : m.flags.terminateStream = true →
    terminations (onContinuationMessage op s m) = terminations s
  succeeded : (∀ st e, ¬Fails op s m st e) →
    terminations (onContinuationMessage op s m) = terminations s

theorem terminations_handleError_first {op : ClientOperation σ ι} {s : State σ ι} {e : Error ι}
    {flags : MessageFlags} (hcount : s.messageCount = 1)
    (hpending : s.initialResponseFuture = .pending) :
    terminations (handleError op s e flags) =
      terminations s + if flags.terminateStream then 0 else 1 := by
  cases hend : flags.terminateStream <;>
    simp [handleError, hcount, State.setInitialResponse, hpending, hend, terminations,
      State.close, Effect.isTerminate]

theorem terminations_handleError_later {op : ClientOperation σ ι}
    {handler : StreamResponseHandler σ ι} {s : State σ ι} {e : Error ι} {flags : MessageFlags}
    (hcount : s.messageCount ≠ 1) (hhandler : op.streamHandler = some handler) :
    terminations (handleError op s e flags) =
      terminations s +
        match (handler.onStreamError s.handlerState e).2 with
        | .error _ => 0
        | .ok returned => if returned = some false ∨ flags.terminateStream then 0 else 1 := by
  simp only [handleError, hcount, ↓reduceIte, hhandler]
  cases (handler.onStreamError s.handlerState e).2 with
  | error _ => simp [terminations, Effect.isTerminate]
  | ok returned =>
      by_cases hkeep : returned = some false
      · simp [hkeep, terminations, Effect.isTerminate]
      · cases hend : flags.terminateStream <;>
          simp [hkeep, terminations, State.close, Effect.isTerminate]

theorem onContinuationMessage_of_fails {op : ClientOperation σ ι} {s st : State σ ι} {m : Message}
    {e : Error ι} (h : Fails op s m st e) :
    onContinuationMessage op s m = handleError op st e m.flags := by
  unfold Fails at h
  simp [onContinuationMessage, h]

theorem terminations_of_not_fails {op : ClientOperation σ ι} {s : State σ ι} {m : Message}
    (h : ∀ st e, ¬Fails op s m st e) :
    terminations (onContinuationMessage op s m) = terminations s := by
  have hhandled := handleMessage_handled op { s with messageCount := s.messageCount + 1 } m
  have hsame := hhandled.terminations
  unfold onContinuationMessage
  split
  · rename_i st heq
    rw [heq] at hsame
    exact hsame
  · rename_i st e heq
    exact absurd heq (h st e)

/-- What a failing message sends, by its position and by what the handler decides. -/
theorem terminations_of_fails {op : ClientOperation σ ι} {handler : StreamResponseHandler σ ι}
    {s st : State σ ι} {m : Message} {e : Error ι} (hhandler : op.streamHandler = some handler)
    (hpending : s.messageCount = 0 → s.initialResponseFuture = .pending)
    (h : Fails op s m st e) :
    terminations (onContinuationMessage op s m) =
      terminations s +
        if m.flags.terminateStream then 0
        else if s.messageCount = 0 then 1
        else
          match (handler.onStreamError st.handlerState e).2 with
          | .error _ => 0
          | .ok returned => if returned = some false then 0 else 1 := by
  have hhandled := handleMessage_handled op { s with messageCount := s.messageCount + 1 } m
  rw [show handleMessage op _ m = (st, .error e) from h] at hhandled
  have hsame : terminations st = terminations s := hhandled.terminations
  have hcount : st.messageCount = s.messageCount + 1 := hhandled.messageCount
  rw [onContinuationMessage_of_fails h]
  by_cases hzero : s.messageCount = 0
  · have hfirst : st.messageCount = 1 := by omega
    rw [terminations_handleError_first hfirst (hhandled.pending (by simp [hzero]) (hpending hzero)),
      hsame]
    simp [hzero]
  · have hlater : st.messageCount ≠ 1 := by omega
    rw [terminations_handleError_later hlater hhandler, hsame]
    simp only [hzero, ↓reduceIte]
    cases (handler.onStreamError st.handlerState e).2 <;> cases m.flags.terminateStream <;> simp

/-- At every position of a stream, an error terminates it unless the handler keeps it,
exactly if `on_stream_error` does not raise on the error that it is asked about. -/
theorem terminateSpec_iff {op : ClientOperation σ ι} {handler : StreamResponseHandler σ ι}
    {h₀ : σ} {as : List Action} {s : State σ ι} {m : Message}
    (hhandler : op.streamHandler = some handler)
    (hrun : run (step op) (.streaming, { handlerState := h₀ }) as = some (.streaming, s)) :
    TerminateSpec op handler s m ↔
      ∀ st e, Fails op s m st e → s.messageCount ≠ 0 → m.flags.terminateStream = false →
        ∃ returned, (handler.onStreamError st.handlerState e).2 = .ok returned := by
  have hI := streamInv_run hhandler hrun
  have hpending : s.messageCount = 0 → s.initialResponseFuture = .pending := by
    intro hzero
    have hnil : messages as = [] := List.length_eq_zero_iff.mp (hI.count.symm.trans hzero)
    exact (hI.empty (by simp [hnil])).2
  constructor
  · intro hspec st e hfails hlater hflag
    cases hr : (handler.onStreamError st.handlerState e).2 with
    | ok returned => exact ⟨returned, rfl⟩
    | error e' =>
        have hended := hspec.ended st e hfails hflag (by simp [Keeps, hr])
        rw [terminations_of_fails hhandler hpending hfails] at hended
        simp [hflag, hlater, hr] at hended
  · intro hreturns
    refine ⟨?_, ?_, ?_, terminations_of_not_fails⟩
    · intro st e hfails hflag hkeeps
      rw [terminations_of_fails hhandler hpending hfails]
      by_cases hzero : s.messageCount = 0
      · simp [hflag, hzero]
      · obtain ⟨returned, hr⟩ := hreturns st e hfails hzero hflag
        have hne : returned ≠ some false := fun he => hkeeps ⟨hzero, by rw [hr, he]⟩
        simp [hflag, hzero, hr, hne]
    · rintro st e hfails hflag ⟨hlater, hr⟩
      rw [terminations_of_fails hhandler hpending hfails]
      simp [hflag, hlater, hr]
    · intro hflag
      by_cases hfails : ∃ st e, Fails op s m st e
      · obtain ⟨st, e, hfails⟩ := hfails
        rw [terminations_of_fails hhandler hpending hfails]
        simp [hflag]
      · exact terminations_of_not_fails fun st e h => hfails ⟨st, e, h⟩

/-- A handler whose `on_stream_error` raises. -/
def raisingHandler : StreamResponseHandler Nat Nat where
  onStreamEvent := fun h _ => (h + 1, .ok ())
  onStreamError := fun h e => (h + 1, .error e)
  onStreamClosed := fun h => (h, .ok ())

/-- An operation whose response and events are all the number 7. -/
def numberStream (handler : StreamResponseHandler Nat Nat) : ClientOperation Nat Nat where
  codec := ⟨fun _ => .ok "null", fun _ => .ok .null⟩
  shapeIndex := ⟨[]⟩
  responseType := ⟨"Response", false, fun _ => .ok 7⟩
  responseStreamType := some ⟨"Event", false, fun _ => .ok 7⟩
  streamHandler := some handler

def numberResponse : Message where
  headers :=
    [⟨"service-model-type", .string "Response"⟩, ⟨":content-type", .string "application/json"⟩]
  messageType := .applicationMessage

/-- The handler raises on the error of a message without headers, and the stream stays open. -/
theorem not_terminateSpec_raising :
    ¬∀ (op : ClientOperation Nat Nat) (handler : StreamResponseHandler Nat Nat) (h₀ : Nat)
      (as : List Action) (s : State Nat Nat) (m : Message), op.streamHandler = some handler →
      run (step op) (.streaming, { handlerState := h₀ }) as = some (.streaming, s) →
      TerminateSpec op handler s m := by
  intro h
  have hspec := h (numberStream raisingHandler) raisingHandler 0 [.message numberResponse] _
    { messageType := .applicationMessage } rfl rfl
  have hended := hspec.ended _ _ rfl rfl (by simp [Keeps, raisingHandler])
  revert hended
  decide +kernel

/-- The same stream with a handler that keeps it. -/
theorem terminateSpec_iff_keeping :
    let handler := { raisingHandler with onStreamError := fun h _ => (h + 1, .ok (some false)) }
    ∃ s, run (step (numberStream handler)) (.streaming, { handlerState := 0 })
        [.message numberResponse] = some (.streaming, s) ∧
      TerminateSpec (numberStream handler) handler s { messageType := .applicationMessage } := by
  intro handler
  obtain ⟨s, hs⟩ : ∃ s, run (step (numberStream handler)) (.streaming, { handlerState := 0 })
      [.message numberResponse] = some (.streaming, s) := ⟨_, rfl⟩
  exact ⟨s, hs, (terminateSpec_iff rfl hs).mpr fun _ _ _ _ _ => ⟨some false, rfl⟩⟩

end IotCore.EventStream.Operation
