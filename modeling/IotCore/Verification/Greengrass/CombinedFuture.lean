import IotCore.Library.Machine
import IotCore.Model.Greengrass.ClientV2
import IotCore.Verification.EventStream.Messages

/-! # The future of a request

A request of the second client can fail to be written, be answered, or lose its stream. Whichever
comes first decides the future that the client returned, and nothing changes it again. -/

namespace IotCore.Greengrass.ClientV2

open EventStream EventStream.Operation Machine

variable {τ ι σ : Type}

/-! ## What decides the future -/

def receivedMessages (as : List (Act ι)) : List Message :=
  as.filterMap fun
    | .network (.message m) => some m
    | _ => none

/-- The action completes the future with the outcome, after the actions `as`. -/
inductive Decides (op : ClientOperation σ ι) (as : List (Act ι)) :
    Act ι → Except (Error ι) ι → Prop where
  | notWritten (e) : Decides op as (.written (.error e)) (.error e)
  | message (m o) (hfirst : receivedMessages as = []) (hm : ¬IsEmptyEnd m)
      (ho : ∀ x, o = .ok x ↔ IsResponse op m x) : Decides op as (.network (.message m)) o
  | closed : Decides op as (.network .closed) (.error .streamClosedError)

def Undecided (op : ClientOperation σ ι) (as : List (Act ι)) : Prop :=
  ∀ pre a post o, as = pre ++ a :: post → ¬Decides op pre a o

/-- The first deciding action, and what it decides. -/
def DecidedBy (op : ClientOperation σ ι) (as : List (Act ι)) (o : Except (Error ι) ι) : Prop :=
  ∃ pre a post, as = pre ++ a :: post ∧ Undecided op pre ∧ Decides op pre a o

section

variable {op : ClientOperation σ ι} {as : List (Act ι)} {a : Act ι} {o : Except (Error ι) ι}

theorem DecidedBy.append (h : DecidedBy op as o) (a : Act ι) : DecidedBy op (as ++ [a]) o := by
  obtain ⟨pre, b, post, rfl, hpre, hb⟩ := h
  exact ⟨pre, b, post ++ [a], by simp, hpre, hb⟩

theorem Undecided.decidedBy (h : Undecided op as) (ha : Decides op as a o) :
    DecidedBy op (as ++ [a]) o := ⟨as, a, [], by simp, h, ha⟩

theorem Undecided.append (h : Undecided op as) (ha : ∀ o, ¬Decides op as a o) :
    Undecided op (as ++ [a]) := by
  intro pre b post o heq hb
  rcases List.eq_nil_or_concat post with rfl | ⟨post, c, rfl⟩
  · obtain ⟨rfl, hab⟩ := List.append_inj' heq rfl
    obtain rfl : a = b := by simpa using hab
    exact ha o hb
  · have hcut : as ++ [a] = (pre ++ b :: post) ++ [c] := by simpa using heq
    obtain ⟨has, _⟩ := List.append_inj' hcut rfl
    exact h pre b post o has hb

end

/-! ## One callback of the operation -/

def Effect.isInitialResponse : Effect ι → Bool
  | .initialResponse _ => true
  | _ => false

/-- The future and the record of its completions are as before. -/
structure Keeps (s s' : State σ ι) : Prop where
  outcome : s'.initialResponseFuture.outcome = s.initialResponseFuture.outcome
  effects : s'.effects.filter Effect.isInitialResponse = s.effects.filter Effect.isInitialResponse

theorem Keeps.refl (s : State σ ι) : Keeps s s := ⟨rfl, rfl⟩

theorem Keeps.trans {s s' s'' : State σ ι} (h : Keeps s s') (h' : Keeps s' s'') : Keeps s s'' :=
  ⟨h'.outcome.trans h.outcome, h'.effects.trans h.effects⟩

theorem keeps_setInitialResponse {s : State σ ι} (hdone : s.initialResponseFuture.done = true)
    (o : Except (Error ι) ι) :
    Keeps s (s.setInitialResponse o).1 ∧ (s.setInitialResponse o).2 = .error .invalidStateError ∧
      (s.setInitialResponse o).1.messageCount = s.messageCount ∧
      (s.setInitialResponse o).1.initialResponseFuture.done = true := by
  obtain ⟨o', ho'⟩ := Option.isSome_iff_exists.mp hdone
  refine ⟨⟨?_, ?_⟩, ?_, ?_, ?_⟩
  · simp [State.setInitialResponse, hdone, Future.set, ho']
  · simp [State.setInitialResponse, hdone]
  · simp [State.setInitialResponse, hdone]
  · simp [State.setInitialResponse, hdone]
  · simp [State.setInitialResponse, hdone]

theorem keeps_handleError (op : ClientOperation σ ι) {s : State σ ι} (e : Error ι)
    (flags : MessageFlags)
    (h : s.messageCount = 1 → s.initialResponseFuture.done = true) :
    Keeps s (handleError op s e flags) ∧ (handleError op s e flags).messageCount = s.messageCount := by
  by_cases hcount : s.messageCount = 1
  · obtain ⟨hkeeps, hresult, hcount', _⟩ := keeps_setInitialResponse (h hcount) (.error e)
    rw [handleError, if_pos hcount]
    split
    · rename_i t _ heq
      rw [heq] at hkeeps hcount'
      exact ⟨hkeeps, hcount'⟩
    · rename_i t _ heq
      rw [heq] at hresult
      cases hresult
  · cases hhandler : op.streamHandler with
    | none => simp [handleError, hcount, hhandler, Keeps.refl]
    | some handler =>
        obtain ⟨closing, hclosing, he⟩ := handleError_later (s := s) e flags hcount hhandler
        rw [he]
        refine ⟨⟨rfl, ?_⟩, rfl⟩
        rcases hclosing with rfl | rfl <;> simp [Effect.isInitialResponse]

theorem keeps_onContinuationMessage (op : ClientOperation σ ι) {s : State σ ι} (m : Message)
    (h : s.messageCount = 0 → s.initialResponseFuture.done = true) :
    Keeps s (onContinuationMessage op s m) ∧
      (onContinuationMessage op s m).messageCount = s.messageCount + 1 := by
  have hfirst : s.messageCount + 1 = 1 → s.initialResponseFuture.done = true :=
    fun hcount => h (by omega)
  have hhandled := handleMessage_handled op { s with messageCount := s.messageCount + 1 } m
  unfold onContinuationMessage
  generalize handleMessage op { s with messageCount := s.messageCount + 1 } m = r at hhandled
  cases hhandled with
  | emptyEnd _ => exact ⟨⟨rfl, rfl⟩, rfl⟩
  | response x hcount _ =>
      obtain ⟨hkeeps, hresult, hcount', hdone'⟩ := keeps_setInitialResponse
        (s := { s with messageCount := s.messageCount + 1 }) (hfirst hcount) (.ok x)
      generalize hr : ({ s with messageCount := s.messageCount + 1 } : State σ ι).setInitialResponse
        (.ok x) = r at hkeeps hresult hcount' hdone'
      obtain ⟨t, result⟩ := r
      obtain rfl : result = .error .invalidStateError := hresult
      obtain ⟨hkeeps', hcount''⟩ :=
        keeps_handleError op (s := t) .invalidStateError m.flags fun _ => hdone'
      exact ⟨⟨(hkeeps.trans hkeeps').outcome, (hkeeps.trans hkeeps').effects⟩,
        hcount''.trans hcount'⟩
  | event x handler hcount _ _ =>
      cases hresult : (handler.onStreamEvent s.handlerState x).2 with
      | ok _ => exact ⟨⟨rfl, by simp [Effect.isInitialResponse]⟩, rfl⟩
      | error e =>
          obtain ⟨hkeeps, hcount'⟩ := keeps_handleError op
            (s := { s with
              messageCount := s.messageCount + 1
              handlerState := (handler.onStreamEvent s.handlerState x).1
              effects := s.effects ++ [.onStreamEvent x] }) e m.flags fun he => absurd he hcount
          refine ⟨⟨hkeeps.outcome, hkeeps.effects.trans ?_⟩, hcount'⟩
          simp [Effect.isInitialResponse]
  | failed e =>
      obtain ⟨hkeeps, hcount'⟩ := keeps_handleError op
        (s := { s with messageCount := s.messageCount + 1 }) e m.flags hfirst
      exact ⟨⟨hkeeps.outcome, hkeeps.effects⟩, hcount'⟩

/-- The first message, while the future is pending. -/
theorem onContinuationMessage_decides {op : ClientOperation σ ι} {s : State σ ι} {m : Message}
    (hcount : s.messageCount = 0) (hpending : s.initialResponseFuture = .pending)
    (hm : ¬IsEmptyEnd m) :
    ∃ o, (∀ x, o = .ok x ↔ IsResponse op m x) ∧
      (onContinuationMessage op s m).messageCount = 1 ∧
      (onContinuationMessage op s m).initialResponseFuture.outcome = some o ∧
      (onContinuationMessage op s m).effects.filter Effect.isInitialResponse =
        s.effects.filter Effect.isInitialResponse ++ [.initialResponse o] := by
  rcases onContinuationMessage_first op m hcount hpending with
    ⟨hempty, _⟩ | ⟨_, o, closing, ho, hclosing, he⟩
  · exact absurd hempty hm
  · refine ⟨o, ho, ?_, ?_, ?_⟩
    · rw [he]
    · rw [he]
      rfl
    · rw [he]
      rcases hclosing with rfl | rfl <;> simp [List.filter_cons, Effect.isInitialResponse]

theorem onContinuationClosed_effects (op : ClientOperation σ ι) (s : State σ ι) :
    (onContinuationClosed op s).messageCount = s.messageCount ∧
      (onContinuationClosed op s).initialResponseFuture =
        (if s.initialResponseFuture.done then s.initialResponseFuture
          else s.initialResponseFuture.set (.error .streamClosedError)) ∧
      (onContinuationClosed op s).effects.filter Effect.isInitialResponse =
        s.effects.filter Effect.isInitialResponse ++
          if s.initialResponseFuture.done then []
          else [.initialResponse (.error .streamClosedError)] := by
  cases hhandler : op.streamHandler with
  | none =>
      cases hd : s.initialResponseFuture.done <;>
        simp [onContinuationClosed, hhandler, hd, State.setInitialResponse,
          List.filter_cons, Effect.isInitialResponse]
  | some handler =>
      cases ht : handler.truthy <;> cases hd : s.initialResponseFuture.done <;>
        simp [onContinuationClosed, hhandler, ht, hd, State.setInitialResponse,
          List.filter_cons, Effect.isInitialResponse]

/-! ## The invariant -/

section

variable (op : ClientOperation (HandlerState τ ι) ι)

structure FutureInv (as : List (Act ι)) (c : Client τ ι) : Prop where
  count : c.operation.messageCount = (receivedMessages as).length
  closed : c.phase = .closed → c.operation.initialResponseFuture.done = true
  /-- only a message that ended the stream has left the future pending -/
  waiting : c.phase = .streaming → c.operation.initialResponseFuture.done = false →
    c.operation.messageCount = 0
  future : Undecided op as ∧ c.operation.initialResponseFuture = .pending ∧
      c.operation.effects.filter Effect.isInitialResponse = [] ∨
    ∃ o, DecidedBy op as o ∧ c.operation.initialResponseFuture.outcome = some o ∧
      c.operation.effects.filter Effect.isInitialResponse = [.initialResponse o]

variable {op} {as : List (Act ι)} {a : Act ι} {s s' : State (HandlerState τ ι) ι}
  {phase phase' : Phase} {written written' : Bool}

theorem futureInv_init (op : ClientOperation (HandlerState τ ι) ι) (h₀ : HandlerState τ ι) :
    FutureInv op [] { operation := { handlerState := h₀ } } where
  count := rfl
  closed := by simp
  waiting := fun _ _ => rfl
  future := .inl ⟨fun pre a post o h => by simp at h, rfl, rfl⟩

theorem FutureInv.pending (h : FutureInv op as ⟨phase, s, written⟩)
    (hd : s.initialResponseFuture.done = false) :
    Undecided op as ∧ s.initialResponseFuture = .pending ∧
      s.effects.filter Effect.isInitialResponse = [] := by
  rcases h.future with hundecided | ⟨o, _, hdone, _⟩
  · exact hundecided
  · dsimp only at hdone
    rw [Future.done, hdone] at hd
    cases hd

/-- An action that comes after the future is decided. -/
theorem FutureInv.late (h : FutureInv op as ⟨phase, s, written⟩)
    (hd : s.initialResponseFuture.done = true)
    (hcount : s'.messageCount = (receivedMessages (as ++ [a])).length) (hkeeps : Keeps s s') :
    FutureInv op (as ++ [a]) ⟨phase', s', written'⟩ := by
  have hd' : s'.initialResponseFuture.done = true := by
    rw [Future.done, hkeeps.outcome]
    exact hd
  refine ⟨hcount, fun _ => hd', fun _ hno => ?_, ?_⟩
  · rw [hd'] at hno
    cases hno
  · rcases h.future with ⟨_, hpending, _⟩ | ⟨o, hdecided, hdone, hone⟩
    · dsimp only at hpending
      rw [hpending] at hd
      cases hd
    · exact .inr ⟨o, hdecided.append a, hkeeps.outcome.trans hdone, hkeeps.effects.trans hone⟩

/-- An action that does not concern the operation. -/
theorem FutureInv.quiet (h : FutureInv op as ⟨phase, s, written⟩)
    (hsame : receivedMessages (as ++ [a]) = receivedMessages as) (hno : ∀ o, ¬Decides op as a o)
    (hs : s'.messageCount = s.messageCount ∧
      s'.initialResponseFuture = s.initialResponseFuture ∧ s'.effects = s.effects) :
    FutureInv op (as ++ [a]) ⟨phase, s', written'⟩ := by
  obtain ⟨hcount, hfuture, heffects⟩ := hs
  refine ⟨?_, ?_, ?_, ?_⟩
  · rw [hsame]
    exact hcount.trans h.count
  · rw [hfuture]
    exact h.closed
  · rw [hfuture, hcount]
    exact h.waiting
  · rw [hfuture, heffects]
    rcases h.future with ⟨hundecided, hpending⟩ | ⟨o, hdecided, hdone⟩
    · exact .inl ⟨hundecided.append hno, hpending⟩
    · exact .inr ⟨o, hdecided.append a, hdone⟩

/-- The first deciding action. -/
theorem FutureInv.decide {o : Except (Error ι) ι} (h : FutureInv op as ⟨phase, s, written⟩)
    (hd : s.initialResponseFuture.done = false)
    (hcount : s'.messageCount = (receivedMessages (as ++ [a])).length) (ha : Decides op as a o)
    (hdone : s'.initialResponseFuture.outcome = some o)
    (heffects : s'.effects.filter Effect.isInitialResponse =
      s.effects.filter Effect.isInitialResponse ++ [.initialResponse o]) :
    FutureInv op (as ++ [a]) ⟨phase', s', written'⟩ := by
  obtain ⟨hundecided, _, hnone⟩ := h.pending hd
  have hd' : s'.initialResponseFuture.done = true := by rw [Future.done, hdone]; rfl
  refine ⟨hcount, fun _ => hd', fun _ hno => ?_, .inr ⟨o, hundecided.decidedBy ha, hdone, ?_⟩⟩
  · rw [hd'] at hno
    cases hno
  · rw [heffects, hnone]
    rfl

theorem FutureInv.message (h : FutureInv op as ⟨.streaming, s, written⟩) (m : Message) :
    FutureInv op (as ++ [.network (.message m)])
      ⟨if m.flags.terminateStream then .terminated else .streaming,
        onContinuationMessage op s m, written⟩ := by
  have hlength : s.messageCount + 1 =
      (receivedMessages (as ++ [.network (.message m)])).length := by
    simpa [receivedMessages] using h.count
  cases hd : s.initialResponseFuture.done with
  | true =>
      obtain ⟨hkeeps, hcount⟩ := keeps_onContinuationMessage op m fun _ => hd
      exact h.late hd (hcount.trans hlength) hkeeps
  | false =>
      have hzero : s.messageCount = 0 := h.waiting rfl hd
      obtain ⟨hundecided, hpending, hnone⟩ := h.pending hd
      have hfirst : receivedMessages as = [] := by
        rw [← List.length_eq_zero_iff, ← h.count]
        exact hzero
      by_cases hm : IsEmptyEnd m
      · rcases onContinuationMessage_first op m hzero hpending with ⟨_, he⟩ | ⟨hne, _⟩
        · rw [he]
          refine ⟨?_, ?_, ?_, .inl ⟨hundecided.append ?_, hpending, hnone⟩⟩
          · rw [← hlength, hzero]
          · simp [hm.2]
          · simp [hm.2]
          · intro o ho
            cases ho with
            | message _ _ _ hne => exact hne hm
        · exact absurd hm hne
      · obtain ⟨o, ho, hcount, hdone, heffects⟩ :=
          onContinuationMessage_decides hzero hpending hm
        exact h.decide hd (by rw [hcount, ← hlength, hzero]) (.message m o hfirst hm ho) hdone
          heffects

theorem FutureInv.closing (h : FutureInv op as ⟨phase, s, written⟩) :
    FutureInv op (as ++ [.network .closed]) ⟨.closed, onContinuationClosed op s, written⟩ := by
  obtain ⟨hcount, hfuture, heffects⟩ := onContinuationClosed_effects op s
  have hlength : (onContinuationClosed op s).messageCount =
      (receivedMessages (as ++ [.network .closed])).length := by
    rw [hcount]
    simpa [receivedMessages] using h.count
  cases hd : s.initialResponseFuture.done with
  | true =>
      refine h.late hd hlength ⟨?_, ?_⟩
      · simp [hfuture, hd]
      · simp [heffects, hd]
  | false =>
      refine h.decide hd hlength .closed ?_ ?_
      · rw [hfuture, hd, (h.pending hd).2.1]
        rfl
      · simp [heffects, hd]

theorem FutureInv.combine (h : FutureInv op as ⟨phase, s, written⟩)
    (outcome : Except (Error ι) Unit) :
    FutureInv op (as ++ [.written outcome]) ⟨phase, combineFutures s outcome, true⟩ := by
  cases outcome with
  | ok _ =>
      refine h.quiet (by simp [receivedMessages]) (fun o ho => ?_) ⟨rfl, rfl, rfl⟩
      cases ho
  | error e =>
      have hlength : s.messageCount =
          (receivedMessages (as ++ [.written (.error e)])).length := by
        simpa [receivedMessages] using h.count
      cases hd : s.initialResponseFuture.done with
      | true =>
          obtain ⟨hkeeps, _, hcount, _⟩ := keeps_setInitialResponse hd (.error e)
          exact h.late hd (hcount.trans hlength) hkeeps
      | false =>
          have hpending := (h.pending hd).2.1
          refine h.decide hd ?_ (.notWritten e) ?_ ?_
          · simpa [combineFutures, State.setInitialResponse, hd] using hlength
          · simp [combineFutures, State.setInitialResponse, hpending]
          · simp [combineFutures, State.setInitialResponse, hd, List.filter_cons,
              Effect.isInitialResponse]

theorem FutureInv.step {c c' : Client τ ι} (h : FutureInv op as c)
    (hstep : ClientV2.step op c a = some c') : FutureInv op (as ++ [a]) c' := by
  obtain ⟨phase, s, written⟩ := c
  cases a with
  | network action =>
      obtain ⟨⟨phase', operation⟩, hnetwork, rfl⟩ := Option.map_eq_some_iff.mp hstep
      unfold Operation.step at hnetwork
      split at hnetwork
      · rename_i m heq
        cases heq
        cases hnetwork
        exact h.message m
      · rename_i heq
        cases heq
        cases hnetwork
        exact h.closing
      · rename_i heq
        cases heq
        cases hnetwork
        exact h.closing
      · cases hnetwork
  | written outcome =>
      rw [ClientV2.step] at hstep
      split at hstep
      · cases hstep
      · cases hstep
        exact h.combine outcome
  | other id =>
      obtain ⟨executor, _, rfl⟩ := Option.map_eq_some_iff.mp hstep
      exact h.quiet (by simp [receivedMessages]) (fun o ho => by cases ho) ⟨rfl, rfl, rfl⟩
  | begin =>
      obtain ⟨executor, _, hbegin⟩ := Option.bind_eq_some_iff.mp hstep
      obtain ⟨executor', _, rfl⟩ := Option.map_eq_some_iff.mp hbegin
      exact h.quiet (by simp [receivedMessages]) (fun o ho => by cases ho) ⟨rfl, rfl, rfl⟩
  | shutdown =>
      obtain ⟨executor, _, rfl⟩ := Option.map_eq_some_iff.mp hstep
      exact h.quiet (by simp [receivedMessages]) (fun o ho => by cases ho) ⟨rfl, rfl, rfl⟩

end

/-! ## Runs -/

/-- The future of a request, after the actions `as`. -/
structure FutureSpec (op : ClientOperation (HandlerState τ ι) ι) (as : List (Act ι))
    (c : Client τ ι) : Prop where
  pending : c.operation.initialResponseFuture.outcome = none ↔ Undecided op as
  decided : ∀ o, c.operation.initialResponseFuture.outcome = some o → DecidedBy op as o
  once : c.operation.effects.filter Effect.isInitialResponse =
    (c.operation.initialResponseFuture.outcome.map Effect.initialResponse).toList
  closed : c.phase = .closed → c.operation.initialResponseFuture.done = true

/-- In every interleaving of the write, the messages and the end of the stream. -/
theorem combinedFuture_run {op : ClientOperation (HandlerState τ ι) ι} {h₀ : HandlerState τ ι}
    {as : List (Act ι)} {c : Client τ ι}
    (hrun : run (step op) { operation := { handlerState := h₀ } } as = some c) :
    FutureSpec op as c := by
  have hinv : FutureInv op as c :=
    run_history (I := FutureInv op) (fun as c a c' h hstep => h.step hstep) hrun
      (futureInv_init op h₀)
  rcases hinv.future with ⟨hundecided, hpending, hnone⟩ | ⟨o, hdecided, hdone, hone⟩
  · refine ⟨by simp [hpending, hundecided], by simp [hpending], ?_, hinv.closed⟩
    rw [hnone, hpending]
    rfl
  · refine ⟨?_, ?_, by rw [hone, hdone]; rfl, hinv.closed⟩
    · obtain ⟨pre, a, post, has, _, ha⟩ := hdecided
      simp only [hdone, reduceCtorEq, false_iff]
      exact fun hundecided => hundecided pre a post o has ha
    · intro o' ho'
      rw [hdone] at ho'
      cases ho'
      exact hdecided

/-- A request that is not written, the response that comes all the same, and the end. -/
theorem combinedFuture_run_late :
    let shapeType : String → ShapeType Nat := fun name => ⟨name, false, fun _ => .ok 7⟩
    let op : ClientOperation (HandlerState Unit Nat) Nat :=
      { codec := ⟨fun _ => .ok "null", fun _ => .ok .null⟩
        shapeIndex := ⟨[]⟩
        responseType := shapeType "Response"
        responseStreamType := none
        streamHandler := none }
    let as : List (Act Nat) :=
      [.written (.error .streamClosedError),
        .network (.message
          { headers := [⟨"service-model-type", .string "Response"⟩,
              ⟨":content-type", .string "application/json"⟩]
            messageType := .applicationMessage }),
        .network .closed]
    ∃ c, run (step op) { operation := { handlerState := ⟨(), none, []⟩ } } as = some c ∧
      FutureSpec op as c := by
  intro shapeType op as
  obtain ⟨c, hc⟩ : ∃ c, run (step op) { operation := { handlerState := ⟨(), none, []⟩ } } as =
      some c := ⟨_, rfl⟩
  exact ⟨c, hc, combinedFuture_run hc⟩

end IotCore.Greengrass.ClientV2
