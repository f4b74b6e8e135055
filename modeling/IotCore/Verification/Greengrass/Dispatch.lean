import Mathlib.Data.List.Forall2
import IotCore.Model.Greengrass.ClientV2
import IotCore.Verification.EventStream.Stream

/-! # Events in the executor

With an executor, the callbacks for events run on its workers. Every event of the stream is taken
once, in the order of arrival, until the client is closed; after that the event is reported as a
stream error. -/

namespace IotCore.Greengrass.ClientV2

open EventStream EventStream.Operation Machine

variable {τ ι : Type}

/-! ## What has happened -/

/-- The messages, each with whether the executor was shut down before it. -/
structure Log where
  messages : List (Message × Bool) := []
  isShutdown : Bool := false
  /-- the continuation closed, and whether the executor was shut down before that -/
  closed : Option Bool := none

def Log.note (l : Log) : Act ι → Log
  | .network (.message m) => { l with messages := l.messages ++ [(m, l.isShutdown)] }
  | .network .closed => { l with closed := some l.isShutdown }
  | .shutdown => { l with isShutdown := true }
  | _ => l

def log (as : List (Act ι)) : Log := as.foldl Log.note {}

@[simp] theorem log_append (as : List (Act ι)) (a : Act ι) : log (as ++ [a]) = (log as).note a := by
  simp [log]

/-- The event that a message carries. -/
def eventOf (op : ClientOperation (HandlerState τ ι) ι) (m : Message) : Option ι :=
  op.responseStreamType.bind fun t =>
    if m.messageType = .applicationMessage ∧
        findHeader m.headers serviceModelTypeHeader = some t.modelName ∧
        findHeader m.headers contentTypeHeader = some contentTypeApplicationJson then
      (shapeFromJsonPayload op m.payload t).toOption
    else none

theorem eventOf_eq_some {op : ClientOperation (HandlerState τ ι) ι} {m : Message} {x : ι} :
    eventOf op m = some x ↔ IsEvent op m x := by
  have htoOption : ∀ r : Except (Error ι) ι, r.toOption = some x ↔ r = .ok x := by
    intro r
    cases r <;> simp [Except.toOption]
  cases hstream : op.responseStreamType with
  | none => simp [eventOf, IsEvent, hstream]
  | some t =>
      simp only [eventOf, hstream, Option.bind_some, IsEvent, Carries, Option.mem_def,
        Option.some.injEq, exists_eq_left', ← shapeFromJsonPayload_eq_ok]
      split
      · rename_i h
        simp [h, htoOption]
      · rename_i h
        simp only [reduceCtorEq, false_iff]
        exact fun hm => h ⟨hm.1, hm.2.1, hm.2.2.1⟩

section

variable (op : ClientOperation (HandlerState τ ι) ι) (callbacks : Callbacks τ ι)

/-- The task that a message after the first one leads to. -/
def taskOf (arrival : Message × Bool) : Option (Task ι) :=
  if callbacks.onStreamEvent.isSome ∧ arrival.2 = false then
    (eventOf op arrival.1).map .onStreamEvent
  else none

/-- The own tasks of the executor. -/
def Log.tasks (l : Log) : List (Task ι) :=
  l.messages.tail.filterMap (taskOf op callbacks) ++
    if callbacks.onStreamClosed.isSome ∧ l.closed = some false then [.onStreamClosed] else []

/-- What the handler hears of one message after the first one. -/
inductive Dispatched : Message × Bool → List (Effect ι) → Prop where
  | nothing {m shut} (hm : IsEmptyEnd m) : Dispatched (m, shut) []
  | taken {m shut x} (hm : IsEvent op m x) (h : callbacks.onStreamEvent.isSome → shut = false) :
      Dispatched (m, shut) [.onStreamEvent x]
  | refused {m x} (hm : IsEvent op m x) (h : callbacks.onStreamEvent.isSome) :
      Dispatched (m, true) [.onStreamEvent x, .onStreamError cannotSchedule]
  | error {m shut} (e) (hempty : ¬IsEmptyEnd m) (hevent : ∀ x, ¬IsEvent op m x)
      (hshape : ∀ x, e = .shape x ↔ IsErrorShape op m x) : Dispatched (m, shut) [.onStreamError e]

/-! ## The invariant -/

structure DispatchInv (as : List (Act ι)) (c : Client τ ι) : Prop where
  count : c.operation.messageCount = (log as).messages.length
  phase : c.phase = .closed ↔ (log as).closed.isSome = true
  executor : ∃ executor, c.operation.handlerState.executor = some executor ∧
    executor.isShutdown = (log as).isShutdown ∧
    executor.taken.filter Task.isOwn = (log as).tasks op callbacks
  heard : ∃ groups, List.Forall₂ (Dispatched op callbacks) (log as).messages.tail groups ∧
    c.operation.effects.filter Effect.isCallback =
      groups.flatten ++ if c.phase = .closed then [.onStreamClosed] else []

end

/-- A first message is none of the handler's business. -/
theorem onContinuationMessage_quiet {σ : Type} (op : ClientOperation σ ι) {s : State σ ι}
    (m : Message) (hcount : s.messageCount = 0) :
    (onContinuationMessage op s m).messageCount = 1 ∧
      (onContinuationMessage op s m).handlerState = s.handlerState ∧
      (onContinuationMessage op s m).effects.filter Effect.isCallback =
        s.effects.filter Effect.isCallback := by
  have hset : ∀ (t : State σ ι) o, (t.setInitialResponse o).1.messageCount = t.messageCount ∧
      (t.setInitialResponse o).1.handlerState = t.handlerState ∧
      (t.setInitialResponse o).1.effects.filter Effect.isCallback =
        t.effects.filter Effect.isCallback := by
    intro t o
    cases hdone : t.initialResponseFuture.done <;>
      simp [State.setInitialResponse, hdone, Effect.isCallback]
  have herror : ∀ (t : State σ ι) e, t.messageCount = 1 →
      (handleError op t e m.flags).messageCount = 1 ∧
        (handleError op t e m.flags).handlerState = t.handlerState ∧
        (handleError op t e m.flags).effects.filter Effect.isCallback =
          t.effects.filter Effect.isCallback := by
    intro t e ht
    have hsetError := hset t (.error e)
    rw [handleError, if_pos ht]
    split
    · rename_i s' _ heq
      rw [heq] at hsetError
      exact ⟨hsetError.1.trans ht, hsetError.2⟩
    · rename_i s' _ heq
      rw [heq] at hsetError
      split
      · exact ⟨hsetError.1.trans ht, hsetError.2⟩
      · refine ⟨hsetError.1.trans ht, hsetError.2.1, ?_⟩
        simpa [State.close, Effect.isCallback] using hsetError.2.2
  have hhandled := handleMessage_handled op { s with messageCount := s.messageCount + 1 } m
  unfold onContinuationMessage
  generalize handleMessage op { s with messageCount := s.messageCount + 1 } m = r at hhandled
  rw [hcount] at hhandled
  cases hhandled with
  | emptyEnd _ => exact ⟨rfl, rfl, rfl⟩
  | response x _ _ =>
      have hok := hset { s with messageCount := 1 } (.ok x)
      generalize hr : ({ s with messageCount := 1 } : State σ ι).setInitialResponse (.ok x) = r
        at hok
      obtain ⟨t, result⟩ := r
      cases result with
      | ok _ => exact hok
      | error e =>
          have hfail := herror t e hok.1
          exact ⟨hfail.1, hfail.2.1.trans hok.2.1, hfail.2.2.trans hok.2.2⟩
  | event x handler hlater => exact absurd rfl hlater
  | failed e => exact herror { s with messageCount := 1 } e rfl

/-! ## Handlers -/

theorem wrapError_executor {ρ : Type} (s : HandlerState τ ι) (result : τ × Except (Error ι) ρ) :
    (wrapError s result).1.executor = s.executor := by
  obtain ⟨user, outcome⟩ := result
  cases outcome <;> rfl

theorem onStreamError_executor (callbacks : Callbacks τ ι) (s : HandlerState τ ι) (e : Error ι) :
    ((createStreamHandler callbacks).onStreamError s e).1.executor = s.executor := by
  cases h : callbacks.onStreamError with
  | none => simp [createStreamHandler, h]
  | some callback => simpa [createStreamHandler, h] using wrapError_executor s _

section

variable {executor : Executor (Task ι)} {s : HandlerState τ ι}

theorem dispatch_running (hs : s.executor = some executor) (hrun : executor.isShutdown = false)
    (task : Task ι) (callback : τ → τ × Except (Error ι) Unit) :
    ∃ executor', dispatch s task callback = ({ s with executor := some executor' }, .ok ()) ∧
      executor'.taken = executor.taken ++ [task] ∧ executor'.isShutdown = false := by
  obtain ⟨executor', hsubmit, htaken, hrun'⟩ := Executor.submit_of_running hrun task
  exact ⟨executor', by simp [dispatch, hs, hsubmit], htaken, hrun'⟩

theorem dispatch_shutdown (hs : s.executor = some executor) (hshut : executor.isShutdown = true)
    (task : Task ι) (callback : τ → τ × Except (Error ι) Unit) :
    dispatch s task callback = (s, .error cannotSchedule) := by
  simp [dispatch, hs, Executor.submit_of_shutdown hshut task]

/-- What is left of an executor by one message or the end of the stream. -/
def Took (executor : Executor (Task ι)) (s : HandlerState τ ι) (tasks : List (Task ι)) : Prop :=
  ∃ executor', s.executor = some executor' ∧ executor'.isShutdown = executor.isShutdown ∧
    executor'.taken.filter Task.isOwn = executor.taken.filter Task.isOwn ++ tasks

theorem Took.refl (hs : s.executor = some executor) : Took executor s [] :=
  ⟨executor, hs, rfl, by simp⟩

theorem took_onStreamEvent (callbacks : Callbacks τ ι) (hs : s.executor = some executor) (x : ι) :
    (callbacks.onStreamEvent.isSome → executor.isShutdown = false) ∧
        (∃ t, (createStreamHandler callbacks).onStreamEvent s x = (t, .ok ()) ∧
          Took executor t
            (if callbacks.onStreamEvent.isSome then [.onStreamEvent x] else [])) ∨
      callbacks.onStreamEvent.isSome ∧ executor.isShutdown = true ∧
        (createStreamHandler callbacks).onStreamEvent s x = (s, .error cannotSchedule) := by
  cases h : callbacks.onStreamEvent with
  | none => exact .inl ⟨by simp, s, by simp [createStreamHandler, h], .refl hs⟩
  | some callback =>
      cases hshut : executor.isShutdown with
      | false =>
          obtain ⟨executor', hdispatch, htaken, hrun⟩ :=
            dispatch_running hs hshut (.onStreamEvent x) fun user => callback user x
          refine .inl ⟨fun _ => rfl, { s with executor := some executor' }, ?_, executor', rfl,
            hrun.trans hshut.symm, ?_⟩
          · simpa [createStreamHandler, h] using hdispatch
          · simp [htaken, Task.isOwn]
      | true =>
          have hdispatch :=
            dispatch_shutdown hs hshut (.onStreamEvent x) fun user => callback user x
          exact .inr ⟨rfl, rfl, by simpa [createStreamHandler, h] using hdispatch⟩

theorem took_onStreamClosed (callbacks : Callbacks τ ι) (hs : s.executor = some executor) :
    Took executor ((createStreamHandler callbacks).onStreamClosed s).1
      (if callbacks.onStreamClosed.isSome ∧ executor.isShutdown = false then [.onStreamClosed]
        else []) := by
  cases h : callbacks.onStreamClosed with
  | none => simpa [createStreamHandler, h] using Took.refl hs
  | some callback =>
      cases hshut : executor.isShutdown with
      | false =>
          obtain ⟨executor', hdispatch, htaken, hrun⟩ :=
            dispatch_running hs hshut .onStreamClosed callback
          refine ⟨executor', by simp [createStreamHandler, h, hdispatch], hrun.trans hshut.symm, ?_⟩
          simp [htaken, Task.isOwn]
      | true =>
          simpa [createStreamHandler, h, dispatch_shutdown hs hshut] using Took.refl hs

theorem dispatched_of_reaction {op : ClientOperation (HandlerState τ ι) ι}
    {callbacks : Callbacks τ ι} {m : Message} {t : HandlerState τ ι} {cs : List (Effect ι)}
    (hs : s.executor = some executor)
    (hr : Reaction op (createStreamHandler callbacks) m s cs t) :
    Dispatched op callbacks (m, executor.isShutdown) cs ∧
      Took executor t (taskOf op callbacks (m, executor.isShutdown)).toList := by
  have hnone : (∀ x, ¬IsEvent op m x) → taskOf op callbacks (m, executor.isShutdown) = none := by
    intro hno
    have hevent : eventOf op m = none :=
      Option.eq_none_iff_forall_ne_some.mpr fun x hx => hno x (eventOf_eq_some.mp hx)
    simp [taskOf, hevent]
  cases hr with
  | nothing hm =>
      refine ⟨.nothing hm, ?_⟩
      rw [hnone fun x hx => by
        obtain ⟨_, t, _, hcarries⟩ := hx
        cases hm.1.symm.trans hcarries.1]
      exact .refl hs
  | event x hm hok =>
      rcases took_onStreamEvent callbacks hs x with ⟨hopen, t, ht, htook⟩ | ⟨_, _, ht⟩
      · rw [ht]
        refine ⟨.taken hm hopen, ?_⟩
        have htask : (taskOf op callbacks (m, executor.isShutdown)).toList =
            if callbacks.onStreamEvent.isSome then [.onStreamEvent x] else [] := by
          cases hsome : callbacks.onStreamEvent.isSome with
          | false => simp [taskOf, hsome]
          | true => simp [taskOf, hsome, hopen hsome, eventOf_eq_some.mpr hm]
        rwa [htask]
      · rw [ht] at hok
        cases hok
  | raised x e hm hraised =>
      rcases took_onStreamEvent callbacks hs x with ⟨_, t, ht, _⟩ | ⟨hsome, hshut, ht⟩
      · rw [ht] at hraised
        cases hraised
      · rw [ht] at hraised ⊢
        cases hraised
        have htask : taskOf op callbacks (m, executor.isShutdown) = none := by simp [taskOf, hshut]
        rw [htask]
        refine ⟨hshut ▸ .refused hm hsome, .refl ?_⟩
        rw [onStreamError_executor]
        exact hs
  | error e hempty hno hshape =>
      rw [hnone hno]
      exact ⟨.error e hempty hno hshape, .refl ((onStreamError_executor _ _ e).trans hs)⟩

end

/-! ## Steps -/

section

variable {op : ClientOperation (HandlerState τ ι) ι} {callbacks : Callbacks τ ι}

theorem dispatchInv_init (op : ClientOperation (HandlerState τ ι) ι) (callbacks : Callbacks τ ι)
    (user : τ) : DispatchInv op callbacks []
      { operation := { handlerState := { user, executor := some {} } } } where
  count := rfl
  phase := by simp [log]
  executor := ⟨{}, rfl, rfl, by simp [log, Log.tasks, Executor.taken]⟩
  heard := ⟨[], .nil, rfl⟩

/-- What is left of the client when only its executor has changed. -/
theorem DispatchInv.setExecutor {as : List (Act ι)} {c : Client τ ι} {a : Act ι}
    {executor executor' : Executor (Task ι)} (h : DispatchInv op callbacks as c)
    (hs : c.operation.handlerState.executor = some executor)
    (hnote : (log (as ++ [a])).messages = (log as).messages ∧
      (log (as ++ [a])).closed = (log as).closed)
    (hshut : executor.isShutdown = (log as).isShutdown →
      executor'.isShutdown = (log (as ++ [a])).isShutdown)
    (htaken : executor'.taken.filter Task.isOwn = executor.taken.filter Task.isOwn) :
    DispatchInv op callbacks (as ++ [a]) (c.setExecutor executor') := by
  obtain ⟨executor'', hs'', hrunning, htasks⟩ := h.executor
  obtain rfl : executor = executor'' := Option.some.inj (hs.symm.trans hs'')
  refine ⟨?_, ?_, ⟨executor', rfl, hshut hrunning, ?_⟩, ?_⟩
  · rw [hnote.1]
    exact h.count
  · rw [hnote.2]
    exact h.phase
  · rw [htaken, htasks, Log.tasks, Log.tasks, hnote.1, hnote.2]
  · rw [hnote.1]
    exact h.heard

theorem DispatchInv.message {as : List (Act ι)} {c : Client τ ι} {m : Message}
    (hhandler : op.streamHandler = some (createStreamHandler callbacks))
    (h : DispatchInv op callbacks as c) (hphase : c.phase = .streaming) {phase : Phase}
    (hphase' : phase ≠ .closed) :
    DispatchInv op callbacks (as ++ [.network (.message m)])
      { c with phase, operation := onContinuationMessage op c.operation m } := by
  have hclosed : (log as).closed = none := by
    rw [← Option.not_isSome_iff_eq_none, ← h.phase, hphase]
    simp
  obtain ⟨executor, hs, hshut, htasks⟩ := h.executor
  obtain ⟨groups, hgroups, heffects⟩ := h.heard
  have hcount := h.count
  rw [hphase] at heffects
  cases hms : (log as).messages with
  | nil =>
      rw [hms] at hcount hgroups
      obtain ⟨hcount', hstate, hquiet⟩ := onContinuationMessage_quiet op m hcount
      cases hgroups
      refine ⟨?_, ?_, ⟨executor, hstate ▸ hs, ?_, ?_⟩, [], ?_, ?_⟩
      · simp [Log.note, hms, hcount']
      · simp [Log.note, hclosed, hphase']
      · simp [Log.note, hshut]
      · simpa [Log.note, Log.tasks, hms, hclosed] using htasks
      · simp [Log.note, hms]
      · simpa [hphase', hquiet] using heffects
  | cons first rest =>
      rw [hms] at hcount hgroups
      obtain ⟨cs, closing, t, hreaction, hclosing, he⟩ := onContinuationMessage_later (m := m)
        (show c.operation.messageCount ≠ 0 by simp [hcount]) hhandler
      obtain ⟨hdispatched, executor', hs', hshut', htook⟩ := dispatched_of_reaction hs hreaction
      rw [hshut] at hdispatched
      rw [he]
      refine ⟨?_, ?_, ⟨executor', hs', ?_, ?_⟩, groups ++ [cs], ?_, ?_⟩
      · simp [Log.note, hms, hcount]
      · simp [Log.note, hclosed, hphase']
      · simp [Log.note, hshut', hshut]
      · rw [htook, htasks, hshut]
        simp [Log.note, Log.tasks, hms, hclosed, List.filterMap_append, List.filterMap_cons]
        cases taskOf op callbacks (m, (log as).isShutdown) <;> rfl
      · simpa [Log.note, hms] using List.rel_append hgroups (.cons hdispatched .nil)
      · have hfilter := filter_closing hclosing
        have heffects : c.operation.effects.filter Effect.isCallback = groups.flatten := by
          simpa using heffects
        simp [hphase', heffects, hreaction.isCallback, hfilter]

theorem DispatchInv.closed {as : List (Act ι)} {c : Client τ ι}
    (hhandler : op.streamHandler = some (createStreamHandler callbacks))
    (h : DispatchInv op callbacks as c) (hphase : c.phase ≠ .closed) :
    DispatchInv op callbacks (as ++ [.network .closed])
      { c with phase := .closed, operation := onContinuationClosed op c.operation } := by
  have hclosed : (log as).closed = none := by
    rw [← Option.not_isSome_iff_eq_none, ← h.phase]
    exact hphase
  obtain ⟨executor, hs, hshut, htasks⟩ := h.executor
  obtain ⟨groups, hgroups, heffects⟩ := h.heard
  have htruthy : (createStreamHandler callbacks).truthy = true := rfl
  obtain ⟨executor', hs', hshut', htook⟩ := took_onStreamClosed callbacks hs
  rw [onContinuationClosed_eq hhandler]
  refine ⟨?_, ?_, ⟨executor', ?_, ?_, ?_⟩, groups, ?_, ?_⟩
  · simpa [Log.note] using h.count
  · simp [Log.note]
  · simpa [htruthy] using hs'
  · simp [Log.note, hshut', hshut]
  · rw [htook, htasks, hshut]
    simp [Log.note, Log.tasks, hclosed]
  · simpa [Log.note] using hgroups
  · have heffects : c.operation.effects.filter Effect.isCallback = groups.flatten := by
      simpa [hphase] using heffects
    cases hd : c.operation.initialResponseFuture.done <;>
      simp [htruthy, heffects, closingEffects, Effect.isCallback]

theorem DispatchInv.combine {as : List (Act ι)} {c : Client τ ι} {outcome : Except (Error ι) Unit}
    (h : DispatchInv op callbacks as c) : DispatchInv op callbacks (as ++ [.written outcome])
      { c with operation := combineFutures c.operation outcome, written := true } := by
  have hkeep : (combineFutures c.operation outcome).messageCount = c.operation.messageCount ∧
      (combineFutures c.operation outcome).handlerState = c.operation.handlerState ∧
      (combineFutures c.operation outcome).effects.filter Effect.isCallback =
        c.operation.effects.filter Effect.isCallback := by
    cases outcome with
    | ok _ => exact ⟨rfl, rfl, rfl⟩
    | error e =>
        cases hd : c.operation.initialResponseFuture.done <;>
          simp [combineFutures, State.setInitialResponse, hd, Effect.isCallback]
  refine ⟨?_, ?_, ?_, ?_⟩
  · simpa [Log.note, hkeep.1] using h.count
  · simpa [Log.note] using h.phase
  · simpa [Log.note, hkeep.2.1, Log.tasks] using h.executor
  · simpa [Log.note, hkeep.2.2] using h.heard

theorem DispatchInv.step (hhandler : op.streamHandler = some (createStreamHandler callbacks))
    {as : List (Act ι)} {c c' : Client τ ι} {a : Act ι} (h : DispatchInv op callbacks as c)
    (hstep : ClientV2.step op c a = some c') : DispatchInv op callbacks (as ++ [a]) c' := by
  obtain ⟨executor, hs, hshut, _⟩ := h.executor
  cases a with
  | network action =>
      obtain ⟨⟨phase, operation⟩, hnetwork, rfl⟩ := Option.map_eq_some_iff.mp hstep
      obtain ⟨phase₀, s, written⟩ := c
      unfold Operation.step at hnetwork
      split at hnetwork
      · rename_i m heq
        cases heq
        cases hnetwork
        exact h.message hhandler rfl (by split <;> simp)
      · rename_i heq
        cases heq
        cases hnetwork
        exact h.closed hhandler (by simp)
      · rename_i heq
        cases heq
        cases hnetwork
        exact h.closed hhandler (by simp)
      · cases hnetwork
  | written outcome =>
      rw [ClientV2.step] at hstep
      split at hstep
      · cases hstep
      · cases hstep
        exact h.combine
  | other id =>
      simp only [ClientV2.step, hs, Option.map_some, Option.some.injEq] at hstep
      subst hstep
      cases hrunning : executor.isShutdown with
      | false =>
          obtain ⟨executor', hsubmit, htaken, hrun⟩ :=
            Executor.submit_of_running hrunning (Task.other id)
          rw [hsubmit]
          refine h.setExecutor hs (by simp [Log.note]) (fun he => ?_) ?_
          · simpa [Log.note, hrun, hrunning] using he
          · simp [htaken, Task.isOwn]
      | true =>
          rw [Executor.submit_of_shutdown hrunning]
          exact h.setExecutor hs (by simp [Log.note]) (by simp [Log.note]) rfl
  | begin =>
      simp only [ClientV2.step, hs, Option.bind_some] at hstep
      obtain ⟨executor', hbegin, rfl⟩ := Option.map_eq_some_iff.mp hstep
      obtain ⟨htaken, hshut'⟩ := Executor.taken_begin hbegin
      exact h.setExecutor hs (by simp [Log.note]) (by simp [Log.note, hshut']) (by rw [htaken])
  | shutdown =>
      simp only [ClientV2.step, hs, Option.map_some, Option.some.injEq] at hstep
      subst hstep
      exact h.setExecutor hs (by simp [Log.note]) (by simp [Log.note]) rfl

end

/-! ## Runs -/

/-- What the executor was handed and what the handler heard. A worker begins the tasks in the
order in which they were handed over. -/
structure DispatchSpec (op : ClientOperation (HandlerState τ ι) ι) (callbacks : Callbacks τ ι)
    (l : Log) (c : Client τ ι) : Prop where
  executor : ∃ executor, c.operation.handlerState.executor = some executor ∧
    executor.taken.filter Task.isOwn = l.tasks op callbacks ∧
    executor.begun.filter Task.isOwn <+: l.tasks op callbacks
  heard : ∃ groups, List.Forall₂ (Dispatched op callbacks) l.messages.tail groups ∧
    c.operation.effects.filter Effect.isCallback =
      groups.flatten ++ if c.phase = .closed then [.onStreamClosed] else []

theorem handleStreamHandler_executor {streamHandler : Option (StreamResponseHandler τ ι)}
    {callbacks : Callbacks τ ι} {handler : StreamResponseHandler (HandlerState τ ι) ι}
    (h : handleStreamHandler true streamHandler callbacks = .ok handler) :
    handler = createStreamHandler (streamHandler.elim callbacks handlerCallbacks) := by
  cases streamHandler with
  | none =>
      cases h
      rfl
  | some given =>
      simp only [handleStreamHandler] at h
      split at h
      · cases h
      · cases h
        rfl

/-- In every interleaving of the networking thread, the workers, the write of the request and the
close of the client. -/
theorem dispatch_run {op : ClientOperation (HandlerState τ ι) ι}
    {streamHandler : Option (StreamResponseHandler τ ι)} {callbacks : Callbacks τ ι}
    {handler : StreamResponseHandler (HandlerState τ ι) ι}
    (hmade : handleStreamHandler true streamHandler callbacks = .ok handler)
    (hhandler : op.streamHandler = some handler) {user : τ} {as : List (Act ι)} {c : Client τ ι}
    (hrun : run (step op) { operation := { handlerState := { user, executor := some {} } } } as =
      some c) :
    DispatchSpec op (streamHandler.elim callbacks handlerCallbacks) (log as) c := by
  rw [handleStreamHandler_executor hmade] at hhandler
  have hinv : DispatchInv op (streamHandler.elim callbacks handlerCallbacks) as c :=
    run_history (I := DispatchInv op (streamHandler.elim callbacks handlerCallbacks))
      (fun as c a c' h hstep => h.step hhandler hstep) hrun (dispatchInv_init _ _ user)
  obtain ⟨executor, hs, _, htasks⟩ := hinv.executor
  refine ⟨⟨executor, hs, htasks, ?_⟩, hinv.heard⟩
  rw [← htasks, Executor.taken, List.filter_append]
  exact List.prefix_append _ _

/-- An event that a worker begins, the close of the client, and an event after it. -/
theorem dispatch_run_shutdown :
    let callbacks : Callbacks Nat Nat :=
      { onStreamEvent := some fun user _ => (user + 1, .error (.external user))
        onStreamError := some fun user _ => (user + 1, .ok (some false))
        onStreamClosed := none }
    let shapeType : String → ShapeType Nat := fun name => ⟨name, false, fun _ => .ok 7⟩
    let op : ClientOperation (HandlerState Nat Nat) Nat :=
      { codec := ⟨fun _ => .ok "null", fun _ => .ok .null⟩
        shapeIndex := ⟨[]⟩
        responseType := shapeType "Response"
        responseStreamType := some (shapeType "Event")
        streamHandler := some (createStreamHandler callbacks) }
    let message : String → Act Nat := fun name => .network (.message
      { headers := [⟨"service-model-type", .string name⟩,
          ⟨":content-type", .string "application/json"⟩]
        messageType := .applicationMessage })
    let as : List (Act Nat) :=
      [.written (.ok ()), message "Response", message "Event", .other 3, .begin, .shutdown,
        message "Event", .network .closed]
    ∃ c, run (step op) { operation := { handlerState := { user := 0, executor := some {} } } } as =
        some c ∧ DispatchSpec op callbacks (log as) c := by
  intro callbacks shapeType op message as
  obtain ⟨c, hc⟩ : ∃ c, run (step op)
      { operation := { handlerState := { user := 0, executor := some {} } } } as = some c :=
    ⟨_, rfl⟩
  have hmade : handleStreamHandler true none callbacks = .ok (createStreamHandler callbacks) := rfl
  exact ⟨c, hc, dispatch_run hmade rfl hc⟩

end IotCore.Greengrass.ClientV2
