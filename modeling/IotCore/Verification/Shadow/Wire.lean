import IotCore.Library.Machine
import IotCore.Verification.Shadow.Messages
import IotCore.Verification.Shadow.Publishing

/-! # A session on the wire

The program over its client is a run of the session model: it publishes what the model does, the
futures tell it the same, and it publishes nothing before the subscriptions for the responses
have succeeded. -/

namespace IotCore.Shadow.Wire

open Machine
open Json (dumps)
open Mqtt (Obj Builtins Reply Ack Call)

variable {B : Builtins} {cfg : Config}

/-! ## Steps -/

/-- The client after a call that returned. -/
def made (client : Mqtt.State Nat) (sent : Mqtt.Sent) (call : Call Nat) : Mqtt.State Nat :=
  { client with calls := client.calls ++ [call], sent := client.sent ++ [sent] }

/-- A call whose future of the connection is done. -/
def settle (call : Call Nat) (callback : Mqtt.DoneCallback) (ack : Ack Nat) : Call Nat :=
  { call with waiting := none, future := callback.run call.future ack }

/-- What a reply means for the future of a publish. -/
def ackOutcome : Ack Nat → Except Exn Unit
  | .ok _ => .ok ()
  | .error id => .error (.external id)

def replyOutcome : Reply Nat → Option (Except Exn Unit)
  | .raises id => some (.error (.external id))
  | .future ack => ack.map ackOutcome

/-- The steps of the session that have nothing to do with the client. -/
def Action.inner : Action → Option Shadow.Action
  | .typed t value => some (.start t (.typed value))
  | .acquire t => some (.acquire t)
  | .advance t => some (.advance t)
  | .release t => some (.release t)
  | _ => none

inductive Step (B : Builtins) (cfg : Config) (s : State) : Action → State → Prop where
  | subscribed {handler reply} (hnext : handlers[s.subscriptions.length]? = some handler)
      (hawaited : s.results s.awaited = some (.ok ())) :
      Step B cfg s (.subscribe reply)
        { s with
          client := made s.client (.subscribe (handler.filter cfg) 1)
            (.start (some ⟨handler.filter cfg, handler.operation.response⟩) .onSuback reply)
          subscriptions := s.subscriptions ++ [s.client.calls.length] }
  | subacked {n i call callback ack} (hn : s.subscriptions[n]? = some i)
      (hcall : s.client.calls[i]? = some call) (hwaiting : call.waiting = some callback) :
      Step B cfg s (.suback n ack)
        { s with client :=
          { s.client with calls := s.client.calls.set i (settle call callback ack) } }
  | abandoned {t session} (h : Shadow.step cfg s.session (.start t (.delta none)) = some session) :
      Step B cfg s (.abandon t) { s with session, abandoned := true }
  | message {t n topic payload handler i call subscription session}
      (hn : handlers[n]? = some handler)
      (hi : s.subscriptions[n]? = some i) (hcall : s.client.calls[i]? = some call)
      (hsubscription : call.subscription = some subscription)
      (h : Shadow.step cfg s.session (.start t (handler.task
        (Mqtt.callbackWrapper B subscription.response payload))) = some session) :
      Step B cfg s (.message t n topic payload)
        { s with
          session
          client :=
            { s.client with
              heard := s.client.heard ++
                [(i, Mqtt.callbackWrapper B subscription.response payload)] } }
  | inner {a a' session} (ha : a.inner = some a')
      (h : Shadow.step cfg s.session a' = some session) : Step B cfg s a { s with session }
  | queried {t session} (hnext : handlers[s.subscriptions.length]? = none)
      (hawaited : s.results s.awaited = some (.ok ()))
      (h : Shadow.step cfg s.session (.start t .query) = some session) :
      Step B cfg s (.query t) { s with session }
  | silent {t token reply block session} (hpc : s.session.pc t = .inside block)
      (hnone : requestOf cfg s.session token block = none)
      (h : Shadow.step cfg s.session (.body t token (replyOutcome reply)) = some session) :
      Step B cfg s (.body t token reply) { s with session }
  | published {t token reply block publish session} (hpc : s.session.pc t = .inside block)
      (hpublish : Publishes cfg s.session token block publish)
      (h : Shadow.step cfg s.session (.body t token (replyOutcome reply)) = some session) :
      Step B cfg s (.body t token reply)
        { s with
          session
          client := made s.client (sentOf B publish) (.start none .onPuback reply)
          publishes := s.publishes ++ [s.client.calls.length] }
  | pubacked {t f i call callback ack outcome session} (hf : s.publishes[f]? = some i)
      (hcall : s.client.calls[i]? = some call) (hwaiting : call.waiting = some callback)
      (houtcome : result (settle call callback ack).future = some outcome)
      (h : Shadow.step cfg s.session (.puback t f outcome) = some session) :
      Step B cfg s (.puback t f ack)
        { s with
          session
          client := { s.client with calls := s.client.calls.set i (settle call callback ack) } }

theorem result_start (reply : Reply Nat) :
    result (Call.start none .onPuback reply).future = replyOutcome reply := by
  cases reply with
  | raises id => rfl
  | future ack =>
      rcases ack with _ | id | qos <;> rfl

/-- The call that a block makes is the one of its publish. -/
theorem run_request {session : Shadow.State} {token : String} {block : Block}
    {op : Mqtt.PublishOperation} {request : Mqtt.Request}
    (h : requestOf cfg session token block = some (op, request))
    (hvalues : BlockValues cfg (Converts B) block) (reply : Reply Nat) :
    ∃ publish, Publishes cfg session token block publish ∧
      (Mqtt.Method.publish op request 1 reply).run B =
        .ok (some (sentOf B publish), .start none .onPuback reply) := by
  rcases publishes_cases cfg session token block with hnone | ⟨publish, hpublish⟩
  · rw [h] at hnone
    cases hnone
  · refine ⟨publish, hpublish, ?_⟩
    cases hpublish with
    | change hne hpublish =>
        simp only [requestOf, hne, Bool.false_eq_true, ↓reduceIte, Option.some.injEq,
          Prod.mk.injEq] at h
        obtain ⟨rfl, rfl⟩ := h
        exact run_publishUpdate hpublish (convertible_payload hpublish hvalues) reply
    | query hpublish =>
        simp only [requestOf, Option.some.injEq, Prod.mk.injEq] at h
        obtain ⟨rfl, rfl⟩ := h
        exact run_publishGet hpublish reply

section

variable {s s' : State}

theorem take_eq_some {a : Shadow.Action} :
    s.take cfg a = some s' ↔
      ∃ session, Shadow.step cfg s.session a = some session ∧ { s with session } = s' := by
  simp [State.take]

theorem act_call {method : Mqtt.Method Nat} {sent : Mqtt.Sent} {call : Call Nat}
    (h : method.run B = .ok (some sent, call)) :
    s.act B (.call method) = some { s with client := made s.client sent call } := by
  simp [State.act, Mqtt.step, h, made]

/-- The future of a publish, when the call returns. -/
theorem result_made (sent : Mqtt.Sent) (reply : Reply Nat) :
    result (State.future
      { s with client := made s.client sent (.start none .onPuback reply) }
      s.client.calls.length) = replyOutcome reply := by
  simp [State.future, made, result_start]

theorem act_complete {i : Nat} {ack : Ack Nat} (h : s.act B (.complete i ack) = some s') :
    ∃ call callback, s.client.calls[i]? = some call ∧ call.waiting = some callback ∧
      s' = { s with client :=
        { s.client with calls := s.client.calls.set i (settle call callback ack) } } := by
  rw [State.act, Option.map_eq_some_iff] at h
  obtain ⟨client, hstep, rfl⟩ := h
  obtain ⟨call, hcall, hstep⟩ := Option.bind_eq_some_iff.mp hstep
  obtain ⟨callback, hwaiting, rfl⟩ := Option.map_eq_some_iff.mp hstep
  exact ⟨call, callback, hcall, hwaiting, rfl⟩

theorem act_deliver {i : Nat} {topic : List Char} {payload : List UInt8}
    (h : s.act B (.deliver i topic payload) = some s') :
    ∃ call subscription, s.client.calls[i]? = some call ∧
      call.subscription = some subscription ∧
      s' = { s with client :=
        { s.client with heard := s.client.heard ++
          [(i, Mqtt.callbackWrapper B subscription.response payload)] } } := by
  rw [State.act, Option.map_eq_some_iff] at h
  obtain ⟨client, hstep, rfl⟩ := h
  obtain ⟨call, hcall, hstep⟩ := Option.bind_eq_some_iff.mp hstep
  obtain ⟨subscription, hsubscription, hstep⟩ := Option.bind_eq_some_iff.mp hstep
  rw [Option.ite_none_right_eq_some] at hstep
  obtain ⟨_, hstep⟩ := hstep
  cases hstep
  exact ⟨call, subscription, hcall, hsubscription, rfl⟩

theorem step_inner {a : Action} {a' : Shadow.Action} (ha : a.inner = some a')
    (h : s.take cfg a' = some s') : Step B cfg s a s' := by
  obtain ⟨session, hsession, rfl⟩ := take_eq_some.mp h
  exact .inner ha hsession

theorem step_cases {a : Action} (hvalues : Values cfg (Converts B) s.session)
    (h : step B cfg s a = some s') : Step B cfg s a s' := by
  cases a with
  | subscribe reply =>
      simp only [step] at h
      split at h
      · rename_i handler hnext _ hawaited
        rw [act_call (run_subscribe handler reply)] at h
        cases h
        exact .subscribed hnext hawaited
      · cases h
  | suback n ack =>
      obtain ⟨i, hi, h⟩ := Option.bind_eq_some_iff.mp h
      obtain ⟨call, callback, hcall, hwaiting, rfl⟩ := act_complete h
      exact .subacked hi hcall hwaiting
  | abandon t =>
      simp only [step] at h
      split at h
      · rename_i hpc _ _
        cases h
        refine .abandoned ?_
        simp [Shadow.step, hpc, State.mayStart, firstBlock, isQuery]
      · cases h
  | message t n topic payload =>
      simp only [step] at h
      split at h
      · rename_i handler i hn hi
        obtain ⟨m, hact, h⟩ := Option.bind_eq_some_iff.mp h
        obtain ⟨heard, hheard, h⟩ := Option.bind_eq_some_iff.mp h
        obtain ⟨call, subscription, hcall, hsubscription, rfl⟩ := act_deliver hact
        obtain ⟨session, hsession, rfl⟩ := take_eq_some.mp h
        simp only [List.getLast?_append, List.getLast?_singleton, Option.some_or,
          Option.some.injEq] at hheard
        subst hheard
        exact .message hn hi hcall hsubscription hsession
      · cases h
  | query t =>
      simp only [step] at h
      split at h
      · rename_i hnext _ hawaited
        obtain ⟨session, hsession, rfl⟩ := take_eq_some.mp h
        exact .queried hnext hawaited hsession
      · cases h
  | body t token reply =>
      simp only [step] at h
      split at h
      · rename_i block hpc
        split at h
        · rename_i hnone
          obtain ⟨session, hsession, rfl⟩ := take_eq_some.mp h
          refine .silent hpc hnone ?_
          simpa [Shadow.step, hpc, body_of_silent hnone (replyOutcome reply)] using hsession
        · rename_i op request hrequest
          have hblock := hvalues t block (by simp [hpc, Pc.block])
          obtain ⟨publish, hpublish, hrun⟩ := run_request hrequest hblock reply
          rw [act_call hrun, Option.bind_some] at h
          obtain ⟨session, hsession, rfl⟩ := take_eq_some.mp h
          rw [result_made] at hsession
          exact .published hpc hpublish hsession
      · cases h
  | puback t f ack =>
      obtain ⟨i, hi, h⟩ := Option.bind_eq_some_iff.mp h
      obtain ⟨m, hact, h⟩ := Option.bind_eq_some_iff.mp h
      obtain ⟨outcome, houtcome, h⟩ := Option.bind_eq_some_iff.mp h
      obtain ⟨call, callback, hcall, hwaiting, rfl⟩ := act_complete hact
      obtain ⟨session, hsession, rfl⟩ := take_eq_some.mp h
      refine .pubacked hi hcall hwaiting ?_ hsession
      have hlt := (List.getElem?_eq_some_iff.mp hcall).1
      simpa [State.future, hlt] using houtcome
  | typed t value | acquire t | advance t | release t => exact step_inner rfl h

end

/-! ## The invariant -/

/-- What a step of the program is for the session. An exception of a subscription takes the main
thread to where an event that is None takes a handler. -/
def sessionAction (B : Builtins) : Action → Option Shadow.Action
  | .subscribe _ | .suback _ _ => none
  | .abandon t => some (.start t (.delta none))
  | .message t n _ payload => handlers[n]?.map fun handler => .start t (handler.hears B payload)
  | .query t => some (.start t .query)
  | .body t token reply => some (.body t token (replyOutcome reply))
  | .puback t f ack => some (.puback t f (ackOutcome ack))
  | a => a.inner

/-- The call of a subscription. -/
structure Subscription (handler : Handler) (call : Call Nat) : Prop where
  response : ∀ subscription, call.subscription = some subscription →
    subscription.response = handler.operation.response
  waiting : ∀ callback, call.waiting = some callback → call.future = .pending

/-- The call of a publish, and its future in the session. -/
structure Tells (call : Call Nat) (future : Future Unit Exn) : Prop where
  outcome : future.outcome = result call.future
  waiting : ∀ callback, call.waiting = some callback →
    callback = .onPuback ∧ call.future = .pending

/-- The calls of the program: the subscriptions, and after all of them the publishes. -/
structure Calls (requests : List Publish) (s : State) : Prop where
  subscriptions : s.subscriptions = List.range s.subscriptions.length
  atMost : s.subscriptions.length ≤ handlers.length
  publishes : s.publishes = (List.range requests.length).map (handlers.length + ·)
  length : s.client.calls.length = s.subscriptions.length + requests.length
  early : s.subscriptions.length < handlers.length → requests = []
  subscription : ∀ n < s.subscriptions.length, ∃ handler call, handlers[n]? = some handler ∧
    s.client.calls[n]? = some call ∧ Subscription handler call
  publish : ∀ f < requests.length, ∃ call, s.client.calls[handlers.length + f]? = some call ∧
    Tells call (s.session.future f)

/-- What the main thread has waited for. -/
structure Awaited (s : State) : Prop where
  /-- the pairs before its last subscription -/
  pairs : ∀ n < (s.subscriptions.length - 1) / 2 * 2, result (s.future n) = some (.ok ())
  queried : s.session.queried = true → s.subscriptions.length = handlers.length ∧
    ∀ n < handlers.length, result (s.future n) = some (.ok ())

structure Inv (B : Builtins) (cfg : Config) (requests : List Publish) (as : List Action)
    (s : State) : Prop where
  session : run (Shadow.step cfg) Shadow.init (as.filterMap (sessionAction B)) = some s.session
  raised : s.client.raised = []
  sent : s.client.sent = ((handlers.take s.subscriptions.length).map fun handler =>
    .subscribe (handler.filter cfg) 1) ++ requests.map (sentOf B)
  log : Log cfg requests s.session
  values : Values cfg (Converts B) s.session
  asked : Asked s.session
  calm : s.subscriptions.length < handlers.length → Calm s.session
  calls : Calls requests s
  awaited : Awaited s

section

variable {requests : List Publish} {as : List Action} {s s' : State}

theorem Calls.getElem?_subscriptions (h : Calls requests s) {n i : Nat}
    (hn : s.subscriptions[n]? = some i) : i = n ∧ n < s.subscriptions.length := by
  have hlt := (List.getElem?_eq_some_iff.mp hn).1
  rw [h.subscriptions, List.getElem?_range hlt] at hn
  exact ⟨(Option.some.inj hn).symm, hlt⟩

theorem Calls.getElem?_publishes (h : Calls requests s) {f i : Nat}
    (hf : s.publishes[f]? = some i) : i = handlers.length + f ∧ f < requests.length := by
  rw [h.publishes, List.getElem?_map, Option.map_eq_some_iff] at hf
  obtain ⟨g, hg, rfl⟩ := hf
  have hlt := (List.getElem?_eq_some_iff.mp hg).1
  rw [List.length_range] at hlt
  rw [List.getElem?_range hlt] at hg
  exact ⟨by rw [Option.some.inj hg], hlt⟩

/-- Steps of the session that leave the calls of the client alone. -/
theorem Calls.frame (h : Calls requests s) (hcalls : s'.client.calls = s.client.calls)
    (hsubscriptions : s'.subscriptions = s.subscriptions) (hpublishes : s'.publishes = s.publishes)
    (hfuture : s'.session.future = s.session.future) : Calls requests s' := by
  refine ⟨?_, ?_, ?_, ?_, ?_, ?_, ?_⟩
  · rw [hsubscriptions]
    exact h.subscriptions
  · rw [hsubscriptions]
    exact h.atMost
  · rw [hpublishes]
    exact h.publishes
  · rw [hcalls, hsubscriptions]
    exact h.length
  · rw [hsubscriptions]
    exact h.early
  · rw [hsubscriptions, hcalls]
    exact h.subscription
  · rw [hcalls, hfuture]
    exact h.publish

/-- A subscription that has succeeded stays so. -/
theorem Awaited.frame (h : Awaited s) (hsubscriptions : s'.subscriptions = s.subscriptions)
    (hfuture : ∀ n < handlers.length, result (s.future n) = some (.ok ()) →
      result (s'.future n) = some (.ok ()))
    (hatMost : s.subscriptions.length ≤ handlers.length)
    (hqueried : s'.session.queried = true → s.session.queried = true ∨
      s.subscriptions.length = handlers.length ∧
        ∀ n < handlers.length, result (s.future n) = some (.ok ())) : Awaited s' := by
  refine ⟨fun n hn => ?_, fun hq => ?_⟩
  · rw [hsubscriptions] at hn
    exact hfuture n (by omega) (h.pairs n hn)
  · obtain ⟨hlength, hall⟩ := (hqueried hq).elim h.queried id
    exact ⟨hsubscriptions ▸ hlength, fun n hn => hfuture n hn (hall n hn)⟩

/-- A step of the session alone. -/
theorem Inv.inner (h : Inv B cfg requests as s) {a : Action} {a' : Shadow.Action}
    (ha : sessionAction B a = some a') (hstep : Shadow.step cfg s.session a' = some s'.session)
    (hsilent : Silent cfg s.session a') (hpuback : ∀ t f outcome, a' ≠ .puback t f outcome)
    (hcalm : s.subscriptions.length < handlers.length → ∀ t task block, a' = .start t task →
      firstBlock cfg task = some block → BlockCalm block)
    (hvalues : ∀ t task block, a' = .start t task → firstBlock cfg task = some block →
      BlockValues cfg (Converts B) block)
    (hquery : ∀ t, a' = .start t .query → s.subscriptions.length = handlers.length ∧
      ∀ n < handlers.length, result (s.future n) = some (.ok ()))
    (hclient : s'.client.calls = s.client.calls ∧ s'.client.sent = s.client.sent ∧
      s'.client.raised = s.client.raised)
    (hsubscriptions : s'.subscriptions = s.subscriptions)
    (hpublishes : s'.publishes = s.publishes) :
    Inv B cfg requests (as ++ [a]) s' := by
  obtain ⟨hcalls, hsent, hraised⟩ := hclient
  have hcases := Shadow.step_cases hstep
  obtain ⟨hsame, hfuture⟩ := sameLog_step hcases hsilent
  have hresult : ∀ n, s'.future n = s.future n := fun n => by rw [State.future, hcalls]; rfl
  refine ⟨?_, ?_, ?_, h.log.keep hsame, h.values.step rfl hcases hvalues, h.asked.step hcases, ?_,
    ?_, ?_⟩
  · rw [List.filterMap_append, run_append_eq_some]
    exact ⟨s.session, h.session, by simpa [ha, run_singleton_eq_some] using hstep⟩
  · rw [hraised]
    exact h.raised
  · rw [hsent, hsubscriptions]
    exact h.sent
  · rw [hsubscriptions]
    exact fun hlt => (h.calm hlt).step hcases (hcalm hlt)
  · exact h.calls.frame hcalls hsubscriptions hpublishes (hfuture hpuback)
  · refine h.awaited.frame hsubscriptions (fun n _ hok => by rw [hresult, hok]) h.calls.atMost ?_
    intro hq
    rcases queried_of_step hcases hq with hq | ⟨t, ht⟩
    · exact .inl hq
    · exact .inr (hquery t ht)

theorem results_eq_ok (s : State) (calls : List Nat) :
    s.results calls = some (.ok ()) ↔ ∀ i ∈ calls, result (s.future i) = some (.ok ()) := by
  induction calls with
  | nil => simp [State.results]
  | cons i calls ih =>
      rw [State.results, List.forall_mem_cons, ← ih]
      cases hresult : result (s.future i) with
      | none => simp
      | some outcome => cases outcome <;> simp

theorem length_handlers : handlers.length = 5 := rfl

/-- What the main thread has seen when it goes on. -/
theorem Calls.awaited (h : Calls requests s) (hawaited : s.results s.awaited = some (.ok ())) :
    (∀ n < s.subscriptions.length / 2 * 2, result (s.future n) = some (.ok ())) ∧
      (s.subscriptions.length = handlers.length →
        ∀ n < handlers.length, result (s.future n) = some (.ok ())) := by
  rw [results_eq_ok, State.awaited] at hawaited
  split at hawaited
  · rename_i hlt
    refine ⟨fun n hn => hawaited n ?_, fun heq => absurd heq (Nat.ne_of_lt hlt)⟩
    rw [h.subscriptions, List.length_range, List.take_range]
    exact List.mem_range.mpr (by omega)
  · rename_i hge
    have heq : s.subscriptions.length = handlers.length :=
      Nat.le_antisymm h.atMost (Nat.le_of_not_lt hge)
    have hall : ∀ n < handlers.length, result (s.future n) = some (.ok ()) := by
      intro n hn
      refine hawaited n ?_
      rw [h.subscriptions, heq]
      exact List.mem_range.mpr hn
    exact ⟨fun n hn => hall n (by omega), fun _ => hall⟩

theorem subscription_start (handler : Handler) (filter : List Char) (reply : Reply Nat) :
    Subscription handler
      (.start (some ⟨filter, handler.operation.response⟩) .onSuback reply) := by
  cases reply with
  | raises id => exact ⟨by simp [Call.start], by simp [Call.start]⟩
  | future ack =>
      cases ack with
      | none => exact ⟨by simp [Call.start], fun _ _ => rfl⟩
      | some ack => exact ⟨by simp [Call.start], by simp [Call.start]⟩

/-- The calls that were there keep their futures when one more is made. -/
theorem future_made {n : Nat} (hn : n < s.client.calls.length)
    (hcalls : ∃ call, s'.client.calls = s.client.calls ++ [call]) : s'.future n = s.future n := by
  obtain ⟨call, hcalls⟩ := hcalls
  rw [State.future, hcalls, List.getElem?_append_left hn]
  rfl

theorem Calls.subscribed (h : Calls [] s) {handler : Handler} {call : Call Nat}
    (hnext : handlers[s.subscriptions.length]? = some handler) (hcall : Subscription handler call)
    (hcalls : s'.client.calls = s.client.calls ++ [call])
    (hsubscriptions : s'.subscriptions = s.subscriptions ++ [s.client.calls.length])
    (hpublishes : s'.publishes = s.publishes) : Calls [] s' := by
  have hlength : s.client.calls.length = s.subscriptions.length := h.length
  refine ⟨?_, ?_, ?_, ?_, fun _ => rfl, fun n hn => ?_, by simp⟩
  · rw [hsubscriptions, hlength, List.length_append, List.length_singleton, List.range_succ,
      ← h.subscriptions]
  · rw [hsubscriptions, List.length_append]
    exact (List.getElem?_eq_some_iff.mp hnext).1
  · rw [hpublishes]
    exact h.publishes
  · simp [hcalls, hsubscriptions, hlength]
  · rw [hsubscriptions, List.length_append, List.length_singleton] at hn
    rcases Nat.lt_succ_iff_lt_or_eq.mp hn with hlt | rfl
    · obtain ⟨handler', call', hhandler, hcall', hsubscription⟩ := h.subscription n hlt
      refine ⟨handler', call', hhandler, ?_, hsubscription⟩
      rw [hcalls, List.getElem?_append_left (hlength ▸ hlt)]
      exact hcall'
    · exact ⟨handler, call, hnext, by simp [hcalls, ← hlength], hcall⟩

theorem Inv.subscribed (h : Inv B cfg requests as s) {handler : Handler} (reply : Reply Nat)
    (hnext : handlers[s.subscriptions.length]? = some handler)
    (hawaited : s.results s.awaited = some (.ok ())) :
    Inv B cfg requests (as ++ [.subscribe reply])
      { s with
        client := made s.client (.subscribe (handler.filter cfg) 1)
          (.start (some ⟨handler.filter cfg, handler.operation.response⟩) .onSuback reply)
        subscriptions := s.subscriptions ++ [s.client.calls.length] } := by
  have hlt : s.subscriptions.length < handlers.length := (List.getElem?_eq_some_iff.mp hnext).1
  obtain rfl := h.calls.early hlt
  have hlength : s.client.calls.length = s.subscriptions.length := h.calls.length
  refine ⟨?_, h.raised, ?_, h.log, h.values, h.asked, fun _ => h.calm hlt,
    h.calls.subscribed hnext (subscription_start handler _ reply) rfl rfl rfl, ?_⟩
  · simpa [List.filterMap_cons, sessionAction] using h.session
  · simp [made, h.sent, List.take_add_one, hnext]
  · refine ⟨fun n hn => ?_, fun hq => absurd (h.awaited.queried hq).1 (Nat.ne_of_lt hlt)⟩
    rw [List.length_append, List.length_singleton, Nat.add_sub_cancel] at hn
    rw [future_made (by omega) ⟨_, rfl⟩]
    exact (h.calls.awaited hawaited).1 n hn

/-- The other calls keep their futures when one is settled. -/
theorem future_set {i n : Nat} {call : Call Nat} (hn : n ≠ i)
    (hcalls : s'.client.calls = s.client.calls.set i call) : s'.future n = s.future n := by
  rw [State.future, hcalls, List.getElem?_set_ne (Ne.symm hn)]
  rfl

theorem Inv.subacked (h : Inv B cfg requests as s) {n i : Nat} {call : Call Nat}
    {callback : Mqtt.DoneCallback} (ack : Ack Nat) (hn : s.subscriptions[n]? = some i)
    (hcall : s.client.calls[i]? = some call) (hwaiting : call.waiting = some callback) :
    Inv B cfg requests (as ++ [.suback n ack])
      { s with client :=
        { s.client with calls := s.client.calls.set i (settle call callback ack) } } := by
  obtain ⟨rfl, hlt⟩ := h.calls.getElem?_subscriptions hn
  obtain ⟨handler, call', hhandler, hcall', hsubscription⟩ := h.calls.subscription i hlt
  obtain rfl : call = call' := Option.some.inj (hcall.symm.trans hcall')
  have hatMost := h.calls.atMost
  refine ⟨?_, h.raised, h.sent, h.log, h.values, h.asked, h.calm, ?_, ?_⟩
  · simpa [List.filterMap_cons, sessionAction] using h.session
  · obtain ⟨hsubscriptions, _, hpublishes, hlength, hearly, hsubs, hpubs⟩ := h.calls
    refine ⟨hsubscriptions, hatMost, hpublishes, by simpa using hlength, hearly, fun m hm => ?_,
      fun f hf => ?_⟩
    · by_cases him : m = i
      · subst him
        have hbound := (List.getElem?_eq_some_iff.mp hcall).1
        exact ⟨handler, _, hhandler, List.getElem?_set_self hbound, hsubscription.response,
          by simp [settle]⟩
      · obtain ⟨handler', call', hhandler', hcall', hsubscription'⟩ := hsubs m hm
        exact ⟨handler', call', hhandler',
          (List.getElem?_set_ne (Ne.symm him)).trans hcall', hsubscription'⟩
    · obtain ⟨call', hcall', htells⟩ := hpubs f hf
      exact ⟨call', (List.getElem?_set_ne (by omega)).trans hcall', htells⟩
  · refine h.awaited.frame rfl (fun m _ hok => ?_) hatMost .inl
    have him : m ≠ i := by
      rintro rfl
      simp [State.future, hcall, hsubscription.waiting _ hwaiting, result] at hok
    rw [future_set him rfl]
    exact hok

theorem tells_start (reply : Reply Nat) (setCalls : Nat) :
    Tells (.start none .onPuback reply) ⟨replyOutcome reply, setCalls⟩ := by
  refine ⟨(result_start reply).symm, fun callback hwaiting => ?_⟩
  cases reply with
  | raises id => cases hwaiting
  | future ack =>
      cases ack with
      | none =>
          cases hwaiting
          exact ⟨rfl, rfl⟩
      | some ack => cases hwaiting

theorem Calls.published (h : Calls requests s) {publish : Publish} {call : Call Nat}
    (hlength : s.subscriptions.length = handlers.length)
    (hcalls : s'.client.calls = s.client.calls ++ [call])
    (hsubscriptions : s'.subscriptions = s.subscriptions)
    (hpublishes : s'.publishes = s.publishes ++ [s.client.calls.length])
    (hfuture : ∀ f < requests.length, s'.session.future f = s.session.future f)
    (hcall : Tells call (s'.session.future requests.length)) :
    Calls (requests ++ [publish]) s' := by
  have hcount : s.client.calls.length = handlers.length + requests.length := hlength ▸ h.length
  refine ⟨?_, ?_, ?_, ?_, fun hlt => ?_, fun n hn => ?_, fun f hf => ?_⟩
  · rw [hsubscriptions]
    exact h.subscriptions
  · rw [hsubscriptions]
    exact h.atMost
  · simp [hpublishes, hcount, List.range_succ, ← h.publishes]
  · simp [hcalls, hsubscriptions, hcount, hlength, Nat.add_assoc]
  · rw [hsubscriptions, hlength] at hlt
    exact absurd hlt (Nat.lt_irrefl _)
  · rw [hsubscriptions] at hn
    obtain ⟨handler, call', hhandler, hcall', hsubscription⟩ := h.subscription n hn
    exact ⟨handler, call', hhandler, by rw [hcalls, List.getElem?_append_left (by omega), hcall'],
      hsubscription⟩
  · rw [List.length_append, List.length_singleton] at hf
    rcases Nat.lt_succ_iff_lt_or_eq.mp hf with hlt | rfl
    · obtain ⟨call', hcall', htells⟩ := h.publish f hlt
      rw [hcalls, List.getElem?_append_left (by omega), hfuture f hlt]
      exact ⟨call', hcall', htells⟩
    · exact ⟨call, by simp [hcalls, ← hcount], hcall⟩

theorem Inv.published (h : Inv B cfg requests as s) {t : Nat} {token : String} {block : Block}
    {publish : Publish} {session : Shadow.State} (reply : Reply Nat)
    (hpc : s.session.pc t = .inside block)
    (hpublish : Publishes cfg s.session token block publish)
    (hstep : Shadow.step cfg s.session (.body t token (replyOutcome reply)) = some session) :
    Inv B cfg (requests ++ [publish]) (as ++ [.body t token reply])
      { s with
        session
        client := made s.client (sentOf B publish) (.start none .onPuback reply)
        publishes := s.publishes ++ [s.client.calls.length] } := by
  have hlength : s.subscriptions.length = handlers.length := by
    refine Nat.le_antisymm h.calls.atMost (Nat.le_of_not_lt fun hlt => ?_)
    exact hpublish.ne_none ((h.calm hlt).silent (.body t token (replyOutcome reply)) block hpc)
  have hcases := Shadow.step_cases hstep
  obtain rfl : session = body cfg s.session t token (replyOutcome reply) block := by
    cases hcases with
    | body hpc' hfresh =>
        rw [hpc] at hpc'
        cases hpc'
        rfl
  have hfuture : (body cfg s.session t token (replyOutcome reply) block).future = _ :=
    hpublish.future
  have hcount : s.client.calls.length = handlers.length + requests.length :=
    hlength ▸ h.calls.length
  refine ⟨?_, h.raised, ?_, h.log.append hpublish,
    h.values.step rfl hcases (fun _ _ _ ha => by cases ha), h.asked.step hcases,
    fun hlt => absurd hlength (Nat.ne_of_lt hlt), ?_, ?_⟩
  · rw [List.filterMap_append, run_append_eq_some]
    exact ⟨s.session, h.session, run_singleton_eq_some.mpr hstep⟩
  · simp [made, h.sent]
  · refine h.calls.published hlength rfl rfl rfl (fun f hf => ?_) ?_
    · rw [hfuture, h.log.length, Function.update_of_ne (Nat.ne_of_lt hf)]
    · rw [hfuture, h.log.length, Function.update_self]
      exact tells_start reply _
  · refine h.awaited.frame rfl (fun n hn hok => ?_) h.calls.atMost fun hq => ?_
    · rw [future_made (by omega) ⟨_, rfl⟩]
      exact hok
    · rcases queried_of_step hcases hq with hq | ⟨_, ht⟩
      · exact .inl hq
      · cases ht

theorem Inv.pubacked (h : Inv B cfg requests as s) {t f i : Nat} {call : Call Nat}
    {callback : Mqtt.DoneCallback} {ack : Ack Nat} {outcome : Except Exn Unit}
    {session : Shadow.State} (hf : s.publishes[f]? = some i)
    (hcall : s.client.calls[i]? = some call) (hwaiting : call.waiting = some callback)
    (houtcome : result (settle call callback ack).future = some outcome)
    (hstep : Shadow.step cfg s.session (.puback t f outcome) = some session) :
    Inv B cfg requests (as ++ [.puback t f ack])
      { s with
        session
        client := { s.client with calls := s.client.calls.set i (settle call callback ack) } } := by
  obtain ⟨rfl, hlt⟩ := h.calls.getElem?_publishes hf
  obtain ⟨call', hcall', htells⟩ := h.calls.publish f hlt
  obtain rfl : call = call' := Option.some.inj (hcall.symm.trans hcall')
  obtain ⟨rfl, hpending⟩ := htells.waiting _ hwaiting
  obtain rfl : outcome = ackOutcome ack := by
    cases ack <;> simpa [settle, hpending, Mqtt.DoneCallback.run, Mqtt.onPuback, result, ackOutcome,
      eq_comm] using houtcome
  have hcases := Shadow.step_cases hstep
  have hfuture := future_of_puback hcases
  obtain ⟨hsame, _⟩ := sameLog_step hcases trivial
  refine ⟨?_, h.raised, h.sent, h.log.keep hsame,
    h.values.step rfl hcases (fun _ _ _ ha => by cases ha), h.asked.step hcases, fun hlt' => ?_, ?_,
    ?_⟩
  · rw [List.filterMap_append, run_append_eq_some]
    exact ⟨s.session, h.session, run_singleton_eq_some.mpr hstep⟩
  · exact (h.calm hlt').step hcases fun _ _ _ ha => by cases ha
  · obtain ⟨hsubscriptions, hatMost, hpublishes, hlength, hearly, hsubs, hpubs⟩ := h.calls
    refine ⟨hsubscriptions, hatMost, hpublishes, by simpa using hlength, hearly, fun n hn => ?_,
      fun g hg => ?_⟩
    · obtain ⟨handler, call', hhandler, hcall'', hsubscription⟩ := hsubs n hn
      have hne : handlers.length + f ≠ n := by
        have hlt : n < s.subscriptions.length := hn
        omega
      exact ⟨handler, call', hhandler, (List.getElem?_set_ne hne).trans hcall'', hsubscription⟩
    · by_cases hfg : g = f
      · subst hfg
        have hbound := (List.getElem?_eq_some_iff.mp hcall).1
        refine ⟨_, List.getElem?_set_self hbound, ?_, by simp [settle]⟩
        rw [houtcome, hfuture, Function.update_self, Future.set, htells.outcome, hpending]
        rfl
      · obtain ⟨call', hcall'', htells'⟩ := hpubs g hg
        refine ⟨call', (List.getElem?_set_ne (by omega)).trans hcall'', ?_⟩
        simpa only [hfuture, Function.update_of_ne hfg] using htells'
  · refine h.awaited.frame rfl (fun n hn hok => ?_) h.calls.atMost fun hq => ?_
    · rw [future_set (by omega) rfl]
      exact hok
    · rcases queried_of_step hcases hq with hq | ⟨_, ht⟩
      · exact .inl hq
      · cases ht

/-- Before the last subscription there are no deltas. -/
theorem calm_task {n : Nat} {handler : Handler} {event : Option Obj} {block : Block}
    (hn : handlers[n]? = some handler) (hlt : n + 1 < handlers.length)
    (hblock : firstBlock cfg (handler.task event) = some block) : BlockCalm block := by
  have hne : handler ≠ .onShadowDeltaUpdated := by
    rintro rfl
    rw [length_handlers] at hlt
    have hcases : n = 0 ∨ n = 1 ∨ n = 2 ∨ n = 3 := by omega
    rcases hcases with rfl | rfl | rfl | rfl <;> cases hn
  cases handler with
  | onShadowDeltaUpdated => exact absurd rfl hne
  | _ =>
      cases hblock
      trivial

theorem inner_spec {a : Action} {a' : Shadow.Action} (ha : a.inner = some a') :
    sessionAction B a = some a' ∧ (∀ cfg session, Silent cfg session a') ∧
      (∀ t f outcome, a' ≠ .puback t f outcome) ∧
      ∀ t task, a' = .start t task → ∃ value, task = .typed value := by
  cases a <;> cases ha <;> simp [sessionAction, Action.inner, Silent, eq_comm]

theorem launched_of_typed {session session' : Shadow.State} {t : Nat} {value : String}
    (h : Shadow.step cfg session (.start t (.typed value)) = some session') :
    session.launched = true := by
  cases hlaunched : session.launched with
  | true => rfl
  | false => cases hpc : session.pc t <;> simp [Shadow.step, State.mayStart, hlaunched, hpc] at h

theorem inv_step (h : Inv B cfg requests as s) {a : Action} (hs : step B cfg s a = some s') :
    ∃ requests', Inv B cfg requests' (as ++ [a]) s' := by
  cases step_cases h.values hs with
  | @subscribed handler reply hnext hawaited => exact ⟨_, h.subscribed reply hnext hawaited⟩
  | subacked hn hcall hwaiting => exact ⟨_, h.subacked _ hn hcall hwaiting⟩
  | abandoned hsession =>
      refine ⟨_, h.inner rfl hsession trivial (by simp) (fun _ t task block ha hblock => ?_)
        (fun t task block ha hblock => ?_) (by simp) ⟨rfl, rfl, rfl⟩ rfl rfl⟩
      · cases ha
        cases hblock
        trivial
      · cases ha
        cases hblock
        trivial
  | @message t n topic payload handler i call subscription session hn hi hcall hsubscription
      hsession =>
      obtain ⟨rfl, hlt⟩ := h.calls.getElem?_subscriptions hi
      obtain ⟨handler', call', hhandler, hcall', hspec⟩ := h.calls.subscription i hlt
      obtain rfl : handler = handler' := Option.some.inj (hn.symm.trans hhandler)
      obtain rfl : call = call' := Option.some.inj (hcall.symm.trans hcall')
      rw [hspec.response _ hsubscription] at hsession ⊢
      refine ⟨_, h.inner (by simp [sessionAction, hn]; rfl) hsession trivial (by simp)
        (fun hearly t task block ha hblock => ?_) (fun t task block ha hblock => ?_)
        (fun t ha => ?_) ⟨rfl, rfl, rfl⟩ rfl rfl⟩
      · cases ha
        exact calm_task hn (by omega) hblock
      · cases ha
        exact values_hears hblock
      · cases handler <;> cases ha
  | @inner _ a' session ha hsession =>
      obtain ⟨haction, hsilent, hpuback, hstart⟩ := inner_spec ha
      refine ⟨_, h.inner haction hsession (hsilent cfg s.session) hpuback
        (fun hearly t task block heq hblock => ?_) (fun t task block heq hblock => ?_)
        (fun t heq => ?_) ⟨rfl, rfl, rfl⟩ rfl rfl⟩
      · obtain ⟨value, rfl⟩ := hstart t task heq
        subst heq
        have hlaunched := (h.calm hearly).launched
        rw [launched_of_typed hsession] at hlaunched
        cases hlaunched
      · obtain ⟨value, rfl⟩ := hstart t task heq
        rw [firstBlock] at hblock
        split at hblock <;> cases hblock
        · trivial
        · rfl
      · obtain ⟨value, hvalue⟩ := hstart t .query heq
        cases hvalue
  | queried hnext hawaited hsession =>
      have hlength : s.subscriptions.length = handlers.length :=
        Nat.le_antisymm h.calls.atMost (List.getElem?_eq_none_iff.mp hnext)
      refine ⟨_, h.inner rfl hsession trivial (by simp)
        (fun hearly => absurd hlength (Nat.ne_of_lt hearly)) (fun t task block ha hblock => ?_)
        (fun t _ => ⟨hlength, ?_⟩) ⟨rfl, rfl, rfl⟩ rfl rfl⟩
      · cases ha
        cases hblock
        trivial
      · exact (h.calls.awaited hawaited).2 hlength
  | @silent t token reply block session hpc hnone hsession =>
      refine ⟨_, h.inner rfl hsession (fun block' hpc' => ?_) (by simp) (by simp) (by simp)
        (by simp) ⟨rfl, rfl, rfl⟩ rfl rfl⟩
      rw [hpc] at hpc'
      cases hpc'
      exact hnone
  | published hpc hpublish hsession => exact ⟨_, h.published _ hpc hpublish hsession⟩
  | pubacked hf hcall hwaiting houtcome hsession =>
      exact ⟨_, h.pubacked hf hcall hwaiting houtcome hsession⟩

theorem inv_run (hrun : run (step B cfg) {} as = some s) :
    ∃ requests, Inv B cfg requests as s := by
  refine run_history (I := fun as s => ∃ requests, Inv B cfg requests as s) ?_ hrun ?_
  · rintro as s a s' ⟨requests, h⟩ hs
    exact inv_step h hs
  · refine ⟨[], rfl, rfl, rfl, ⟨rfl, rfl, rfl, by simp⟩, (fun _ _ hblock => by cases hblock),
      ⟨by simp [Pc.block], by simp⟩, fun _ => ⟨rfl, rfl, fun _ => trivial⟩, ?_, by simp, by simp⟩
    exact ⟨rfl, by simp, rfl, rfl, fun _ => rfl, by simp, by simp⟩

/-- Messages come for the subscriptions of the program. -/
theorem messages_run (hrun : run (step B cfg) {} as = some s) {t n : Nat} {topic : List Char}
    {payload : List UInt8} (ha : .message t n topic payload ∈ as) :
    ∃ handler, handlers[n]? = some handler := by
  refine run_history (I := fun as _ => .message t n topic payload ∈ as →
    ∃ handler, handlers[n]? = some handler) ?_ hrun (by simp) ha
  intro as s a s' h hs ha
  rcases List.mem_append.mp ha with ha | ha
  · exact h ha
  · obtain rfl := List.mem_singleton.mp ha
    simp only [step] at hs
    split at hs
    · exact ⟨_, ‹_›⟩
    · cases hs

end

/-! ## The contract -/

/-- The program as a session of the model. -/
structure WireSpec (B : Builtins) (cfg : Config) (as : List Action) (s : State) : Prop where
  session : run (Shadow.step cfg) Shadow.init (as.filterMap (sessionAction B)) = some s.session
  /-- a handler starts with what the document of its message says -/
  heard : ∀ t n topic payload, .message t n topic payload ∈ as → ∃ handler task,
    handlers[n]? = some handler ∧ handler.Hears B payload task ∧
      sessionAction B (.message t n topic payload) = some (.start t task)
  /-- no call raises -/
  raised : s.client.raised = []
  /-- the subscriptions are sent first, and then the publishes of the session -/
  sent : ∃ requests, Log cfg requests s.session ∧
    s.client.sent = ((handlers.take s.subscriptions.length).map fun handler =>
      .subscribe (handler.filter cfg) 1) ++ requests.map (sentOf B)
  futures : ∀ f < s.session.publishes,
    (s.session.future f).outcome = result (s.future (handlers.length + f))
  /-- what is asked for after a publish has a handler that listens -/
  responses : s.session.publishes ≠ 0 → s.subscriptions.length = handlers.length ∧
    ∀ n < 4, result (s.future n) = some (.ok ())
  queried : s.session.queries ≠ [] →
    ∀ n < handlers.length, result (s.future n) = some (.ok ())

theorem wire_run {as : List Action} {s : State} (hrun : run (step B cfg) {} as = some s)
    (hpaired : ∀ t n topic payload, .message t n topic payload ∈ as → Json.PairedUtf8 payload) :
    WireSpec B cfg as s := by
  obtain ⟨requests, h⟩ := inv_run hrun
  refine ⟨h.session, fun t n topic payload ha => ?_, h.raised, ⟨requests, h.log, h.sent⟩,
    fun f hf => ?_, fun hne => ?_, fun hne => (h.awaited.queried (h.asked.queries hne)).2⟩
  · obtain ⟨handler, hn⟩ := messages_run hrun ha
    exact ⟨handler, _, hn, hears_hears handler (hpaired t n topic payload ha),
      by simp [sessionAction, hn]⟩
  · obtain ⟨call, hcall, htells⟩ := h.calls.publish f (h.log.length ▸ hf)
    rw [htells.outcome, State.future, hcall]
    rfl
  · have hlength : s.subscriptions.length = handlers.length := by
      refine Nat.le_antisymm h.calls.atMost (Nat.le_of_not_lt fun hlt => hne ?_)
      rw [h.log.length, h.calls.early hlt]
      rfl
    exact ⟨hlength, fun n hn => h.awaited.pairs n (by rw [hlength]; exact hn)⟩

/-- A request for the document, and the response to it before the publish is acknowledged. -/
theorem wire_run_response :
    let B : Builtins := .noText
    let cfg : Config := { shadowThingName := "lamp", shadowThingName_ne := by decide }
    let subscribe : Action := .subscribe (.future none)
    let response := JsonText.encodeUtf8 (dumps B.toInterpreter (.obj [("clientToken", .str "t0")]))
    let as : List Action :=
      [subscribe, subscribe, .suback 1 (.ok (some 1)), .suback 0 (.ok (some 1)), subscribe,
        subscribe, .suback 2 (.ok (some 1)), .suback 3 (.ok (some 1)), subscribe,
        .suback 4 (.ok (some 1)), .query 0, .acquire 0, .body 0 "t0" (.future none),
        .message 1 2 "$aws/things/lamp/shadow/get/accepted".toList response,
        .puback 2 0 (.ok none), .advance 0, .release 0, .acquire 1]
    ∃ s, run (step B cfg) {} as = some s ∧ s.session.queries.length = 1 ∧
      WireSpec B cfg as s := by
  intro B cfg subscribe response as
  have hlength : (run (step B cfg) {} as).map (fun s => s.session.queries.length) = some 1 := by
    decide
  obtain ⟨s, hs, hqueries⟩ := Option.map_eq_some_iff.mp hlength
  refine ⟨s, hs, hqueries, wire_run hs fun t n topic payload ha => ?_⟩
  obtain rfl : payload = response := by
    simp only [as, subscribe, List.mem_cons, List.not_mem_nil, or_false, reduceCtorEq, false_or,
      Action.message.injEq] at ha
    exact ha.2.2.2
  exact Json.pairedUtf8_dumps ⟨by simp, trivial, trivial⟩

end IotCore.Shadow.Wire
