import IotCore.Library.Machine
import IotCore.Model.Mqtt.IotShadow

/-! # Runs of a service client

The connection, its user and the server act in any order. The future of a call is decided by
whatever comes first, and the callback of a subscription is called once for each message. -/

namespace IotCore.Mqtt

open Machine

variable {ε : Type}

/-! ## What the actions say -/

/-- The outcome that a callback gives to a future that nobody cancelled. -/
def DoneCallback.outcome : DoneCallback → Ack ε → Except (Error ε) (Option Nat)
  | _, .error e => .error (.connection e)
  | .onPuback, .ok _ => .ok none
  | .onSuback, .ok none => .error .keyError
  | .onSuback, .ok (some qos) => .ok (some qos)

/-- What an action makes of the pending future of the call `i`. -/
def decides (i : Nat) (waiting : Option DoneCallback) : Act ε → Option (ClientFuture ε)
  | .cancel j => if j = i then some .cancelled else none
  | .complete j ack =>
      if j = i then waiting.map fun callback => .done (callback.outcome ack) else none
  | _ => none

/-- The future of the call `i` after the actions: the first that decides it. -/
def settled (i : Nat) (call : Call ε) (as : List (Act ε)) : ClientFuture ε :=
  match call.future with
  | .pending => (as.findSome? (decides i call.waiting)).getD .pending
  | future => future

/-- The messages for the subscription `i`. -/
def deliveries (i : Nat) (as : List (Act ε)) : List (List Char × List UInt8) :=
  as.filterMap fun
    | .deliver j topic payload => if j = i then some (topic, payload) else none
    | _ => none

/-- What the callback of the subscription `i` was called with. -/
def heardBy (i : Nat) (heard : List (Nat × Option Obj)) : List (Option Obj) :=
  heard.filterMap fun call => if call.1 = i then some call.2 else none

/-- The calls that were made, with what the connection was asked for. -/
def made (B : Builtins) (as : List (Act ε)) : List (Option Sent × Call ε) :=
  as.filterMap fun
    | .call method => (method.run B).toOption
    | _ => none

def errors (B : Builtins) (as : List (Act ε)) : List (Error ε) :=
  as.filterMap fun
    | .call method =>
        match method.run B with
        | .error e => some e
        | .ok _ => none
    | _ => none

/-- What becomes of the call `i`. -/
structure CallSpec (B : Builtins) (i : Nat) (call : Call ε) (as : List (Act ε)) (s : State ε) :
    Prop where
  future : ∃ call', s.calls[i]? = some call' ∧ call'.future = settled i call as
  heard : heardBy i s.heard = (deliveries i as).map fun delivery =>
    call.subscription.bind fun subscription =>
      callbackWrapper B subscription.response delivery.2
  matching : ∀ delivery ∈ deliveries i as, ∃ subscription, call.subscription = some subscription ∧
    matchTopic subscription.topic delivery.1 = true

/-- What becomes of a client. -/
structure ClientSpec (B : Builtins) (as : List (Act ε)) (s : State ε) : Prop where
  sent : s.sent = (made B as).flatMap fun call => call.1.toList
  raised : s.raised = errors B as
  calls : ∀ pre method post sent call, as = pre ++ .call method :: post →
    method.run B = .ok (sent, call) → CallSpec B (made B pre).length call post s

/-! ## Futures -/

theorem run_pending (callback : DoneCallback) (ack : Ack ε) :
    callback.run .pending ack = .done (callback.outcome ack) := by
  cases callback <;> rcases ack with e | _ | qos <;> rfl

theorem run_of_ne {future : ClientFuture ε} (h : future ≠ .pending) (callback : DoneCallback)
    (ack : Ack ε) : callback.run future ack = future := by
  cases callback <;> rcases ack with e | _ | qos <;>
    simp [DoneCallback.run, onPuback, onSuback, future.set_of_ne h]

theorem settled_of_ne {call : Call ε} (h : call.future ≠ .pending) (i : Nat) (as : List (Act ε)) :
    settled i call as = call.future := by
  rw [settled]
  split
  · rename_i hpending
    exact absurd hpending h
  · rfl

theorem settled_pending {call : Call ε} (h : call.future = .pending) (i : Nat)
    (as : List (Act ε)) :
    settled i call as = (as.findSome? (decides i call.waiting)).getD .pending := by
  rw [settled, h]

/-! ## One action -/

/-- An action takes the call `i` to `call'`, and its callback may have been called. -/
structure Follows (B : Builtins) (i : Nat) (call : Call ε) (s : State ε) (a : Act ε)
    (call' : Call ε) (s' : State ε) : Prop where
  get : s'.calls[i]? = some call'
  subscription : call'.subscription = call.subscription
  settled : ∀ as, settled i call' as = settled i call (a :: as)
  heard : heardBy i s'.heard = heardBy i s.heard ++ (deliveries i [a]).map fun delivery =>
    call.subscription.bind fun subscription =>
      callbackWrapper B subscription.response delivery.2
  matching : ∀ delivery ∈ deliveries i [a], ∃ subscription,
    call.subscription = some subscription ∧ matchTopic subscription.topic delivery.1 = true

section

variable {B : Builtins} {i : Nat} {call : Call ε} {s s' : State ε} {a : Act ε}

theorem settled_cons_of_none (h : decides i call.waiting a = none) (as : List (Act ε)) :
    settled i call (a :: as) = settled i call as := by
  by_cases hpending : call.future = .pending
  · rw [settled_pending hpending, settled_pending hpending, List.findSome?_cons, h]
  · rw [settled_of_ne hpending, settled_of_ne hpending]

/-- The action does not concern the call. -/
theorem follows_same (hi : s'.calls[i]? = some call) (hheard : heardBy i s'.heard = heardBy i s.heard)
    (hdecides : decides i call.waiting a = none) (hdeliveries : deliveries i [a] = []) :
    Follows B i call s a call s' where
  get := hi
  subscription := rfl
  settled as := (settled_cons_of_none hdecides as).symm
  heard := by simp [hheard, hdeliveries]
  matching := by simp [hdeliveries]

theorem follows_cancel (hi : s.calls[i]? = some call) :
    Follows B i call s (.cancel i) { call with future := call.future.cancel }
      { s with calls := s.calls.set i { call with future := call.future.cancel } } where
  get := by
    obtain ⟨hlt, _⟩ := List.getElem?_eq_some_iff.mp hi
    simp [hlt]
  subscription := rfl
  settled as := by
    by_cases hpending : call.future = .pending
    · rw [settled_pending hpending, List.findSome?_cons]
      simp [settled, hpending, decides]
    · rw [call.future.cancel_of_ne hpending]
      exact (settled_of_ne hpending i as).trans (settled_of_ne hpending i _).symm
  heard := by simp [deliveries]
  matching := by simp [deliveries]

theorem follows_complete {callback : DoneCallback} (hi : s.calls[i]? = some call)
    (hwaiting : call.waiting = some callback) (ack : Ack ε) :
    Follows B i call s (.complete i ack)
      { call with waiting := none, future := callback.run call.future ack }
      { s with calls :=
          s.calls.set i { call with waiting := none, future := callback.run call.future ack } } where
  get := by
    obtain ⟨hlt, _⟩ := List.getElem?_eq_some_iff.mp hi
    simp [hlt]
  subscription := rfl
  settled as := by
    by_cases hpending : call.future = .pending
    · rw [settled_pending hpending, List.findSome?_cons]
      simp [settled, hpending, run_pending, decides, hwaiting]
    · have hrun := run_of_ne hpending callback ack
      rw [hrun, settled_of_ne hpending]
      have hset : ({ call with waiting := none } : Call ε).future ≠ .pending := hpending
      exact settled_of_ne hset i as
  heard := by simp [deliveries]
  matching := by simp [deliveries]

theorem step_follows (hi : s.calls[i]? = some call) (hstep : step B s a = some s') :
    ∃ call', Follows B i call s a call' s' := by
  obtain ⟨hlt, _⟩ := List.getElem?_eq_some_iff.mp hi
  cases a with
  | call method =>
      rw [step] at hstep
      split at hstep
      · cases hstep
        exact ⟨call, follows_same hi rfl rfl rfl⟩
      · cases hstep
        exact ⟨call, follows_same (by simp [List.getElem?_append_left hlt, hi]) rfl rfl rfl⟩
  | cancel j =>
      obtain ⟨other, hj, rfl⟩ := Option.map_eq_some_iff.mp hstep
      by_cases hij : j = i
      · subst j
        obtain rfl : call = other := by simpa [hi] using hj
        exact ⟨_, follows_cancel hi⟩
      · exact ⟨call, follows_same (by simp [hij, hi]) rfl (by simp [decides, hij]) rfl⟩
  | complete j ack =>
      obtain ⟨other, hj, hstep⟩ := Option.bind_eq_some_iff.mp hstep
      obtain ⟨callback, hcallback, rfl⟩ := Option.map_eq_some_iff.mp hstep
      by_cases hij : j = i
      · subst j
        obtain rfl : call = other := by simpa [hi] using hj
        exact ⟨_, follows_complete hi hcallback ack⟩
      · exact ⟨call, follows_same (by simp [hij, hi]) rfl (by simp [decides, hij]) rfl⟩
  | deliver j topic payload =>
      obtain ⟨other, hj, hstep⟩ := Option.bind_eq_some_iff.mp hstep
      obtain ⟨subscription, hsubscription, hstep⟩ := Option.bind_eq_some_iff.mp hstep
      rw [Option.ite_none_right_eq_some, Option.some.injEq] at hstep
      obtain ⟨hmatch, rfl⟩ := hstep
      by_cases hij : j = i
      · subst j
        obtain rfl : call = other := by simpa [hi] using hj
        refine ⟨call, hi, rfl, fun as => ?_, ?_, ?_⟩
        · rw [settled_cons_of_none rfl]
        · simp [heardBy, deliveries, hsubscription]
        · simpa [deliveries] using ⟨subscription, hsubscription, hmatch⟩
      · exact ⟨call, follows_same hi (by simp [heardBy, hij]) rfl (by simp [deliveries, hij])⟩

end

/-! ## Runs -/

section

variable {B : Builtins} {s t : State ε} {as : List (Act ε)}

theorem deliveries_cons (i : Nat) (a : Act ε) (as : List (Act ε)) :
    deliveries i (a :: as) = deliveries i [a] ++ deliveries i as := by
  rw [← List.singleton_append, deliveries, List.filterMap_append]
  rfl

theorem run_follows {i : Nat} {call : Call ε} (hrun : run (step B) s as = some t)
    (hi : s.calls[i]? = some call) :
    (∃ call', t.calls[i]? = some call' ∧ call'.future = settled i call as) ∧
      (heardBy i t.heard = heardBy i s.heard ++ (deliveries i as).map fun delivery =>
        call.subscription.bind fun subscription =>
          callbackWrapper B subscription.response delivery.2) ∧
      ∀ delivery ∈ deliveries i as, ∃ subscription, call.subscription = some subscription ∧
        matchTopic subscription.topic delivery.1 = true := by
  induction as generalizing s call with
  | nil =>
      obtain rfl : s = t := by simpa using hrun
      refine ⟨⟨call, hi, ?_⟩, by simp [deliveries], by simp [deliveries]⟩
      cases hfuture : call.future <;> simp [settled, hfuture]
  | cons a as ih =>
      obtain ⟨s', ha, hrun⟩ := run_cons_eq_some.mp hrun
      obtain ⟨call', hfollows⟩ := step_follows hi ha
      obtain ⟨⟨final, hget, hfuture⟩, hheard, hmatching⟩ := ih hrun hfollows.get
      rw [hfollows.subscription] at hheard hmatching
      refine ⟨⟨final, hget, by rw [hfuture, hfollows.settled]⟩, ?_, ?_⟩
      · rw [hheard, hfollows.heard, deliveries_cons i a as]
        simp
      · intro delivery hdelivery
        rw [deliveries_cons, List.mem_append] at hdelivery
        exact hdelivery.elim (hfollows.matching delivery) (hmatching delivery)

/-- The log, and the calls that can be in it. -/
structure LogInv (B : Builtins) (as : List (Act ε)) (s : State ε) : Prop where
  sent : s.sent = (made B as).flatMap fun call => call.1.toList
  raised : s.raised = errors B as
  length : s.calls.length = (made B as).length
  heard : ∀ call ∈ s.heard, call.1 < s.calls.length

theorem LogInv.quiet {a : Act ε} (h : LogInv B as s) (hmade : made B [a] = [])
    (herrors : errors B [a] = []) (hsent : t.sent = s.sent) (hraised : t.raised = s.raised)
    (hlength : t.calls.length = s.calls.length) (hheard : ∀ call ∈ t.heard, call.1 < s.calls.length) :
    LogInv B (as ++ [a]) t := by
  have hmade' : made B (as ++ [a]) = made B as ++ made B [a] := List.filterMap_append
  have herrors' : errors B (as ++ [a]) = errors B as ++ errors B [a] := List.filterMap_append
  rw [hmade, List.append_nil] at hmade'
  rw [herrors, List.append_nil] at herrors'
  exact ⟨by rw [hmade', hsent, h.sent], by rw [herrors', hraised, h.raised],
    by rw [hmade', hlength, h.length], hlength ▸ hheard⟩

theorem LogInv.step {a : Act ε} (h : LogInv B as s) (hstep : step B s a = some t) :
    LogInv B (as ++ [a]) t := by
  cases a with
  | call method =>
      rw [Mqtt.step] at hstep
      split at hstep
      · rename_i e he
        cases hstep
        refine ⟨?_, ?_, ?_, h.heard⟩
        · simp [h.sent, made, he, Except.toOption]
        · simp [h.raised, errors, he]
        · simp [h.length, made, he, Except.toOption]
      · rename_i sent call hcall
        cases hstep
        refine ⟨?_, ?_, ?_, fun c hc => ?_⟩
        · simp [h.sent, made, hcall, Except.toOption]
        · simp [h.raised, errors, hcall]
        · simp [h.length, made, hcall, Except.toOption]
        · have hlt := h.heard c hc
          rw [List.length_append]
          omega
  | cancel j =>
      obtain ⟨other, hj, rfl⟩ := Option.map_eq_some_iff.mp hstep
      exact h.quiet rfl rfl rfl rfl (by simp) h.heard
  | complete j ack =>
      obtain ⟨other, hj, hstep⟩ := Option.bind_eq_some_iff.mp hstep
      obtain ⟨callback, hcallback, rfl⟩ := Option.map_eq_some_iff.mp hstep
      exact h.quiet rfl rfl rfl rfl (by simp) h.heard
  | deliver j topic payload =>
      obtain ⟨other, hj, hstep⟩ := Option.bind_eq_some_iff.mp hstep
      obtain ⟨subscription, hsubscription, hstep⟩ := Option.bind_eq_some_iff.mp hstep
      rw [Option.ite_none_right_eq_some, Option.some.injEq] at hstep
      obtain ⟨hmatch, rfl⟩ := hstep
      obtain ⟨hlt, _⟩ := List.getElem?_eq_some_iff.mp hj
      refine h.quiet rfl rfl rfl rfl rfl fun c hc => ?_
      rcases List.mem_append.mp hc with hc | hc
      · exact h.heard c hc
      · obtain rfl := List.mem_singleton.mp hc
        exact hlt

theorem logInv_run (hrun : run (Mqtt.step B) {} as = some s) : LogInv B as s :=
  run_history (I := LogInv B) (fun _ _ _ _ h hstep => h.step hstep) hrun
    ⟨rfl, rfl, rfl, by simp⟩

theorem callSpec_run {pre post : List (Act ε)} {method : Method ε} {sent : Option Sent}
    {call : Call ε} (hrun : run (step B) {} (pre ++ .call method :: post) = some s)
    (hmethod : method.run B = .ok (sent, call)) : CallSpec B (made B pre).length call post s := by
  obtain ⟨m, hpre, hrest⟩ := run_append_eq_some.mp hrun
  obtain ⟨m', hcall, hpost⟩ := run_cons_eq_some.mp hrest
  have hlog := logInv_run hpre
  rw [step, hmethod] at hcall
  cases hcall
  have hi : (m.calls ++ [call])[(made B pre).length]? = some call := by simp [← hlog.length]
  have hnone : heardBy (made B pre).length m.heard = [] := by
    rw [heardBy, List.filterMap_eq_nil_iff]
    intro c hc
    have hlt := hlog.heard c hc
    rw [hlog.length] at hlt
    simp [Nat.ne_of_lt hlt]
  obtain ⟨hfuture, hheard, hmatching⟩ := run_follows hpost hi
  exact ⟨hfuture, by simpa [hnone] using hheard, hmatching⟩

theorem serviceClient_run (hrun : run (step B) {} as = some s) : ClientSpec B as s where
  sent := (logInv_run hrun).sent
  raised := (logInv_run hrun).raised
  calls := by
    rintro pre method post sent call rfl hmethod
    exact callSpec_run hrun hmethod

end

/-- A subscription whose future is cancelled before it is acknowledged, and a request without
the name of a thing. -/
theorem serviceClient_run_cancelled :
    let B : Builtins := .noText
    let request : Request :=
      ⟨IotShadow.deleteShadowSubscriptionRequest, [.json (.str "lamp")]⟩
    let as : List (Act Unit) :=
      [.call (.subscribe IotShadow.subscribeToDeleteShadowAccepted request 1 true (.future none)),
        .deliver 0 "$aws/things/lamp/shadow/delete/accepted".toList [255], .cancel 0,
        .complete 0 (.ok (some 1)),
        .call (.publish IotShadow.publishGetShadow ⟨IotShadow.getShadowRequest, [.none, .none]⟩ 1
          (.future none))]
    ∃ s, run (step B) {} as = some s ∧ ClientSpec B as s := by
  intro B request as
  obtain ⟨s, hs⟩ : ∃ s, run (step B) {} as = some s := ⟨_, rfl⟩
  exact ⟨s, hs, serviceClient_run hs⟩

end IotCore.Mqtt
