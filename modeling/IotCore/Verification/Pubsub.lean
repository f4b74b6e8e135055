import Mathlib.Data.List.Nodup
import Mathlib.Data.List.Perm.Subperm
import Mathlib.Order.Nat
import IotCore.Library.Machine
import IotCore.Model.Pubsub

/-! # Whether a bounded run of `pubsub.py` can finish

The event is set by the callback of the subscription. The program of the workshop has none, so
it waits forever. The sample it was made from finishes, but it counts deliveries and not
messages. -/

namespace IotCore.Pubsub

open Machine

variable {p : Program} {args : Args}

/-! ## What one step does -/

inductive StepCases (p : Program) (args : Args) (s : State) : Action → State → Prop where
  | connected (hpc : s.pc = .connecting) :
      StepCases p args s .connected
        { s with pc := if p.subscribes then .subscribing else start args }
  | subscribed (hpc : s.pc = .subscribing) :
      StepCases p args s .subscribed
        { s with subscriptions := s.subscriptions ++ [args.topic], pc := start args }
  | publish {n} (r) (hpc : s.pc = .publishing n) (hloops : loops args n) :
      StepCases p args s (.publish r)
        { s with published := s.published ++ [p.message args.message n r], pc := .publishing (n + 1) }
  | leave {n} (hpc : s.pc = .publishing n) (hloops : ¬loops args n) :
      StepCases p args s .leave { s with pc := .waiting }
  | wake (hpc : s.pc = .waiting) (hevent : s.receivedAllEvent) :
      StepCases p args s .wake { s with pc := .disconnecting }
  | disconnected (hpc : s.pc = .disconnecting) :
      StepCases p args s .disconnected { s with pc := .finished }
  | deliver {k i} (hpc : s.pc ≠ .finished) (hk : s.subscriptions[k]? = some args.topic)
      (hi : i < s.published.length) :
      StepCases p args s (.deliver k i)
        (onMessageReceived args { s with received := s.received ++ [(k, i)] })

theorem step_cases {s s' : State} {a : Action} (hs : step p args s a = some s') :
    StepCases p args s a s' := by
  cases a with
  | connected =>
      simp only [step, Option.ite_none_right_eq_some, Option.some.injEq] at hs
      obtain ⟨hpc, rfl⟩ := hs
      exact .connected hpc
  | subscribed =>
      simp only [step, Option.ite_none_right_eq_some, Option.some.injEq] at hs
      obtain ⟨hpc, rfl⟩ := hs
      exact .subscribed hpc
  | publish r =>
      cases hpc : s.pc <;> simp only [step, hpc] at hs <;> try cases hs
      simp only [Option.ite_none_right_eq_some, Option.some.injEq] at hs
      obtain ⟨hloops, rfl⟩ := hs
      exact .publish r hpc hloops
  | leave =>
      cases hpc : s.pc <;> simp only [step, hpc] at hs <;> try cases hs
      simp only [Option.ite_none_left_eq_some, Option.some.injEq] at hs
      obtain ⟨hloops, rfl⟩ := hs
      exact .leave hpc hloops
  | wake =>
      simp only [step, Option.ite_none_right_eq_some, Option.some.injEq] at hs
      obtain ⟨⟨hpc, hevent⟩, rfl⟩ := hs
      exact .wake hpc hevent
  | disconnected =>
      simp only [step, Option.ite_none_right_eq_some, Option.some.injEq] at hs
      obtain ⟨hpc, rfl⟩ := hs
      exact .disconnected hpc
  | deliver k i =>
      simp only [step, Option.ite_none_right_eq_some, Option.some.injEq] at hs
      obtain ⟨⟨hpc, hk, hi⟩, rfl⟩ := hs
      exact .deliver hpc hk hi

/-! ## The main thread -/

/-- The arguments ask for some number of messages. -/
structure Bounded (args : Args) : Prop where
  count : 1 ≤ args.count
  message : args.message ≠ ""

theorem Bounded.start_eq (hargs : Bounded args) : start args = .publishing 1 :=
  if_pos hargs.message

theorem Bounded.loops_iff (hargs : Bounded args) (n : Nat) : loops args n ↔ n ≤ args.count := by
  have hcount := hargs.count
  simp only [loops, Bool.or_eq_true, decide_eq_true_eq]
  omega

def Pc.pastLoop : Pc → Bool
  | .waiting | .disconnecting | .finished => true
  | _ => false

/-- What has been subscribed to by the place of the main thread. -/
def subscribed (p : Program) (args : Args) : Pc → List String
  | .connecting | .subscribing => []
  | _ => if p.subscribes then [args.topic] else []

/-- How many messages have been published by the place of the main thread. -/
def Published (args : Args) : Pc → Nat → Prop
  | .connecting, n | .subscribing, n => n = 0
  | .publishing publishCount, n => publishCount = n + 1 ∧ n ≤ args.count
  | _, n => n = args.count

structure Placed (p : Program) (args : Args) (s : State) : Prop where
  subscribing : s.pc = .subscribing → p.subscribes
  subscriptions : s.subscriptions = subscribed p args s.pc
  published : Published args s.pc s.published.length

theorem placed_step (hargs : Bounded args) {s s' : State} {a : Action} (h : Placed p args s)
    (hs : step p args s a = some s') : Placed p args s' := by
  have hcount : 0 ≤ args.count := Int.le_of_lt hargs.count
  obtain ⟨hsubscribing, hsub, hpub⟩ := h
  cases step_cases hs with
  | connected hpc =>
      simp only [hpc, subscribed, Published] at hsub hpub
      cases hp : p.subscribes <;> constructor <;>
        simp [hp, hargs.start_eq, subscribed, Published, hsub, hpub, hcount]
  | subscribed hpc =>
      simp only [hpc, subscribed, Published] at hsub hpub
      constructor <;>
        simp [hsubscribing hpc, hargs.start_eq, subscribed, Published, hsub, hpub, hcount]
  | publish r hpc hloops =>
      rw [hargs.loops_iff] at hloops
      simp only [hpc, subscribed, Published] at hsub hpub
      refine ⟨by simp, hsub, ?_⟩
      simp only [Published, List.length_append, List.length_singleton]
      omega
  | leave hpc hloops =>
      rw [hargs.loops_iff] at hloops
      simp only [hpc, subscribed, Published] at hsub hpub
      refine ⟨by simp, hsub, ?_⟩
      simp only [Published]
      omega
  | wake hpc _ | disconnected hpc =>
      rw [hpc] at hsub hpub
      exact ⟨by simp, hsub, hpub⟩
  | deliver _ _ _ => exact ⟨hsubscribing, hsub, hpub⟩

theorem placed_run (hargs : Bounded args) {as : List Action} {s : State}
    (h : run (step p args) init as = some s) : Placed p args s :=
  run_invariant (fun _ _ _ hI hs => placed_step hargs hI hs) h ⟨by simp [init], rfl, rfl⟩

/-! ## Deliveries -/

/-- What the callback has seen, and what follows from it. -/
structure Counted (args : Args) (s : State) : Prop where
  receivedCount : s.receivedCount = s.received.length
  event : s.receivedAllEvent ↔ args.count ≤ s.receivedCount
  received : ∀ d ∈ s.received, d.1 < s.subscriptions.length ∧ d.2 < s.published.length
  woken : s.pc = .disconnecting ∨ s.pc = .finished → s.receivedAllEvent

/-- The main thread takes no part in it. -/
theorem Counted.keep {s s' : State} (h : Counted args s)
    (hcount : s'.receivedCount = s.receivedCount)
    (hevent : s'.receivedAllEvent = s.receivedAllEvent) (hreceived : s'.received = s.received)
    (hsub : s.subscriptions.length ≤ s'.subscriptions.length)
    (hpub : s.published.length ≤ s'.published.length)
    (hwoken : s'.pc = .disconnecting ∨ s'.pc = .finished → s.receivedAllEvent) :
    Counted args s' where
  receivedCount := by rw [hcount, hreceived, h.receivedCount]
  event := by rw [hevent, hcount, h.event]
  received := by
    intro d hd
    rw [hreceived] at hd
    obtain ⟨hk, hi⟩ := h.received d hd
    exact ⟨hk.trans_le hsub, hi.trans_le hpub⟩
  woken := fun hpc => hevent.trans (hwoken hpc)

theorem counted_step (hargs : Bounded args) {s s' : State} {a : Action} (h : Counted args s)
    (hs : step p args s a = some s') : Counted args s' := by
  cases step_cases hs with
  | connected hpc =>
      refine h.keep rfl rfl rfl le_rfl le_rfl ?_
      cases p.subscribes <;> simp [hargs.start_eq]
  | subscribed hpc => exact h.keep rfl rfl rfl (by simp) le_rfl (by simp [hargs.start_eq])
  | publish r hpc hloops => exact h.keep rfl rfl rfl le_rfl (by simp) (by simp)
  | leave hpc hloops => exact h.keep rfl rfl rfl le_rfl le_rfl (by simp)
  | wake hpc hevent => exact h.keep rfl rfl rfl le_rfl le_rfl fun _ => hevent
  | disconnected hpc => exact h.keep rfl rfl rfl le_rfl le_rfl fun _ => h.woken (.inl hpc)
  | @deliver k i hpc hk hi =>
      refine ⟨by simp [onMessageReceived, h.receivedCount], ?_, ?_, fun hpc => ?_⟩
      · -- the count grows by one, so it does not pass the number without being equal to it
        simp only [onMessageReceived, Bool.or_eq_true, decide_eq_true_eq, h.event]
        omega
      · intro d hd
        rcases List.mem_append.mp hd with hd | hd
        · exact h.received d hd
        · obtain rfl : d = (k, i) := by simpa using hd
          obtain ⟨hlt, _⟩ := List.getElem?_eq_some_iff.mp hk
          exact ⟨hlt, hi⟩
      · simp only [onMessageReceived, Bool.or_eq_true]
        exact .inl (h.woken hpc)

theorem counted_run (hargs : Bounded args) {as : List Action} {s : State}
    (h : run (step p args) init as = some s) : Counted args s := by
  have hcount := hargs.count
  refine run_invariant (fun _ _ _ hI hs => counted_step hargs hI hs) h
    ⟨rfl, ?_, by simp [init], by simp [init]⟩
  simp [init]
  omega

/-! ## Some runs -/

theorem exists_run_publishing (p : Program) (hargs : Bounded args) (n : Nat)
    (hn : n ≤ args.count) :
    ∃ as s, run (step p args) init as = some s ∧ s.pc = .publishing (n + 1) := by
  induction n with
  | zero =>
      cases hp : p.subscribes with
      | false => exact ⟨[.connected], _, rfl, by simp [hp, hargs.start_eq]⟩
      | true =>
          refine ⟨[.connected, .subscribed],
            { init with subscriptions := [args.topic], pc := start args }, ?_, hargs.start_eq⟩
          simp [run, step, init, hp]
  | succ n ih =>
      obtain ⟨as, s, hrun, hpc⟩ := ih (by omega)
      have hloops := (hargs.loops_iff (n + 1)).mpr hn
      refine ⟨as ++ [.publish ⟨0, 0⟩],
        { s with
          published := s.published ++ [p.message args.message (n + 1) ⟨0, 0⟩]
          pc := .publishing (n + 1 + 1) }, ?_, rfl⟩
      exact run_append_eq_some.mpr ⟨s, hrun, by simp [run, step, hpc, hloops]⟩

theorem exists_run_waiting (p : Program) (hargs : Bounded args) :
    ∃ as s, run (step p args) init as = some s ∧ s.pc = .waiting := by
  have hcount := hargs.count
  obtain ⟨as, s, hrun, hpc⟩ := exists_run_publishing p hargs args.count.toNat (by omega)
  have hloops : ¬loops args (args.count.toNat + 1) := by
    rw [hargs.loops_iff]
    omega
  refine ⟨as ++ [.leave], { s with pc := .waiting }, ?_, rfl⟩
  exact run_append_eq_some.mpr ⟨s, hrun, by simp [run, step, hpc, hloops]⟩

/-- The broker delivers one message again and again. -/
theorem run_deliver {k i : Nat} (m : Nat) {s : State} (hpc : s.pc ≠ .finished)
    (hk : s.subscriptions[k]? = some args.topic) (hi : i < s.published.length) :
    ∃ s', run (step p args) s (List.replicate m (.deliver k i)) = some s' ∧
      s'.published = s.published ∧ s'.received = s.received ++ List.replicate m (k, i) := by
  induction m generalizing s with
  | zero => exact ⟨s, rfl, rfl, by simp⟩
  | succ m ih =>
      have hs : step p args s (.deliver k i) =
          some (onMessageReceived args { s with received := s.received ++ [(k, i)] }) := by
        simp [step, hpc, hk, hi]
      obtain ⟨s', hrun, hpublished, hreceived⟩ := ih
        (s := onMessageReceived args { s with received := s.received ++ [(k, i)] }) hpc hk hi
      refine ⟨s', ?_, hpublished, ?_⟩
      · rw [List.replicate_succ]
        exact run_cons_eq_some.mpr ⟨_, hs, hrun⟩
      · rw [hreceived]
        simp [onMessageReceived, List.replicate_succ]

/-! ## The contract -/

/-- The broker has no delivery left to make: each subscription to the topic was given each
message that has been published. -/
def Quiet (args : Args) (s : State) : Prop :=
  ∀ k i, s.subscriptions[k]? = some args.topic → i < s.published.length → (k, i) ∈ s.received

/-- What is expected of every reachable state. -/
structure StateSpec (p : Program) (args : Args) (s : State) : Prop where
  atMost : s.published.length ≤ args.count
  published : s.pc.pastLoop → s.published.length = args.count
  event : s.pc.pastLoop → Quiet args s → s.receivedAllEvent
  /-- the main thread goes on to its end, with nothing more from the broker -/
  finishes : s.pc.pastLoop → Quiet args s →
    ∃ as s', (∀ a ∈ as, a = .wake ∨ a = .disconnected) ∧ run (step p args) s as = some s' ∧
      s'.pc = .finished
  early : s.receivedAllEvent → ∀ i : Nat, i < args.count → ∃ k, (k, i) ∈ s.received

def FinishSpec (p : Program) (args : Args) : Prop :=
  ∀ as s, run (step p args) init as = some s → StateSpec p args s

/-! ### The number of publishes -/

theorem Placed.atMost (hargs : Bounded args) {s : State} (h : Placed p args s) :
    s.published.length ≤ args.count := by
  have hcount := hargs.count
  have hpub := h.published
  cases hpc : s.pc <;> simp only [hpc, Published] at hpub <;> omega

theorem Placed.length_published {s : State} (h : Placed p args s) (hpast : s.pc.pastLoop) :
    s.published.length = args.count := by
  have hpub := h.published
  cases hpc : s.pc <;> simp only [hpc, Pc.pastLoop, Published] at hpast hpub <;>
    first | exact hpub | cases hpast

theorem Placed.subscriptions_of_pastLoop {s : State} (h : Placed p args s)
    (hpast : s.pc.pastLoop) : s.subscriptions = if p.subscribes then [args.topic] else [] := by
  rw [h.subscriptions]
  cases hpc : s.pc <;> simp only [hpc, Pc.pastLoop, subscribed] at hpast ⊢ <;> cases hpast

/-! ### A program that subscribes -/

/-- At least one delivery of each message is enough for the count. -/
theorem event_of_quiet (hp : p.subscribes) {s : State} (hplaced : Placed p args s)
    (hcounted : Counted args s) (hpast : s.pc.pastLoop) (hquiet : Quiet args s) :
    s.receivedAllEvent := by
  have hsub : s.subscriptions = [args.topic] := by
    rw [hplaced.subscriptions_of_pastLoop hpast, if_pos hp]
  have hlen := hplaced.length_published hpast
  let first := (List.range s.published.length).map fun i => (0, i)
  have hnodup : first.Nodup := List.nodup_range.map fun i j h => (Prod.mk.inj h).2
  have hsubset : first ⊆ s.received := by
    intro d hd
    obtain ⟨i, hi, rfl⟩ := List.mem_map.mp hd
    exact hquiet 0 i (by simp [hsub]) (List.mem_range.mp hi)
  have hle : first.length ≤ s.received.length := (List.subperm_of_subset hnodup hsubset).length_le
  rw [hcounted.event, hcounted.receivedCount]
  simp only [first, List.length_map, List.length_range] at hle
  omega

theorem exists_run_finished {s : State} (hpast : s.pc.pastLoop) (hevent : s.receivedAllEvent) :
    ∃ as s', (∀ a ∈ as, a = .wake ∨ a = .disconnected) ∧ run (step p args) s as = some s' ∧
      s'.pc = .finished := by
  cases hpc : s.pc <;> simp only [hpc, Pc.pastLoop] at hpast <;> try cases hpast
  case waiting =>
      exact ⟨[.wake, .disconnected], { s with pc := .finished }, by simp,
        by simp [run, step, hpc, hevent], rfl⟩
  case disconnecting =>
      exact ⟨[.disconnected], { s with pc := .finished }, by simp, by simp [run, step, hpc], rfl⟩
  case finished => exact ⟨[], s, by simp, rfl, hpc⟩

theorem early_of_count (hcount : args.count = 1) {s : State}
    (hatMost : s.published.length ≤ args.count) (hcounted : Counted args s)
    (hevent : s.receivedAllEvent) (i : Nat) (hi : i < args.count) : ∃ k, (k, i) ∈ s.received := by
  have hpos : 0 < s.received.length := by
    have hle := hcounted.event.mp hevent
    rw [hcounted.receivedCount] at hle
    omega
  obtain ⟨d, hd⟩ := List.exists_mem_of_length_pos hpos
  obtain ⟨_, hlt⟩ := hcounted.received d hd
  obtain rfl : d.2 = i := by omega
  exact ⟨d.1, hd⟩

/-- Deliveries of the first message alone can make up the count. -/
theorem count_le_one (hargs : Bounded args) (hp : p.subscribes) (h : FinishSpec p args) :
    args.count ≤ 1 := by
  by_contra hlt
  obtain ⟨as, s, hrun, hpc⟩ := exists_run_publishing p hargs 1 (by omega)
  have hplaced := placed_run hargs hrun
  have hsub := hplaced.subscriptions
  have hpub := hplaced.published
  simp only [hpc, subscribed, Published, hp, ↓reduceIte] at hsub hpub
  have hopen : s.pc ≠ .finished := by simp [hpc]
  have hk : s.subscriptions[0]? = some args.topic := by simp [hsub]
  have hi : 0 < s.published.length := by omega
  obtain ⟨s', hdeliver, hpublished, hreceived⟩ :=
    run_deliver (p := p) args.count.toNat hopen hk hi
  have hrun' := run_append_eq_some.mpr ⟨s, hrun, hdeliver⟩
  have hcounted := counted_run hargs hrun'
  have hevent : s'.receivedAllEvent := by
    rw [hcounted.event, hcounted.receivedCount, hreceived, List.length_append,
      List.length_replicate]
    omega
  obtain ⟨k, hk⟩ := (h _ _ hrun').early hevent 1 (by omega)
  obtain ⟨_, hi⟩ := hcounted.received _ hk
  rw [hpublished] at hi
  omega

/-! ### A program that does not subscribe -/

/-- The broker has nothing to deliver, and the event is not set. -/
structure Waits (args : Args) (s : State) : Prop where
  quiet : Quiet args s
  event : ¬s.receivedAllEvent
  pc : s.pc ≠ .disconnecting ∧ s.pc ≠ .finished

theorem waits_run (hargs : Bounded args) (hp : p.subscribes = false) {as : List Action}
    {s : State} (h : run (step p args) init as = some s) : Waits args s := by
  have hcounted := counted_run hargs h
  have hsub : s.subscriptions = [] := by
    rw [(placed_run hargs h).subscriptions]
    cases s.pc <;> simp [subscribed, hp]
  have hreceived : s.received = [] := by
    refine List.eq_nil_iff_forall_not_mem.mpr fun d hd => ?_
    obtain ⟨hk, _⟩ := hcounted.received d hd
    simp [hsub] at hk
  have hevent : ¬s.receivedAllEvent := by
    have hcount := hargs.count
    rw [hcounted.event, hcounted.receivedCount, hreceived]
    simp only [List.length_nil]
    omega
  refine ⟨?_, hevent, ?_⟩
  · intro k i hk _
    simp [hsub] at hk
  · exact ⟨fun hpc => hevent (hcounted.woken (.inl hpc)), fun hpc =>
      hevent (hcounted.woken (.inr hpc))⟩

theorem subscribes_of_finishSpec (hargs : Bounded args) (h : FinishSpec p args) :
    p.subscribes := by
  cases hp : p.subscribes with
  | true => rfl
  | false =>
      obtain ⟨as, s, hrun, hpc⟩ := exists_run_waiting p hargs
      have hwaits := waits_run hargs hp hrun
      exact absurd ((h as s hrun).event (by simp [hpc, Pc.pastLoop]) hwaits.quiet) hwaits.event

/-! ### Both programs -/

/-- A program meets the contract exactly when it subscribes and publishes one message, which it
cannot mistake for another one. -/
theorem finishSpec_iff (hargs : Bounded args) :
    FinishSpec p args ↔ p.subscribes ∧ args.count = 1 := by
  constructor
  · intro h
    have hp := subscribes_of_finishSpec hargs h
    have hle := count_le_one hargs hp h
    have hge := hargs.count
    exact ⟨hp, by omega⟩
  · rintro ⟨hp, hone⟩ as s hrun
    have hplaced := placed_run hargs hrun
    have hcounted := counted_run hargs hrun
    have hatMost := hplaced.atMost hargs
    have hevent := event_of_quiet hp hplaced hcounted
    exact ⟨hatMost, hplaced.length_published, hevent,
      fun hpast hquiet => exists_run_finished hpast (hevent hpast hquiet),
      early_of_count hone hatMost hcounted⟩

/-- The sample gets to its end at every count. -/
theorem sample_finishes (hargs : Bounded args) {as : List Action} {s : State}
    (h : run (step sample args) init as = some s) (hpast : s.pc.pastLoop)
    (hquiet : Quiet args s) :
    ∃ bs s', (∀ b ∈ bs, b = .wake ∨ b = .disconnected) ∧ run (step sample args) s bs = some s' ∧
      s'.pc = .finished :=
  exists_run_finished hpast
    (event_of_quiet rfl (placed_run hargs h) (counted_run hargs h) hpast hquiet)

theorem finishSpec_sample_iff (hargs : Bounded args) : FinishSpec sample args ↔ args.count = 1 := by
  simp [finishSpec_iff hargs, sample]

/-- The program of the workshop cannot finish, whatever it is to publish. -/
theorem not_finishSpec_workshop (hcount : 1 ≤ args.count) (hmessage : args.message ≠ "") :
    ¬FinishSpec workshop args := by
  rw [finishSpec_iff ⟨hcount, hmessage⟩]
  rintro ⟨hp, _⟩
  cases hp

theorem not_finishSpec_workshop_three : ¬FinishSpec workshop { count := 3, message := "on" } :=
  not_finishSpec_workshop (by decide) (by decide)

/-- One message. -/
theorem not_finishSpec_workshop_one : ¬FinishSpec workshop { count := 1 } := by
  intro h
  have hp := subscribes_of_finishSpec ⟨by decide, by decide⟩ h
  cases hp

end IotCore.Pubsub
