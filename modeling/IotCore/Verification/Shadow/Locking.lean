import Mathlib.Data.Fintype.EquivFin
import IotCore.Library.Machine
import IotCore.Library.Mutex
import IotCore.Verification.Shadow.Steps

/-! # The lock of a session

A thread leaves every block, as long as no publish has failed by the time that
`change_shadow_value` registers its done-callback: `add_done_callback` would then call `exit`,
which takes the lock, inside of the block. -/

namespace IotCore.Shadow

open Machine Mutex

/-! ## Places -/

/-- The thread is inside a block. -/
def Pc.holds : Pc → Bool
  | .inside _ | .addToken _ _ | .addCallback _ | .addGetToken _ _ | .reentering | .leaving _ => true
  | .idle | .waiting _ | .awaiting _ => false

/-- The thread waits for the lock. -/
def Pc.wants : Pc → Bool
  | .waiting _ | .reentering => true
  | _ => false

/-- The thread will come to see whether the publish has failed, or has come to call `exit`. -/
def Pc.concerns (f : Nat) : Pc → Bool
  | .addToken _ g | .addCallback g | .addGetToken _ g | .awaiting g | .leaving (.awaiting g) => g = f
  | .waiting .exit | .inside .exit | .leaving (.waiting .exit) => true
  | _ => false

/-- The block that a thread has come to and not run yet. -/
def Pc.block : Pc → Option Block
  | .waiting block | .inside block => some block
  | .leaving next => next.block
  | _ => none

/-- Where the body of a block leaves its thread. -/
def Pc.Entered (pc : Pc) : Prop :=
  pc.holds = true ∧ pc ≠ .reentering ∧ ∀ next, pc = .leaving next → next.holds = false

def Action.thread : Action → Nat
  | .start t _ | .acquire t | .body t _ _ | .advance t | .release t | .puback t _ _ => t

theorem entered_leaving {next : Pc} (h : next.holds = false) : (Pc.leaving next).Entered :=
  ⟨rfl, by simp, fun _ hnext => by cases hnext; exact h⟩

theorem leave_eq (s : State) (t : Nat) (next : Except Exn (Option Block)) :
    ∃ pc, s.leave t next = s.goto t (.leaving pc) ∧ pc.holds = false ∧
      ∀ block, pc.block = some block → block = .exit ∨ next = .ok (some block) := by
  unfold State.leave
  rcases next with e | _ | block
  · exact ⟨_, rfl, rfl, by simp [Pc.block]⟩
  · exact ⟨_, rfl, rfl, by simp [Pc.block]⟩
  · exact ⟨_, rfl, rfl, by simp [Pc.block]⟩

/-- The body of a block keeps the lock and moves its own thread only. -/
theorem Body.place {cfg : Config} {s s' : State} {t : Nat} {token : String}
    {outcome : Option (Except Exn Unit)} {block : Block}
    (h : Body cfg s t token outcome block s') :
    s'.lock = s.lock ∧ ∃ pc, s'.pc = Function.update s.pc t pc ∧ pc.Entered ∧
      ∀ block', pc.block = some block' → block' = .exit ∨ block.next cfg s = .ok (some block') := by
  have leave : ∀ (s' : State) next, s'.lock = s.lock → s'.pc = s.pc →
      (next = block.next cfg s ∨ next = .ok none) →
        (s'.leave t next).lock = s.lock ∧
          ∃ pc, (s'.leave t next).pc = Function.update s.pc t pc ∧ pc.Entered ∧
            ∀ block', pc.block = some block' →
              block' = .exit ∨ block.next cfg s = .ok (some block') := by
    intro s' next hlock hpc hnext
    obtain ⟨pc, he, hout, hblock⟩ := leave_eq s' t next
    rw [he]
    refine ⟨hlock, _, by rw [← hpc]; rfl, entered_leaving hout, fun block' hblock' => ?_⟩
    refine (hblock block' hblock').imp id fun hnext' => ?_
    rcases hnext with rfl | rfl
    · exact hnext'
    · cases hnext'
  cases h with
  | recognized => exact leave _ _ rfl rfl (.inl rfl)
  | same | setLocal | exitAgain | exit => exact leave _ _ rfl rfl (.inr rfl)
  | @ignored _ clientToken =>
      obtain ⟨seen, hsee⟩ := see_eq s clientToken
      rw [hsee]
      exact leave _ _ rfl rfl (.inr rfl)
  | malformed => exact ⟨rfl, _, rfl, entered_leaving rfl, by simp [Pc.block]⟩
  | changed | query => exact ⟨rfl, _, rfl, ⟨rfl, by simp, by simp⟩, by simp [Pc.block]⟩

/-! ## The lock invariant -/

/-- The lock is held by the thread that is inside a block. -/
structure LockInv (s : State) : Prop where
  owned : Owned (fun pc : Pc => pc.holds = true) s.lock s.pc
  next : ∀ t next, s.pc t = .leaving next → next.holds = false

theorem LockInv.goto {s : State} {lock : Option Nat} {t : Nat} {pc : Pc} (h : LockInv s)
    (howned : Owned (fun pc : Pc => pc.holds = true) lock (Function.update s.pc t pc))
    (hnext : ∀ next, pc = .leaving next → next.holds = false) :
    LockInv { s with lock := lock, pc := Function.update s.pc t pc } := by
  refine ⟨howned, fun u next => ?_⟩
  by_cases hu : u = t
  · simpa [hu] using hnext next
  · simpa [hu] using h.next u next

/-- The invariant only speaks of the lock and the places of the threads. -/
theorem LockInv.frame {s s' : State} (h : LockInv s) (hlock : s'.lock = s.lock)
    (hpc : s'.pc = s.pc) : LockInv s' := by
  refine ⟨?_, ?_⟩
  · rw [hlock, hpc]
    exact h.owned
  · rw [hpc]
    exact h.next

/-- A thread that moves on without entering or leaving a block. -/
theorem LockInv.keep {s s' : State} {t : Nat} {pc : Pc} (h : LockInv s) (hlock : s'.lock = s.lock)
    (hpc : s'.pc = Function.update s.pc t pc) (hholds : pc.holds = (s.pc t).holds)
    (hnext : ∀ next, pc = .leaving next → next.holds = false) : LockInv s' :=
  (h.goto (h.owned.keep (by rw [hholds])) hnext).frame hlock hpc

theorem lockInv_init : LockInv init :=
  ⟨fun t => by simp [init, Pc.holds], by simp [init]⟩

theorem LockInv.step {cfg : Config} {s s' : State} {a : Action} (h : LockInv s)
    (hs : Step cfg s a s') : LockInv s' := by
  cases hs with
  | skipped hpc hblock => exact h.frame rfl rfl
  | started hpc hblock => exact h.keep rfl rfl (by simp [hpc, Pc.holds]) (by simp)
  | acquired hpc hlock =>
      have howned := h.owned
      rw [hlock] at howned
      exact h.goto (howned.acquire rfl) (by simp)
  | @body t token outcome block hpc hfresh =>
      obtain ⟨hlock, pc, hpc', ⟨hholds, _, hnext⟩, _⟩ := (body_cases cfg s t token outcome block).place
      exact h.keep hlock hpc' (by rw [hholds, hpc]; rfl) hnext
  | tokenAdded hpc | reentered hpc hf => exact h.keep rfl rfl (by simp [hpc, Pc.holds]) (by simp)
  | getTokenAdded hpc | registered hpc hf | succeeded hpc hf =>
      exact h.keep rfl rfl (by simp [hpc, Pc.holds]) (entered_leaving rfl).2.2
  | resulted hpc hf | resultFailed hpc hf =>
      exact h.keep rfl rfl (by simp [hpc, Pc.holds]) (by simp)
  | @released t next hpc =>
      have hout := h.next t next hpc
      refine h.goto (h.owned.release (by simp [hpc, Pc.holds]) (by simp [hout])) ?_
      rintro next' rfl
      simp [Pc.holds] at hout
  | acked hpc => exact h.frame rfl rfl
  | ackFailed hpc hf => exact h.keep rfl rfl (by simp [hpc, Pc.holds]) (by simp)

/-! ## Done-callbacks inside of a block -/

/-- No thread waits for the lock inside of a block. -/
def Calm (s : State) : Prop := ∀ t, s.pc t ≠ .reentering

/-- No publish has failed when its done-callback is registered. -/
def publishAlive (s : State) : Action → Bool
  | .advance t =>
      match s.pc t with
      | .addCallback f =>
          match (s.future f).outcome with
          | some (.error _) => false
          | _ => true
      | _ => true
  | _ => true

theorem Calm.move {s s' : State} {t : Nat} {pc : Pc} (h : Calm s)
    (hpc : s'.pc = Function.update s.pc t pc) (hne : pc ≠ .reentering) : Calm s' := by
  intro u
  by_cases hu : u = t
  · simpa [hpc, hu] using hne
  · simpa [hpc, hu] using h u

theorem Calm.step {cfg : Config} {s s' : State} {a : Action} (hlock : LockInv s) (h : Calm s)
    (hs : Step cfg s a s') (halive : publishAlive s a) : Calm s' := by
  cases hs with
  | skipped | acked => exact h
  | started | acquired | tokenAdded | getTokenAdded | registered | succeeded | resulted
  | resultFailed | ackFailed => exact h.move rfl (by simp)
  | @body t token outcome block hpc hfresh =>
      obtain ⟨_, pc, hpc', ⟨_, hne, _⟩, _⟩ := (body_cases cfg s t token outcome block).place
      exact h.move hpc' hne
  | reentered hpc hf => simp [publishAlive, hpc, hf] at halive
  | released hpc =>
      have hout := hlock.next _ _ hpc
      refine h.move rfl ?_
      rintro rfl
      simp [Pc.holds] at hout

/-! ## Failed publishes -/

/-- The publish has been acknowledged, or may still fail and has its done-callback, or `exit`
has been called, or a thread will come to see to it. -/
def Tracked (s : State) (f : Nat) : Prop :=
  (s.future f).outcome = some (.ok ()) ∨
    (s.future f).outcome = none ∧ s.registered f = true ∨
    s.data.disconnectCalled = true ∨ ∃ t, (s.pc t).concerns f = true

/-- A step of one thread that leaves the futures alone. -/
theorem Tracked.move {s s' : State} {t f : Nat} {pc : Pc} (h : Tracked s f)
    (hfuture : s'.future f = s.future f) (hregistered : s.registered f = true → s'.registered f = true)
    (hcalled : s.data.disconnectCalled = true → s'.data.disconnectCalled = true)
    (hpc : s'.pc = Function.update s.pc t pc)
    (hmine : (s.pc t).concerns f = true → Tracked s' f) : Tracked s' f := by
  rcases h with h | ⟨h, hr⟩ | h | ⟨u, hu⟩
  · exact .inl (hfuture ▸ h)
  · exact .inr (.inl ⟨hfuture ▸ h, hregistered hr⟩)
  · exact .inr (.inr (.inl (hcalled h)))
  · by_cases hut : u = t
    · subst hut
      exact hmine hu
    · exact .inr (.inr (.inr ⟨u, by simpa [hpc, hut] using hu⟩))

theorem tracked_at {s : State} {t f : Nat} {pc : Pc} (hpc : s.pc t = pc)
    (h : pc.concerns f = true) : Tracked s f :=
  .inr (.inr (.inr ⟨t, by rw [hpc]; exact h⟩))

/-- No block touches the futures of earlier publishes or takes `disconnect_called` back. -/
theorem Body.frame {cfg : Config} {s s' : State} {t : Nat} {token : String}
    {outcome : Option (Except Exn Unit)} {block : Block}
    (h : Body cfg s t token outcome block s') :
    s'.registered = s.registered ∧ (∀ f < s.publishes, s'.future f = s.future f) ∧
      (s.data.disconnectCalled = true → s'.data.disconnectCalled = true) := by
  cases h with
  | @ignored _ clientToken =>
      obtain ⟨seen, hsee⟩ := see_eq s clientToken
      rw [hsee]
      exact ⟨rfl, fun _ _ => rfl, id⟩
  | changed | query =>
      refine ⟨rfl, fun f hf => ?_, id⟩
      exact Function.update_of_ne (Nat.ne_of_lt hf) ..
  | exit => exact ⟨rfl, fun _ _ => rfl, fun _ => rfl⟩
  | _ => exact ⟨rfl, fun _ _ => rfl, id⟩

/-- A thread that has come to call `exit` does so. -/
theorem Body.called {cfg : Config} {s s' : State} {t f : Nat} {token : String}
    {outcome : Option (Except Exn Unit)} {block : Block}
    (h : Body cfg s t token outcome block s') (hmine : (Pc.inside block).concerns f = true) :
    s'.data.disconnectCalled = true := by
  cases block with
  | exit =>
      cases h with
      | exitAgain hcalled => exact hcalled
      | exit => rfl
      | recognized hblock | ignored hblock | malformed hblock => cases hblock
  | _ => cases hmine

theorem Tracked.body {cfg : Config} {s s' : State} {t f : Nat} {token : String}
    {outcome : Option (Except Exn Unit)} {block : Block} (hpc : s.pc t = .inside block)
    (hs : Body cfg s t token outcome block s') (h : f < s.publishes → Tracked s f)
    (hf : f < s'.publishes) : Tracked s' f := by
  by_cases hold : f < s.publishes
  · obtain ⟨_, pc, hpc', _⟩ := hs.place
    obtain ⟨hregistered, hfuture, hcalled⟩ := hs.frame
    refine (h hold).move (hfuture f hold) (fun hr => hregistered ▸ hr) hcalled hpc' fun hmine => ?_
    exact .inr (.inr (.inl (hs.called (hpc ▸ hmine))))
  · -- the future of the publish that the block makes
    cases hs with
    | changed | query =>
        have hnew : s.publishes = f := by
          have hlt : f < s.publishes + 1 := hf
          omega
        refine tracked_at (Function.update_self t ..) ?_
        simpa [Pc.concerns] using hnew
    | @ignored _ clientToken =>
        obtain ⟨seen, hsee⟩ := see_eq s clientToken
        rw [hsee] at hf
        exact absurd hf hold
    | _ => exact absurd hf hold

theorem concerns_of_leaving {f : Nat} {next : Pc} (h : (Pc.leaving next).concerns f = true) :
    next.concerns f = true := by
  cases next with
  | awaiting g => exact h
  | waiting block =>
      cases block with
      | exit => rfl
      | _ => cases h
  | _ => cases h

theorem Tracked.step {cfg : Config} {s s' : State} {a : Action} (hs : Step cfg s a s')
    (halive : publishAlive s a) (h : ∀ f < s.publishes, Tracked s f) :
    ∀ f < s'.publishes, Tracked s' f := by
  intro f hf
  cases hs with
  | skipped hpc hblock => exact h f hf
  | @started t task block hpc hblock =>
      exact (h f hf).move (t := t) rfl id id rfl fun hmine => by simp [hpc, Pc.concerns] at hmine
  | @acquired t block hpc hlock =>
      refine (h f hf).move (t := t) rfl id id rfl fun hmine => ?_
      refine tracked_at (t := t) (Function.update_self ..) ?_
      rw [hpc] at hmine
      cases block <;> simp_all [Pc.concerns]
  | @body t token outcome block hpc hfresh =>
      exact Tracked.body hpc (body_cases cfg s t token outcome block) (h f) hf
  | @tokenAdded t token g hpc | @getTokenAdded t token g hpc =>
      refine (h f hf).move (t := t) rfl id id rfl fun hmine => ?_
      refine tracked_at (t := t) (Function.update_self ..) ?_
      simpa [hpc, Pc.concerns] using hmine
  | @registered t g hpc hg =>
      refine (h f hf).move (t := t) rfl (fun hr => ?_) id rfl fun hmine => ?_
      · change Function.update s.registered g true f = true
        by_cases hfg : f = g
        · simp [hfg]
        · simpa [hfg] using hr
      · obtain rfl : g = f := by simpa [hpc, Pc.concerns] using hmine
        exact .inr (.inl ⟨hg, Function.update_self ..⟩)
  | @succeeded t g hpc hg | @resulted t g hpc hg =>
      refine (h f hf).move (t := t) rfl id id rfl fun hmine => ?_
      obtain rfl : g = f := by simpa [hpc, Pc.concerns] using hmine
      exact .inl hg
  | reentered hpc hg => simp [publishAlive, hpc, hg] at halive
  | @resultFailed t g e hpc hg =>
      exact tracked_at (t := t) (Function.update_self ..) rfl
  | @released t next hpc =>
      refine (h f hf).move (t := t) rfl id id rfl fun hmine => ?_
      refine tracked_at (t := t) (Function.update_self ..) ?_
      rw [hpc] at hmine
      exact concerns_of_leaving hmine
  | @acked t g outcome hpc hg hpending hquiet =>
      by_cases hfg : f = g
      · subst hfg
        have hnone : (s.future f).outcome = none := by simpa [Future.done] using hpending
        rcases h f hf with hok | ⟨_, hregistered⟩ | hcalled | ht
        · rw [hnone] at hok
          cases hok
        · obtain rfl := hquiet.resolve_left (by simp [hregistered])
          exact .inl (by simp [Future.set, hnone])
        · exact .inr (.inr (.inl hcalled))
        · exact .inr (.inr (.inr ht))
      · have hsame : (Function.update s.future g ((s.future g).set outcome)) f = s.future f :=
          Function.update_of_ne hfg ..
        rcases h f hf with hok | ⟨hnone, hregistered⟩ | hcalled | ht
        · exact .inl ((congrArg Future.outcome hsame).trans hok)
        · exact .inr (.inl ⟨(congrArg Future.outcome hsame).trans hnone, hregistered⟩)
        · exact .inr (.inr (.inl hcalled))
        · exact .inr (.inr (.inr ht))
  | @ackFailed t g e hpc hg =>
      exact tracked_at (t := t) (Function.update_self ..) rfl

/-! ## Runs -/

/-- `exit` calls `disconnect` once. -/
theorem disconnects_step {cfg : Config} {s s' : State} {a : Action} (hs : Step cfg s a s')
    (h : s.disconnects = if s.data.disconnectCalled then 1 else 0) :
    s'.disconnects = if s'.data.disconnectCalled then 1 else 0 := by
  cases hs with
  | @body t token outcome block hpc hfresh =>
      have hbody := body_cases cfg s t token outcome block
      generalize body cfg s t token outcome block = s' at hbody
      cases hbody with
      | @ignored _ clientToken =>
          obtain ⟨seen, hsee⟩ := see_eq s clientToken
          rw [hsee]
          exact h
      | exit hcalled => simpa [hcalled, State.leave, State.goto] using h
      | _ => exact h
  | _ => exact h

theorem session_run {cfg : Config} {as : List Action} {s : State}
    (h : run (step cfg) init as = some s)
    (hall : AllSteps (step cfg) (fun s a => publishAlive s a) init as) :
    LockInv s ∧ Calm s ∧ (∀ f < s.publishes, Tracked s f) ∧
      s.disconnects = if s.data.disconnectCalled then 1 else 0 := by
  refine run_invariant_of (P := fun s a => publishAlive s a)
    (I := fun s => LockInv s ∧ Calm s ∧ (∀ f < s.publishes, Tracked s f) ∧
      s.disconnects = if s.data.disconnectCalled then 1 else 0)
    (fun s a s' hI halive hs => ?_) h hall ?_
  · obtain ⟨hlock, hcalm, htracked, hdisconnects⟩ := hI
    have hs := step_cases hs
    exact ⟨hlock.step hs, hcalm.step hlock hs halive, Tracked.step hs halive htracked,
      disconnects_step hs hdisconnects⟩
  · exact ⟨lockInv_init, by simp [Calm, init], by simp [init], rfl⟩

/-- The thread inside a block can go on. -/
theorem holder_enabled {cfg : Config} {s : State} {t : Nat} (h : LockInv s) (hcalm : Calm s)
    (hlock : s.lock = some t) : ∃ a, a.thread = t ∧ (step cfg s a).isSome := by
  have hholds := (h.owned t).mp hlock
  cases hpc : s.pc t with
  | idle | waiting | awaiting => simp [hpc, Pc.holds] at hholds
  | inside block =>
      obtain ⟨token, hfresh⟩ := Infinite.exists_notMem_finset (s.issued ∪ s.seen)
      exact ⟨.body t token none, rfl, by simp [step, hpc, hfresh]⟩
  | addToken token f | addGetToken token f => exact ⟨.advance t, rfl, by simp [step, hpc]⟩
  | addCallback f =>
      refine ⟨.advance t, rfl, ?_⟩
      cases hf : (s.future f).outcome with
      | none => simp [step, hpc, hf]
      | some outcome => cases outcome <;> simp [step, hpc, hf]
  | reentering => exact absurd hpc (hcalm t)
  | leaving next => exact ⟨.release t, rfl, by simp [step, hpc]⟩

/-! ## The contract -/

/-- No thread waits for a lock that it holds, so that the lock is always handed on, and a
failed publish ends the session. -/
structure LockingSpec (cfg : Config) (s : State) : Prop where
  selfWait : ∀ t, (s.pc t).wants → s.lock ≠ some t
  holder : ∀ t, s.lock = some t → ∃ a, a.thread = t ∧ (step cfg s a).isSome
  waiter : ∀ t, (s.pc t).wants → s.lock = none → (step cfg s (.acquire t)).isSome
  failed : ∀ f < s.publishes, ∀ e, (s.future f).outcome = some (.error e) →
    s.data.disconnectCalled = true ∨ ∃ t, (s.pc t).concerns f
  settled : (∀ t, s.pc t = .idle) →
    ∀ f < s.publishes, ∀ e, (s.future f).outcome = some (.error e) → s.disconnects = 1

/-- A session does not deadlock on its own lock, provided that no publish has failed by the
time that its done-callback is registered. -/
theorem lockingSpec_run {cfg : Config} {as : List Action} {s : State}
    (h : run (step cfg) init as = some s)
    (hall : AllSteps (step cfg) (fun s a => publishAlive s a) init as) : LockingSpec cfg s := by
  obtain ⟨hlock, hcalm, htracked, hdisconnects⟩ := session_run h hall
  have hfailed : ∀ f < s.publishes, ∀ e, (s.future f).outcome = some (.error e) →
      s.data.disconnectCalled = true ∨ ∃ t, (s.pc t).concerns f := by
    intro f hf e he
    rcases htracked f hf with hok | ⟨hnone, _⟩ | hcalled
    · simp [he] at hok
    · simp [he] at hnone
    · exact hcalled
  refine ⟨?_, fun t ht => holder_enabled hlock hcalm ht, ?_, hfailed, ?_⟩
  · intro t hwants
    refine hlock.owned.not_owner ?_
    have hcalm := hcalm t
    cases hpc : s.pc t <;> simp_all [Pc.wants, Pc.holds]
  · intro t hwants hfree
    have hcalm := hcalm t
    cases hpc : s.pc t <;> simp_all [Pc.wants, step]
  · intro hidle f hf e he
    rcases hfailed f hf e he with hcalled | ⟨t, ht⟩
    · simpa [hcalled] using hdisconnects
    · simp [hidle, Pc.concerns] at ht

/-- A publish that has failed when it returns: the input thread calls `exit` inside of
`change_shadow_value`. -/
theorem not_lockingSpec_run :
    ¬∀ cfg as s, run (step cfg) init as = some s → LockingSpec cfg s := by
  intro h
  let cfg : Config := { shadowThingName := "thing", shadowThingName_ne := by decide }
  let as : List Action :=
    [.start 0 .query, .acquire 0, .body 0 "get" none, .advance 0, .release 0,
      .puback 1 0 (.ok ()), .advance 0, .start 2 (.typed "on"), .acquire 2,
      .body 2 "update" (some (.error (.external 0))), .advance 2, .advance 2]
  have hrun : (run (step cfg) init as).any (fun s => (s.pc 2).wants && s.lock == some 2) := by
    decide +kernel
  obtain ⟨s, hs, hself⟩ := (Option.any_eq_true _ _).mp hrun
  simp only [Bool.and_eq_true, beq_iff_eq] at hself
  exact (h cfg as s hs).selfWait 2 hself.1 hself.2

/-- A publish that fails on the event loop after it was registered. -/
theorem lockingSpec_run_failed :
    let cfg : Config := { shadowThingName := "thing", shadowThingName_ne := by decide }
    let as : List Action :=
      [.start 0 .query, .acquire 0, .body 0 "get" none, .advance 0, .release 0,
        .puback 1 0 (.ok ()), .advance 0, .start 2 (.typed "on"), .acquire 2,
        .body 2 "update" none, .advance 2, .advance 2, .release 2,
        .puback 1 1 (.error (.external 0)), .acquire 1, .body 1 "" none, .release 1]
    ∃ s, run (step cfg) init as = some s ∧ LockingSpec cfg s := by
  intro cfg as
  obtain ⟨s, hs⟩ := Option.isSome_iff_exists.mp
    (show (run (step cfg) init as).isSome by decide +kernel)
  exact ⟨s, hs, lockingSpec_run hs (by decide +kernel)⟩

end IotCore.Shadow
