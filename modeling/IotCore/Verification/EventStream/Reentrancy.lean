import IotCore.Library.Mutex
import IotCore.Model.EventStream.Threads
import IotCore.Verification.EventStream.Futures

/-! # User code and the lock of a connection

User code runs outside of the blocks, except for the done-callbacks of a closed future, which
`set_result` and `set_exception` run while the lock is held. -/

namespace IotCore.EventStream.Threads

open Connection Machine Mutex

/-! ## Stacks -/

def Frame.isInside : Frame → Bool
  | .entered _ | .leaving _ => true
  | _ => false

/-- No call of the thread is inside a block. -/
def Outside (frames : List Frame) : Prop := ∀ frame ∈ frames, frame.isInside = false

/-- The innermost call of the thread is inside a block, and no other one is. -/
def Inside : List Frame → Prop
  | .entered _ :: rest | .leaving _ :: rest => Outside rest
  | .completing _ 0 :: .leaving _ :: rest => Outside rest
  | _ => False

theorem Outside.push {frames : List Frame} {frame : Frame} (h : Outside frames)
    (hframe : frame.isInside = false) : Outside (frame :: frames) := by
  intro other hother
  rcases List.mem_cons.mp hother with rfl | hother
  · exact hframe
  · exact h other hother

theorem Outside.pop {frames : List Frame} {frame : Frame} (h : Outside (frame :: frames)) :
    Outside frames :=
  fun other hother => h other (List.mem_cons_of_mem _ hother)

theorem Outside.not_inside {frames : List Frame} (h : Outside frames) : ¬Inside frames := by
  unfold Inside
  split
  · exact absurd (h (.entered _) (List.mem_cons_self ..)) (by simp [Frame.isInside])
  · exact absurd (h (.leaving _) (List.mem_cons_self ..)) (by simp [Frame.isInside])
  · exact absurd (h.pop (.leaving _) (List.mem_cons_self ..)) (by simp [Frame.isInside])
  · exact id

/-- Done-callbacks that a block runs come before it is left. -/
theorem inside_completing {f : FutureId} {rest : List Frame}
    (h : Inside (.completing f 0 :: rest)) : Inside rest := by
  unfold Inside at h
  split at h
  · cases ‹Frame.completing f 0 :: rest = _›
  · cases ‹Frame.completing f 0 :: rest = _›
  · cases ‹Frame.completing f 0 :: rest = _›
    exact h
  · exact h.elim

/-! ## Events -/

/-- What one event does. -/
inductive Next (amender : Bool) (b : System) : Event → System → Prop where
  | call {t a} (hu : b.inUser t) (ha : isCall a) :
      Next amender b (.call t a) (b.setStack t (.waiting a :: b.stack t))
  | arrive {n a} (hnil : b.stack (.native n) = []) (ha : isBlock b.core a) :
      Next amender b (.native n a) (b.setStack (.native n) [.waiting a])
  | unlocked {n a core} (hnil : b.stack (.native n) = []) (hn : attemptOf a = some n)
      (ha : isBlock b.core a = false) (hstep : step amender b.core a = some core) :
      Next amender b (.native n a)
        ({ b with core := core }.setStack (.native n) (b.framesAfter a []))
  | acquire {t a rest} (hlock : b.lock = none) (hstack : b.stack t = .waiting a :: rest) :
      Next amender b (.acquire t) ({ b with lock := some t }.setStack t (.entered a :: rest))
  | body {t a rest core} (hstack : b.stack t = .entered a :: rest)
      (hstep : step amender b.core a = some core) :
      Next amender b (.body t)
        ({ b with core := core }.setStack t (b.framesAfter a (.leaving (result b.core a) :: rest)))
  | release {t future rest} (hstack : b.stack t = .leaving future :: rest) :
      Next amender b (.release t)
        ({ b with lock := none, handed := future.toList ++ b.handed }.setStack t rest)
  | runCallback {t f k rest} (hstack : b.stack t = .completing f (k + 1) :: rest) :
      Next amender b (.runCallback t) (b.setStack t (.callback :: .completing f k :: rest))
  | callbackReturned {t rest} (hstack : b.stack t = .callback :: rest) :
      Next amender b (.callbackReturned t) (b.setStack t rest)
  | completed {t f rest} (hstack : b.stack t = .completing f 0 :: rest) :
      Next amender b (.completed t) (b.setStack t rest)
  | observed {t f} (hu : b.inUser t) (hd : (b.core.future f).done) :
      Next amender b (.addDoneCallback t f) (b.setStack t (.callback :: b.stack t))
  | registered {t f} (hu : b.inUser t) (hd : (b.core.future f).done = false) :
      Next amender b (.addDoneCallback t f)
        { b with registered := Function.update b.registered f (b.registered f + 1) }

theorem next_cases {amender : Bool} {b b' : System} {e : Event}
    (h : next amender b e = some b') : Next amender b e b' := by
  cases e with
  | call t a =>
      simp only [next, Bool.and_eq_true, Option.ite_none_right_eq_some, Option.some.injEq] at h
      obtain ⟨⟨hu, ha⟩, rfl⟩ := h
      exact .call hu ha
  | native n a =>
      simp only [next, Option.ite_none_left_eq_some, not_or, ne_eq, not_not] at h
      obtain ⟨⟨hnil, hn⟩, h⟩ := h
      split at h
      · rename_i ha
        simp only [Option.ite_none_right_eq_some, Option.some.injEq] at h
        obtain ⟨_, rfl⟩ := h
        exact .arrive hnil ha
      · rename_i ha
        obtain ⟨core, hstep, rfl⟩ := Option.map_eq_some_iff.mp h
        exact .unlocked hnil hn (by simpa using ha) hstep
  | acquire t =>
      simp only [next] at h
      split at h
      · rename_i a rest hlock hstack
        cases h
        exact .acquire hlock hstack
      · cases h
  | body t =>
      simp only [next] at h
      split at h
      · rename_i a rest hstack
        obtain ⟨core, hstep, rfl⟩ := Option.map_eq_some_iff.mp h
        exact .body hstack hstep
      · cases h
  | release t | runCallback t | callbackReturned t | completed t =>
      simp only [next] at h
      split at h
      · rename_i hstack
        cases h
        first
        | exact .release hstack
        | exact .runCallback hstack
        | exact .callbackReturned hstack
        | exact .completed hstack
      · cases h
  | addDoneCallback t f =>
      simp only [next, Bool.and_eq_true, Option.ite_none_right_eq_some] at h
      obtain ⟨⟨hu, _⟩, h⟩ := h
      split at h
      · rename_i hd
        cases h
        exact .observed hu hd
      · rename_i hd
        cases h
        exact .registered hu (by simpa using hd)

/-! ## The lock invariant -/

/-- The lock is held by the thread that is inside a block. -/
structure LockInv (b : System) : Prop where
  owned : Owned Inside b.lock b.stack
  shape : ∀ t, Inside (b.stack t) ∨ Outside (b.stack t)

/-- A block that completes a future finds no done-callback registered on it. -/
def unobserved (b : System) : Event → Bool
  | .body t =>
      match b.stack t with
      | .entered a :: _ => (completes b.core a).all fun f => b.registered f = 0
      | _ => true
  | _ => true

theorem LockInv.setStack {b : System} {lock : Option Thread} {t : Thread} {frames : List Frame}
    (h : LockInv b) (howned : Owned Inside lock (Function.update b.stack t frames))
    (hframes : Inside frames ∨ Outside frames) :
    LockInv { b with lock := lock, stack := Function.update b.stack t frames } := by
  refine ⟨howned, fun u => ?_⟩
  by_cases hu : u = t
  · subst hu
    simpa using hframes
  · simpa [hu] using h.shape u

/-- A thread that stays outside of the blocks. -/
theorem LockInv.keep {b : System} {t : Thread} {frames : List Frame} (h : LockInv b)
    (hout : Outside (b.stack t)) (hframes : Outside frames) : LockInv (b.setStack t frames) :=
  h.setStack (h.owned.keep ⟨fun hin => absurd hin hframes.not_inside,
    fun hin => absurd hin hout.not_inside⟩) (.inr hframes)

theorem LockInv.outside {b : System} {t : Thread} {frames : List Frame}
    (h : LockInv b) (hstack : b.stack t = frames) (hframes : ¬Inside frames) : Outside frames := by
  subst hstack
  exact (h.shape t).resolve_left hframes

theorem LockInv.inside {b : System} {t : Thread} {frames : List Frame}
    (h : LockInv b) (hstack : b.stack t = frames) (hframes : ¬Outside frames) : Inside frames := by
  subst hstack
  exact (h.shape t).resolve_right hframes

/-- A thread that runs user code is outside of the blocks. -/
theorem LockInv.user {b : System} {t : Thread} (h : LockInv b) (hu : b.inUser t) :
    Outside (b.stack t) := by
  refine (h.shape t).resolve_left fun hin => ?_
  unfold System.inUser at hu
  split at hu <;> simp_all [Inside]

theorem not_outside_entered {a : Action} {rest : List Frame} :
    ¬Outside (.entered a :: rest) :=
  fun h => absurd (h (.entered a) (List.mem_cons_self ..)) (by simp [Frame.isInside])

theorem not_outside_leaving {future : Option FutureId} {frames : List Frame}
    (hmem : .leaving future ∈ frames) : ¬Outside frames :=
  fun h => absurd (h _ hmem) (by simp [Frame.isInside])

theorem LockInv.next {amender : Bool} {b b' : System} {e : Event} (h : LockInv b)
    (hun : unobserved b e) (hnext : Next amender b e b') : LockInv b' := by
  cases hnext with
  | call hu ha =>
      have hout := h.user hu
      exact h.keep hout (hout.push rfl)
  | arrive hnil ha =>
      exact h.keep (by simp [hnil, Outside]) (by simp [Outside, Frame.isInside])
  | @unlocked n a core hnil hn ha hstep =>
      refine LockInv.keep (b := { b with core := core }) ⟨h.owned, h.shape⟩ (by simp [hnil, Outside]) ?_
      unfold System.framesAfter
      cases completes b.core a <;> simp [Outside, Frame.isInside]
  | acquire hlock hstack =>
      have hrest := (h.outside hstack (by simp [Inside])).pop
      have howned := h.owned
      rw [hlock] at howned
      exact h.setStack (howned.acquire hrest) (.inl hrest)
  | @body t a rest core hstack hstep =>
      have hrest : Outside rest := h.inside hstack not_outside_entered
      have hin : Inside (b.framesAfter a (.leaving (result b.core a) :: rest)) := by
        unfold System.framesAfter
        cases hc : completes b.core a with
        | none => exact hrest
        | some f =>
            have hnone : b.registered f = 0 := by simpa [unobserved, hstack, hc] using hun
            simp only [hnone]
            exact hrest
      have hbefore : Inside (b.stack t) := by
        rw [hstack]
        exact hrest
      exact LockInv.setStack (b := { b with core := core }) ⟨h.owned, h.shape⟩
        (h.owned.keep ⟨fun _ => hbefore, fun _ => hin⟩) (.inl hin)
  | @release t future rest hstack =>
      have hrest : Outside rest := h.inside hstack (not_outside_leaving (List.mem_cons_self ..))
      have hbefore : Inside (b.stack t) := by
        rw [hstack]
        exact hrest
      exact LockInv.setStack (b := { b with handed := future.toList ++ b.handed })
        ⟨h.owned, h.shape⟩ (h.owned.release hbefore hrest.not_inside) (.inr hrest)
  | runCallback hstack =>
      have hout := h.outside hstack (by simp [Inside])
      exact h.keep (by rw [hstack]; exact hout) ((hout.pop.push rfl).push rfl)
  | callbackReturned hstack =>
      have hout := h.outside hstack (by simp [Inside])
      exact h.keep (by rw [hstack]; exact hout) hout.pop
  | @completed t f rest hstack =>
      by_cases hin : Inside (.completing f 0 :: rest)
      · have hafter := inside_completing hin
        have hbefore : Inside (b.stack t) := by
          rw [hstack]
          exact hin
        exact h.setStack (h.owned.keep ⟨fun _ => hbefore, fun _ => hafter⟩) (.inl hafter)
      · have hout := h.outside hstack hin
        exact h.keep (by rw [hstack]; exact hout) hout.pop
  | observed hu hd =>
      have hout := h.user hu
      exact h.keep hout (hout.push rfl)
  | registered hu hd => exact ⟨h.owned, h.shape⟩

/-! ## The futures that a step completes -/

/-- The calls of user code leave every future alone. -/
theorem call_future {amender : Bool} {s s' : State} {a : Action} (h : step amender s a = some s')
    (ha : isCall a) : s'.future = s.future := by
  cases a <;> simp only [isCall, Bool.false_eq_true] at ha <;>
    simp only [step, Option.some.injEq] at h <;> subst h
  case connect native =>
    unfold connect
    split <;> cases native <;> rfl
  case close reason =>
    unfold close
    split <;> (try split) <;> rfl
  case sendProtocolMessage native =>
    unfold sendProtocolMessage
    split <;> (try split) <;> rfl
  case newStream native =>
    unfold newStream
    split <;> (try split) <;> rfl

theorem resume_future_of_ne {s s' : State} {n : Nat} {f : FutureId} (h : resume s n = some s')
    (hf : sets s (.resume n) ≠ some f) : s'.future f = s.future f := by
  simp only [resume] at h
  simp only [sets] at hf
  cases hpc : (s.attempt n).pc <;> simp only [hpc, reduceCtorEq] at h hf
  case failing g e | finishing g e =>
      cases g <;> cases h
      · rfl
      · have hne : f ≠ _ := fun e => hf (congrArg some e.symm)
        simp [hne]
  case accepting g =>
      have hne : f ≠ g := fun e => hf (congrArg some e.symm)
      split at h <;> cases h <;> simp [hne]
  case sendFailed e =>
      cases h
      rfl
  case closing e =>
      cases h
      have hclose := call_future (rfl : step false s (.close (some e)) = some _) rfl
      exact congrFun hclose f

theorem step_future_of_ne {amender : Bool} {s s' : State} {a : Action} {f : FutureId}
    (h : step amender s a = some s') (hf : sets s a ≠ some f) : s'.future f = s.future f := by
  by_cases ha : isCall a
  · rw [call_future h ha]
  · cases a <;> simp only [isCall, not_true_eq_false] at ha
    case connectionSetup n error =>
      simp only [step, Option.ite_none_left_eq_some] at h
      obtain ⟨_, h⟩ := h
      cases error with
      | none => cases h; rfl
      | some e =>
        have hne : f ≠ s.synced.closedFuture := fun e => hf (by simp [sets, e])
        cases h
        simp only [setupFailed]
        split <;> simp [hne]
    case amended n amendment =>
      simp only [step, Option.ite_none_right_eq_some, Option.some.injEq] at h
      obtain ⟨_, rfl⟩ := h
      rfl
    case sendConnect n native =>
      simp only [step] at h
      split at h <;> cases h
      unfold sendConnect
      split <;> (try split) <;> rfl
    case protocolMessage n m =>
      simp only [step, Option.ite_none_right_eq_some, Option.some.injEq] at h
      obtain ⟨_, rfl⟩ := h
      unfold protocolMessage connectAck
      split <;> (try split) <;> (try split) <;> (try split) <;> rfl
    case connectionShutdown n reason =>
      have hne : f ≠ s.synced.closedFuture := fun e => hf (by simp [sets, e])
      simp only [step, Option.ite_none_right_eq_some, Option.some.injEq] at h
      obtain ⟨_, rfl⟩ := h
      simp only [connectionShutdown]
      split <;> simp [hne]
    case returned n value =>
      simp only [step, returned] at h
      split at h <;> (try split at h) <;> cases h <;> rfl
    case raised n e =>
      simp only [step, raised] at h
      split at h <;> cases h <;> rfl
    case resume n =>
      exact resume_future_of_ne h hf

theorem done_of_sets {amender : Bool} {s s' : State} {a : Action} {f : FutureId}
    (h : step amender s a = some s') (hf : sets s a = some f) : (s'.future f).done := by
  cases a <;> simp only [sets, reduceCtorEq] at hf
  case connectionSetup n error =>
    cases error with
    | none => cases hf
    | some e =>
        cases hf
        simp only [step, Option.ite_none_left_eq_some, Option.some.injEq] at h
        obtain ⟨_, rfl⟩ := h
        simp only [setupFailed]
        split <;> simp
  case connectionShutdown n reason =>
    cases hf
    simp only [step, Option.ite_none_right_eq_some, Option.some.injEq] at h
    obtain ⟨_, rfl⟩ := h
    simp only [connectionShutdown]
    split <;> simp
  case resume n =>
    simp only [step, resume] at h
    cases hpc : (s.attempt n).pc <;> simp only [hpc, reduceCtorEq] at h hf
    case failing | finishing =>
      subst hf
      cases h
      simp
    case accepting g =>
      cases hf
      split at h <;> cases h <;> simp

/-- The future whose done-callbacks run after a step is the one that the step completes. -/
theorem completes_iff {amender : Bool} {s s' : State} {a : Action} {f : FutureId}
    (h : step amender s a = some s') :
    completes s a = some f ↔ (s.future f).done = false ∧ (s'.future f).done = true := by
  constructor
  · intro hc
    obtain ⟨hsets, hdone⟩ := Option.filter_eq_some_iff.mp hc
    exact ⟨by simpa using hdone, done_of_sets h hsets⟩
  · rintro ⟨hbefore, hafter⟩
    refine Option.filter_eq_some_iff.mpr ⟨?_, by simpa using hbefore⟩
    by_contra hne
    rw [step_future_of_ne h hne, hbefore] at hafter
    cases hafter

/-! ## Runs -/

theorem lockInv_start : LockInv start where
  owned := fun t => by simp [start, Inside]
  shape := fun t => .inr (by simp [start, Outside])

theorem lockInv_run {amender : Bool} {es : List Event} {b : System}
    (h : run (next amender) start es = some b)
    (hall : AllSteps (next amender) (fun b e => unobserved b e) start es) : LockInv b :=
  run_invariant_of (fun _ _ _ hI hun hnext => hI.next hun (next_cases hnext)) h hall lockInv_start

/-- With its lock made explicit, a connection takes the same steps. -/
theorem core_run {amender : Bool} {es : List Event} {b : System}
    (h : run (next amender) start es = some b) :
    ∃ as, run (step amender) Connection.init as = some b.core := by
  have hstep : ∀ b e b' s, b.core = s → next amender b e = some b' →
      ∃ as s', run (step amender) s as = some s' ∧ b'.core = s' := by
    rintro b e b' s rfl hnext
    cases next_cases hnext with
    | @unlocked n a core _ _ _ hs => exact ⟨[a], core, run_singleton_eq_some.mpr hs, rfl⟩
    | @body t a rest core _ hs => exact ⟨[a], core, run_singleton_eq_some.mpr hs, rfl⟩
    | _ => exact ⟨[], b.core, rfl, rfl⟩
  obtain ⟨as, s, hrun, hs⟩ := run_simulation (R := fun b s => b.core = s) hstep h rfl
  exact ⟨as, by rw [hs]; exact hrun⟩

/-- The shared fields fit the state, with or without the lock in the model. -/
theorem synced_of_run {amender : Bool} {es : List Event} {b : System}
    (h : run (next amender) start es = some b) : SyncedSpec b.core := by
  obtain ⟨as, hrun⟩ := core_run h
  exact (inv_run hrun).syncedSpec

/-! ## The contract -/

/-- User code never runs while its thread holds the lock, and no thread waits for a lock that
it holds. -/
structure LockSpec (b : System) : Prop where
  user : ∀ t, b.inUser t → b.lock ≠ some t
  waiting : ∀ t a rest, b.stack t = .waiting a :: rest → b.lock ≠ some t

/-- No user code runs under the lock, provided that no done-callback is registered on a
closed future when a block completes it. -/
theorem lockSpec_run {amender : Bool} {es : List Event} {b : System}
    (h : run (next amender) start es = some b)
    (hall : AllSteps (next amender) (fun b e => unobserved b e) start es) : LockSpec b := by
  have hI := lockInv_run h hall
  refine ⟨?_, ?_⟩
  · intro t hu
    exact hI.owned.not_owner (hI.user hu).not_inside
  · intro t a rest hstack
    exact hI.owned.not_owner (by simp [hstack, Inside])

/-- The events with which a thread calls a method and the call returns. -/
def calls (t : Thread) (a : Action) : List Event := [.call t a, .acquire t, .body t, .release t]

/-- The events with which the thread of an attempt runs a block. -/
def block (n : Nat) (a : Action) : List Event :=
  [.native n a, .acquire (.native n), .body (.native n), .release (.native n)]

/-- A done-callback on the future that `close` returned runs inside `on_connection_shutdown`,
under the lock. -/
theorem not_lockSpec_run :
    ¬∀ amender es b, run (next amender) start es = some b → LockSpec b := by
  intro h
  have hspec := h false
    (calls (.user 0) (.connect none) ++ [.native 1 (.connectionSetup 1 none)] ++
      block 1 (.sendConnect 1 none) ++ calls (.user 0) (.close none) ++
      [.addDoneCallback (.user 0) (.closed 1), .native 1 (.connectionShutdown 1 none),
        .acquire (.native 1), .body (.native 1), .runCallback (.native 1)]) _ rfl
  exact hspec.user (.native 1) rfl rfl

/-- A done-callback on the connect future closes the connection again. -/
theorem lockSpec_run_reenter :
    let es :=
      calls (.user 0) (.connect none) ++ [.addDoneCallback (.user 0) (.connect 1)] ++
        [.native 1 (.connectionSetup 1 none)] ++ block 1 (.sendConnect 1 none) ++
        block 1 (.protocolMessage 1
          { messageType := .connectAck, flags := { connectionAccepted := true } }) ++
        [.native 1 (.resume 1), .runCallback (.native 1)] ++ calls (.native 1) (.close none)
    ∃ b, run (next false) start es = some b ∧ LockSpec b := by
  intro es
  obtain ⟨b, hb⟩ : ∃ b, run (next false) start es = some b := ⟨_, rfl⟩
  exact ⟨b, hb, lockSpec_run hb (by decide)⟩

end IotCore.EventStream.Threads
