import IotCore.Verification.EventStream.Reentrancy

/-! # A call of `connect` that raises

The rollback writes `None` into fields that are `None` whenever it is reached, so nothing is
left of the call. -/

namespace IotCore.EventStream

open Machine

namespace Connection

/-! ## The rollback -/

theorem Synced.eq_free_of_disconnected {s : State} (h : SyncedSpec s)
    (hstate : s.synced.state = .disconnected) :
    s.synced = { closedFuture := s.synced.closedFuture } := by
  obtain ⟨hhandler, hconnection, hconnect, hreason⟩ := h.disconnected hstate
  rcases hs : s.synced with ⟨state, handler, connection, connectFuture, reason, closedFuture⟩
  simp_all

/-- An exception of the native `connect` leaves only the number of the call behind. -/
theorem connect_eq_error {s s' : State} {native : Option Exn} {e : Exn} (h : SyncedSpec s)
    (he : connect s native = (s', .error e)) : ∃ k, s' = { s with connects := k } := by
  by_cases hstate : s.synced.state = .disconnected
  · cases native with
    | none => simp [connect, hstate] at he
    | some e' =>
        have hfree := Synced.eq_free_of_disconnected h hstate
        simp only [connect, hstate, ne_eq, not_true_eq_false, ↓reduceIte, Prod.mk.injEq] at he
        refine ⟨s.connects + 1, he.1.symm.trans ?_⟩
        rw [hfree]
  · simp only [connect, hstate, ne_eq, not_false_eq_true, ↓reduceIte, Prod.mk.injEq] at he
    exact ⟨s.connects, he.1.symm⟩

/-- Whether a call of `connect` is accepted depends on the shared fields alone. -/
theorem connect_isOk {s s' : State} (h : s'.synced = s.synced) (native : Option Exn) :
    (connect s' native).2.toBool = (connect s native).2.toBool := by
  simp only [connect, h]
  split
  · rfl
  · cases native <;> rfl

end Connection

namespace Threads

open Connection

/-! ## The call -/

/-- The call has left everything as it was, up to the frames of its own thread. -/
structure Unchanged (b b' : System) (t : Thread) (rest : List Frame) : Prop where
  synced : b'.core.synced = b.core.synced
  future : b'.core.future = b.core.future
  attempt : b'.core.attempt = b.core.attempt
  registered : b'.registered = b.registered
  handed : b'.handed = b.handed
  stack : b'.stack = Function.update b.stack t rest
  lock : b'.lock = none
  /-- a later call is accepted in the same states -/
  later : ∀ native, (connect b'.core native).2.toBool = (connect b.core native).2.toBool

/-- In every reachable state, a call of `connect` that raises has no effect: whether an
attempt is in progress or the native `connect` raises. -/
theorem unchanged_run {amender : Bool} {es : List Event} {b : System} {t : Thread}
    {native : Option Exn} {rest : List Frame} {e : Exn}
    (h : run (next amender) start es = some b) (hlock : b.lock = none)
    (hstack : b.stack t = .waiting (.connect native) :: rest)
    (he : (connect b.core native).2 = .error e) :
    ∃ b', run (next amender) b [.acquire t, .body t, .release t] = some b' ∧
      Unchanged b b' t rest := by
  obtain ⟨k, hk⟩ := connect_eq_error (synced_of_run h) (Prod.ext rfl he)
  have hresult : result b.core (.connect native) = none := by simp [result, he, Except.toOption]
  have hcompletes : completes b.core (.connect native) = none := rfl
  let b' : System :=
    { b with
      core := { b.core with connects := k }
      stack := Function.update b.stack t rest }
  have hrun : run (next amender) b [.acquire t, .body t, .release t] = some b' := by
    simp [run, next, hlock, hstack, System.setStack, System.perform, System.framesAfter, step,
      hresult, hcompletes, hk, b']
  exact ⟨b', hrun, rfl, rfl, rfl, rfl, rfl, rfl, hlock, connect_isOk rfl⟩

/-- A native `connect` that raises after an attempt that was closed early and failed. -/
theorem unchanged_run_native :
    let es :=
      calls (.user 0) (.connect none) ++ calls (.user 0) (.close none) ++
        [.native 1 (.connectionSetup 1 (some (.external 7))), .acquire (.native 1),
          .body (.native 1), .completed (.native 1), .release (.native 1),
          .call (.user 0) (.connect (some (.external 8)))]
    ∃ b b', run (next false) start es = some b ∧
      run (next false) b [.acquire (.user 0), .body (.user 0), .release (.user 0)] = some b' ∧
      Unchanged b b' (.user 0) [] := by
  intro es
  obtain ⟨b, hb, hlock, hstack, he⟩ :
      ∃ b, run (next false) start es = some b ∧ b.lock = none ∧
        b.stack (.user 0) = [.waiting (.connect (some (.external 8)))] ∧
        (connect b.core (some (.external 8))).2 = .error (.external 8) := by
    refine ⟨_, rfl, ?_, ?_, ?_⟩ <;> rfl
  obtain ⟨b', hb', hunchanged⟩ := unchanged_run hb hlock hstack he
  exact ⟨b, b', hb, hb', hunchanged⟩

end Threads

end IotCore.EventStream
