import IotCore.Library.Machine
import IotCore.Model.Shadow.Handlers
import IotCore.Verification.Shadow.Locking

/-! # Handlers as runs of a session

A thread that no other one interrupts takes a handler from its start to its end. -/

namespace IotCore.Shadow

open Machine

/-- The thread runs on its own to the end of its handler and has done what `out` says. -/
def Finishes (cfg : Config) (s : State) (t : Nat) (out : Outcome) : Prop :=
  ∃ as s', (∀ a ∈ as, a.thread = t) ∧ run (step cfg) s as = some s' ∧ s'.lock = none ∧
    s'.pc t = .idle ∧ s'.data = out.data ∧
      s'.updates.map Prod.snd = s.updates.map Prod.snd ++ out.updates

theorem Finishes.prepend {cfg : Config} {s m : State} {t : Nat} {out : Outcome}
    {bs : List Action} (h : Finishes cfg m t out) (hrun : run (step cfg) s bs = some m)
    (hthread : ∀ a ∈ bs, a.thread = t) (hupdates : m.updates = s.updates) :
    Finishes cfg s t out := by
  obtain ⟨as, s', has, hs', hlock, hpc, hdata, hsent⟩ := h
  refine ⟨bs ++ as, s', fun a ha => ?_, run_append_eq_some.mpr ⟨m, hrun, hs'⟩, hlock, hpc, hdata,
    by rw [hsent, hupdates]⟩
  rcases List.mem_append.mp ha with ha | ha
  · exact hthread a ha
  · exact has a ha

theorem finishes_exit {cfg : Config} {s : State} {t : Nat} {data : LockedData}
    (hpc : s.pc t = .waiting .exit) (hlock : s.lock = none) (hdata : s.data = data) (e : Exn) :
    Finishes cfg s t (exit data e) := by
  refine ⟨[.acquire t, .body t "" none, .release t], ?_⟩
  cases hdisconnect : s.data.disconnectCalled <;>
    simp [run, step, hlock, hpc, State.goto, body, willPublish, State.leave, Action.thread, exit,
      ← hdata, hdisconnect]
  rw [← hdisconnect]

theorem finishes_change {cfg : Config} {s : State} {t : Nat} {data : LockedData} {value : Json}
    {initial : Bool} {token : String} (hpc : s.pc t = .waiting (.change value initial))
    (hlock : s.lock = none) (hdata : s.data = data) (hfresh : token ∉ s.issued ∪ s.seen) :
    Finishes cfg s t (handleChange cfg data value token) := by
  subst hdata
  obtain ⟨publish, hpublish⟩ := publishUpdateShadow_ok cfg value token
  simp only [Finset.mem_union, not_or] at hfresh
  cases heq : s.data.shadowValue.pyEq value with
  | true =>
      refine ⟨[.acquire t, .body t token none, .release t], ?_⟩
      simp [run, step, hlock, hpc, State.goto, body, changeShadowValue, heq, willPublish,
        State.leave, Action.thread, handleChange]
  | false =>
      refine ⟨[.acquire t, .body t token none, .advance t, .advance t, .release t], ?_⟩
      simp [run, step, hlock, hpc, State.goto, body, changeShadowValue, heq, hpublish, willPublish,
        State.leave, Action.thread, handleChange, State.publish, hfresh]

theorem start_delta (cfg : Config) {s : State} {t : Nat} (delta : Option ShadowDeltaUpdatedEvent)
    (hpc : s.pc t = .idle) :
    step cfg s (.start t (.delta delta)) =
      some ((firstBlock cfg (.delta delta)).elim s fun block => s.goto t (.waiting block)) := by
  cases hblock : firstBlock cfg (.delta delta) <;>
    simp [step, hpc, State.mayStart, isQuery, hblock]

/-- `on_shadow_delta_updated` in a session. -/
theorem finishes_delta {cfg : Config} {s : State} {t : Nat}
    (delta : Option ShadowDeltaUpdatedEvent) {token : String} (hpc : s.pc t = .idle)
    (hlock : s.lock = none) (hfresh : token ∉ s.issued ∪ s.seen) :
    ∃ m, step cfg s (.start t (.delta delta)) = some m ∧
      Finishes cfg m t (onShadowDeltaUpdated cfg s.data delta token) := by
  refine ⟨_, start_delta cfg delta hpc, ?_⟩
  cases delta with
  | none =>
      apply finishes_exit
      · exact Function.update_self ..
      · exact hlock
      · rfl
  | some delta =>
      cases hdelta : decideDelta cfg delta with
      | error e =>
          simp only [onShadowDeltaUpdated, firstBlock, hdelta, Option.elim_some]
          apply finishes_exit
          · exact Function.update_self ..
          · exact hlock
          · rfl
      | ok value =>
          cases value with
          | none =>
              simp only [onShadowDeltaUpdated, firstBlock, hdelta, Option.elim_none]
              exact ⟨[], s, by simp, rfl, hlock, hpc, rfl, by simp⟩
          | some value =>
              simp only [onShadowDeltaUpdated, firstBlock, hdelta, Option.elim_some]
              apply finishes_change
              · exact Function.update_self ..
              · exact hlock
              · rfl
              · exact hfresh

/-- Where a thread goes to at the end of a block. -/
def Pc.after : Except Exn (Option Block) → Pc
  | .ok none => .idle
  | .ok (some block) => .waiting block
  | .error _ => .waiting .exit

theorem leave_eq_after (s : State) (t : Nat) (next : Except Exn (Option Block)) :
    s.leave t next = s.goto t (.leaving (.after next)) := by
  rcases next with e | _ | block <;> rfl

theorem afterGetAccepted_congr {cfg : Config} {response : GetShadowResponse} {s s' : State}
    (h : s'.data.shadowValue = s.data.shadowValue) :
    afterGetAccepted cfg response s' = afterGetAccepted cfg response s := by
  simp [afterGetAccepted, h]

/-- The token check of `on_get_shadow_accepted`, for the token of a pending request. -/
theorem check_run {cfg : Config} {s : State} {t : Nat} {response : GetShadowResponse}
    {own : String} (hlock : s.lock = none) (hown : response.clientToken = .str own)
    (hmem : own ∈ s.data.requestTokens) :
    run (step cfg) (s.goto t (.waiting (.checkGetAccepted (some response))))
        [.acquire t, .body t "" none, .release t] =
      some ({ s with
        data := { s.data with requestTokens := s.data.requestTokens.erase own }
        seen := insert own s.seen }.goto t (.after (afterGetAccepted cfg response s))) := by
  simp [run, step, hlock, State.goto, body, willPublish, State.check, hown, removeToken, hmem,
    State.see, leave_eq_after]
  exact congrArg (fun next => Function.update s.pc t (.after next)) (afterGetAccepted_congr rfl)

/-- `on_get_shadow_accepted` in a session. -/
theorem finishes_getAccepted {cfg : Config} {s : State} {t : Nat} (response : GetShadowResponse)
    {own token : String} (hpc : s.pc t = .idle) (hlock : s.lock = none)
    (hown : response.clientToken = .str own) (hfresh : token ∉ s.issued ∪ insert own s.seen) :
    ∃ m, step cfg s (.start t (.getAccepted (some response))) = some m ∧
      Finishes cfg m t (onGetShadowAccepted cfg s.data response token) := by
  refine ⟨s.goto t (.waiting (.checkGetAccepted (some response))),
    by simp [step, hpc, State.mayStart, isQuery, firstBlock], ?_⟩
  by_cases hmem : own ∈ s.data.requestTokens
  · refine Finishes.prepend ?_ (check_run hlock hown hmem) (by simp [Action.thread]) rfl
    simp only [onGetShadowAccepted, hown, removeToken, hmem, ↓reduceIte, afterGetAccepted]
    cases hvalue : s.data.shadowValue with
    | null =>
        cases decideGetAccepted cfg response with
        | error e =>
            apply finishes_exit
            · exact Function.update_self ..
            · exact hlock
            · rfl
        | ok decision =>
            cases decision with
            | change value =>
                apply finishes_change
                · exact Function.update_self ..
                · exact hlock
                · simp [State.goto]
                · exact hfresh
            | setLocal value =>
                refine ⟨[.acquire t, .body t "" none, .release t], ?_⟩
                simp [run, step, hlock, State.goto, body, willPublish, State.leave, Action.thread,
                  Pc.after, Except.map]
    | _ =>
        refine ⟨[], _, by simp, rfl, hlock, by simp [State.goto, Pc.after], ?_, by simp [State.goto]⟩
        simp [State.goto]
  · refine ⟨[.acquire t, .body t "" none, .release t], ?_⟩
    simp [run, step, hlock, State.goto, body, willPublish, State.check, hown, removeToken, hmem,
      State.see, State.leave, Action.thread, onGetShadowAccepted]

end IotCore.Shadow
