import IotCore.Library.Ledger
import IotCore.Verification.Shadow.Locking

/-! # Requests and responses of a session

The request tokens are those of the requests whose first response has not been seen. A token
is added after its publish, but no response can be checked in between. -/

namespace IotCore.Shadow

open Machine Ledger

/-! ## The token invariant -/

/-- The token that a thread has published and not added yet. -/
def Pc.noting : Pc → Option String
  | .addToken token _ | .addGetToken token _ => some token
  | _ => none

/-- Only the owner of the lock may be adding a token. -/
def State.noting (s : State) : Option String :=
  match s.lock with
  | none => none
  | some t => (s.pc t).noting

def TokenInv (s : State) : Prop :=
  Balanced s.noting s.issued s.seen s.data.requestTokens

theorem noting_of_lock {s : State} {t : Nat} (h : s.lock = some t) :
    s.noting = (s.pc t).noting := by
  simp [State.noting, h]

theorem noting_goto {s : State} {t : Nat} {pc : Pc} (h : pc.noting = (s.pc t).noting) :
    (s.goto t pc).noting = s.noting := by
  unfold State.noting State.goto
  cases hlock : s.lock with
  | none => rfl
  | some u =>
      by_cases hu : u = t
      · simpa [hu] using h
      · simp [hu]

/-- A thread that moves on without publishing or adding a token. -/
theorem TokenInv.goto {s : State} {t : Nat} {pc : Pc} (h : TokenInv s)
    (hpc : pc.noting = (s.pc t).noting) : TokenInv (s.goto t pc) := by
  unfold TokenInv
  rw [noting_goto hpc]
  exact h

theorem tokenInv_init : TokenInv init := balanced_empty

theorem tokenInv_of_owner {s : State} {t : Nat} {pc : Pc} (hlock : s.lock = some t)
    (hpc : s.pc t = pc) (h : Balanced pc.noting s.issued s.seen s.data.requestTokens) :
    TokenInv s := by
  unfold TokenInv
  rw [noting_of_lock hlock, hpc]
  exact h

theorem TokenInv.of_owner {s : State} {t : Nat} {pc : Pc} (h : TokenInv s)
    (hlock : s.lock = some t) (hpc : s.pc t = pc) :
    Balanced pc.noting s.issued s.seen s.data.requestTokens := by
  rw [← hpc, ← noting_of_lock hlock]
  exact h

theorem TokenInv.of_free {s : State} (h : TokenInv s) (hlock : s.lock = none) :
    Balanced none s.issued s.seen s.data.requestTokens := by
  have hnone : s.noting = none := by simp [State.noting, hlock]
  rw [← hnone]
  exact h

theorem TokenInv.body {cfg : Config} {s s' : State} {t : Nat} {token : String}
    {outcome : Option (Except Exn Unit)} {block : Block} (h : TokenInv s)
    (hlock : s.lock = some t) (hpc : s.pc t = .inside block)
    (hfresh : willPublish cfg s token block → token ∉ s.issued ∪ s.seen)
    (hs : Body cfg s t token outcome block s') : TokenInv s' := by
  have hbalanced := h.of_owner hlock hpc
  cases hs with
  | recognized hblock hown =>
      exact tokenInv_of_owner hlock (Function.update_self ..) hbalanced.respond
  | @ignored _ clientToken hblock hforeign =>
      cases clientToken with
      | str own =>
          exact tokenInv_of_owner hlock (Function.update_self ..)
            (hbalanced.respond_of_notMem (hforeign own rfl))
      | _ => exact h.goto (by rw [hpc]; rfl)
  | malformed | same | setLocal | exitAgain | exit => exact h.goto (by rw [hpc]; rfl)
  | changed hne hpublish =>
      exact tokenInv_of_owner hlock (Function.update_self ..)
        (hbalanced.publish (hfresh (by simp [willPublish, changeShadowValue, hne])))
  | query =>
      exact tokenInv_of_owner hlock (Function.update_self ..) (hbalanced.publish (hfresh rfl))

theorem TokenInv.step {cfg : Config} {s s' : State} {a : Action} (hlock : LockInv s)
    (h : TokenInv s) (hs : Step cfg s a s') : TokenInv s' := by
  have owner : ∀ t, (s.pc t).holds = true → s.lock = some t := fun t => (hlock.owned t).mpr
  cases hs with
  | skipped | acked => exact h
  | started hpc | resulted hpc | resultFailed hpc | ackFailed hpc | registered hpc
  | succeeded hpc | reentered hpc => exact TokenInv.goto h (by rw [hpc]; rfl)
  | @acquired t block hpc hfree =>
      exact tokenInv_of_owner rfl (Function.update_self ..) (h.of_free hfree)
  | @body t token outcome block hpc hfresh =>
      exact h.body (owner t (by rw [hpc]; rfl)) hpc hfresh
        (body_cases cfg s t token outcome block)
  | @tokenAdded t token f hpc | @getTokenAdded t token f hpc =>
      have howner := owner t (by rw [hpc]; rfl)
      exact tokenInv_of_owner howner (Function.update_self ..) (h.of_owner howner hpc).note
  | @released t next hpc => exact h.of_owner (owner t (by rw [hpc]; rfl)) hpc

/-! ## Token checks -/

theorem step_check {cfg : Config} {s : State} {t : Nat} {token : String}
    {outcome : Option (Except Exn Unit)} {block : Block} {clientToken : Option Json}
    (hpc : s.pc t = .inside block) (hblock : block.clientToken = some clientToken) :
    step cfg s (.body t token outcome) = some (body cfg s t token outcome block) := by
  have hpublish : willPublish cfg s token block = false := by
    cases block <;> first | rfl | simp [Block.clientToken] at hblock
  simp [step, hpc, hpublish]

theorem Body.eq_of_mem {cfg : Config} {s s' : State} {t : Nat} {token own : String}
    {outcome : Option (Except Exn Unit)} {block : Block}
    (hs : Body cfg s t token outcome block s')
    (hblock : block.clientToken = some (some (.str own))) (hown : own ∈ s.data.requestTokens) :
    s' = { s with
      data := { s.data with requestTokens := s.data.requestTokens.erase own }
      seen := insert own s.seen }.leave t (block.next cfg s) := by
  cases hs with
  | recognized hblock' hown' =>
      rw [hblock] at hblock'
      cases hblock'
      rfl
  | ignored hblock' hforeign =>
      rw [hblock] at hblock'
      cases hblock'
      exact absurd hown (hforeign own rfl)
  | malformed hblock' htoken hnull =>
      rw [hblock] at hblock'
      cases hblock'
      exact absurd rfl (htoken own)
  | _ => cases hblock

theorem Body.eq_of_notMem {cfg : Config} {s s' : State} {t : Nat} {token : String}
    {outcome : Option (Except Exn Unit)} {block : Block} {clientToken : Json}
    (hs : Body cfg s t token outcome block s')
    (hblock : block.clientToken = some (some clientToken))
    (hother : clientToken = .null ∨ ∃ own, clientToken = .str own ∧ own ∉ s.data.requestTokens) :
    s' = (s.see clientToken).leave t (.ok none) := by
  cases hs with
  | recognized hblock' hown =>
      rw [hblock] at hblock'
      cases hblock'
      rcases hother with hnull | ⟨own', heq, hother⟩
      · cases hnull
      · cases heq
        exact absurd hown hother
  | ignored hblock' hforeign =>
      rw [hblock] at hblock'
      cases hblock'
      rfl
  | malformed hblock' htoken hnull =>
      rw [hblock] at hblock'
      cases hblock'
      rcases hother with rfl | ⟨own', rfl, _⟩
      · exact absurd rfl hnull
      · exact absurd rfl (htoken own')
  | _ => cases hblock

/-! ## The contract -/

/-- The first response to an own request is recognized, and its handler goes on with
`block.next`. Any later one, and any response to the request of another session, leaves the
session as it is. -/
structure CorrelationSpec (cfg : Config) (s : State) : Prop where
  tokens : s.lock = none → s.data.requestTokens = s.issued \ s.seen
  first : ∀ t block own token outcome, s.pc t = .inside block →
    block.clientToken = some (some (.str own)) → own ∈ s.issued → own ∉ s.seen →
      step cfg s (.body t token outcome) =
        some ({ s with
          data := { s.data with requestTokens := s.data.requestTokens.erase own }
          seen := insert own s.seen }.leave t (block.next cfg s))
  other : ∀ t block clientToken token outcome, s.pc t = .inside block →
    block.clientToken = some (some clientToken) →
      clientToken = .null ∨ (∃ own, clientToken = .str own ∧ (own ∉ s.issued ∨ own ∈ s.seen)) →
        ∃ s', step cfg s (.body t token outcome) = some s' ∧ s'.data = s.data ∧
          s'.publishes = s.publishes ∧ s'.updates = s.updates ∧ s'.queries = s.queries ∧
            s'.disconnects = s.disconnects ∧ s'.pc t = .leaving .idle

/-- A session tells the responses to its own requests from all others. -/
theorem correlationSpec_run {cfg : Config} {as : List Action} {s : State}
    (h : run (step cfg) init as = some s) : CorrelationSpec cfg s := by
  obtain ⟨hlock, htoken⟩ : LockInv s ∧ TokenInv s := by
    refine run_invariant (I := fun s => LockInv s ∧ TokenInv s) (fun s a s' hI hs => ?_) h
      ⟨lockInv_init, tokenInv_init⟩
    exact ⟨hI.1.step (step_cases hs), hI.2.step hI.1 (step_cases hs)⟩
  have inside : ∀ t block, s.pc t = .inside block →
      Balanced none s.issued s.seen s.data.requestTokens := by
    intro t block hpc
    exact htoken.of_owner ((hlock.owned t).mpr (by rw [hpc]; rfl)) hpc
  refine ⟨fun hfree => (htoken.of_free hfree).eq_sdiff, ?_, ?_⟩
  · intro t block own token outcome hpc hblock hissued hseen
    have hown := (inside t block hpc).mem hissued hseen
    rw [step_check hpc hblock, (body_cases cfg s t token outcome block).eq_of_mem hblock hown]
  · intro t block clientToken token outcome hpc hblock hother
    have hforeign : clientToken = .null ∨
        ∃ own, clientToken = .str own ∧ own ∉ s.data.requestTokens := by
      refine hother.imp id ?_
      rintro ⟨own, rfl, hown⟩
      exact ⟨own, rfl, (inside t block hpc).notMem hown⟩
    refine ⟨_, step_check hpc hblock, ?_⟩
    rw [(body_cases cfg s t token outcome block).eq_of_notMem hblock hforeign]
    obtain ⟨seen, hsee⟩ := see_eq s clientToken
    rw [hsee]
    exact ⟨rfl, rfl, rfl, rfl, rfl, Function.update_self ..⟩

/-- The response to the initial query arrives before its token is added, and once more after
it has been handled. -/
theorem correlationSpec_run_early :
    let cfg : Config := { shadowThingName := "thing", shadowThingName_ne := by decide }
    let response : GetShadowResponse := { clientToken := .str "get" }
    let as : List Action :=
      [.start 0 .query, .acquire 0, .body 0 "get" (some (.ok ())),
        .start 1 (.getAccepted (some response)), .advance 0, .release 0, .acquire 1,
        .body 1 "" none, .release 1, .acquire 1, .body 1 "update" none, .advance 1, .advance 1,
        .release 1, .start 1 (.getAccepted (some response)), .acquire 1, .body 1 "" none,
        .release 1]
    ∃ s, run (step cfg) init as = some s ∧ CorrelationSpec cfg s := by
  intro cfg response as
  obtain ⟨s, hs⟩ := Option.isSome_iff_exists.mp
    (show (run (step cfg) init as).isSome by decide +kernel)
  exact ⟨s, hs, correlationSpec_run hs⟩

end IotCore.Shadow
