import IotCore.Model.Shadow.Session

/-! # What one step of a session can do

The results about sessions are case splits over the steps below, and over what a block does
to the shared data. -/

namespace IotCore.Shadow

/-! ## Steps -/

/-- What one action does. -/
inductive Step (cfg : Config) (s : State) : Action → State → Prop where
  | skipped {t task} (hpc : s.pc t = .idle) (hblock : firstBlock cfg task = none) :
      Step cfg s (.start t task) { s with queried := s.queried || isQuery task }
  | started {t task block} (hpc : s.pc t = .idle) (hblock : firstBlock cfg task = some block) :
      Step cfg s (.start t task)
        ({ s with queried := s.queried || isQuery task }.goto t (.waiting block))
  | acquired {t block} (hpc : s.pc t = .waiting block) (hlock : s.lock = none) :
      Step cfg s (.acquire t) ({ s with lock := some t }.goto t (.inside block))
  | body {t token outcome block} (hpc : s.pc t = .inside block)
      (hfresh : willPublish cfg s token block → token ∉ s.issued ∪ s.seen) :
      Step cfg s (.body t token outcome) (body cfg s t token outcome block)
  | tokenAdded {t token f} (hpc : s.pc t = .addToken token f) :
      Step cfg s (.advance t)
        ({ s with data :=
          { s.data with requestTokens := insert token s.data.requestTokens } }.goto t
            (.addCallback f))
  | getTokenAdded {t token f} (hpc : s.pc t = .addGetToken token f) :
      Step cfg s (.advance t)
        ({ s with data :=
          { s.data with requestTokens := insert token s.data.requestTokens } }.goto t
            (.leaving (.awaiting f)))
  | registered {t f} (hpc : s.pc t = .addCallback f) (hf : (s.future f).outcome = none) :
      Step cfg s (.advance t)
        ({ s with registered := Function.update s.registered f true }.goto t (.leaving .idle))
  | succeeded {t f} (hpc : s.pc t = .addCallback f) (hf : (s.future f).outcome = some (.ok ())) :
      Step cfg s (.advance t) (s.goto t (.leaving .idle))
  | reentered {t f e} (hpc : s.pc t = .addCallback f) (hf : (s.future f).outcome = some (.error e)) :
      Step cfg s (.advance t) (s.goto t .reentering)
  | resulted {t f} (hpc : s.pc t = .awaiting f) (hf : (s.future f).outcome = some (.ok ())) :
      Step cfg s (.advance t) ({ s with launched := true }.goto t .idle)
  | resultFailed {t f e} (hpc : s.pc t = .awaiting f)
      (hf : (s.future f).outcome = some (.error e)) :
      Step cfg s (.advance t) (s.goto t (.waiting .exit))
  | released {t next} (hpc : s.pc t = .leaving next) :
      Step cfg s (.release t) ({ s with lock := none }.goto t next)
  | acked {t f outcome} (hpc : s.pc t = .idle) (hf : f < s.publishes)
      (hpending : (s.future f).done = false)
      (hquiet : s.registered f = false ∨ outcome = .ok ()) :
      Step cfg s (.puback t f outcome)
        { s with future := Function.update s.future f ((s.future f).set outcome) }
  | ackFailed {t f e} (hpc : s.pc t = .idle) (hf : f < s.publishes)
      (hpending : (s.future f).done = false) (hregistered : s.registered f = true) :
      Step cfg s (.puback t f (.error e))
        ({ s with future := Function.update s.future f ((s.future f).set (.error e)) }.goto t
          (.waiting .exit))

theorem step_cases {cfg : Config} {s s' : State} {a : Action} (h : step cfg s a = some s') :
    Step cfg s a s' := by
  cases a with
  | start t task =>
      simp only [step] at h
      split at h
      · rename_i hpc
        split at h
        · cases h
        · split at h
          · rename_i hblock
            cases h
            exact .skipped hpc hblock
          · rename_i block hblock
            cases h
            exact .started hpc hblock
      · cases h
  | acquire t =>
      simp only [step] at h
      split at h
      · rename_i block hlock hpc
        cases h
        exact .acquired hpc hlock
      · cases h
  | body t token outcome =>
      simp only [step] at h
      split at h
      · rename_i block hpc
        split at h
        · cases h
        · rename_i hfresh
          cases h
          exact .body hpc (by simpa using hfresh)
      · cases h
  | advance t =>
      simp only [step] at h
      split at h
      · rename_i hpc
        cases h
        exact .tokenAdded hpc
      · rename_i hpc
        cases h
        exact .getTokenAdded hpc
      · rename_i hpc
        split at h
        · rename_i hf
          cases h
          exact .registered hpc hf
        · rename_i hf
          cases h
          exact .succeeded hpc hf
        · rename_i hf
          cases h
          exact .reentered hpc hf
      · rename_i hpc
        split at h
        · cases h
        · rename_i hf
          cases h
          exact .resulted hpc hf
        · rename_i hf
          cases h
          exact .resultFailed hpc hf
      · cases h
  | release t =>
      simp only [step] at h
      split at h
      · rename_i hpc
        cases h
        exact .released hpc
      · cases h
  | puback t f outcome =>
      simp only [step] at h
      split at h
      · rename_i hpc
        simp only [Option.ite_none_right_eq_some] at h
        obtain ⟨⟨hf, hpending⟩, h⟩ := h
        cases hr : s.registered f with
        | false =>
            simp only [hr] at h
            cases h
            exact .acked hpc hf hpending (.inl hr)
        | true =>
            cases outcome with
            | ok u =>
                simp only [hr] at h
                cases h
                exact .acked hpc hf hpending (.inr rfl)
            | error e =>
                simp only [hr] at h
                cases h
                exact .ackFailed hpc hf hpending hr
      · cases h

/-! ## Blocks -/

/-- The token that a response carries, for the blocks that check one. -/
def Block.clientToken : Block → Option (Option Json)
  | .checkGetAccepted response => some (response.map (·.clientToken))
  | .checkGetRejected error => some (error.map (·.clientToken))
  | .checkUpdateAccepted response => some (response.map (·.clientToken))
  | .checkUpdateRejected error => some (error.map (·.clientToken))
  | _ => none

/-- What a response handler does once its session has asked for the response. -/
def Block.next (cfg : Config) (s : State) : Block → Except Exn (Option Block)
  | .checkGetAccepted (some response) => afterGetAccepted cfg response s
  | .checkGetRejected (some error) => .ok (some (afterGetRejected error))
  | .checkUpdateAccepted (some response) => (decideUpdateAccepted cfg response).map fun _ => none
  | .checkUpdateRejected (some _) => .ok (some .exit)
  | _ => .ok none

/-- What the body of a block does. -/
inductive Body (cfg : Config) (s : State) (t : Nat) (token : String)
    (outcome : Option (Except Exn Unit)) : Block → State → Prop where
  | recognized {block own} (hblock : block.clientToken = some (some (.str own)))
      (hown : own ∈ s.data.requestTokens) :
      Body cfg s t token outcome block
        ({ s with
            data := { s.data with requestTokens := s.data.requestTokens.erase own }
            seen := insert own s.seen }.leave t (block.next cfg s))
  | ignored {block clientToken} (hblock : block.clientToken = some (some clientToken))
      (hforeign : ∀ own, clientToken = .str own → own ∉ s.data.requestTokens) :
      Body cfg s t token outcome block ((s.see clientToken).leave t (.ok none))
  | malformed {block clientToken} (hblock : block.clientToken = some clientToken)
      (htoken : ∀ own, clientToken ≠ some (.str own)) (hnull : clientToken ≠ some .null) :
      Body cfg s t token outcome block (s.goto t (.leaving (.waiting .exit)))
  | same {value initial} (h : s.data.shadowValue.pyEq value = true) :
      Body cfg s t token outcome (.change value initial) (s.leave t (.ok none))
  | changed {value initial publish} (h : s.data.shadowValue.pyEq value = false)
      (hpublish : publishUpdateShadow (updateRequest cfg value token) = .ok publish) :
      Body cfg s t token outcome (.change value initial)
        (({ s with
            data := { s.data with shadowValue := value }
            updates := s.updates ++ [(value, publish)] }.publish token outcome).goto t
          (.addToken token s.publishes))
  | setLocal {value} :
      Body cfg s t token outcome (.setLocal value)
        ({ s with
            data := { s.data with shadowValue := value }
            adopted := some value }.leave t (.ok none))
  | exitAgain (h : s.data.disconnectCalled = true) :
      Body cfg s t token outcome .exit (s.leave t (.ok none))
  | exit (h : s.data.disconnectCalled = false) :
      Body cfg s t token outcome .exit
        ({ s with
            data := { s.data with disconnectCalled := true }
            disconnects := s.disconnects + 1 }.leave t (.ok none))
  | query {publish} :
      Body cfg s t token outcome .query
        (({ s with queries := s.queries ++ [publish] }.publish token outcome).goto t
          (.addGetToken token s.publishes))

/-- A response that is ignored leaves a mark in the history only. -/
theorem see_eq (s : State) (clientToken : Json) :
    ∃ seen, s.see clientToken = { s with seen := seen } := by
  unfold State.see
  split <;> exact ⟨_, rfl⟩

theorem updateRequest_thingName (cfg : Config) (value : Json) (token : String) :
    (updateRequest cfg value token).thingName = cfg.shadowThingName := by
  unfold updateRequest
  split <;> rfl

/-- The requests of the device always name a thing. -/
theorem publishUpdateShadow_ok (cfg : Config) (value : Json) (token : String) :
    ∃ publish, publishUpdateShadow (updateRequest cfg value token) = .ok publish := by
  simp [publishUpdateShadow, updateRequest_thingName, cfg.shadowThingName_ne]

theorem check_cases {cfg : Config} {s : State} {t : Nat} {token : String}
    {outcome : Option (Except Exn Unit)} {block : Block} {clientToken : Option Json}
    {next : State → Except Exn (Option Block)} (hblock : block.clientToken = some clientToken)
    (hnext : clientToken ≠ none → ∀ tokens,
      next { s with data := { s.data with requestTokens := tokens } } = block.next cfg s) :
    Body cfg s t token outcome block (s.check t clientToken next) := by
  cases clientToken with
  | none => exact .malformed hblock (by simp) (by simp)
  | some clientToken =>
      cases clientToken with
      | str own =>
          by_cases hown : own ∈ s.data.requestTokens
          · have hbody : Body cfg s t token outcome block _ := .recognized hblock hown
            simpa [State.check, removeToken, hown, State.see, hnext] using hbody
          · have hbody : Body cfg s t token outcome block _ := .ignored hblock (by simpa using hown)
            simpa [State.check, removeToken, hown] using hbody
      | arr values | obj fields => exact .malformed hblock (by simp) (by simp)
      | null | bool b | int i | float q | inf _ | nan => exact .ignored hblock (by simp)

theorem body_cases (cfg : Config) (s : State) (t : Nat) (token : String)
    (outcome : Option (Except Exn Unit)) (block : Block) :
    Body cfg s t token outcome block (body cfg s t token outcome block) := by
  cases block with
  | checkGetAccepted response | checkGetRejected response | checkUpdateAccepted response
  | checkUpdateRejected response =>
      simp only [body]
      refine check_cases rfl fun hne tokens => ?_
      cases response with
      | none => exact absurd rfl hne
      | some response => rfl
  | change value initial =>
      cases heq : s.data.shadowValue.pyEq value with
      | true =>
          have hbody : Body cfg s t token outcome (.change value initial) _ := .same heq
          simpa [body, changeShadowValue, heq] using hbody
      | false =>
          obtain ⟨publish, hpublish⟩ := publishUpdateShadow_ok cfg value token
          have hbody : Body cfg s t token outcome (.change value initial) _ := .changed heq hpublish
          simpa [body, changeShadowValue, heq, hpublish] using hbody
  | setLocal value => exact .setLocal
  | exit =>
      cases hcalled : s.data.disconnectCalled with
      | true =>
          have hbody : Body cfg s t token outcome .exit _ := .exitAgain hcalled
          simpa [body, hcalled] using hbody
      | false =>
          have hbody : Body cfg s t token outcome .exit _ := .exit hcalled
          simpa [body, hcalled] using hbody
  | query =>
      simp only [body, publishGetShadow, cfg.shadowThingName_ne, ↓reduceIte]
      exact .query

end IotCore.Shadow
