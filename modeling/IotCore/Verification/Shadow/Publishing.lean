import IotCore.Model.Shadow.Wire
import IotCore.Verification.Shadow.Locking

/-! # The publishes of a session

The steps that publish, and why there are none before the handlers of the responses are
subscribed. -/

namespace IotCore.Shadow.Wire

variable {cfg : Config}

/-! ## What a session publishes -/

def updateTopic (cfg : Config) : String :=
  "$aws/things/" ++ cfg.shadowThingName ++ "/shadow/update"

def getTopic (cfg : Config) : String := "$aws/things/" ++ cfg.shadowThingName ++ "/shadow/get"

theorem updateTopic_ne (cfg : Config) : updateTopic cfg ≠ getTopic cfg := by
  intro h
  have hchars := congrArg String.toList h
  simp [updateTopic, getTopic] at hchars

/-- The body of the block publishes. -/
inductive Publishes (cfg : Config) (s : Shadow.State) (token : String) :
    Block → Publish → Prop where
  | change {value initial publish} (h : s.data.shadowValue.pyEq value = false)
      (hpublish : publishUpdateShadow (updateRequest cfg value token) = .ok publish) :
      Publishes cfg s token (.change value initial) publish
  | query {publish}
      (hpublish : publishGetShadow { thingName := cfg.shadowThingName, clientToken := some token } =
        .ok publish) :
      Publishes cfg s token .query publish

/-- The publishes of a session, in their order. -/
structure Log (cfg : Config) (publishes : List Publish) (s : Shadow.State) : Prop where
  length : s.publishes = publishes.length
  updates : publishes.filter (·.topic = updateTopic cfg) = s.updates.map Prod.snd
  queries : publishes.filter (·.topic = getTopic cfg) = s.queries
  topics : ∀ publish ∈ publishes, publish.topic = updateTopic cfg ∨ publish.topic = getTopic cfg

section

variable {s s' : Shadow.State} {publishes : List Publish} {publish : Publish} {t : Nat}
  {token : String} {outcome : Option (Except Exn Unit)} {block : Block}

/-- The part of a session that only a publish changes. -/
structure SameLog (s s' : Shadow.State) : Prop where
  publishes : s'.publishes = s.publishes
  updates : s'.updates = s.updates
  queries : s'.queries = s.queries

theorem Log.keep (h : Log cfg publishes s) (hsame : SameLog s s') : Log cfg publishes s' := by
  obtain ⟨hpublishes, hupdates, hqueries⟩ := hsame
  exact ⟨hpublishes ▸ h.length, hupdates ▸ h.updates, hqueries ▸ h.queries, h.topics⟩

theorem publishes_cases (cfg : Config) (s : Shadow.State) (token : String) (block : Block) :
    requestOf cfg s token block = none ∨ ∃ publish, Publishes cfg s token block publish := by
  cases block with
  | change value initial =>
      cases heq : s.data.shadowValue.pyEq value with
      | true => exact .inl (by simp [requestOf, heq])
      | false =>
          obtain ⟨publish, hpublish⟩ := publishUpdateShadow_ok cfg value token
          exact .inr ⟨publish, .change heq hpublish⟩
  | query => exact .inr ⟨_, .query (if_neg cfg.shadowThingName_ne)⟩
  | _ => exact .inl rfl

theorem Log.append (h : Log cfg publishes s) (hpublish : Publishes cfg s token block publish) :
    Log cfg (publishes ++ [publish]) (body cfg s t token outcome block) := by
  obtain ⟨hlength, hupdates, hqueries, htopics⟩ := h
  cases hpublish with
  | @change value initial publish hne hpublish =>
      have htopic : publish.topic = updateTopic cfg := by
        rw [publishUpdateShadow, updateRequest_thingName, if_neg cfg.shadowThingName_ne] at hpublish
        cases hpublish
        rfl
      refine ⟨?_, ?_, ?_, ?_⟩
      · simp [body, changeShadowValue, hne, hpublish, State.publish, State.goto, hlength]
      · simp [body, changeShadowValue, hne, hpublish, State.publish, State.goto, hupdates, htopic]
      · simp [body, changeShadowValue, hne, hpublish, State.publish, State.goto, hqueries, htopic,
          updateTopic_ne]
      · simpa [or_imp, forall_and, htopic] using htopics
  | query hpublish =>
      have htopic : publish.topic = getTopic cfg := by
        rw [publishGetShadow, if_neg cfg.shadowThingName_ne] at hpublish
        cases hpublish
        rfl
      refine ⟨?_, ?_, ?_, ?_⟩
      · simp [body, hpublish, State.publish, State.goto, hlength]
      · simp [body, hpublish, State.publish, State.goto, hupdates, htopic,
          (updateTopic_ne cfg).symm]
      · simp [body, hpublish, State.publish, State.goto, hqueries, htopic]
      · simpa [or_imp, forall_and, htopic] using htopics

theorem Publishes.ne_none (h : Publishes cfg s token block publish) :
    requestOf cfg s token block ≠ none := by
  cases h with
  | change hne hpublish => simp [requestOf, hne]
  | query hpublish => simp [requestOf]

theorem Publishes.future (h : Publishes cfg s token block publish) :
    (body cfg s t token outcome block).future =
      Function.update s.future s.publishes ⟨outcome, if outcome.isSome then 1 else 0⟩ := by
  cases h with
  | change hne hpublish => simp [body, changeShadowValue, hne, hpublish, State.publish, State.goto]
  | query hpublish => simp [body, hpublish, State.publish, State.goto]

/-- A block that publishes nothing has no use for an outcome. -/
theorem body_of_silent (h : requestOf cfg s token block = none)
    (outcome' : Option (Except Exn Unit)) :
    body cfg s t token outcome block = body cfg s t token outcome' block := by
  cases block with
  | change value initial =>
      have heq : s.data.shadowValue.pyEq value = true := by
        by_contra hne
        simp [requestOf, hne] at h
      simp [body, changeShadowValue, heq]
  | query => cases h
  | _ => rfl

/-- A step whose body publishes nothing. -/
def Silent (cfg : Config) (s : Shadow.State) : Shadow.Action → Prop
  | .body t token _ => ∀ block, s.pc t = .inside block → requestOf cfg s token block = none
  | _ => True

theorem sameLog_body (h : requestOf cfg s token block = none) :
    SameLog s (body cfg s t token outcome block) ∧
      (body cfg s t token outcome block).future = s.future := by
  have hcases := body_cases cfg s t token outcome block
  generalize body cfg s t token outcome block = s' at hcases
  cases hcases with
  | changed hne hpublish => simp [requestOf, hne] at h
  | query => cases h
  | @ignored block clientToken hblock hforeign =>
      obtain ⟨seen, hsee⟩ := see_eq s clientToken
      rw [hsee]
      exact ⟨⟨rfl, rfl, rfl⟩, rfl⟩
  | _ => exact ⟨⟨rfl, rfl, rfl⟩, rfl⟩

theorem future_of_puback {f : Nat} {outcome : Except Exn Unit}
    (h : Shadow.Step cfg s (.puback t f outcome) s') :
    s'.future = Function.update s.future f ((s.future f).set outcome) := by
  cases h with
  | acked hpc hf hpending hquiet => rfl
  | ackFailed hpc hf hpending hregistered => rfl

theorem sameLog_step {a : Shadow.Action} (h : Shadow.Step cfg s a s') (ha : Silent cfg s a) :
    SameLog s s' ∧ ((∀ t f outcome, a ≠ .puback t f outcome) → s'.future = s.future) := by
  cases h with
  | body hpc hfresh => exact ⟨(sameLog_body (ha _ hpc)).1, fun _ => (sameLog_body (ha _ hpc)).2⟩
  | acked hpc hf hpending hquiet => exact ⟨⟨rfl, rfl, rfl⟩, fun hne => absurd rfl (hne _ _ _)⟩
  | ackFailed hpc hf hpending hregistered =>
      exact ⟨⟨rfl, rfl, rfl⟩, fun hne => absurd rfl (hne _ _ _)⟩
  | _ => exact ⟨⟨rfl, rfl, rfl⟩, fun _ => rfl⟩

end

/-! ## Before the first request -/

def BlockCalm : Block → Prop
  | .change _ _ | .setLocal _ | .query => False
  | _ => True

def PcCalm : Pc → Prop
  | .idle => True
  | .waiting block | .inside block => BlockCalm block
  | .leaving next => PcCalm next
  | _ => False

/-- Nothing was asked for, and no thread is about to ask. -/
structure Calm (s : Shadow.State) : Prop where
  tokens : s.data.requestTokens = ∅
  launched : s.launched = false
  pc : ∀ t, PcCalm (s.pc t)

section

variable {s s' : Shadow.State} {t : Nat} {token : String} {outcome : Option (Except Exn Unit)}
  {block : Block}

theorem Calm.frame (h : Calm s) (htokens : s'.data.requestTokens = s.data.requestTokens)
    (hlaunched : s'.launched = s.launched) (hpc : s'.pc = s.pc) : Calm s' :=
  ⟨htokens ▸ h.tokens, hlaunched ▸ h.launched, fun u => hpc ▸ h.pc u⟩

theorem Calm.move (h : Calm s) {pc : Pc} (htokens : s'.data.requestTokens = s.data.requestTokens)
    (hlaunched : s'.launched = s.launched) (hpc : s'.pc = Function.update s.pc t pc)
    (hcalm : PcCalm pc) : Calm s' := by
  refine ⟨htokens ▸ h.tokens, hlaunched ▸ h.launched, fun u => ?_⟩
  rw [hpc]
  by_cases hu : u = t
  · simpa [hu] using hcalm
  · simpa [hu] using h.pc u

theorem calm_body (h : Calm s) (hblock : BlockCalm block) :
    Calm (body cfg s t token outcome block) := by
  have hcases := body_cases cfg s t token outcome block
  generalize body cfg s t token outcome block = s' at hcases
  cases hcases with
  | recognized htoken hown =>
      rw [h.tokens] at hown
      simp at hown
  | @ignored block clientToken htoken hforeign =>
      obtain ⟨seen, hsee⟩ := see_eq s clientToken
      rw [hsee]
      refine h.move rfl rfl rfl ?_
      exact trivial
  | malformed htoken hne hnull =>
      refine h.move rfl rfl rfl ?_
      exact trivial
  | same | changed | setLocal | query => exact hblock.elim
  | exitAgain hcalled =>
      refine h.move rfl rfl rfl ?_
      exact trivial
  | exit hcalled =>
      refine h.move rfl rfl rfl ?_
      exact trivial

theorem Calm.step {a : Shadow.Action} (h : Calm s) (hs : Shadow.Step cfg s a s')
    (ha : ∀ t task block, a = .start t task → firstBlock cfg task = some block →
      BlockCalm block) :
    Calm s' := by
  cases hs with
  | skipped hpc hblock => exact h.frame rfl rfl rfl
  | started hpc hblock =>
      refine h.move rfl rfl rfl ?_
      exact ha _ _ _ rfl hblock
  | @acquired t block hpc hlock =>
      have hcalm := h.pc t
      rw [hpc] at hcalm
      exact h.move rfl rfl rfl hcalm
  | @body t token outcome block hpc hfresh =>
      have hcalm := h.pc t
      rw [hpc] at hcalm
      exact calm_body h hcalm
  | @released t next hpc =>
      have hcalm := h.pc t
      rw [hpc] at hcalm
      exact h.move rfl rfl rfl hcalm
  | acked hpc hf hpending hquiet => exact h.frame rfl rfl rfl
  | ackFailed hpc hf hpending hregistered =>
      refine h.move rfl rfl rfl ?_
      exact trivial
  | @tokenAdded t _ _ hpc | @getTokenAdded t _ _ hpc | @registered t _ hpc _
  | @succeeded t _ hpc _ | @reentered t _ _ hpc _ | @resulted t _ hpc _
  | @resultFailed t _ _ hpc _ =>
      have hcalm := h.pc t
      rw [hpc] at hcalm
      exact hcalm.elim

/-- A calm thread publishes nothing. -/
theorem Calm.silent (h : Calm s) (a : Shadow.Action) : Silent cfg s a := by
  cases a with
  | body t token outcome =>
      intro block hpc
      have hcalm := h.pc t
      rw [hpc] at hcalm
      cases block with
      | change value initial | query => exact hcalm.elim
      | _ => rfl
  | _ => trivial

/-! ## The request of the main thread -/

/-- The get request is made by the task that is started once. -/
structure Asked (s : Shadow.State) : Prop where
  block : ∀ t, (s.pc t).block = some .query → s.queried = true
  queries : s.queries ≠ [] → s.queried = true

theorem Asked.frame (h : Asked s) (hpc : s'.pc = s.pc) (hqueries : s'.queries = s.queries)
    (hqueried : s.queried = true → s'.queried = true) : Asked s' :=
  ⟨fun u hu => hqueried (h.block u (hpc ▸ hu)), fun hne => hqueried (h.queries (hqueries ▸ hne))⟩

theorem Asked.move (h : Asked s) {pc : Pc} (hpc : s'.pc = Function.update s.pc t pc)
    (hqueries : s'.queries = s.queries) (hqueried : s.queried = true → s'.queried = true)
    (hblock : pc.block = some .query → s'.queried = true) : Asked s' := by
  refine ⟨fun u hu => ?_, fun hne => hqueried (h.queries (hqueries ▸ hne))⟩
  rw [hpc] at hu
  by_cases ht : u = t
  · simp only [ht, Function.update_self] at hu
    exact hblock hu
  · simp only [Function.update_of_ne ht] at hu
    exact hqueried (h.block u hu)

/-- No handler asks for the document. -/
theorem next_ne_query (block : Block) (s : Shadow.State) :
    block.next cfg s ≠ .ok (some .query) := by
  cases block with
  | checkGetAccepted response =>
      cases response with
      | none => simp [Block.next]
      | some response =>
          simp only [Block.next, afterGetAccepted]
          split
          · cases decideGetAccepted cfg response with
            | error e => simp [Except.map]
            | ok decision => cases decision <;> simp [Except.map]
          · simp
  | checkGetRejected error =>
      cases error with
      | none => simp [Block.next]
      | some error =>
          simp only [Block.next, afterGetRejected]
          split <;> simp
  | checkUpdateAccepted response =>
      cases response with
      | none => simp [Block.next]
      | some response =>
          cases h : decideUpdateAccepted cfg response <;> simp [Block.next, h, Except.map]
  | checkUpdateRejected error => cases error <;> simp [Block.next]
  | _ => simp [Block.next]

theorem queried_of_firstBlock {task : Task} (h : firstBlock cfg task = some .query) :
    isQuery task = true := by
  cases task with
  | query => rfl
  | typed value =>
      simp only [firstBlock] at h
      split at h <;> simp at h
  | delta event =>
      cases event with
      | none => simp [firstBlock] at h
      | some event =>
          simp only [firstBlock] at h
          split at h <;> simp at h
  | _ => simp [firstBlock] at h

theorem queried_body : (body cfg s t token outcome block).queried = s.queried := by
  have hcases := body_cases cfg s t token outcome block
  generalize body cfg s t token outcome block = s' at hcases
  cases hcases with
  | @ignored block clientToken hblock hforeign =>
      obtain ⟨seen, hsee⟩ := see_eq s clientToken
      rw [hsee]
      rfl
  | _ => rfl

theorem asked_body (h : Asked s) (hpc : s.pc t = .inside block) :
    Asked (body cfg s t token outcome block) := by
  have hcases := body_cases cfg s t token outcome block
  obtain ⟨_, pc, hpc', _, hnext⟩ := hcases.place
  have hquery : pc.block = some .query → s.queried = true := by
    intro hblock
    rcases hnext _ hblock with hexit | hnext
    · cases hexit
    · exact absurd hnext (next_ne_query block s)
  have hqueried : (body cfg s t token outcome block).queried = s.queried := queried_body
  generalize body cfg s t token outcome block = s' at hcases hpc' hqueried
  by_cases hblock : block = .query
  · have hall : s'.queried = true := by
      rw [hqueried]
      exact h.block t (by simp [hpc, hblock, Pc.block])
    exact ⟨fun _ _ => hall, fun _ => hall⟩
  · have hqueries : s'.queries = s.queries := by
      cases hcases with
      | @ignored block clientToken hblock' hforeign =>
          obtain ⟨seen, hsee⟩ := see_eq s clientToken
          rw [hsee]
          rfl
      | query => exact absurd rfl hblock
      | _ => rfl
    exact h.move hpc' hqueries (fun hq => hqueried ▸ hq) fun hb => hqueried ▸ hquery hb

/-- Only the task of the main thread marks a session as queried. -/
theorem queried_of_step {a : Shadow.Action} (h : Shadow.Step cfg s a s')
    (hq : s'.queried = true) : s.queried = true ∨ ∃ t, a = .start t .query := by
  have hstart : ∀ t task, (s.queried || isQuery task) = true →
      s.queried = true ∨ ∃ u, Shadow.Action.start t task = .start u .query := by
    intro t task hor
    rcases (Bool.or_eq_true _ _).mp hor with hor | hor
    · exact .inl hor
    · cases task with
      | query => exact .inr ⟨t, rfl⟩
      | _ => cases hor
  cases h with
  | skipped hpc hblock | started hpc hblock => exact hstart _ _ hq
  | body hpc hfresh => exact .inl (queried_body.symm.trans hq)
  | _ => exact .inl hq

theorem Asked.step {a : Shadow.Action} (h : Asked s) (hs : Shadow.Step cfg s a s') : Asked s' := by
  cases hs with
  | skipped hpc hblock => exact h.frame rfl rfl fun hq => by simp [hq]
  | @started t task block hpc hblock =>
      refine h.move rfl rfl (fun hq => by simp [State.goto, hq]) fun hquery => ?_
      obtain rfl : block = .query := by simpa [Pc.block] using hquery
      simp [State.goto, queried_of_firstBlock hblock]
  | @acquired t block hpc hlock =>
      exact h.move rfl rfl id fun hquery => h.block t (by simpa [hpc, Pc.block] using hquery)
  | body hpc hfresh => exact asked_body h hpc
  | @released t next hpc =>
      exact h.move rfl rfl id fun hquery => h.block t (by simpa [hpc, Pc.block] using hquery)
  | acked hpc hf hpending hquiet => exact h.frame rfl rfl id
  | _ => exact h.move rfl rfl id (by simp [Pc.block])

/-! ## The values of updates -/

/-- The values that a block may hand to `change_shadow_value`, now or later, have the property. -/
def BlockValues (cfg : Config) (P : Json → Prop) : Block → Prop
  | .change value _ => P value
  | .checkGetAccepted (some response) =>
      ∀ value, decideGetAccepted cfg response = .ok (.change value) → P value
  | _ => True

def Values (cfg : Config) (P : Json → Prop) (s : Shadow.State) : Prop :=
  ∀ t block, (s.pc t).block = some block → BlockValues cfg P block

variable {P : Json → Prop}

theorem Values.move (h : Values cfg P s) {pc : Pc} (hpc : s'.pc = Function.update s.pc t pc)
    (hblock : ∀ block, pc.block = some block → BlockValues cfg P block) : Values cfg P s' := by
  intro u block hu
  rw [hpc] at hu
  by_cases ht : u = t
  · simp only [ht, Function.update_self] at hu
    exact hblock block hu
  · simp only [Function.update_of_ne ht] at hu
    exact h u block hu

theorem values_next (hdefault : P shadowValueDefault) {block' : Block}
    (h : BlockValues cfg P block) (hnext : block.next cfg s = .ok (some block')) :
    BlockValues cfg P block' := by
  cases block with
  | checkGetAccepted response =>
      cases response with
      | none => cases hnext
      | some response =>
          simp only [Block.next, afterGetAccepted] at hnext
          split at hnext
          · cases hdecide : decideGetAccepted cfg response with
            | error e => simp [hdecide, Except.map] at hnext
            | ok decision =>
                cases decision with
                | change value =>
                    simp only [hdecide, Except.map, Except.ok.injEq, Option.some.injEq] at hnext
                    subst hnext
                    exact h value hdecide
                | setLocal value =>
                    simp only [hdecide, Except.map, Except.ok.injEq, Option.some.injEq] at hnext
                    subst hnext
                    trivial
          · simp at hnext
  | checkGetRejected error =>
      cases error with
      | none => cases hnext
      | some error =>
          simp only [Block.next, afterGetRejected, Except.ok.injEq, Option.some.injEq] at hnext
          subst hnext
          split
          · exact hdefault
          · trivial
  | checkUpdateAccepted response =>
      cases response with
      | none => cases hnext
      | some response =>
          cases hdecide : decideUpdateAccepted cfg response <;>
            simp [Block.next, hdecide, Except.map] at hnext
  | checkUpdateRejected error =>
      cases error with
      | none => cases hnext
      | some error =>
          cases hnext
          trivial
  | change | setLocal | exit | query => cases hnext

theorem Values.step {a : Shadow.Action} (hdefault : P shadowValueDefault) (h : Values cfg P s)
    (hs : Shadow.Step cfg s a s')
    (ha : ∀ t task block, a = .start t task → firstBlock cfg task = some block →
      BlockValues cfg P block) :
    Values cfg P s' := by
  cases hs with
  | skipped hpc hblock => exact h
  | @started t task block hpc hblock =>
      refine h.move rfl fun block' hblock' => ?_
      obtain rfl : block = block' := by simpa [Pc.block] using hblock'
      exact ha t task block rfl hblock
  | @acquired t block hpc hlock =>
      exact h.move rfl fun block' hblock' => h t block' (by simpa [hpc, Pc.block] using hblock')
  | @body t token outcome block hpc hfresh =>
      have hblock := h t block (by simp [hpc, Pc.block])
      obtain ⟨_, pc, hpc', _, hnext⟩ := (body_cases cfg s t token outcome block).place
      refine h.move hpc' fun block' hblock' => ?_
      rcases hnext block' hblock' with rfl | hnext
      · trivial
      · exact values_next hdefault hblock hnext
  | @released t next hpc =>
      exact h.move rfl fun block' hblock' => h t block' (by simpa [hpc, Pc.block] using hblock')
  | acked hpc hf hpending hquiet => exact h
  | resultFailed hpc hf | ackFailed hpc hf hpending hregistered =>
      refine h.move rfl fun block' hblock' => ?_
      obtain rfl : .exit = block' := by simpa [Pc.block] using hblock'
      trivial
  | _ => exact h.move rfl (by simp [Pc.block])

end

end IotCore.Shadow.Wire
