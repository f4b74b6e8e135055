import IotCore.Verification.Shadow.Locking

/-! # A late response to the initial query

`on_get_shadow_accepted` looks whether `shadow_value` is still unset in one block and writes it
in another one. What comes in between is overwritten. -/

namespace IotCore.Shadow

open Machine

/-! ## The contract -/

/-- The value that a thread inside a block writes for `on_get_shadow_accepted`. -/
def Pc.answer : Pc → Option Json
  | .inside (.change value true) | .inside (.setLocal value) => some value
  | _ => none

/-- The answer to the initial query changes nothing once `shadow_value` has been set. -/
def Unaffected (cfg : Config) (s : State) : Action → Prop
  | .body t token outcome =>
      ∀ value s', (s.pc t).answer = some value → s.data.shadowValue ≠ .null →
        step cfg s (.body t token outcome) = some s' →
          s'.data.shadowValue = s.data.shadowValue ∧ s'.updates = s.updates
  | _ => True

/-- The thread is not part-way through a handler. -/
def Pc.outside : Pc → Bool
  | .idle | .awaiting _ => true
  | _ => false

/-- A late response changes nothing, and between the handlers `shadow_value` is the value of
the last update or, if there is none, the reported value that was adopted. -/
structure LateQuerySpec (cfg : Config) (as : List Action) (s : State) : Prop where
  unaffected : AllSteps (step cfg) (Unaffected cfg) init as
  value : (∀ t, (s.pc t).outside) → s.data.shadowValue ≠ .null →
    (s.updates.getLast?.map Prod.fst).or s.adopted = some s.data.shadowValue

/-- An answer to the initial query finds `shadow_value` unset, or the value that it writes. -/
def keepsNewer (s : State) : Action → Prop
  | .body t _ _ =>
      match s.pc t with
      | .inside (.change value true) =>
          s.data.shadowValue = .null ∨ s.data.shadowValue.pyEq value = true
      | .inside (.setLocal value) => s.data.shadowValue = .null ∨ s.data.shadowValue = value
      | _ => True
  | _ => True

theorem body_of_step {cfg : Config} {s s' : State} {t : Nat} {token : String}
    {outcome : Option (Except Exn Unit)} (hs : step cfg s (.body t token outcome) = some s') :
    ∃ block, s.pc t = .inside block ∧ Body cfg s t token outcome block s' := by
  cases step_cases hs with
  | @body _ _ _ block hpc hfresh => exact ⟨block, hpc, body_cases cfg s t token outcome block⟩

/-- The condition is exact. -/
theorem unaffected_iff {cfg : Config} {s s' : State} {a : Action}
    (hs : step cfg s a = some s') : Unaffected cfg s a ↔ keepsNewer s a := by
  cases a with
  | body t token outcome =>
      obtain ⟨block, hpc, hbody⟩ := body_of_step hs
      have hall : Unaffected cfg s (.body t token outcome) ↔
          ∀ value, (Pc.inside block).answer = some value → s.data.shadowValue ≠ .null →
            s'.data.shadowValue = s.data.shadowValue ∧ s'.updates = s.updates := by
        simp [Unaffected, hpc, hs]
      rw [hall]
      simp only [keepsNewer, hpc]
      cases hbody with
      | @same value initial heq => cases initial <;> simp [Pc.answer, State.leave, State.goto, heq]
      | @changed value initial publish hne hpublish =>
          cases initial <;>
            simp [Pc.answer, State.goto, State.publish, hne, Classical.or_iff_not_imp_left]
      | setLocal => simp [Pc.answer, State.leave, State.goto, Classical.or_iff_not_imp_left, eq_comm]
      | recognized hblock | ignored hblock | malformed hblock =>
          cases block <;> simp [Pc.answer, Block.clientToken] at hblock ⊢
      | exitAgain | exit | query => simp [Pc.answer]
  | _ => simp [Unaffected, keepsNewer]

/-! ## The value invariant -/

/-- No block is going to unset the value. -/
def Block.Sound : Block → Prop
  | .change value _ | .setLocal value => value ≠ .null
  | _ => True

def Decision.value : Decision → Json
  | .change value | .setLocal value => value

theorem ne_null_of_truthy {value : Json} (h : value.truthy = true) : value ≠ .null := by
  rintro rfl
  simp [Json.truthy] at h

theorem decideGetAccepted_ne_null {cfg : Config} {response : GetShadowResponse}
    {decision : Decision} (h : decideGetAccepted cfg response = .ok decision) :
    decision.value ≠ .null := by
  unfold decideGetAccepted at h
  split at h
  · cases h
    simp [Decision.value, shadowValueDefault]
  · split at h
    · cases h
    · split at h
      · rename_i hdelta
        cases h
        exact ne_null_of_truthy hdelta
      · split at h
        · cases h
        · split at h
          · rename_i hreported
            cases h
            exact ne_null_of_truthy hreported
          · cases h
            simp [Decision.value, shadowValueDefault]

theorem decideDelta_ne_null {cfg : Config} {delta : ShadowDeltaUpdatedEvent} {value : Json}
    (h : decideDelta cfg delta = .ok (some value)) : value ≠ .null := by
  unfold decideDelta at h
  split at h
  · cases h
  · split at h
    · cases h
    · cases h
    · cases h
      simp [shadowValueDefault]
    · rename_i hne hmember
      split at h
      · cases h
        exact hne
      · cases h
        exact hne
      · cases h

theorem firstBlock_sound {cfg : Config} {task : Task} {block : Block}
    (h : firstBlock cfg task = some block) : block.Sound := by
  unfold firstBlock at h
  split at h
  · split at h <;> cases h <;> simp [Block.Sound]
  · cases h
    trivial
  · split at h
    · cases h
    · rename_i value hdelta
      cases h
      exact decideDelta_ne_null hdelta
    · cases h
      trivial
  all_goals
    cases h
    trivial

theorem afterGetAccepted_sound {cfg : Config} {response : GetShadowResponse} {s : State}
    {next : Block} (h : afterGetAccepted cfg response s = .ok (some next)) : next.Sound := by
  unfold afterGetAccepted at h
  split at h
  · cases hdecision : decideGetAccepted cfg response with
    | error e => simp [hdecision, Except.map] at h
    | ok decision =>
        have hne := decideGetAccepted_ne_null hdecision
        rw [hdecision] at h
        cases decision <;> cases h <;> exact hne
  · cases h

theorem next_sound {cfg : Config} {s : State} {block next : Block}
    (h : block.next cfg s = .ok (some next)) : next.Sound := by
  unfold Block.next at h
  split at h
  · exact afterGetAccepted_sound h
  · cases h
    unfold afterGetRejected
    split <;> simp [Block.Sound, shadowValueDefault]
  · rename_i response
    cases hupdate : decideUpdateAccepted cfg response <;> simp [hupdate, Except.map] at h
  · cases h
    trivial
  · cases h

/-- The value is that of the last update, or the reported one if there is none. -/
structure ValueInv (s : State) : Prop where
  blocks : ∀ t block, (s.pc t).block = some block → block.Sound
  unset : s.data.shadowValue = .null → s.updates = []
  value : s.data.shadowValue ≠ .null →
    (s.updates.getLast?.map Prod.fst).or s.adopted = some s.data.shadowValue

theorem valueInv_init : ValueInv init :=
  ⟨by simp [init, Pc.block], fun _ => rfl, by simp [init]⟩

theorem sound_move {s s' : State} {t : Nat} {pc : Pc}
    (h : ∀ t block, (s.pc t).block = some block → block.Sound)
    (hpc : s'.pc = Function.update s.pc t pc)
    (hblock : ∀ block, pc.block = some block → block.Sound) :
    ∀ t block, (s'.pc t).block = some block → block.Sound := by
  intro u block hu
  by_cases hut : u = t
  · exact hblock block (by simpa [hpc, hut] using hu)
  · exact h u block (by simpa [hpc, hut] using hu)

/-- A thread comes to a sound block, and the values stay. -/
theorem ValueInv.move {s s' : State} {t : Nat} {pc : Pc} (h : ValueInv s)
    (hpc : s'.pc = Function.update s.pc t pc)
    (hblock : ∀ block, pc.block = some block → block.Sound)
    (hvalue : s'.data.shadowValue = s.data.shadowValue) (hupdates : s'.updates = s.updates)
    (hadopted : s'.adopted = s.adopted) : ValueInv s' := by
  refine ⟨sound_move h.blocks hpc hblock, ?_, ?_⟩
  · rw [hvalue, hupdates]
    exact h.unset
  · rw [hvalue, hupdates, hadopted]
    exact h.value

theorem ValueInv.body {cfg : Config} {s s' : State} {t : Nat} {token : String}
    {outcome : Option (Except Exn Unit)} {block : Block} (h : ValueInv s)
    (hpc : s.pc t = .inside block) (hkeeps : keepsNewer s (.body t token outcome))
    (hs : Body cfg s t token outcome block s') : ValueInv s' := by
  have hsound : block.Sound := h.blocks t block (by rw [hpc]; rfl)
  obtain ⟨_, pc, hpc', _, hnext⟩ := hs.place
  have hblocks : ∀ block', pc.block = some block' → block'.Sound := by
    intro block' hblock'
    rcases hnext block' hblock' with rfl | hnext
    · trivial
    · exact next_sound hnext
  cases hs with
  | recognized | malformed | same | exitAgain | exit | query =>
      exact h.move hpc' hblocks rfl rfl rfl
  | @ignored _ clientToken =>
      obtain ⟨seen, hsee⟩ := see_eq s clientToken
      rw [hsee] at hpc' ⊢
      exact h.move hpc' hblocks rfl rfl rfl
  | @changed value initial publish hne hpublish =>
      refine ⟨sound_move h.blocks hpc' hblocks, fun hnull => absurd hnull hsound, fun _ => ?_⟩
      simp [State.goto, State.publish]
  | @setLocal value =>
      refine ⟨sound_move h.blocks hpc' hblocks, fun hnull => absurd hnull hsound, fun _ => ?_⟩
      simp only [keepsNewer, hpc] at hkeeps
      change (s.updates.getLast?.map Prod.fst).or (some value) = some value
      rcases hkeeps with hnull | rfl
      · simp [h.unset hnull]
      · have hvalue := h.value hsound
        cases hlast : s.updates.getLast? with
        | none => rfl
        | some update => simpa [hlast] using hvalue

theorem ValueInv.step {cfg : Config} {s s' : State} {a : Action} (h : ValueInv s)
    (hkeeps : keepsNewer s a) (hs : Step cfg s a s') : ValueInv s' := by
  cases hs with
  | skipped | acked => exact ⟨h.blocks, h.unset, h.value⟩
  | started hpc hblock =>
      refine h.move rfl ?_ rfl rfl rfl
      intro block' hblock'
      cases hblock'
      exact firstBlock_sound hblock
  | @acquired t block hpc =>
      have hblocks := h.blocks t
      rw [hpc] at hblocks
      exact h.move rfl hblocks rfl rfl rfl
  | @released t next hpc =>
      have hblocks := h.blocks t
      rw [hpc] at hblocks
      exact h.move rfl hblocks rfl rfl rfl
  | @body t token outcome block hpc hfresh =>
      exact h.body hpc hkeeps (body_cases cfg s t token outcome block)
  | tokenAdded | getTokenAdded | registered | succeeded | reentered | resulted =>
      exact h.move rfl (by simp [Pc.block]) rfl rfl rfl
  | resultFailed | ackFailed => exact h.move rfl (by simp [Pc.block, Block.Sound]) rfl rfl rfl

/-! ## Runs -/

/-- The response to the initial query leaves newer values alone exactly if each of its writes
finds `shadow_value` unset or equal to what it writes. -/
theorem lateQuerySpec_iff {cfg : Config} {as : List Action} {s : State}
    (h : run (step cfg) init as = some s) :
    LateQuerySpec cfg as s ↔ AllSteps (step cfg) keepsNewer init as := by
  constructor
  · intro hspec
    exact hspec.unaffected.imp (fun s a s' hs => (unaffected_iff hs).mp) h
  · intro hall
    have hinv : ValueInv s := run_invariant_of (P := keepsNewer)
      (fun s a s' hI hkeeps hs => hI.step hkeeps (step_cases hs)) h hall valueInv_init
    exact ⟨hall.imp (fun s a s' hs => (unaffected_iff hs).mpr) h, fun _ => hinv.value⟩

/-- A step moves its own thread only. -/
theorem step_pc_of_ne {cfg : Config} {s s' : State} {a : Action} {t : Nat}
    (hs : step cfg s a = some s') (ht : t ≠ a.thread) : s'.pc t = s.pc t := by
  cases step_cases hs with
  | skipped | acked => rfl
  | @body u token outcome block hpc hfresh =>
      obtain ⟨_, pc, hpc', _⟩ := (body_cases cfg s u token outcome block).place
      rw [hpc']
      exact Function.update_of_ne ht ..
  | _ => exact Function.update_of_ne ht ..

theorem run_pc_of_unused {cfg : Config} {as : List Action} {s : State} {t : Nat}
    (h : run (step cfg) init as = some s) (ht : ∀ a ∈ as, t ≠ a.thread) : s.pc t = .idle := by
  refine run_history (I := fun as s => (∀ a ∈ as, t ≠ a.thread) → s.pc t = .idle)
    (fun as s a s' hI hs ht => ?_) h (fun _ => rfl) ht
  rw [step_pc_of_ne hs (ht a (by simp))]
  exact hI fun b hb => ht b (by simp [hb])

/-- A typed value comes in between the token check and the write of the reported value. -/
theorem not_lateQuerySpec_run :
    ¬∀ cfg as s, run (step cfg) init as = some s → LateQuerySpec cfg as s := by
  intro h
  let cfg : Config := { shadowThingName := "thing", shadowThingName_ne := by decide }
  let response : GetShadowResponse :=
    { clientToken := .str "get", state := some { reported := .obj [("color", .str "red")] } }
  let as : List Action :=
    [.start 0 .query, .acquire 0, .body 0 "get" none, .advance 0, .release 0,
      .puback 1 0 (.ok ()), .advance 0,
      .start 1 (.getAccepted (some response)), .acquire 1, .body 1 "" none, .release 1,
      .start 2 (.typed "on"), .acquire 2, .body 2 "update" none, .advance 2, .advance 2,
      .release 2, .acquire 1, .body 1 "" none, .release 1]
  have hrun : (run (step cfg) init as).any fun s =>
      s.data.shadowValue.pyEq (.str "red") &&
        (s.updates.getLast?.any fun update => update.1.pyEq (.str "on")) &&
          [0, 1, 2].all fun t => (s.pc t).outside := by
    decide +kernel
  obtain ⟨s, hs, hvalues⟩ := (Option.any_eq_true _ _).mp hrun
  simp only [Bool.and_eq_true, Option.any_eq_true, Json.pyEq_str_iff] at hvalues
  obtain ⟨⟨hred, update, hlast, hon⟩, hthreads⟩ := hvalues
  have houtside : ∀ t, (s.pc t).outside := by
    intro t
    by_cases ht : t ∈ [0, 1, 2]
    · exact List.all_eq_true.mp hthreads t ht
    · have hused : ∀ a ∈ as, a.thread ∈ [0, 1, 2] := by decide +kernel
      have hunused : ∀ a ∈ as, t ≠ a.thread := by
        rintro a ha rfl
        exact ht (hused a ha)
      rw [run_pc_of_unused hs hunused]
      rfl
  have hvalue := (h cfg as s hs).value houtside (by simp [hred])
  simp [hlast, hred, hon] at hvalue

/-- Nothing has been typed before the reported value is written. -/
def findsUnset (s : State) : Action → Bool
  | .body t _ _ => (s.pc t).answer.isNone || Json.null.pyEq s.data.shadowValue
  | _ => true

theorem keepsNewer_of_findsUnset {s : State} {a : Action} (h : findsUnset s a) :
    keepsNewer s a := by
  cases a with
  | body t token outcome =>
      simp only [findsUnset, Bool.or_eq_true, Option.isNone_iff_eq_none, Json.pyEq_null] at h
      simp only [keepsNewer]
      split
      · rename_i hpc
        exact .inl (h.resolve_left (by simp [hpc, Pc.answer]))
      · rename_i hpc
        exact .inl (h.resolve_left (by simp [hpc, Pc.answer]))
      · trivial
  | _ => trivial

theorem lateQuerySpec_iff_early :
    let cfg : Config := { shadowThingName := "thing", shadowThingName_ne := by decide }
    let response : GetShadowResponse :=
      { clientToken := .str "get", state := some { reported := .obj [("color", .str "red")] } }
    let as : List Action :=
      [.start 0 .query, .acquire 0, .body 0 "get" none, .advance 0, .release 0,
        .puback 1 0 (.ok ()), .advance 0,
        .start 1 (.getAccepted (some response)), .acquire 1, .body 1 "" none, .release 1,
        .acquire 1, .body 1 "" none, .release 1,
        .start 2 (.typed "on"), .acquire 2, .body 2 "update" none, .advance 2, .advance 2,
        .release 2]
    ∃ s, run (step cfg) init as = some s ∧ LateQuerySpec cfg as s := by
  intro cfg response as
  obtain ⟨s, hs⟩ := Option.isSome_iff_exists.mp
    (show (run (step cfg) init as).isSome by decide +kernel)
  have hunset : AllSteps (step cfg) (fun s a => findsUnset s a) init as := by decide +kernel
  exact ⟨s, hs, (lateQuerySpec_iff hs).mpr
    (hunset.imp (fun _ _ _ _ => keepsNewer_of_findsUnset) hs)⟩

end IotCore.Shadow
