import Mathlib.Data.List.Forall2
import IotCore.Library.Reconciliation
import IotCore.Model.Shadow.Service
import IotCore.Verification.Shadow.Handlers

/-! # The device and the service converge

The composition refines the reconciliation of two copies of a value: a message in flight
stands for the value it carries. -/

namespace IotCore.Shadow

open Machine

/-! ## Handlers -/

theorem handle_change (cfg : Config) (w : World) (value : Json) (initial : Bool) (token : String) :
    w.handle cfg (some (.change value initial)) token =
      { w with
        data := (handleChange cfg w.data value token).data
        updates := w.updates ++ (handleChange cfg w.data value token).updates } := by
  cases heq : w.data.shadowValue.pyEq value with
  | true => simp [World.handle, handleChange, changeShadowValue, heq]
  | false =>
      obtain ⟨publish, hpublish⟩ := publishUpdateShadow_ok cfg value token
      simp [World.handle, handleChange, changeShadowValue, heq, hpublish]

/-- A handler that takes the lock at once does in a session what it does as a whole. -/
theorem handle_run {cfg : Config} {s : State} {w : World} {t : Nat} {value : Json} {initial : Bool}
    {token : String} (hpc : s.pc t = .waiting (.change value initial)) (hlock : s.lock = none)
    (hfresh : token ∉ s.issued ∪ s.seen) (hdata : s.data = w.data) :
    ∃ out, Finishes cfg s t out ∧ (w.handle cfg (some (.change value initial)) token).data = out.data ∧
      (w.handle cfg (some (.change value initial)) token).updates = w.updates ++ out.updates := by
  refine ⟨_, finishes_change hpc hlock hdata hfresh, ?_⟩
  rw [handle_change]
  exact ⟨rfl, rfl⟩

/-! ## Messages and their values -/

theorem firstBlock_typed (cfg : Config) (value : PlainValue) :
    firstBlock cfg (.typed value) = some (.change (.str value) false) := by
  have hplain := value.2
  simp only [reservedWords, List.mem_cons, not_or] at hplain
  simp [firstBlock, hplain]

theorem firstBlock_deltaEvent (cfg : Config) (value : String) (clientToken : Option String) :
    firstBlock cfg (.delta (some (deltaEvent cfg value clientToken))) =
      some (.change (.str value) false) := by
  cases clientToken <;>
    simp [firstBlock, deltaEvent, decideDelta, deltaMember, Json.truthy]

theorem reportedValue_updateRequest {cfg : Config} {value : PlainValue} {token : String}
    {publish : Publish}
    (h : publishUpdateShadow (updateRequest cfg (.str value) token) = .ok publish) :
    reportedValue cfg publish = some value.1 := by
  have hplain := value.2
  simp only [reservedWords, List.mem_cons, not_or] at hplain
  simp only [publishUpdateShadow, updateRequest_thingName, cfg.shadowThingName_ne, ↓reduceIte,
    Except.ok.injEq] at h
  rw [← h]
  simp [reportedValue, updateRequest, hplain, UpdateShadowRequest.toPayload,
    ShadowState.toPayload, ShadowState.member, List.lookup_cons]

/-! ## Refinement -/

structure Refines (cfg : Config) (w : World) (r : Reconciliation.State PlainValue) : Prop where
  value : w.data.shadowValue = .str r.value
  reported : w.service.reported = r.reported
  desired : w.service.desired = r.desired.map Subtype.val
  updates : List.Forall₂ (fun update value => reportedValue cfg update = some value.1)
    w.updates r.reports
  deltas : List.Forall₂
    (fun event value => firstBlock cfg (.delta (some event)) = some (.change (.str value.1) false))
    w.deltas r.deltas

theorem Refines.handle {cfg : Config} {w : World} {r : Reconciliation.State PlainValue}
    (h : Refines cfg w r) (value : PlainValue) (initial : Bool) (token : String) :
    Refines cfg (w.handle cfg (some (.change (.str value) initial)) token) (r.change value) := by
  by_cases heq : r.value = value
  · have hsame : changeShadowValue cfg w.data (.str value) token = (w.data, none) := by
      simp [changeShadowValue, h.value, heq]
    simp only [World.handle, hsame, Reconciliation.change_of_eq heq]
    exact ⟨h.value, h.reported, h.desired, h.updates, h.deltas⟩
  · obtain ⟨publish, hpublish⟩ := publishUpdateShadow_ok cfg (.str value) token
    have hne : r.value.1 ≠ value.1 := fun e => heq (Subtype.ext e)
    have hchanged : changeShadowValue cfg w.data (.str value) token =
        ({ w.data with shadowValue := .str value }, some (.ok publish)) := by
      simp [changeShadowValue, h.value, hne, hpublish]
    simp only [World.handle, hchanged, Reconciliation.State.change, heq, ↓reduceIte]
    exact ⟨rfl, h.reported, h.desired,
      List.rel_append h.updates (.cons (reportedValue_updateRequest hpublish) .nil), h.deltas⟩

theorem Refines.notify {cfg : Config} {w : World} {r : Reconciliation.State PlainValue}
    (h : Refines cfg w r) (clientToken : Option String) :
    Refines cfg (w.notify cfg clientToken) r.notify := by
  refine ⟨h.value, h.reported, h.desired, h.updates, List.rel_append h.deltas ?_⟩
  unfold Service.emit Reconciliation.delta
  rw [h.desired, h.reported]
  cases hdesired : r.desired with
  | none => exact .nil
  | some d =>
      by_cases heq : d = r.reported
      · simp [heq]
      · have hne : d.1 ≠ r.reported.1 := fun e => heq (Subtype.ext e)
        simp [heq, hne, firstBlock_deltaEvent]

theorem Refines.step {cfg : Config} {w w' : World} {r : Reconciliation.State PlainValue}
    {a : World.Action} (h : Refines cfg w r) (hs : w.step cfg a = some w') :
    ∃ b r', Reconciliation.step r b = some r' ∧ Refines cfg w' r' := by
  cases a with
  | typed value token =>
      cases hs
      refine ⟨.change value, _, rfl, ?_⟩
      rw [firstBlock_typed]
      exact h.handle value false token
  | desire value clientToken =>
      cases hs
      refine ⟨.desire value, _, rfl, Refines.notify ?_ clientToken⟩
      exact ⟨h.value, h.reported, rfl, h.updates, h.deltas⟩
  | deliverUpdate clientToken =>
      have hupdates := h.updates
      cases hw : w.updates with
      | nil => simp [World.step, hw] at hs
      | cons update updates =>
          rw [hw] at hupdates
          obtain ⟨value, reports, hvalue, hrest, hreports⟩ := List.forall₂_cons_left_iff.mp hupdates
          simp only [World.step, hw, hvalue, Option.some.injEq] at hs
          rw [← hs]
          refine ⟨.deliverReport, _, by simp only [Reconciliation.step, hreports]; rfl, ?_⟩
          have hdelivered : Refines cfg
              { w with updates := updates, service := { w.service with reported := value } }
              { r with reports := reports, reported := value } :=
            ⟨h.value, rfl, h.desired, hrest, h.deltas⟩
          exact hdelivered.notify clientToken
  | deliverDelta token =>
      have hdeltas := h.deltas
      cases hw : w.deltas with
      | nil => simp [World.step, hw] at hs
      | cons event deltas =>
          rw [hw] at hdeltas
          obtain ⟨value, rest, hvalue, hrest, hdeltas⟩ := List.forall₂_cons_left_iff.mp hdeltas
          simp only [World.step, hw, hvalue, Option.some.injEq] at hs
          rw [← hs]
          refine ⟨.deliverDelta, _, by simp only [Reconciliation.step, hdeltas]; rfl, ?_⟩
          have hdelivered : Refines cfg { w with deltas := deltas } { r with deltas := rest } :=
            ⟨h.value, h.reported, h.desired, h.updates, hrest⟩
          exact hdelivered.handle value false token

theorem World.Initial.refines {w : World} (h : w.Initial) (cfg : Config) :
    ∃ r, Refines cfg w r ∧ Reconciliation.Inv r := by
  obtain ⟨value, hvalue, hreported⟩ := h.value
  have inv : ∀ desired, desired = none ∨ desired = some value →
      Reconciliation.Inv ⟨value, value, desired, [], []⟩ := by
    intro desired hdesired
    refine ⟨rfl, fun d hd _ => ?_⟩
    have hd : desired = some d := hd
    rcases hdesired with hnone | hsome
    · simp [hnone] at hd
    · exact .inl (Option.some.inj (hd.symm.trans hsome))
  have messages : List.Forall₂ (fun update value => reportedValue cfg update = some value.1)
      w.updates ([] : List PlainValue) := by
    rw [h.updates]
    exact .nil
  have events : List.Forall₂ (fun event value =>
      firstBlock cfg (.delta (some event)) = some (.change (.str value.1) false))
      w.deltas ([] : List PlainValue) := by
    rw [h.deltas]
    exact .nil
  rcases h.desired with hnone | hsome
  · exact ⟨⟨value, value, none, [], []⟩, ⟨hvalue, hreported, hnone, messages, events⟩,
      inv none (.inl rfl)⟩
  · rw [hreported] at hsome
    exact ⟨⟨value, value, some value, [], []⟩, ⟨hvalue, hreported, hsome, messages, events⟩,
      inv (some value) (.inr rfl)⟩

/-! ## Runs -/

/-- In every run, whenever nothing is in flight, the device holds the value that the service
has, and the one that it desires. -/
theorem converged_run {cfg : Config} {w₀ w : World} {as : List World.Action}
    (h : run (World.step cfg) w₀ as = some w) (hinit : w₀.Initial) (hupdates : w.updates = [])
    (hdeltas : w.deltas = []) :
    w.data.shadowValue = .str w.service.reported ∧
      ∀ d, w.service.desired = some d → w.data.shadowValue = .str d := by
  obtain ⟨r₀, hrefines₀, hinv₀⟩ := hinit.refines cfg
  have hstep : ∀ w a w' r, Refines cfg w r → World.step cfg w a = some w' →
      ∃ bs r', run Reconciliation.step r bs = some r' ∧ Refines cfg w' r' := by
    intro w a w' r hrefines hs
    obtain ⟨b, r', hb, hrefines'⟩ := hrefines.step hs
    exact ⟨[b], r', run_singleton_eq_some.mpr hb, hrefines'⟩
  obtain ⟨bs, r, hrun, hrefines⟩ := run_simulation (R := Refines cfg) hstep h hrefines₀
  have hreports : r.reports = [] := by
    have hmessages := hrefines.updates
    rw [hupdates] at hmessages
    exact List.forall₂_nil_left_iff.mp hmessages
  have hdeltas' : r.deltas = [] := by
    have hevents := hrefines.deltas
    rw [hdeltas] at hevents
    exact List.forall₂_nil_left_iff.mp hevents
  obtain ⟨hvalue, hdesired⟩ :=
    (Reconciliation.inv_run hrun hinv₀).settled hreports hdeltas'
  refine ⟨by rw [hrefines.value, hrefines.reported, hvalue], fun d hd => ?_⟩
  rw [hrefines.desired, Option.map_eq_some_iff] at hd
  obtain ⟨value, hvalue', rfl⟩ := hd
  rw [hrefines.value, hdesired value hvalue']

/-- The user types a value while a delta with another one is on its way. -/
theorem converged_run_conflict :
    let cfg : Config := { shadowThingName := "thing", shadowThingName_ne := by decide }
    let w₀ : World :=
      { data := { shadowValue := .str "off" }, service := { reported := "off", desired := none } }
    let as : List World.Action :=
      [.desire ⟨"red", by decide⟩ none, .typed ⟨"blue", by decide⟩ "t1", .deliverUpdate (some "t1"),
        .deliverDelta "t2", .deliverDelta "t3", .deliverUpdate (some "t2")]
    ∃ w, run (World.step cfg) w₀ as = some w ∧ w.data.shadowValue = .str w.service.reported ∧
      ∀ d, w.service.desired = some d → w.data.shadowValue = .str d := by
  intro cfg w₀ as
  have hrun : (run (World.step cfg) w₀ as).any
      fun w => w.updates.isEmpty && w.deltas.isEmpty := by
    decide +kernel
  obtain ⟨w, hw, hempty⟩ := (Option.any_eq_true _ _).mp hrun
  simp only [Bool.and_eq_true, List.isEmpty_iff] at hempty
  exact ⟨w, hw, converged_run hw
    ⟨⟨⟨"off", by decide⟩, rfl, rfl⟩, .inl rfl, rfl, rfl⟩ hempty.1 hempty.2⟩

end IotCore.Shadow
