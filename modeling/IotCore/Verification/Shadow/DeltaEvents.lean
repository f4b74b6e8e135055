import IotCore.Verification.Json
import IotCore.Model.Shadow.Handlers
import IotCore.Verification.Shadow.Messages
import IotCore.Verification.Shadow.Steps

/-! # Delta events

The device takes over the desired value of every delta event that it can read, in the order of
delivery. Two words that users type as commands are commands here, too. -/

namespace IotCore.Shadow

open Mqtt (Builtins)
open Wire (member)

/-! ## Events -/

/-- The payload of a delta event with a value for `shadow_property`, as `json.loads` returns it. -/
structure DeltaDocument (cfg : Config) where
  fields : List (String × Json)
  state : List (String × Json)
  value : Json
  state_eq : fields.lookup "state" = some (.obj state)
  value_eq : state.lookup cfg.shadowProperty = some value
  value_ne : value ≠ .null
  value_wf : value.wf = true

/-- A document with nothing but a version and a value. -/
def DeltaDocument.ofValue (cfg : Config) (version : Int) (value : Json) (hne : value ≠ .null)
    (hwf : value.wf = true) : DeltaDocument cfg where
  fields := [("version", .int version), ("state", .obj [(cfg.shadowProperty, value)])]
  state := [(cfg.shadowProperty, value)]
  value := value
  state_eq := by simp [List.lookup_cons]
  value_eq := by simp
  value_ne := hne
  value_wf := hwf

section

variable {cfg : Config} (B : Builtins) (d : DeltaDocument cfg)

/-- What the handler is called with: the event that `from_payload` reads, or None if it raises. -/
def DeltaDocument.event : Option ShadowDeltaUpdatedEvent :=
  (Mqtt.fromPayload B Mqtt.IotShadow.shadowDeltaUpdatedEvent (.obj d.fields)).toOption.map
    Wire.shadowDeltaUpdatedEvent

/-- `from_payload` raises on no other member than the timestamp: it is absent or null, or a number
that `datetime.fromtimestamp` takes. -/
def DeltaDocument.Readable : Prop :=
  member d.fields "timestamp" = .null ∨
    ∃ q t, (member d.fields "timestamp").number = some q ∧ B.fromtimestamp q = .ok t

/-- The handler prints the client token: it is absent or null, or a string. -/
def DeltaDocument.Printable : Prop :=
  member d.fields "clientToken" = .null ∨ ∃ token, member d.fields "clientToken" = .str token

/-- The handler comes to the value. -/
structure DeltaDocument.Taken : Prop where
  readable : d.Readable B
  printable : d.Printable

end

section

variable {cfg : Config} {B : Builtins} {d : DeltaDocument cfg}

theorem taken_ofValue (version : Int) {value : Json} (hne : value ≠ .null)
    (hwf : value.wf = true) : (DeltaDocument.ofValue cfg version value hne hwf).Taken B :=
  ⟨.inl rfl, .inl rfl⟩

/-- Of the members of the event only the timestamp is not read as it is. -/
theorem readable_iff :
    d.Readable B ↔ ∃ x, Mqtt.IotShadow.shadowDeltaUpdatedEvent.Represents B (.obj d.fields) x := by
  have hmember : ∀ key value, Mqtt.Member (.obj d.fields) key value ↔ member d.fields key = value :=
    fun key value => by simp [Mqtt.Member, member]
  constructor
  · intro h
    obtain ⟨timestamp, htimestamp⟩ : ∃ timestamp,
        member d.fields "timestamp" = .null ∧ timestamp = Mqtt.Obj.none ∨
          member d.fields "timestamp" ≠ .null ∧
            Mqtt.Kind.datetime.Represents B (member d.fields "timestamp") timestamp := by
      by_cases hnull : member d.fields "timestamp" = .null
      · exact ⟨.none, .inl ⟨hnull, rfl⟩⟩
      · obtain ⟨q, t, hq, ht⟩ := h.resolve_left hnull
        refine ⟨.datetime t, .inr ⟨hnull, ?_⟩⟩
        rw [Mqtt.Kind.Represents]
        exact ⟨q, t, hq, ht, rfl⟩
    have hplain : ∀ key, ∃ value, Mqtt.Member (.obj d.fields) key value ∧
        (value = .null ∧ Mqtt.Obj.json (member d.fields key) = .none ∨
          value ≠ .null ∧ Mqtt.Kind.plain.Represents B value (.json (member d.fields key))) := by
      intro key
      refine ⟨_, (hmember key _).mpr rfl, ?_⟩
      by_cases hnull : member d.fields key = .null
      · exact .inl ⟨hnull, by rw [hnull]; rfl⟩
      · exact .inr ⟨hnull, by rw [Mqtt.Kind.Represents]⟩
    exact ⟨.instance _ [_, _, _, timestamp, _], rfl, hplain _, hplain _, hplain _,
      ⟨_, (hmember _ _).mpr rfl, htimestamp⟩, hplain _, trivial⟩
  · rintro ⟨x, hx⟩
    obtain ⟨y, _, ⟨hnull, _⟩ | ⟨_, hy⟩⟩ := Wire.getattr_slot "timestamp" "timestamp" hx (by decide)
      (.tail _ (.tail _ (.tail _ (.head _))))
    · exact .inl hnull
    · rw [Mqtt.Kind.Represents] at hy
      obtain ⟨q, t, hq, ht, _⟩ := hy
      exact .inr ⟨q, t, hq, ht⟩

/-- The event that is read. -/
def DeltaDocument.read (d : DeltaDocument cfg) : ShadowDeltaUpdatedEvent where
  clientToken := member d.fields "clientToken"
  state := .obj d.state
  version := member d.fields "version"

theorem event_of_readable (h : d.Readable B) : d.event B = some d.read := by
  obtain ⟨x, hx⟩ := readable_iff.mp h
  have hstate : member d.fields "state" = .obj d.state := by
    rw [member, d.state_eq]
    rfl
  rw [DeltaDocument.event, (Mqtt.fromPayload_eq_ok _ _ _).mpr hx, DeltaDocument.read, ← hstate,
    ← Wire.shadowDeltaUpdatedEvent_eq hx]
  rfl

theorem event_of_not_readable (h : ¬d.Readable B) : d.event B = none := by
  rw [DeltaDocument.event]
  cases hx : Mqtt.fromPayload B Mqtt.IotShadow.shadowDeltaUpdatedEvent (.obj d.fields) with
  | error e => rfl
  | ok x => exact absurd (readable_iff.mpr ⟨x, (Mqtt.fromPayload_eq_ok _ _ _).mp hx⟩) h

theorem truthy_state (d : DeltaDocument cfg) : (Json.obj d.state).truthy = true := by
  cases hs : d.state with
  | nil => simpa [hs] using d.value_eq
  | cons field fields => rfl

theorem decideDelta_of_member {delta : ShadowDeltaUpdatedEvent} {value : Json}
    (htruthy : delta.state.truthy = true) (hmember : deltaMember cfg delta.state = .ok (some value))
    (hne : value ≠ .null) :
    decideDelta cfg delta =
      match delta.clientToken with
      | .null | .str _ => .ok (some value)
      | _ => .error .typeError := by
  unfold decideDelta
  rw [htruthy, hmember]
  cases value with
  | null => exact absurd rfl hne
  | _ => rfl

theorem deltaMember_read (d : DeltaDocument cfg) :
    deltaMember cfg d.read.state = .ok (some d.value) := by
  rw [DeltaDocument.read, deltaMember, d.value_eq]

theorem decideDelta_read (d : DeltaDocument cfg) :
    decideDelta cfg d.read =
      match member d.fields "clientToken" with
      | .null | .str _ => .ok (some d.value)
      | _ => .error .typeError :=
  decideDelta_of_member (truthy_state d) (deltaMember_read d) d.value_ne

theorem decideDelta_of_printable (h : d.Printable) :
    decideDelta cfg d.read = .ok (some d.value) := by
  rw [decideDelta_read]
  rcases h with htoken | ⟨token, htoken⟩ <;> rw [htoken]

theorem decideDelta_of_not_printable (h : ¬d.Printable) :
    decideDelta cfg d.read = .error .typeError := by
  rw [decideDelta_read]
  rw [DeltaDocument.Printable] at h
  cases htoken : member d.fields "clientToken" <;> simp_all

end

/-! ## What one event does -/

theorem handleChange_of_eq {cfg : Config} {data : LockedData} {value : Json} {token : String}
    (h : data.shadowValue.pyEq value = true) :
    handleChange cfg data value token = { data := data } := by
  simp [handleChange, changeShadowValue, h]

theorem handleChange_of_ne (cfg : Config) {data : LockedData} {value : Json} (token : String)
    (h : data.shadowValue.pyEq value = false) :
    ∃ publish, publishUpdateShadow (updateRequest cfg value token) = .ok publish ∧
      handleChange cfg data value token =
        { data :=
            { data with
              shadowValue := value
              requestTokens := insert token data.requestTokens }
          updates := [publish] } := by
  obtain ⟨publish, hpublish⟩ := publishUpdateShadow_ok cfg value token
  exact ⟨publish, hpublish, by simp [handleChange, changeShadowValue, h, hpublish]⟩

theorem onShadowDeltaUpdated_event {cfg : Config} {B : Builtins} {d : DeltaDocument cfg}
    (h : d.Taken B) (data : LockedData) (token : String) :
    onShadowDeltaUpdated cfg data (d.event B) token = handleChange cfg data d.value token := by
  simp only [event_of_readable h.readable, onShadowDeltaUpdated,
    decideDelta_of_printable h.printable]

/-- An event that the handler cannot read or print ends the session and changes nothing else. -/
theorem onShadowDeltaUpdated_not_taken {cfg : Config} {B : Builtins} {d : DeltaDocument cfg}
    (h : ¬d.Taken B) (data : LockedData) (token : String) :
    ∃ e, onShadowDeltaUpdated cfg data (d.event B) token = exit data e := by
  by_cases hreadable : d.Readable B
  · have hdecide := decideDelta_of_not_printable fun hprintable => h ⟨hreadable, hprintable⟩
    exact ⟨.typeError, by simp only [event_of_readable hreadable, onShadowDeltaUpdated, hdecide]⟩
  · rw [event_of_not_readable hreadable]
    exact ⟨.attributeError, rfl⟩

/-- The value is taken over, unless Python takes it for the local one. -/
theorem handleChange_value {cfg : Config} (data : LockedData) (value : Json) (token : String) :
    (handleChange cfg data value token).data.shadowValue = value ∨
      (handleChange cfg data value token).data.shadowValue = data.shadowValue ∧
        data.shadowValue.pyEq value = true := by
  cases heq : data.shadowValue.pyEq value with
  | true => exact .inr ⟨by rw [handleChange_of_eq heq], rfl⟩
  | false =>
      obtain ⟨publish, _, hout⟩ := handleChange_of_ne cfg token heq
      exact .inl (by rw [hout])

/-! ## Orders of delivery -/

/-- The locked data after some events, each with the token that `uuid4` returns for it. -/
def deliver {cfg : Config} (B : Builtins) (data : LockedData)
    (ds : List (DeltaDocument cfg × String)) : LockedData :=
  ds.foldl (fun data d => (onShadowDeltaUpdated cfg data (d.1.event B) d.2).data) data

theorem deliver_append {cfg : Config} (B : Builtins) (data : LockedData)
    (ds : List (DeltaDocument cfg × String)) (d : DeltaDocument cfg) (token : String) :
    deliver B data (ds ++ [(d, token)]) =
      (onShadowDeltaUpdated cfg (deliver B data ds) (d.event B) token).data := by
  rw [deliver, List.foldl_append]
  rfl

/-- The event that is delivered last decides, whatever the versions are: the local value is the
one it carries, or was equal to it for Python before. An event that cannot be read or printed
leaves the local value as it is. -/
theorem deliver_concat {cfg : Config} (B : Builtins) (data : LockedData)
    (ds : List (DeltaDocument cfg × String)) (d : DeltaDocument cfg) (token : String) :
    (d.Taken B →
      (deliver B data (ds ++ [(d, token)])).shadowValue = d.value ∨
        (deliver B data (ds ++ [(d, token)])).shadowValue = (deliver B data ds).shadowValue ∧
          (deliver B data ds).shadowValue.pyEq d.value = true) ∧
      (¬d.Taken B →
        (deliver B data (ds ++ [(d, token)])).shadowValue = (deliver B data ds).shadowValue) := by
  rw [deliver_append]
  constructor
  · intro htaken
    rw [onShadowDeltaUpdated_event htaken]
    exact handleChange_value _ d.value token
  · intro htaken
    obtain ⟨e, hexit⟩ := onShadowDeltaUpdated_not_taken htaken (deliver B data ds) token
    rw [hexit]
    rfl

/-- The version of the shadow document. -/
def DeltaDocument.HasVersion {cfg : Config} (d : DeltaDocument cfg) (version : Int) : Prop :=
  member d.fields "version" = .int version

/-- The value of version 11 arrives first, and the older one replaces it. -/
theorem not_deliver_highest :
    ¬∀ (B : Builtins) (cfg : Config) (data : LockedData)
      (ds : List (DeltaDocument cfg × String × Int)),
      (∀ d ∈ ds, d.1.Taken B ∧ d.1.HasVersion d.2.2) → (ds.map fun d => d.2.2).Nodup →
      ∀ d ∈ ds, (∀ e ∈ ds, e.2.2 ≤ d.2.2) →
        (deliver B data (ds.map fun e => (e.1, e.2.1))).shadowValue.pyEq d.1.value = true := by
  intro h
  let cfg : Config := { shadowThingName := "thing", shadowThingName_ne := by decide }
  let newer := DeltaDocument.ofValue cfg 11 (.str "GREEN") (by simp) rfl
  let older := DeltaDocument.ofValue cfg 10 (.str "RED") (by simp) rfl
  have hnewer : newer.Taken .noText := taken_ofValue 11 _ _
  have holder : older.Taken .noText := taken_ofValue 10 _ _
  have hgreen := h .noText cfg {} [(newer, "t1", 11), (older, "t2", 10)]
    (by simpa using ⟨⟨hnewer, rfl⟩, holder, rfl⟩) (by decide) (newer, "t1", 11) (by simp) (by simp)
  have hred : (deliver .noText {} [(newer, "t1"), (older, "t2")]).shadowValue = .str "RED" := by
    rw [deliver, List.foldl_cons, List.foldl_cons, List.foldl_nil,
      onShadowDeltaUpdated_event hnewer, onShadowDeltaUpdated_event holder]
    rfl
  have hboth : Json.str "RED" = .str "GREEN" := by
    rw [← hred]
    exact (Json.pyEq_str_iff _ _).mp hgreen
  simp at hboth

/-! ## Values and commands -/

/-- The `state` member of an encoded update. -/
def Publish.state (publish : Publish) : Option Json :=
  match publish.payload with
  | .obj fields => fields.lookup "state"
  | _ => none

/-- A desired value is taken over and reported as it is, in a payload that `json.dumps` writes as
JSON. -/
structure DesiredSpec (cfg : Config) (data : LockedData) (value : Json) (out : Outcome) : Prop where
  taken : out.data.shadowValue.same value = true
  changed : data.shadowValue.same value = false → ∃ publish, out.updates = [publish] ∧
    publish.state = some (.obj [("reported", .obj [(cfg.shadowProperty, value)])]) ∧
    publish.payload.finite = true
  unchanged : data.shadowValue.same value = true → out.updates = []

theorem payload_of_publish {cfg : Config} {value : Json} {token : String} {publish : Publish}
    (h : publishUpdateShadow (updateRequest cfg value token) = .ok publish) :
    ∃ state, (updateRequest cfg value token).state.map ShadowState.toPayload = some state ∧
      publish.payload = .obj [("clientToken", .str token), ("state", state)] := by
  simp only [publishUpdateShadow, updateRequest_thingName, cfg.shadowThingName_ne, ↓reduceIte,
    Except.ok.injEq] at h
  rw [← h, updateRequest]
  split <;> exact ⟨_, rfl, rfl⟩

theorem state_of_publish {cfg : Config} {value : Json} {token : String} {publish : Publish}
    (h : publishUpdateShadow (updateRequest cfg value token) = .ok publish) :
    publish.state = (updateRequest cfg value token).state.map ShadowState.toPayload := by
  obtain ⟨state, hstate, hpayload⟩ := payload_of_publish h
  simp [Publish.state, hpayload, hstate, List.lookup_cons]

/-- The update reports the value exactly if the value is not one of the two commands. -/
theorem reports_iff {cfg : Config} {value : Json} {token : String} (hne : value ≠ .null) :
    (updateRequest cfg value token).state.map ShadowState.toPayload =
        some (.obj [("reported", .obj [(cfg.shadowProperty, value)])]) ↔
      value ≠ .str "none" ∧ value ≠ .str "clear_shadow" := by
  by_cases hclear : value = .str "clear_shadow"
  · subst hclear
    simp [updateRequest, ShadowState.toPayload, ShadowState.member]
  · by_cases hnone : value = .str "none"
    · subst hnone
      simp [updateRequest, ShadowState.toPayload, ShadowState.member]
    · simp [updateRequest, ShadowState.toPayload, ShadowState.member, hclear, hnone]

/-- Such an update is JSON exactly if the value is. -/
theorem finite_of_reports {cfg : Config} {value : Json} {token : String} {publish : Publish}
    (h : publishUpdateShadow (updateRequest cfg value token) = .ok publish)
    (hstate : publish.state =
      some (.obj [("reported", .obj [(cfg.shadowProperty, value)])])) :
    publish.payload.finite = value.finite := by
  obtain ⟨state, hupdate, hpayload⟩ := payload_of_publish h
  rw [state_of_publish h, hupdate, Option.some.injEq] at hstate
  simp [hpayload, hstate, Json.finite, Json.finiteDict]

/-- A value that Python takes for the local one is neither taken over nor reported. -/
theorem desiredSpec_of_eq {cfg : Config} {data : LockedData} {value : Json} {token : String}
    (h : data.shadowValue.pyEq value = true) :
    DesiredSpec cfg data value (handleChange cfg data value token) ↔
      data.shadowValue.same value = true := by
  rw [handleChange_of_eq h]
  constructor
  · intro hspec
    exact hspec.taken
  · intro hsame
    refine ⟨hsame, fun hdiffers => ?_, fun _ => rfl⟩
    rw [hsame] at hdiffers
    cases hdiffers

theorem desiredSpec_of_ne {cfg : Config} {data : LockedData} {value : Json} {token : String}
    (hwf : value.wf = true) (hne : value ≠ .null) (h : data.shadowValue.pyEq value = false) :
    DesiredSpec cfg data value (handleChange cfg data value token) ↔
      value ≠ .str "none" ∧ value ≠ .str "clear_shadow" ∧ value.finite = true := by
  obtain ⟨publish, hpublish, hout⟩ := handleChange_of_ne cfg token h
  rw [hout]
  constructor
  · intro hspec
    have hdiffers : data.shadowValue.same value = false := by
      rw [Bool.eq_false_iff]
      intro hsame
      have hnone := hspec.unchanged hsame
      cases hnone
    obtain ⟨publish', hpublish', hstate, hfinite⟩ := hspec.changed hdiffers
    obtain rfl : publish = publish' := by simpa using hpublish'
    rw [finite_of_reports hpublish hstate] at hfinite
    rw [state_of_publish hpublish, reports_iff hne] at hstate
    exact ⟨hstate.1, hstate.2, hfinite⟩
  · rintro ⟨hnone, hclear, hfinite⟩
    have hstate : publish.state = _ :=
      (state_of_publish hpublish).trans ((reports_iff hne).mpr ⟨hnone, hclear⟩)
    refine ⟨Json.same_refl _ hwf, fun _ => ⟨publish, rfl, hstate, ?_⟩, fun hsame => ?_⟩
    · rw [finite_of_reports hpublish hstate, hfinite]
    · have hnan : value ≠ .nan := by
        rintro rfl
        cases hfinite
      rw [Json.pyEq_of_same_of_ne hsame hnan] at h
      cases h

/-- An event that is not taken is no matter if the local value is the same already. -/
theorem desiredSpec_of_exit {cfg : Config} {data : LockedData} {value : Json} (e : Exn) :
    DesiredSpec cfg data value (exit data e) ↔ data.shadowValue.same value = true := by
  constructor
  · intro hspec
    exact hspec.taken
  · intro hsame
    refine ⟨hsame, fun hdiffers => ?_, fun _ => rfl⟩
    rw [hsame] at hdiffers
    cases hdiffers

/-- A desired value is treated as data exactly if the local value is the same already, and no NaN
that the handler comes to, or if the handler comes to the value, it is different for Python too,
none of the two commands, and without NaN and infinities. -/
theorem desiredSpec_iff {cfg : Config} (B : Builtins) (data : LockedData) (d : DeltaDocument cfg)
    (token : String) :
    DesiredSpec cfg data d.value (onShadowDeltaUpdated cfg data (d.event B) token) ↔
      data.shadowValue.same d.value = true ∧ (d.Taken B → d.value ≠ .nan) ∨
        d.Taken B ∧ data.shadowValue.pyEq d.value = false ∧ d.value ≠ .str "none" ∧
          d.value ≠ .str "clear_shadow" ∧ d.value.finite = true := by
  by_cases htaken : d.Taken B
  · rw [onShadowDeltaUpdated_event htaken]
    cases hpy : data.shadowValue.pyEq d.value with
    | true =>
        have hnan : d.value ≠ .nan := by
          intro hnan
          rw [hnan] at hpy
          cases hvalue : data.shadowValue <;> simp_all [Json.pyEq, Json.number]
        rw [desiredSpec_of_eq hpy]
        simp [hnan]
    | false =>
        rw [desiredSpec_of_ne d.value_wf d.value_ne hpy]
        have hsame : ¬(data.shadowValue.same d.value = true ∧ (d.Taken B → d.value ≠ .nan)) := by
          rintro ⟨hsame, hnan⟩
          rw [Json.pyEq_of_same_of_ne hsame (hnan htaken)] at hpy
          cases hpy
        rw [or_iff_right hsame]
        simp [htaken]
  · obtain ⟨e, hexit⟩ := onShadowDeltaUpdated_not_taken htaken data token
    rw [hexit, desiredSpec_of_exit]
    simp [htaken]

/-- A remote writer clears the shadow document. -/
theorem not_desiredSpec_clear :
    ¬∀ (B : Builtins) (cfg : Config) (data : LockedData) (d : DeltaDocument cfg) (token : String),
      d.Taken B → DesiredSpec cfg data d.value (onShadowDeltaUpdated cfg data (d.event B) token) := by
  intro h
  let cfg : Config := { shadowThingName := "thing", shadowThingName_ne := by decide }
  let d := DeltaDocument.ofValue cfg 1 (.str "clear_shadow") (by simp) rfl
  have htaken : d.Taken .noText := taken_ofValue 1 _ _
  have hspec := h .noText cfg {} d "token" htaken
  have hne : ({} : LockedData).shadowValue.pyEq d.value = false := rfl
  rw [onShadowDeltaUpdated_event htaken, desiredSpec_of_ne d.value_wf d.value_ne hne] at hspec
  exact hspec.2.1 rfl

end IotCore.Shadow
