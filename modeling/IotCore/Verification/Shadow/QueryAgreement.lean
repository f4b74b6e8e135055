import IotCore.Verification.Shadow.DeltaEvents

/-! # The initial query and the delta event

The two handlers find the same values in a shadow document, except those that Python takes for
false: the query passes over `false`, 0 and everything empty. -/

namespace IotCore.Shadow

/-! ## What a document holds -/

def GetShadowResponse.delta (response : GetShadowResponse) : Json :=
  match response.state with
  | none => .null
  | some state => state.delta

def GetShadowResponse.reported (response : GetShadowResponse) : Json :=
  match response.state with
  | none => .null
  | some state => state.reported

/-- This part of the document holds a value for `shadow_property`. -/
def HasValue (cfg : Config) (part value : Json) : Prop :=
  value ≠ .null ∧ ∃ fields, part = .obj fields ∧ fields.lookup cfg.shadowProperty = some value

def Absent (cfg : Config) (part : Json) : Prop :=
  ∀ value, ¬HasValue cfg part value

/-- The part is a `dict`, or is taken for one that is not there. -/
def Readable (part : Json) : Prop :=
  part.truthy = false ∨ ∃ fields, part = .obj fields

/-- The query goes on to what comes after this part. -/
def Skipped (cfg : Config) (part : Json) : Prop :=
  Readable part ∧ ∀ value, HasValue cfg part value → value.truthy = false

theorem HasValue.unique {cfg : Config} {part value value' : Json} (h : HasValue cfg part value)
    (h' : HasValue cfg part value') : value = value' := by
  obtain ⟨-, fields, rfl, hvalue⟩ := h
  obtain ⟨-, fields', hfields, hvalue'⟩ := h'
  obtain rfl : fields = fields' := by simpa using hfields
  rw [hvalue] at hvalue'
  simpa using hvalue'

theorem HasValue.readable {cfg : Config} {part value : Json} (h : HasValue cfg part value) :
    Readable part := by
  obtain ⟨-, fields, rfl, -⟩ := h
  exact .inr ⟨fields, rfl⟩

theorem absent_of_not_readable {cfg : Config} {part : Json} (h : ¬Readable part) :
    Absent cfg part :=
  fun _ hvalue => h hvalue.readable

theorem Absent.skipped {cfg : Config} {part : Json} (h : Absent cfg part) (hread : Readable part) :
    Skipped cfg part :=
  ⟨hread, fun value hvalue => absurd hvalue (h value)⟩

/-- A value that is found is the only one. -/
theorem HasValue.skipped {cfg : Config} {part value : Json} (h : HasValue cfg part value)
    (hfalsy : value.truthy = false) : Skipped cfg part :=
  ⟨h.readable, fun value' h' => by rwa [← h.unique h']⟩

theorem part_cases (cfg : Config) (part : Json) :
    ¬Readable part ∨ Skipped cfg part ∨ ∃ value, HasValue cfg part value ∧ value.truthy = true := by
  by_cases hread : Readable part
  · by_cases htruthy : ∃ value, HasValue cfg part value ∧ value.truthy = true
    · exact .inr (.inr htruthy)
    · refine .inr (.inl ⟨hread, fun value hvalue => ?_⟩)
      rw [Bool.eq_false_iff]
      exact fun h => htruthy ⟨value, hvalue, h⟩
  · exact .inl hread

theorem wf_of_falsy {value : Json} (h : value.truthy = false) : value.wf = true := by
  cases value with
  | arr values =>
      obtain rfl : values = [] := by simpa [Json.truthy] using h
      rfl
  | obj fields =>
      obtain rfl : fields = [] := by simpa [Json.truthy] using h
      rfl
  | _ => rfl

/-! ## What the query finds -/

theorem getMember_hasValue {cfg : Config} {part value : Json} (h : HasValue cfg part value) :
    getMember part cfg.shadowProperty = .ok value := by
  obtain ⟨-, fields, rfl, hvalue⟩ := h
  cases fields with
  | nil => simp at hvalue
  | cons field fields => simp [getMember, Json.truthy, hvalue]

theorem getMember_skipped {cfg : Config} {part : Json} (h : Skipped cfg part) :
    ∃ value, getMember part cfg.shadowProperty = .ok value ∧ value.truthy = false := by
  obtain ⟨hempty | ⟨fields, rfl⟩, hvalues⟩ := h
  · exact ⟨.null, by simp [getMember, hempty], rfl⟩
  · cases hlookup : fields.lookup cfg.shadowProperty with
    | none => exact ⟨.null, by simp [getMember, hlookup], rfl⟩
    | some value =>
        by_cases hnull : value = .null
        · exact ⟨.null, by simp [getMember, hlookup, hnull], rfl⟩
        · have hvalue : HasValue cfg (.obj fields) value := ⟨hnull, fields, rfl, hlookup⟩
          exact ⟨value, getMember_hasValue hvalue, hvalues value hvalue⟩

theorem getMember_not_readable {part : Json} (h : ¬Readable part) (key : String) :
    getMember part key = .error .attributeError := by
  rw [Readable, not_or, Bool.not_eq_false] at h
  cases part with
  | obj fields => exact absurd ⟨fields, rfl⟩ h.2
  | _ => simp only [getMember, h.1, ↓reduceIte]

/-! ## What the query decides -/

theorem decideGetAccepted_eq (cfg : Config) (response : GetShadowResponse) :
    decideGetAccepted cfg response =
      decideGetAccepted cfg { state := some ⟨response.delta, response.reported⟩ } := by
  rcases response with ⟨token, _ | state⟩ <;> rfl

theorem decideGetAccepted_delta {cfg : Config} {response : GetShadowResponse} {value : Json}
    (h : HasValue cfg response.delta value) (htruthy : value.truthy = true) :
    decideGetAccepted cfg response = .ok (.change value) := by
  rw [decideGetAccepted_eq]
  simp [decideGetAccepted, getMember_hasValue h, htruthy]

theorem decideGetAccepted_reported {cfg : Config} {response : GetShadowResponse} {value : Json}
    (hdelta : Skipped cfg response.delta) (h : HasValue cfg response.reported value)
    (htruthy : value.truthy = true) :
    decideGetAccepted cfg response = .ok (.setLocal value) := by
  obtain ⟨falsy, hget, hfalsy⟩ := getMember_skipped hdelta
  rw [decideGetAccepted_eq]
  simp [decideGetAccepted, hget, hfalsy, getMember_hasValue h, htruthy]

theorem decideGetAccepted_default {cfg : Config} {response : GetShadowResponse}
    (hdelta : Skipped cfg response.delta) (hreported : Skipped cfg response.reported) :
    decideGetAccepted cfg response = .ok (.change shadowValueDefault) := by
  obtain ⟨falsy, hget, hfalsy⟩ := getMember_skipped hdelta
  obtain ⟨falsy', hget', hfalsy'⟩ := getMember_skipped hreported
  rw [decideGetAccepted_eq]
  simp [decideGetAccepted, hget, hfalsy, hget', hfalsy']

theorem decideGetAccepted_error {cfg : Config} {response : GetShadowResponse}
    (h : ¬Readable response.delta ∨ Skipped cfg response.delta ∧ ¬Readable response.reported) :
    decideGetAccepted cfg response = .error .attributeError := by
  rw [decideGetAccepted_eq]
  rcases h with hdelta | ⟨hdelta, hreported⟩
  · simp [decideGetAccepted, getMember_not_readable hdelta]
  · obtain ⟨falsy, hget, hfalsy⟩ := getMember_skipped hdelta
    simp [decideGetAccepted, hget, hfalsy, getMember_not_readable hreported]

/-! ## What the query does -/

/-- The default value is set and reported. -/
def SetsDefault (cfg : Config) (out : Outcome) : Prop :=
  out.data.shadowValue = shadowValueDefault ∧ ∃ publish, out.updates = [publish] ∧
    publish.state = some (.obj [("reported", .obj [(cfg.shadowProperty, shadowValueDefault)])])

/-- What the query is to do with the document, the delta event being the model for a desired
value. -/
structure QuerySpec (cfg : Config) (data : LockedData) (response : GetShadowResponse)
    (token : String) (out : Outcome) : Prop where
  delta : ∀ (B : Mqtt.Builtins) (d : DeltaDocument cfg), d.Taken B →
    HasValue cfg response.delta d.value →
    out.data.shadowValue = (onShadowDeltaUpdated cfg data (d.event B) token).data.shadowValue ∧
      out.updates = (onShadowDeltaUpdated cfg data (d.event B) token).updates
  reported : Absent cfg response.delta → ∀ value, HasValue cfg response.reported value →
    out.data.shadowValue = value ∧ out.updates = []
  default : Absent cfg response.delta → Absent cfg response.reported → SetsDefault cfg out

/-- No value that counts is taken for false, and what is no `dict` is taken for absent. -/
structure Agrees (cfg : Config) (response : GetShadowResponse) : Prop where
  delta : Readable response.delta
  delta_truthy : ∀ value, HasValue cfg response.delta value → value.truthy = true
  reported : Absent cfg response.delta → Readable response.reported
  reported_truthy : Absent cfg response.delta →
    ∀ value, HasValue cfg response.reported value → value.truthy = true

/-- The local value alone decides what a change does to it and what it publishes. -/
theorem handleChange_congr (cfg : Config) {data data' : LockedData} (value : Json) (token : String)
    (h : data'.shadowValue = data.shadowValue) :
    (handleChange cfg data' value token).data.shadowValue =
        (handleChange cfg data value token).data.shadowValue ∧
      (handleChange cfg data' value token).updates = (handleChange cfg data value token).updates := by
  cases heq : data.shadowValue.pyEq value with
  | true =>
      have heq' : data'.shadowValue.pyEq value = true := by rw [h, heq]
      rw [handleChange_of_eq heq, handleChange_of_eq heq']
      exact ⟨h, rfl⟩
  | false =>
      have heq' : data'.shadowValue.pyEq value = false := by rw [h, heq]
      obtain ⟨publish, hpublish, hout⟩ := handleChange_of_ne cfg token heq
      obtain ⟨publish', hpublish', hout'⟩ := handleChange_of_ne cfg token heq'
      obtain rfl : publish = publish' := by simpa [hpublish] using hpublish'
      rw [hout, hout']
      exact ⟨rfl, rfl⟩

theorem pyEq_of_null {data : LockedData} {value : Json} (hnull : data.shadowValue = .null)
    (hne : value ≠ .null) : data.shadowValue.pyEq value = false := by
  rw [hnull, Bool.eq_false_iff]
  simpa using hne

theorem handleChange_null {cfg : Config} {data : LockedData} {value : Json} (token : String)
    (hnull : data.shadowValue = .null) (hne : value ≠ .null) :
    (handleChange cfg data value token).data.shadowValue = value := by
  obtain ⟨publish, _, hout⟩ := handleChange_of_ne cfg token (pyEq_of_null hnull hne)
  rw [hout]

section

variable {cfg : Config} {data : LockedData} {response : GetShadowResponse} {own : String}
  (token : String) (hnull : data.shadowValue = .null) (hown : response.clientToken = .str own)
  (hmem : own ∈ data.requestTokens)

include hnull hown hmem

theorem query_change {value : Json} (h : decideGetAccepted cfg response = .ok (.change value)) :
    (onGetShadowAccepted cfg data response token).data.shadowValue =
        (handleChange cfg data value token).data.shadowValue ∧
      (onGetShadowAccepted cfg data response token).updates =
        (handleChange cfg data value token).updates := by
  have hout : onGetShadowAccepted cfg data response token =
      handleChange cfg { data with requestTokens := data.requestTokens.erase own } value token := by
    simp [onGetShadowAccepted, hown, removeToken, hmem, hnull, h]
  rw [hout]
  exact handleChange_congr cfg value token rfl

theorem query_setLocal {value : Json}
    (h : decideGetAccepted cfg response = .ok (.setLocal value)) :
    (onGetShadowAccepted cfg data response token).data.shadowValue = value ∧
      (onGetShadowAccepted cfg data response token).updates = [] := by
  simp [onGetShadowAccepted, hown, removeToken, hmem, hnull, h]

theorem query_error {e : Exn} (h : decideGetAccepted cfg response = .error e) :
    (onGetShadowAccepted cfg data response token).data.shadowValue = .null := by
  simp [onGetShadowAccepted, hown, removeToken, hmem, hnull, h, exit]

theorem query_default (h : decideGetAccepted cfg response = .ok (.change shadowValueDefault)) :
    SetsDefault cfg (onGetShadowAccepted cfg data response token) := by
  obtain ⟨hvalue, hupdates⟩ := query_change token hnull hown hmem h
  have hne : shadowValueDefault ≠ .null := by simp [shadowValueDefault]
  obtain ⟨publish, hpublish, hout⟩ := handleChange_of_ne cfg token (pyEq_of_null hnull hne)
  rw [hout] at hvalue hupdates
  refine ⟨hvalue, publish, hupdates, ?_⟩
  rw [state_of_publish hpublish]
  exact (reports_iff hne).mpr (by simp [shadowValueDefault])

/-- A query that passes over the delta ends with `None` or with a value that is true. -/
theorem query_skipped (h : Skipped cfg response.delta) :
    (onGetShadowAccepted cfg data response token).data.shadowValue = .null ∨
      (onGetShadowAccepted cfg data response token).data.shadowValue.truthy = true := by
  rcases part_cases cfg response.reported with hreported | hreported | ⟨value, hvalue, htruthy⟩
  · exact .inl (query_error token hnull hown hmem (decideGetAccepted_error (.inr ⟨h, hreported⟩)))
  · obtain ⟨hdefault, -⟩ := query_default token hnull hown hmem
      (decideGetAccepted_default h hreported)
    exact .inr (by rw [hdefault]; rfl)
  · obtain ⟨hset, -⟩ := query_setLocal token hnull hown hmem
      (decideGetAccepted_reported h hvalue htruthy)
    exact .inr (by rw [hset, htruthy])

/-! ## Agreement -/

theorem querySpec_of_agrees (h : Agrees cfg response) :
    QuerySpec cfg data response token (onGetShadowAccepted cfg data response token) := by
  constructor
  · intro B d htaken hvalue
    rw [onShadowDeltaUpdated_event htaken]
    exact query_change token hnull hown hmem
      (decideGetAccepted_delta hvalue (h.delta_truthy d.value hvalue))
  · intro habsent value hvalue
    exact query_setLocal token hnull hown hmem
      (decideGetAccepted_reported (habsent.skipped h.delta) hvalue
        (h.reported_truthy habsent value hvalue))
  · intro hdelta hreported
    exact query_default token hnull hown hmem
      (decideGetAccepted_default (hdelta.skipped h.delta) (hreported.skipped (h.reported hdelta)))

/-- What the query does with a document that it cannot read is not what it is to do. -/
theorem readable_of_querySpec
    (h : QuerySpec cfg data response token (onGetShadowAccepted cfg data response token)) :
    Readable response.delta ∧ (Absent cfg response.delta → Readable response.reported) := by
  have hdelta : Readable response.delta := by
    by_contra hread
    have herror : decideGetAccepted cfg response = .error .attributeError :=
      decideGetAccepted_error (.inl hread)
    have hvalue := query_error token hnull hown hmem herror
    by_cases hreported : Absent cfg response.reported
    · have hdefault := (h.default (absent_of_not_readable hread) hreported).1
      rw [hvalue] at hdefault
      cases hdefault
    · simp only [Absent, not_forall, not_not] at hreported
      obtain ⟨value, hreported⟩ := hreported
      have hset := (h.reported (absent_of_not_readable hread) value hreported).1
      exact hreported.1 (hset.symm.trans hvalue)
  refine ⟨hdelta, fun habsent => ?_⟩
  by_contra hread
  have hvalue := query_error token hnull hown hmem
    (decideGetAccepted_error (.inr ⟨habsent.skipped hdelta, hread⟩))
  have hdefault := (h.default habsent (absent_of_not_readable hread)).1
  rw [hvalue] at hdefault
  cases hdefault

theorem delta_truthy_of_querySpec
    (h : QuerySpec cfg data response token (onGetShadowAccepted cfg data response token))
    {value : Json} (hvalue : HasValue cfg response.delta value) : value.truthy = true := by
  by_contra hfalsy
  rw [Bool.not_eq_true] at hfalsy
  let d := DeltaDocument.ofValue cfg 1 value hvalue.1 (wf_of_falsy hfalsy)
  have hevent : d.Taken .noText := taken_ofValue 1 _ _
  have htaken := (h.delta .noText d hevent hvalue).1
  rw [onShadowDeltaUpdated_event hevent, handleChange_null token hnull d.value_ne] at htaken
  rcases query_skipped token hnull hown hmem (hvalue.skipped hfalsy) with hnone | htruthy
  · exact hvalue.1 (htaken.symm.trans hnone)
  · rw [htaken] at htruthy
    exact absurd (hfalsy.symm.trans htruthy) Bool.false_ne_true

theorem reported_truthy_of_querySpec
    (h : QuerySpec cfg data response token (onGetShadowAccepted cfg data response token))
    (habsent : Absent cfg response.delta) {value : Json}
    (hvalue : HasValue cfg response.reported value) : value.truthy = true := by
  by_contra hfalsy
  rw [Bool.not_eq_true] at hfalsy
  have hread := (readable_of_querySpec token hnull hown hmem h).1
  have hdefault := (query_default token hnull hown hmem
    (decideGetAccepted_default (habsent.skipped hread) (hvalue.skipped hfalsy))).1
  rw [(h.reported habsent value hvalue).1] at hdefault
  rw [hdefault] at hfalsy
  cases hfalsy

end

/-- The query does what the delta event does exactly if no value that counts is taken for
false. -/
theorem querySpec_iff {cfg : Config} {data : LockedData} {response : GetShadowResponse}
    {own : String} (token : String) (hnull : data.shadowValue = .null)
    (hown : response.clientToken = .str own) (hmem : own ∈ data.requestTokens) :
    QuerySpec cfg data response token (onGetShadowAccepted cfg data response token) ↔
      Agrees cfg response := by
  constructor
  · intro h
    obtain ⟨hdelta, hreported⟩ := readable_of_querySpec token hnull hown hmem h
    exact
      { delta := hdelta
        delta_truthy := fun _ => delta_truthy_of_querySpec token hnull hown hmem h
        reported := hreported
        reported_truthy := fun habsent _ =>
          reported_truthy_of_querySpec token hnull hown hmem h habsent }
  · exact querySpec_of_agrees token hnull hown hmem

theorem querySpec_iff_desired :
    ∃ (cfg : Config) (data : LockedData) (response : GetShadowResponse) (token : String),
      response.delta.truthy = true ∧ Agrees cfg response ∧
        QuerySpec cfg data response token (onGetShadowAccepted cfg data response token) := by
  let cfg : Config := { shadowThingName := "thing", shadowThingName_ne := by decide }
  let response : GetShadowResponse :=
    { clientToken := .str "t0", state := some { delta := .obj [("color", .str "red")] } }
  have hvalue : HasValue cfg response.delta (.str "red") := ⟨by simp, _, rfl, by simp [cfg]⟩
  have hagrees : Agrees cfg response := by
    refine ⟨hvalue.readable, fun value h => ?_, fun h => absurd hvalue (h _),
      fun h => absurd hvalue (h _)⟩
    rw [← hvalue.unique h]
    decide
  exact ⟨cfg, { requestTokens := {"t0"} }, response, "t1", rfl, hagrees,
    (querySpec_iff "t1" rfl rfl (by simp)).mpr hagrees⟩

/-- The device reported `false`, and the query makes it report the default value. -/
theorem not_querySpec_false :
    ¬∀ (cfg : Config) (data : LockedData) (response : GetShadowResponse) (own token : String),
      data.shadowValue = .null → response.clientToken = .str own → own ∈ data.requestTokens →
        QuerySpec cfg data response token (onGetShadowAccepted cfg data response token) := by
  intro h
  let cfg : Config := { shadowThingName := "thing", shadowThingName_ne := by decide }
  let response : GetShadowResponse :=
    { clientToken := .str "t0", state := some { reported := .obj [("color", .bool false)] } }
  have hspec := h cfg { requestTokens := {"t0"} } response "t0" "t1" rfl rfl (by simp)
  have habsent : Absent cfg response.delta := by
    rintro value ⟨-, fields, hfields, -⟩
    cases hfields
  have hvalue : HasValue cfg response.reported (.bool false) := ⟨by simp, _, rfl, by simp [cfg]⟩
  have htruthy := reported_truthy_of_querySpec "t1" rfl rfl (by simp) hspec habsent hvalue
  cases htruthy

end IotCore.Shadow
