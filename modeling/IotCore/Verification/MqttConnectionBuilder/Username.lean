import IotCore.Model.MqttConnectionBuilder

/-! # The username of a custom authorizer

The username that is handed over is a query: every function that adds a parameter finds out
for itself which separator comes next. -/

namespace IotCore.MqttConnectionBuilder

/-! ## Adding parameters -/

theorem contains_query_iff (s : String) : contains s "?" = true ↔ '?' ∈ s.toList := by
  simp [contains, List.singleton_infix_iff]

/-- One parameter more. -/
def addParameter (username parameter : String) : String :=
  username ++ (if '?' ∈ username.toList then "&" else "?") ++ parameter

/-- The username with its parameters, the first of which may begin the query. -/
def joinParameters (username : String) : List String → String
  | [] => username
  | parameter :: parameters =>
      parameters.foldl (fun s p => s ++ "&" ++ p) (addParameter username parameter)

theorem query_addParameter (username parameter : String) :
    '?' ∈ (addParameter username parameter).toList := by
  by_cases h : '?' ∈ username.toList
  · simp [addParameter, h]
  · simp [addParameter, h]

theorem foldl_addParameter_of_query {username : String} (h : '?' ∈ username.toList)
    (parameters : List String) :
    parameters.foldl addParameter username =
      parameters.foldl (fun s p => s ++ "&" ++ p) username := by
  induction parameters generalizing username with
  | nil => rfl
  | cons p parameters ih =>
      have hadd : addParameter username p = username ++ "&" ++ p := by simp [addParameter, h]
      rw [List.foldl_cons, List.foldl_cons, ih (query_addParameter username p), hadd]

/-- After the first parameter there is a query. -/
theorem foldl_addParameter (username : String) (parameters : List String) :
    parameters.foldl addParameter username = joinParameters username parameters := by
  cases parameters with
  | nil => rfl
  | cons p parameters =>
      exact foldl_addParameter_of_query (query_addParameter username p) parameters

/-- What the parameters add to the length of a username, separators included. -/
def addedLength : List String → ℕ
  | [] => 0
  | parameter :: parameters => parameter.length + 1 + addedLength parameters

theorem length_foldl_addParameter (username : String) (parameters : List String) :
    (parameters.foldl addParameter username).length =
      username.length + addedLength parameters := by
  induction parameters generalizing username with
  | nil => simp [addedLength]
  | cons p parameters ih =>
      have hadd : (addParameter username p).length = username.length + (p.length + 1) := by
        have hsep : (if '?' ∈ username.toList then "&" else "?").length = 1 := by split <;> rfl
        rw [addParameter, String.length_append, String.length_append, hsep]
        omega
      rw [List.foldl_cons, ih, hadd, addedLength]
      omega

theorem addedLength_append (ps qs : List String) :
    addedLength (ps ++ qs) = addedLength ps + addedLength qs := by
  induction ps with
  | nil => simp [addedLength]
  | cons p ps ih =>
      rw [List.cons_append, addedLength, addedLength, ih]
      omega

/-! ## A parameter and its key -/

/-- What `_add_to_username_parameter` adds: the key goes before a value that does not contain
it. -/
def foundParameter (key value : String) : String :=
  if contains value key then value else key ++ value

/-- The parameter that begins with its key. -/
def keyedParameter (key value : String) : String :=
  if key.toList <+: value.toList then value else key ++ value

/-- The key is at the front of the value, or nowhere. -/
def KeyAtFront (key value : String) : Prop :=
  key.toList <+: value.toList ∨ contains value key = false

theorem foundParameter_eq {key value : String} (h : KeyAtFront key value) :
    foundParameter key value = keyedParameter key value := by
  rcases h with hfront | hnowhere
  · have hcontains : contains value key = true := by simpa [contains] using hfront.isInfix
    simp [foundParameter, keyedParameter, hfront, hcontains]
  · have hfront : ¬key.toList <+: value.toList := by
      intro h
      simp [contains, h.isInfix] at hnowhere
    simp [foundParameter, keyedParameter, hfront, hnowhere]

theorem length_foundParameter_le (key value : String) :
    (foundParameter key value).length ≤ (keyedParameter key value).length := by
  by_cases h : KeyAtFront key value
  · rw [foundParameter_eq h]
  · rw [KeyAtFront, not_or, Bool.not_eq_false] at h
    simp [foundParameter, keyedParameter, h.1, h.2]

theorem keyAtFront_of_length {key value : String} (hkey : key ≠ "")
    (h : (foundParameter key value).length = (keyedParameter key value).length) :
    KeyAtFront key value := by
  by_contra hnot
  rw [KeyAtFront, not_or, Bool.not_eq_false] at hnot
  simp [foundParameter, keyedParameter, hnot.1, hnot.2, hkey] at h

/-! ## The functions -/

theorem addToUsernameParameter_eq (username value key : String) :
    addToUsernameParameter username (.str value) key =
      .ok (addParameter username (foundParameter key value)) := by
  have hquery := contains_query_iff username
  cases hkey : contains value key <;> by_cases h : '?' ∈ username.toList <;>
    simp [addToUsernameParameter, addParameter, foundParameter, hquery, hkey, h,
      String.append_assoc]

theorem append_getMetricsStr {platform : Platform} (hmetrics : platform.metricsStr ≠ "")
    (username : String) :
    username ++ getMetricsStr platform username = addParameter username platform.metricsStr := by
  have hquery := contains_query_iff username
  by_cases h : '?' ∈ username.toList <;>
    simp [getMetricsStr, addParameter, hmetrics, hquery, h, String.append_assoc]

/-- An argument that is a string or `None`. -/
def ofOption : Option String → Value
  | none => .none
  | some s => .str s

theorem addOptional_eq (username : String) (value : Option String) (key : String) :
    addOptional username (ofOption value) key =
      .ok ((value.map (foundParameter key)).toList.foldl addParameter username) := by
  cases value with
  | none => rfl
  | some value => exact addToUsernameParameter_eq username value key

theorem addMetrics_eq {platform : Platform} (hmetrics : platform.metricsStr ≠ "")
    (kwargs : Kwargs) (username : String) :
    addMetrics platform kwargs (.str username) =
      .ok (.str ((if (get kwargs "enable_metrics_collection" (.bool true)).truthy
        then [platform.metricsStr] else []).foldl addParameter username)) := by
  rw [addMetrics]
  split
  · rw [append_getMetricsStr hmetrics]
    rfl
  · rfl

/-! ## Calls -/

/-- A call of `direct_with_custom_authorizer` with strings. -/
structure AuthorizerCall where
  kwargs : Kwargs
  username : String
  authorizerName : Option String
  authorizerSignature : Option String
  endpoint : (param kwargs "endpoint").truthy = true
  clientId : (param kwargs "client_id").truthy = true
  username_eq : param kwargs "auth_username" = .str username ∨
    param kwargs "auth_username" = .none ∧ get kwargs "username" (.str "") = .str username
  authorizerName_eq : param kwargs "auth_authorizer_name" = ofOption authorizerName
  authorizerSignature_eq : param kwargs "auth_authorizer_signature" = ofOption authorizerSignature
  /-- nothing that the function sets itself -/
  own : ∀ name ∈ ["tls_ctx_options", "use_websockets", "use_custom_authorizer"],
    kwargs.lookup name = none

/-- The parameters in their order, with those of the authorizer made by `parameter`. -/
def AuthorizerCall.parameters (call : AuthorizerCall) (platform : Platform)
    (parameter : String → String → String) : List String :=
  (call.authorizerName.map (parameter "x-amz-customauthorizer-name=")).toList ++
    (call.authorizerSignature.map (parameter "x-amz-customauthorizer-signature=")).toList ++
    if (get call.kwargs "enable_metrics_collection" (.bool true)).truthy
    then [platform.metricsStr] else []

/-- No username is handed over instead of an empty one. -/
def handedOver (username : String) : Value :=
  if username = "" then .none else .str username

theorem handedOver_inj {s t : String} : handedOver s = handedOver t ↔ s = t := by
  constructor
  · intro h
    by_cases hs : s = "" <;> by_cases ht : t = "" <;> simp_all [handedOver]
  · intro h
    rw [h]

theorem get_congr {kwargs kwargs' : Kwargs} {name : String}
    (h : kwargs.lookup name = kwargs'.lookup name) (default : Value) :
    get kwargs name default = get kwargs' name default := by
  rw [get, get, param, param, h]

theorem builder_username {platform : Platform} (tls : TlsContextOptions) {kwargs : Kwargs}
    {s : String}
    (h : addMetrics platform kwargs (get kwargs "username" (.str "")) = .ok (.str s)) :
    ∃ c, builder platform tls kwargs = .ok c ∧ c.username = handedOver s := by
  have hempty : Value.str s = .str "" ↔ s = "" := by simp
  rw [builder, h]
  exact ⟨_, rfl, if_congr hempty rfl rfl⟩

theorem baseUsername_eq {authUsername : Value} {kwargs : Kwargs} {username : String}
    (h : authUsername = .str username ∨
      authUsername = .none ∧ get kwargs "username" (.str "") = .str username) :
    baseUsername authUsername kwargs = .ok username := by
  rcases h with rfl | ⟨rfl, h⟩
  · rfl
  · rw [get] at h
    rw [baseUsername, get]
    cases hparam : param kwargs "username" <;> simp_all [asString]

/-- What is left of the arguments when the function has bound its own. -/
abbrev AuthorizerCall.rest (call : AuthorizerCall) : Kwargs :=
  call.kwargs.without
    ["auth_username", "auth_authorizer_name", "auth_authorizer_signature", "auth_password"]

theorem AuthorizerCall.lookup_rest (call : AuthorizerCall) {name : String}
    (hname : name ∉
      ["auth_username", "auth_authorizer_name", "auth_authorizer_signature", "auth_password"]) :
    call.rest.lookup name = call.kwargs.lookup name := by
  rw [Dict.lookup_without, if_neg hname]

theorem AuthorizerCall.checkRequiredKwargs_rest (call : AuthorizerCall) :
    checkRequiredKwargs call.rest = .ok () := by
  have hendpoint := call.endpoint
  have hclient := call.clientId
  rw [param, ← call.lookup_rest (by decide)] at hendpoint hclient
  simp [checkRequiredKwargs, checkRequired, param, hendpoint, hclient, bind, Except.bind]

theorem AuthorizerCall.baseUsername_rest (call : AuthorizerCall) :
    baseUsername (param call.kwargs "auth_username") call.rest = .ok call.username := by
  refine baseUsername_eq ?_
  rw [get_congr (call.lookup_rest (by decide))]
  exact call.username_eq

/-- The arguments that are passed on. -/
def AuthorizerCall.passed (call : AuthorizerCall) (username : String) : Kwargs :=
  [("use_websockets", .bool false), ("use_custom_authorizer", .bool true)] ++
    ((call.rest.set "username" (.str username)).set "password"
      (param call.kwargs "auth_password")).set "port" (.int 443)

theorem direct_eq (platform : Platform) (call : AuthorizerCall) :
    directWithCustomAuthorizer platform call.kwargs =
      builder platform { alpnList := some ["mqtt"] }
        (call.passed (((call.authorizerName.map
            (foundParameter "x-amz-customauthorizer-name=")).toList ++
          (call.authorizerSignature.map
            (foundParameter "x-amz-customauthorizer-signature=")).toList).foldl
              addParameter call.username)) := by
  have hclash : ∀ username, (["tls_ctx_options", "use_websockets", "use_custom_authorizer"].any
      fun name => ((((call.rest.set "username" (.str username)).set "password"
        (param call.kwargs "auth_password")).set "port" (.int 443)).lookup name).isSome) =
          false := by
    intro username
    have hown := call.own
    simp [Dict.lookup_set, Dict.lookup_without] at hown ⊢
    exact hown
  simp only [directWithCustomAuthorizer, call.checkRequiredKwargs_rest, call.baseUsername_rest,
    call.authorizerName_eq, call.authorizerSignature_eq, addOptional_eq, bind, Except.bind,
    List.foldl_append]
  rw [callBuilder, if_neg (by rw [Bool.not_eq_true]; exact hclash _)]
  rfl

theorem direct_username {platform : Platform} (hmetrics : platform.metricsStr ≠ "")
    (call : AuthorizerCall) :
    ∃ c, directWithCustomAuthorizer platform call.kwargs = .ok c ∧
      c.username =
        handedOver (joinParameters call.username (call.parameters platform foundParameter)) := by
  rw [direct_eq, ← foldl_addParameter, AuthorizerCall.parameters]
  refine builder_username _ ?_
  have henabled : ∀ username,
      get (call.passed username) "enable_metrics_collection" (.bool true) =
        get call.kwargs "enable_metrics_collection" (.bool true) := by
    intro username
    refine get_congr ?_ _
    simp [AuthorizerCall.passed, List.lookup_cons, Dict.lookup_set, Dict.lookup_without]
  have husername : ∀ username,
      get (call.passed username) "username" (.str "") = .str username := by
    intro username
    simp [get, param, AuthorizerCall.passed, List.lookup_cons, Dict.lookup_set]
  rw [husername, addMetrics_eq hmetrics, henabled]
  simp only [List.foldl_append]

/-! ## The key of every parameter -/

theorem addedLength_le (key : String) (value : Option String) :
    addedLength (value.map (foundParameter key)).toList ≤
      addedLength (value.map (keyedParameter key)).toList := by
  cases value with
  | none => rfl
  | some value => simpa [addedLength] using length_foundParameter_le key value

theorem keyAtFront_of_addedLength {key : String} (hkey : key ≠ "") {value : Option String}
    (h : addedLength (value.map (foundParameter key)).toList =
      addedLength (value.map (keyedParameter key)).toList) :
    ∀ v, value = some v → KeyAtFront key v := by
  rintro v rfl
  exact keyAtFront_of_length hkey (by simpa [addedLength] using h)

theorem map_foundParameter {key : String} {value : Option String}
    (h : ∀ v, value = some v → KeyAtFront key v) :
    value.map (foundParameter key) = value.map (keyedParameter key) := by
  cases value with
  | none => rfl
  | some v => exact congrArg some (foundParameter_eq (h v rfl))

theorem keyAtFront_of_username {platform : Platform} (hmetrics : platform.metricsStr ≠ "")
    {call : AuthorizerCall} {c : Connection}
    (hc : directWithCustomAuthorizer platform call.kwargs = .ok c)
    (hkeyed : c.username =
      handedOver (joinParameters call.username (call.parameters platform keyedParameter))) :
    (∀ name, call.authorizerName = some name →
        KeyAtFront "x-amz-customauthorizer-name=" name) ∧
      ∀ signature, call.authorizerSignature = some signature →
        KeyAtFront "x-amz-customauthorizer-signature=" signature := by
  obtain ⟨c', hc', husername⟩ := direct_username hmetrics call
  obtain rfl : c = c' := by simpa [hc] using hc'
  have hjoin := handedOver_inj.mp (husername.symm.trans hkeyed)
  -- a key that is left out makes the username shorter, and nothing makes up for it
  have hlength := congrArg String.length hjoin
  rw [← foldl_addParameter, ← foldl_addParameter, length_foldl_addParameter,
    length_foldl_addParameter] at hlength
  simp only [AuthorizerCall.parameters, addedLength_append] at hlength
  have hname := addedLength_le "x-amz-customauthorizer-name=" call.authorizerName
  have hsignature := addedLength_le "x-amz-customauthorizer-signature=" call.authorizerSignature
  exact ⟨keyAtFront_of_addedLength (by decide) (by omega),
    keyAtFront_of_addedLength (by decide) (by omega)⟩

/-- The username has keyed parameters exactly if no value has its key in another place than
the front. -/
theorem username_iff {platform : Platform} (hmetrics : platform.metricsStr ≠ "")
    (call : AuthorizerCall) :
    (∃ c, directWithCustomAuthorizer platform call.kwargs = .ok c ∧
        c.username =
          handedOver (joinParameters call.username (call.parameters platform keyedParameter))) ↔
      (∀ name, call.authorizerName = some name →
          KeyAtFront "x-amz-customauthorizer-name=" name) ∧
        ∀ signature, call.authorizerSignature = some signature →
          KeyAtFront "x-amz-customauthorizer-signature=" signature := by
  constructor
  · rintro ⟨c, hc, hkeyed⟩
    exact keyAtFront_of_username hmetrics hc hkeyed
  · rintro ⟨hname, hsignature⟩
    obtain ⟨c, hc, husername⟩ := direct_username hmetrics call
    refine ⟨c, hc, ?_⟩
    rw [husername, AuthorizerCall.parameters, AuthorizerCall.parameters,
      map_foundParameter hname, map_foundParameter hsignature]

theorem username_iff_query :
    ∃ (platform : Platform) (call : AuthorizerCall) (c : Connection),
      call.username = "user?a=b" ∧ call.authorizerName = some "name" ∧
        directWithCustomAuthorizer platform call.kwargs = .ok c ∧
        c.username =
          handedOver (joinParameters call.username (call.parameters platform keyedParameter)) := by
  let platform : Platform :=
    { isAlpnAvailable := true, metricsStr := "SDK=PythonV2", defaultBootstrap := .object 0 true }
  let call : AuthorizerCall :=
    { kwargs := [("endpoint", .str "host"), ("client_id", .str "id"),
        ("username", .str "user?a=b"), ("auth_authorizer_name", .str "name")]
      username := "user?a=b"
      authorizerName := some "name"
      authorizerSignature := none
      endpoint := rfl
      clientId := rfl
      username_eq := .inr ⟨rfl, rfl⟩
      authorizerName_eq := rfl
      authorizerSignature_eq := rfl
      own := by decide }
  have hplatform : platform.metricsStr ≠ "" := by decide
  obtain ⟨c, hc, husername⟩ := (username_iff hplatform call).mpr
    ⟨by rintro name ⟨⟩; exact .inr (by decide +kernel), by rintro signature ⟨⟩⟩
  exact ⟨platform, call, c, rfl, rfl, hc, husername⟩

/-- The key in the middle of a name is taken for the key of the parameter. -/
theorem not_username_keyed :
    ¬∀ (platform : Platform) (call : AuthorizerCall), platform.metricsStr ≠ "" →
      ∃ c, directWithCustomAuthorizer platform call.kwargs = .ok c ∧
        c.username =
          handedOver (joinParameters call.username (call.parameters platform keyedParameter)) := by
  intro h
  let platform : Platform :=
    { isAlpnAvailable := true, metricsStr := "SDK=PythonV2", defaultBootstrap := .object 0 true }
  let call : AuthorizerCall :=
    { kwargs := [("endpoint", .str "host"), ("client_id", .str "id"),
        ("auth_authorizer_name", .str "prod-x-amz-customauthorizer-name=v1")]
      username := ""
      authorizerName := some "prod-x-amz-customauthorizer-name=v1"
      authorizerSignature := none
      endpoint := rfl
      clientId := rfl
      username_eq := .inr ⟨rfl, rfl⟩
      authorizerName_eq := rfl
      authorizerSignature_eq := rfl
      own := by decide }
  have hplatform : platform.metricsStr ≠ "" := by decide
  obtain ⟨c, hc, husername⟩ := h platform call hplatform
  rcases (keyAtFront_of_username hplatform hc husername).1 _ rfl with hfront | hnowhere
  · revert hfront
    decide +kernel
  · revert hnowhere
    decide +kernel

/-! ## With and without the key -/

/-- The second value is the first one, or the first one after its key. -/
def WithKey (key : String) (value value' : Option String) : Prop :=
  value' = value ∨ ∃ v, value = some v ∧ contains v key = false ∧ value' = some (key ++ v)

theorem foundParameter_withKey {key v : String} (h : contains v key = false) :
    foundParameter key (key ++ v) = foundParameter key v := by
  have hkey : contains (key ++ v) key = true := by
    have hfront : key.toList <+: (key ++ v).toList := by simp
    simpa [contains] using hfront.isInfix
  simp [foundParameter, h, hkey]

theorem WithKey.map_foundParameter {key : String} {value value' : Option String}
    (h : WithKey key value value') :
    value'.map (foundParameter key) = value.map (foundParameter key) := by
  rcases h with rfl | ⟨v, rfl, hnowhere, rfl⟩
  · rfl
  · exact congrArg some (foundParameter_withKey hnowhere)

/-- Two calls that differ in this only hand over the same username. -/
theorem direct_username_withKey {platform : Platform} (hmetrics : platform.metricsStr ≠ "")
    {call call' : AuthorizerCall} (husername : call'.username = call.username)
    (henabled : (get call'.kwargs "enable_metrics_collection" (.bool true)).truthy =
      (get call.kwargs "enable_metrics_collection" (.bool true)).truthy)
    (hname : WithKey "x-amz-customauthorizer-name=" call.authorizerName call'.authorizerName)
    (hsignature : WithKey "x-amz-customauthorizer-signature=" call.authorizerSignature
      call'.authorizerSignature) :
    ∃ c c', directWithCustomAuthorizer platform call.kwargs = .ok c ∧
      directWithCustomAuthorizer platform call'.kwargs = .ok c' ∧ c'.username = c.username := by
  obtain ⟨c, hc, hcall⟩ := direct_username hmetrics call
  obtain ⟨c', hc', hcall'⟩ := direct_username hmetrics call'
  refine ⟨c, c', hc, hc', ?_⟩
  rw [hcall, hcall', husername, AuthorizerCall.parameters, AuthorizerCall.parameters, henabled,
    hname.map_foundParameter, hsignature.map_foundParameter]

end IotCore.MqttConnectionBuilder
