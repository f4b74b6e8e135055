import IotCore.Model.MqttConnectionBuilder

/-! # Arguments that are `None`

To every builder function an optional argument that is `None` is one that is missing, with one
exception: `http_proxy_options`, which then hides the deprecated `websocket_proxy_options`. -/

namespace IotCore.MqttConnectionBuilder

/-- The optional arguments that `_builder` looks up. -/
def optionalArgs : List String :=
  ["ca_bytes", "ca_filepath", "ca_dirpath", "port", "tcp_connect_timeout_ms", "tcp_keep_alive",
    "tcp_keepalive", "tcp_keep_alive_timeout_secs", "tcp_keepalive_timeout_secs",
    "tcp_keep_alive_interval_secs", "tcp_keepalive_interval_secs", "tcp_keep_alive_max_probes",
    "tcp_keepalive_max_probes", "username", "enable_metrics_collection", "client_bootstrap",
    "http_proxy_options", "websocket_proxy_options", "on_connection_interrupted",
    "on_connection_resumed", "clean_session", "reconnect_min_timeout_secs",
    "reconnect_max_timeout_secs", "keep_alive_secs", "ping_timeout_ms",
    "protocol_operation_timeout_ms", "will", "password"]

/-- Some optional arguments that are missing in `kwargs` are `None` in `kwargs'`. -/
abbrev Padded (kwargs kwargs' : Kwargs) : Prop :=
  Dict.Pads Value.none optionalArgs kwargs kwargs'

def Connection.withProxy (proxy : Value) (c : Connection) : Connection :=
  { c with proxyOptions := proxy }

/-- The call that a builder function ends in, as far as the proxy is concerned. -/
theorem bind_withProxy {α : Type} {proxy : Value} {x : Except Exn α}
    {f f' : α → Except Exn Connection} (h : ∀ a, f' a = (f a).map (Connection.withProxy proxy)) :
    (x >>= f') = (x >>= f).map (Connection.withProxy proxy) := by
  cases x with
  | error e => rfl
  | ok a => exact h a

section

variable {kwargs kwargs' : Kwargs} (h : Padded kwargs kwargs')

include h

/-! ## Reading an argument -/

theorem param_none_eq (name : String) : param kwargs' name = param kwargs name :=
  h.getD_eq name

theorem param_eq (name : String) (hname : name ∉ optionalArgs) (default : Value) :
    param kwargs' name default = param kwargs name default := by
  rw [param, param, h.lookup_eq name hname]

theorem get_eq (name : String) (default : Value) :
    get kwargs' name default = get kwargs name default := by
  rw [get, get, param_none_eq h]

theorem required_eq (name : String) (hname : name ∉ optionalArgs) :
    required kwargs' name = required kwargs name := by
  rw [required, required, h.lookup_eq name hname]

theorem checkRequiredKwargs_eq : checkRequiredKwargs kwargs' = checkRequiredKwargs kwargs := by
  simp only [checkRequiredKwargs, checkRequired, param_none_eq h]

/-! ## `_builder` -/

theorem builder_eq (platform : Platform) (tls : TlsContextOptions) :
    builder platform tls kwargs' =
      (builder platform tls kwargs).map (Connection.withProxy (proxyOptions kwargs')) := by
  have hwebsockets : param kwargs' "use_websockets" (.bool false) =
      param kwargs "use_websockets" (.bool false) := param_eq h _ (by decide) _
  have htransform : param kwargs' "websocket_handshake_transform" =
      param kwargs "websocket_handshake_transform" := param_none_eq h _
  have hauthorizer : param kwargs' "use_custom_authorizer" (.bool false) =
      param kwargs "use_custom_authorizer" (.bool false) := param_eq h _ (by decide) _
  have htrust : overrideTrustStore kwargs' tls = overrideTrustStore kwargs tls := by
    simp only [overrideTrustStore, get_eq h]
  have hport : ∀ websockets, choosePort platform websockets kwargs' =
      choosePort platform websockets kwargs := by
    intro websockets
    simp only [choosePort, get_eq h]
  have hsocket : socketOptions kwargs' = socketOptions kwargs := by
    simp only [socketOptions, get_eq h]
  have hmetrics : ∀ username, addMetrics platform kwargs' username =
      addMetrics platform kwargs username := by
    intro username
    simp only [addMetrics, get_eq h]
  simp only [builder, hwebsockets, htransform, hauthorizer, htrust, hport, hsocket, hmetrics,
    get_eq h]
  exact bind_withProxy fun username => rfl

/-- No argument that is passed on clashes with one that is given. -/
theorem callBuilder_eq (platform : Platform) (tls : TlsContextOptions) {given : Kwargs}
    (hgiven : ∀ name ∈ given.map Prod.fst, kwargs'.lookup name = kwargs.lookup name) :
    callBuilder platform tls given kwargs' =
      (callBuilder platform tls given kwargs).map
        (Connection.withProxy (proxyOptions (given ++ kwargs'))) := by
  have hlookup : ∀ name ∈ "tls_ctx_options" :: given.map Prod.fst,
      kwargs'.lookup name = kwargs.lookup name := by
    intro name hname
    rcases List.mem_cons.mp hname with rfl | hname
    · exact h.lookup_eq _ (by decide)
    · exact hgiven name hname
  have hclash : ("tls_ctx_options" :: given.map Prod.fst).any
        (fun name => (kwargs'.lookup name).isSome) =
      ("tls_ctx_options" :: given.map Prod.fst).any fun name => (kwargs.lookup name).isSome := by
    rw [Bool.eq_iff_iff, List.any_eq_true, List.any_eq_true]
    exact exists_congr fun name => and_congr_right fun hname => by rw [hlookup name hname]
  rw [callBuilder, callBuilder, hclash]
  split
  · rfl
  · exact builder_eq (h.append given) platform tls

theorem checkedBuilder_eq (platform : Platform) (tls : TlsContextOptions) (params : List String)
    {given : Kwargs} (hgiven : ∀ name ∈ given.map Prod.fst, name ∈ params ∨ name ∉ optionalArgs) :
    checkedBuilder platform tls params given kwargs' =
      (checkedBuilder platform tls params given kwargs).map
        (Connection.withProxy (proxyOptions (given ++ kwargs'.without params))) := by
  have hrest := h.without params
  rw [checkedBuilder, checkedBuilder, checkRequiredKwargs_eq hrest]
  refine bind_withProxy fun _ => callBuilder_eq hrest platform tls fun name hname => ?_
  rcases hgiven name hname with hparam | hoptional
  · rw [Dict.lookup_without, Dict.lookup_without, if_pos hparam, if_pos hparam]
  · exact hrest.lookup_eq name hoptional

/-! ## Builder functions -/

/-- A builder function that neither takes nor gives a proxy. -/
theorem checkedBuilder_passed (platform : Platform) (tls : TlsContextOptions)
    {params : List String} {given : Kwargs}
    (hgiven : ∀ name ∈ given.map Prod.fst, name ∉ optionalArgs)
    (hparams : ∀ name ∈ params, name ∉ optionalArgs) :
    checkedBuilder platform tls params given kwargs' =
      (checkedBuilder platform tls params given kwargs).map
        (Connection.withProxy (proxyOptions kwargs')) := by
  have hlookup : ∀ name ∈ optionalArgs,
      List.lookup name (given ++ kwargs'.without params) = kwargs'.lookup name := by
    intro name hname
    have hnone : given.lookup name = none := by
      rw [List.lookup_eq_none_iff]
      intro entry hentry
      have hne : name ≠ entry.1 := fun e =>
        hgiven entry.1 (List.mem_map_of_mem hentry) (e ▸ hname)
      simpa using hne
    rw [List.lookup_append, hnone, Option.none_or, Dict.lookup_without,
      if_neg fun hparam => hparams name hparam hname]
  have hproxy : proxyOptions (given ++ kwargs'.without params) = proxyOptions kwargs' := by
    rw [proxyOptions, proxyOptions, param, param, param, param, hlookup _ (by decide),
      hlookup _ (by decide)]
  rw [checkedBuilder_eq h platform tls params fun name hname => .inr (hgiven name hname), hproxy]

theorem mtlsFromPath_eq (platform : Platform) :
    mtlsFromPath platform kwargs' =
      (mtlsFromPath platform kwargs).map (Connection.withProxy (proxyOptions kwargs')) := by
  rw [mtlsFromPath, mtlsFromPath, required_eq h "cert_filepath" (by decide),
    required_eq h "pri_key_filepath" (by decide)]
  refine bind_withProxy fun certFilepath => bind_withProxy fun priKeyFilepath => ?_
  exact checkedBuilder_passed h platform _ (by decide) (by decide)

theorem mtlsFromBytes_eq (platform : Platform) :
    mtlsFromBytes platform kwargs' =
      (mtlsFromBytes platform kwargs).map (Connection.withProxy (proxyOptions kwargs')) := by
  rw [mtlsFromBytes, mtlsFromBytes, required_eq h "cert_bytes" (by decide),
    required_eq h "pri_key_bytes" (by decide)]
  refine bind_withProxy fun certBytes => bind_withProxy fun priKeyBytes => ?_
  exact checkedBuilder_passed h platform _ (by decide) (by decide)

theorem mtlsWithPkcs11_eq (platform : Platform) :
    mtlsWithPkcs11 platform kwargs' =
      (mtlsWithPkcs11 platform kwargs).map (Connection.withProxy (proxyOptions kwargs')) := by
  simp only [mtlsWithPkcs11, required_eq h "pkcs11_lib" (by decide),
    required_eq h "user_pin" (by decide), param_none_eq h]
  refine bind_withProxy fun pkcs11Lib => bind_withProxy fun userPin => ?_
  exact checkedBuilder_passed h platform _ (by decide) (by decide)

theorem mtlsWithWindowsCertStorePath_eq (platform : Platform) :
    mtlsWithWindowsCertStorePath platform kwargs' =
      (mtlsWithWindowsCertStorePath platform kwargs).map
        (Connection.withProxy (proxyOptions kwargs')) := by
  rw [mtlsWithWindowsCertStorePath, mtlsWithWindowsCertStorePath,
    required_eq h "cert_store_path" (by decide)]
  refine bind_withProxy fun certStorePath => ?_
  exact checkedBuilder_passed h platform _ (by decide) (by decide)

theorem websocketsWithCustomHandshake_eq (platform : Platform) :
    websocketsWithCustomHandshake platform kwargs' =
      (websocketsWithCustomHandshake platform kwargs).map
        (Connection.withProxy (proxyOptions kwargs')) := by
  simp only [websocketsWithCustomHandshake,
    required_eq h "websocket_handshake_transform" (by decide), param_none_eq h]
  refine bind_withProxy fun transform => ?_
  -- `websocket_proxy_options` is bound and given to `_builder` again
  rw [checkedBuilder_eq h platform {} _ (by simp [optionalArgs])]
  congr 2
  simp [proxyOptions, param, List.lookup_cons, Dict.lookup_without,
    h.getD_eq "websocket_proxy_options"]

theorem websocketsWithDefaultAwsSigning_eq (platform : Platform) :
    websocketsWithDefaultAwsSigning platform kwargs' =
      (websocketsWithDefaultAwsSigning platform kwargs).map
        (Connection.withProxy (proxyOptions kwargs')) := by
  have hrest := h.without ["region", "credentials_provider", "websocket_proxy_options"]
  simp only [websocketsWithDefaultAwsSigning, required_eq h "region" (by decide),
    required_eq h "credentials_provider" (by decide), param_none_eq h,
    checkRequiredKwargs_eq hrest, hrest.lookup_eq "websocket_handshake_transform" (by decide)]
  refine bind_withProxy fun region => bind_withProxy fun provider => bind_withProxy fun _ => ?_
  split
  · rfl
  · rw [websocketsWithCustomHandshake_eq (hrest.append _)]
    congr 2
    simp [proxyOptions, param, List.lookup_cons, Dict.lookup_without,
      h.getD_eq "websocket_proxy_options"]

theorem directWithCustomAuthorizer_eq (platform : Platform) :
    directWithCustomAuthorizer platform kwargs' =
      (directWithCustomAuthorizer platform kwargs).map
        (Connection.withProxy (proxyOptions kwargs')) := by
  have hrest := h.without
    ["auth_username", "auth_authorizer_name", "auth_authorizer_signature", "auth_password"]
  have hbase : ∀ rest rest', Padded rest rest' → ∀ username,
      baseUsername username rest' = baseUsername username rest := by
    intro rest rest' hpad username
    simp only [baseUsername, get_eq hpad]
  simp only [directWithCustomAuthorizer, param_none_eq h, checkRequiredKwargs_eq hrest,
    hbase _ _ hrest]
  refine bind_withProxy fun _ => bind_withProxy fun base => bind_withProxy fun named =>
    bind_withProxy fun signed => ?_
  have hset := ((hrest.set "username" (.str signed)).set "password"
    (param kwargs "auth_password")).set "port" (.int 443)
  rw [callBuilder_eq hset]
  · congr 2
    simp [proxyOptions, param, List.lookup_cons, Dict.lookup_set, Dict.lookup_without]
  · intro name hname
    refine hset.lookup_eq name ?_
    revert name
    decide

theorem newDefaultBuilder_eq (platform : Platform) :
    newDefaultBuilder platform kwargs' =
      (newDefaultBuilder platform kwargs).map (Connection.withProxy (proxyOptions kwargs')) :=
  checkedBuilder_passed h platform {} (by decide) (by decide)

end

/-! ## All builder functions -/

inductive EntryPoint where
  | mtlsFromPath
  | mtlsFromBytes
  | mtlsWithPkcs11
  | mtlsWithWindowsCertStorePath
  | websocketsWithDefaultAwsSigning
  | websocketsWithCustomHandshake
  | directWithCustomAuthorizer
  | newDefaultBuilder

def EntryPoint.call (platform : Platform) :
    EntryPoint → Kwargs → Except Exn Connection
  | mtlsFromPath => MqttConnectionBuilder.mtlsFromPath platform
  | mtlsFromBytes => MqttConnectionBuilder.mtlsFromBytes platform
  | mtlsWithPkcs11 => MqttConnectionBuilder.mtlsWithPkcs11 platform
  | mtlsWithWindowsCertStorePath => MqttConnectionBuilder.mtlsWithWindowsCertStorePath platform
  | websocketsWithDefaultAwsSigning =>
      MqttConnectionBuilder.websocketsWithDefaultAwsSigning platform
  | websocketsWithCustomHandshake => MqttConnectionBuilder.websocketsWithCustomHandshake platform
  | directWithCustomAuthorizer => MqttConnectionBuilder.directWithCustomAuthorizer platform
  | newDefaultBuilder => MqttConnectionBuilder.newDefaultBuilder platform

/-- Padding changes nothing but the proxy. -/
theorem call_eq {kwargs kwargs' : Kwargs} (h : Padded kwargs kwargs') (platform : Platform)
    (entry : EntryPoint) :
    entry.call platform kwargs' =
      (entry.call platform kwargs).map (Connection.withProxy (proxyOptions kwargs')) := by
  cases entry with
  | mtlsFromPath => exact mtlsFromPath_eq h platform
  | mtlsFromBytes => exact mtlsFromBytes_eq h platform
  | mtlsWithPkcs11 => exact mtlsWithPkcs11_eq h platform
  | mtlsWithWindowsCertStorePath => exact mtlsWithWindowsCertStorePath_eq h platform
  | websocketsWithDefaultAwsSigning => exact websocketsWithDefaultAwsSigning_eq h platform
  | websocketsWithCustomHandshake => exact websocketsWithCustomHandshake_eq h platform
  | directWithCustomAuthorizer => exact directWithCustomAuthorizer_eq h platform
  | newDefaultBuilder => exact newDefaultBuilder_eq h platform

theorem call_proxyOptions {platform : Platform} {entry : EntryPoint} {kwargs : Kwargs}
    {c : Connection} (h : entry.call platform kwargs = .ok c) :
    c.proxyOptions = proxyOptions kwargs := by
  have hpad : Padded kwargs kwargs := fun _ => .inl rfl
  have hself := call_eq hpad platform entry
  rw [h] at hself
  have hc : c = c.withProxy (proxyOptions kwargs) := by simpa [Except.map] using hself
  rw [hc]
  rfl

/-! ## `None` instead of nothing -/

def withNone (kwargs : Kwargs) (names : List String) : Kwargs :=
  kwargs ++ names.map fun name => (name, .none)

theorem proxyOptions_withNone {kwargs : Kwargs} {names : List String}
    (hnames : ∀ name ∈ names, name ∈ optionalArgs ∧ kwargs.lookup name = none) :
    proxyOptions (withNone kwargs names) = proxyOptions kwargs ↔
      "http_proxy_options" ∉ names ∨ param kwargs "websocket_proxy_options" = .none := by
  have hpad : Padded kwargs (withNone kwargs names) := Dict.pads_append names hnames
  have hdeprecated := param_none_eq hpad "websocket_proxy_options"
  have hlookup : (withNone kwargs names).lookup "http_proxy_options" =
      (kwargs.lookup "http_proxy_options").or
        (if "http_proxy_options" ∈ names then some .none else none) := by
    rw [withNone, List.lookup_append, Dict.lookup_map_const]
  by_cases hmem : "http_proxy_options" ∈ names
  · have hmissing := (hnames _ hmem).2
    have hhides : proxyOptions (withNone kwargs names) = .none := by
      rw [proxyOptions, param, hlookup, hmissing, if_pos hmem]
      rfl
    have hfalls : proxyOptions kwargs = param kwargs "websocket_proxy_options" := by
      rw [proxyOptions, param, hmissing]
      rfl
    rw [hhides, hfalls]
    simp [hmem, eq_comm]
  · have hsame : proxyOptions (withNone kwargs names) = proxyOptions kwargs := by
      rw [proxyOptions, hdeprecated, param, hlookup, if_neg hmem, Option.or_none]
      rfl
    simp [hmem, hsame]

/-- `None` equals nothing exactly if it does not hide a deprecated proxy. -/
theorem call_withNone_iff {platform : Platform} {entry : EntryPoint} {kwargs : Kwargs}
    {c : Connection} {names : List String}
    (hnames : ∀ name ∈ names, name ∈ optionalArgs ∧ kwargs.lookup name = none)
    (haccepted : entry.call platform kwargs = .ok c) :
    entry.call platform (withNone kwargs names) = entry.call platform kwargs ↔
      "http_proxy_options" ∉ names ∨ param kwargs "websocket_proxy_options" = .none := by
  have hpad : Padded kwargs (withNone kwargs names) := Dict.pads_append names hnames
  rw [← proxyOptions_withNone hnames, call_eq hpad, haccepted, ← call_proxyOptions haccepted]
  constructor
  · intro h
    have hc : c.withProxy (proxyOptions (withNone kwargs names)) = c := by
      simpa [Except.map] using h
    exact congrArg Connection.proxyOptions hc
  · intro h
    rw [h]
    rfl

theorem call_withNone_iff_keepalive :
    ∃ (platform : Platform) (kwargs : Kwargs),
      EntryPoint.websocketsWithCustomHandshake.call platform
          (withNone kwargs ["tcp_keep_alive", "username", "port"]) =
        EntryPoint.websocketsWithCustomHandshake.call platform kwargs := by
  let platform : Platform :=
    { isAlpnAvailable := true, metricsStr := "SDK=PythonV2", defaultBootstrap := .object 0 true }
  let kwargs : Kwargs :=
    [("endpoint", .str "host"), ("client_id", .str "id"),
      ("websocket_handshake_transform", .object 1 true), ("tcp_keepalive", .bool true),
      ("websocket_proxy_options", .object 2 true)]
  obtain ⟨c, hc⟩ :
      ∃ c, EntryPoint.websocketsWithCustomHandshake.call platform kwargs = .ok c := ⟨_, rfl⟩
  exact ⟨platform, kwargs, (call_withNone_iff (by decide) hc).mpr (.inl (by decide))⟩

/-- The proxy is dropped. -/
theorem not_call_withNone :
    ¬∀ (platform : Platform) (entry : EntryPoint) (kwargs : Kwargs) (c : Connection)
      (names : List String), (∀ name ∈ names, name ∈ optionalArgs ∧ kwargs.lookup name = none) →
      entry.call platform kwargs = .ok c →
      entry.call platform (withNone kwargs names) = entry.call platform kwargs := by
  intro h
  let platform : Platform :=
    { isAlpnAvailable := true, metricsStr := "SDK=PythonV2", defaultBootstrap := .object 0 true }
  let kwargs : Kwargs :=
    [("endpoint", .str "host"), ("client_id", .str "id"),
      ("websocket_handshake_transform", .object 1 true),
      ("websocket_proxy_options", .object 2 true)]
  obtain ⟨c, hc⟩ :
      ∃ c, EntryPoint.websocketsWithCustomHandshake.call platform kwargs = .ok c := ⟨_, rfl⟩
  have hsame := h platform .websocketsWithCustomHandshake kwargs c ["http_proxy_options"]
    (by decide) hc
  have hproxy := congrArg (fun r => r.toOption.map Connection.proxyOptions) hsame
  revert hproxy
  decide +kernel

end IotCore.MqttConnectionBuilder
