import Mathlib.Data.List.Infix
import IotCore.Library.Dict

/-! # `awsiot.mqtt_connection_builder`

The builder functions on the keyword arguments of a call, up to what they hand over to `awscrt`.
What `awscrt` does depends on nothing else. -/

namespace IotCore.MqttConnectionBuilder

/-! ## Python values -/

inductive Value where
  | none
  | bool (b : Bool)
  | int (i : Int)
  | float (q : Rat)
  | str (s : String)
  | bytes (bs : List UInt8)
  /-- any other object, with its truth value -/
  | object (id : Nat) (truth : Bool)
  /-- `_sign_websocket_handshake_request`, with the variables it closes over -/
  | signHandshake (credentialsProvider region : Value)
  deriving DecidableEq, Repr

inductive Exn where
  /-- the `TypeError` of a call with an argument that is missing or given twice -/
  | badCall
  | typeError (message : String)
  /-- the `TypeError` of an operation on a value of another type -/
  | badOperand
  | attributeError
  deriving DecidableEq, Repr

def Value.truthy : Value → Bool
  | .none => false
  | .bool b => b
  | .int i => i ≠ 0
  | .float q => q ≠ 0
  | .str s => s ≠ ""
  | .bytes bs => !bs.isEmpty
  | .object _ truth => truth
  | .signHandshake .. => true

/-- `value == i` for a number that is not 0 or 1. -/
def Value.eqInt (i : Int) : Value → Bool
  | .int j => j = i
  | .float q => q = i
  | _ => false

/-- `s.find(sub) != -1` -/
def contains (s sub : String) : Bool :=
  sub.toList <:+: s.toList

/-! ## Keyword arguments -/

abbrev Kwargs := Dict String Value

/-- The value of a parameter with a default. -/
def param (kwargs : Kwargs) (name : String) (default : Value := .none) : Value :=
  (kwargs.lookup name).getD default

/-- The value of a parameter without one. -/
def required (kwargs : Kwargs) (name : String) : Except Exn Value :=
  match kwargs.lookup name with
  | some val => .ok val
  | none => .error .badCall

/-- `_get` -/
def get (kwargs : Kwargs) (name : String) (default : Value := .none) : Value :=
  match param kwargs name with
  | .none => default
  | val => val

def checkRequired (kwargs : Kwargs) (name : String) : Except Exn Unit :=
  if (param kwargs name).truthy then .ok ()
  else .error (.typeError ("Builder needs keyword-only argument '" ++ name ++ "'"))

/-- `_check_required_kwargs` -/
def checkRequiredKwargs (kwargs : Kwargs) : Except Exn Unit := do
  checkRequired kwargs "endpoint"
  checkRequired kwargs "client_id"

/-! ## What is handed over -/

/-- How the TLS options were created. -/
inductive Credentials where
  | none
  | mtlsFromPath (certFilepath priKeyFilepath : Value)
  | mtls (certBytes priKeyBytes : Value)
  | mtlsPkcs11 (pkcs11Lib userPin slotId tokenLabel privateKeyLabel certFilePath certFileContents :
      Value)
  | mtlsWindowsCertStorePath (certStorePath : Value)
  deriving DecidableEq, Repr

/-- How the default trust store was overridden. -/
inductive TrustStore where
  | bytes (caBytes : Value)
  | path (caDirpath caFilepath : Value)
  deriving DecidableEq, Repr

structure TlsContextOptions where
  credentials : Credentials := .none
  trustStore : Option TrustStore := none
  alpnList : Option (List String) := none
  deriving DecidableEq, Repr

structure SocketOptions where
  connectTimeoutMs : Value
  keepAlive : Value
  keepAliveTimeoutSecs : Value
  keepAliveIntervalSecs : Value
  keepAliveMaxProbes : Value
  deriving DecidableEq, Repr

/-- The arguments of `awscrt.mqtt.Connection`; those of its client come first. -/
structure Connection where
  clientBootstrap : Value
  tlsCtxOptions : TlsContextOptions
  onConnectionInterrupted : Value
  onConnectionResumed : Value
  clientId : Value
  hostName : Value
  port : Value
  cleanSession : Value
  reconnectMinTimeoutSecs : Value
  reconnectMaxTimeoutSecs : Value
  keepAliveSecs : Value
  pingTimeoutMs : Value
  protocolOperationTimeoutMs : Value
  will : Value
  username : Value
  password : Value
  socketOptions : SocketOptions
  useWebsockets : Value
  websocketHandshakeTransform : Value
  proxyOptions : Value
  deriving DecidableEq, Repr

/-- What the platform provides: ALPN or not, the text in `_metrics_str` once it has been set,
and the static default bootstrap. -/
structure Platform where
  isAlpnAvailable : Bool
  metricsStr : String
  defaultBootstrap : Value

/-! ## `_builder` -/

def overrideTrustStore (kwargs : Kwargs) (tls : TlsContextOptions) : TlsContextOptions :=
  let caBytes := get kwargs "ca_bytes"
  let caFilepath := get kwargs "ca_filepath"
  let caDirpath := get kwargs "ca_dirpath"
  if caBytes.truthy then { tls with trustStore := some (.bytes caBytes) }
  else if caFilepath.truthy || caDirpath.truthy then
    { tls with trustStore := some (.path caDirpath caFilepath) }
  else tls

def choosePort (platform : Platform) (useWebsockets : Value) (kwargs : Kwargs) : Value :=
  match get kwargs "port" with
  | .none => if useWebsockets.truthy || platform.isAlpnAvailable then .int 443 else .int 8883
  | port => port

def setAlpn (platform : Platform) (port useWebsockets useCustomAuthorizer : Value)
    (tls : TlsContextOptions) : TlsContextOptions :=
  if port.eqInt 443 && platform.isAlpnAvailable && useCustomAuthorizer = .bool false then
    { tls with alpnList := some (if useWebsockets.truthy then ["http/1.1"] else ["x-amzn-mqtt-ca"]) }
  else tls

def socketOptions (kwargs : Kwargs) : SocketOptions where
  connectTimeoutMs := get kwargs "tcp_connect_timeout_ms" (.int 5000)
  keepAlive := get kwargs "tcp_keep_alive" (get kwargs "tcp_keepalive" (.bool false))
  keepAliveTimeoutSecs :=
    get kwargs "tcp_keep_alive_timeout_secs" (get kwargs "tcp_keepalive_timeout_secs" (.int 0))
  keepAliveIntervalSecs :=
    get kwargs "tcp_keep_alive_interval_secs" (get kwargs "tcp_keepalive_interval_secs" (.int 0))
  keepAliveMaxProbes :=
    get kwargs "tcp_keep_alive_max_probes" (get kwargs "tcp_keepalive_max_probes" (.int 0))

/-- `_get_metrics_str` -/
def getMetricsStr (platform : Platform) (currentUsername : String) : String :=
  if platform.metricsStr = "" then ""
  else if contains currentUsername "?" then "&" ++ platform.metricsStr
  else "?" ++ platform.metricsStr

def addMetrics (platform : Platform) (kwargs : Kwargs) (username : Value) : Except Exn Value :=
  if (get kwargs "enable_metrics_collection" (.bool true)).truthy then
    -- `_get_metrics_str` calls `username.find` with a string
    match username with
    | .str s => .ok (.str (s ++ getMetricsStr platform s))
    | .bytes _ => .error .badOperand
    | _ => .error .attributeError
  else .ok username

def proxyOptions (kwargs : Kwargs) : Value :=
  param kwargs "http_proxy_options" (param kwargs "websocket_proxy_options")

def builder (platform : Platform) (tls : TlsContextOptions) (kwargs : Kwargs) :
    Except Exn Connection := do
  let useWebsockets := param kwargs "use_websockets" (.bool false)
  let websocketHandshakeTransform := param kwargs "websocket_handshake_transform"
  let useCustomAuthorizer := param kwargs "use_custom_authorizer" (.bool false)
  let port := choosePort platform useWebsockets kwargs
  let tls := setAlpn platform port useWebsockets useCustomAuthorizer (overrideTrustStore kwargs tls)
  let username ← addMetrics platform kwargs (get kwargs "username" (.str ""))
  return {
    clientBootstrap := get kwargs "client_bootstrap" platform.defaultBootstrap
    tlsCtxOptions := tls
    onConnectionInterrupted := get kwargs "on_connection_interrupted"
    onConnectionResumed := get kwargs "on_connection_resumed"
    clientId := get kwargs "client_id"
    hostName := get kwargs "endpoint"
    port := port
    cleanSession := get kwargs "clean_session" (.bool false)
    reconnectMinTimeoutSecs := get kwargs "reconnect_min_timeout_secs" (.int 5)
    reconnectMaxTimeoutSecs := get kwargs "reconnect_max_timeout_secs" (.int 60)
    keepAliveSecs := get kwargs "keep_alive_secs" (.int 1200)
    pingTimeoutMs := get kwargs "ping_timeout_ms" (.int 3000)
    protocolOperationTimeoutMs := get kwargs "protocol_operation_timeout_ms" (.int 0)
    will := get kwargs "will"
    username := if username = .str "" then .none else username
    password := get kwargs "password"
    socketOptions := socketOptions kwargs
    useWebsockets := useWebsockets
    websocketHandshakeTransform := websocketHandshakeTransform
    proxyOptions := proxyOptions kwargs }

/-- The call `_builder(tls, given, **kwargs)`. -/
def callBuilder (platform : Platform) (tls : TlsContextOptions) (given kwargs : Kwargs) :
    Except Exn Connection :=
  if ("tls_ctx_options" :: given.map Prod.fst).any fun name => (kwargs.lookup name).isSome then
    .error .badCall
  else builder platform tls (given ++ kwargs)

/-! ## Builder functions

Each is applied to all the keyword arguments of the call; the first step of each is to bind its
own parameters. -/

/-- What the builder functions have in common, after `params` are bound. -/
def checkedBuilder (platform : Platform) (tls : TlsContextOptions) (params : List String)
    (given kwargs : Kwargs) : Except Exn Connection := do
  checkRequiredKwargs (kwargs.without params)
  callBuilder platform tls given (kwargs.without params)

def mtlsFromPath (platform : Platform) (kwargs : Kwargs) : Except Exn Connection := do
  let certFilepath ← required kwargs "cert_filepath"
  let priKeyFilepath ← required kwargs "pri_key_filepath"
  checkedBuilder platform { credentials := .mtlsFromPath certFilepath priKeyFilepath }
    ["cert_filepath", "pri_key_filepath"] [] kwargs

def mtlsFromBytes (platform : Platform) (kwargs : Kwargs) : Except Exn Connection := do
  let certBytes ← required kwargs "cert_bytes"
  let priKeyBytes ← required kwargs "pri_key_bytes"
  checkedBuilder platform { credentials := .mtls certBytes priKeyBytes }
    ["cert_bytes", "pri_key_bytes"] [] kwargs

def mtlsWithPkcs11 (platform : Platform) (kwargs : Kwargs) : Except Exn Connection := do
  let pkcs11Lib ← required kwargs "pkcs11_lib"
  let userPin ← required kwargs "user_pin"
  let credentials := .mtlsPkcs11 pkcs11Lib userPin (param kwargs "slot_id")
    (param kwargs "token_label") (param kwargs "private_key_label") (param kwargs "cert_filepath")
    (param kwargs "cert_bytes")
  checkedBuilder platform { credentials := credentials }
    ["pkcs11_lib", "user_pin", "slot_id", "token_label", "private_key_label", "cert_filepath",
      "cert_bytes"] [] kwargs

def mtlsWithWindowsCertStorePath (platform : Platform) (kwargs : Kwargs) :
    Except Exn Connection := do
  let certStorePath ← required kwargs "cert_store_path"
  checkedBuilder platform { credentials := .mtlsWindowsCertStorePath certStorePath }
    ["cert_store_path"] [] kwargs

def websocketsWithCustomHandshake (platform : Platform) (kwargs : Kwargs) :
    Except Exn Connection := do
  let websocketHandshakeTransform ← required kwargs "websocket_handshake_transform"
  let websocketProxyOptions := param kwargs "websocket_proxy_options"
  checkedBuilder platform {} ["websocket_handshake_transform", "websocket_proxy_options"]
    [("use_websockets", .bool true),
      ("websocket_handshake_transform", websocketHandshakeTransform),
      ("websocket_proxy_options", websocketProxyOptions)] kwargs

def websocketsWithDefaultAwsSigning (platform : Platform) (kwargs : Kwargs) :
    Except Exn Connection := do
  let region ← required kwargs "region"
  let credentialsProvider ← required kwargs "credentials_provider"
  let websocketProxyOptions := param kwargs "websocket_proxy_options"
  let kwargs := kwargs.without ["region", "credentials_provider", "websocket_proxy_options"]
  checkRequiredKwargs kwargs
  if (kwargs.lookup "websocket_handshake_transform").isSome then .error .badCall
  else
    websocketsWithCustomHandshake platform
      ([("websocket_handshake_transform", .signHandshake credentialsProvider region),
        ("websocket_proxy_options", websocketProxyOptions)] ++ kwargs)

/-- `_add_to_username_parameter` -/
def addToUsernameParameter (inputString : String) (parameterValue : Value)
    (parameterPretext : String) : Except Exn String :=
  let returnString := if contains inputString "?" then inputString ++ "&" else inputString ++ "?"
  match parameterValue with
  | .str value =>
      if contains value parameterPretext then .ok (returnString ++ value)
      else .ok (returnString ++ parameterPretext ++ value)
  | .bytes _ => .error .badOperand
  | _ => .error .attributeError

/-- A parameter that is `None` is not added. -/
def addOptional (inputString : String) (parameterValue : Value) (parameterPretext : String) :
    Except Exn String :=
  match parameterValue with
  | .none => .ok inputString
  | value => addToUsernameParameter inputString value parameterPretext

/-- `"" + value` -/
def asString (value : Value) : Except Exn String :=
  match value with
  | .str s => .ok s
  | _ => .error .badOperand

def baseUsername (authUsername : Value) (kwargs : Kwargs) : Except Exn String :=
  match authUsername with
  | .none =>
      match get kwargs "username" with
      | .none => .ok ""
      | username => asString username
  | authUsername => asString authUsername

def directWithCustomAuthorizer (platform : Platform) (kwargs : Kwargs) :
    Except Exn Connection := do
  let authUsername := param kwargs "auth_username"
  let authAuthorizerName := param kwargs "auth_authorizer_name"
  let authAuthorizerSignature := param kwargs "auth_authorizer_signature"
  let authPassword := param kwargs "auth_password"
  let kwargs := kwargs.without
    ["auth_username", "auth_authorizer_name", "auth_authorizer_signature", "auth_password"]
  checkRequiredKwargs kwargs
  let usernameString ← baseUsername authUsername kwargs
  let usernameString ←
    addOptional usernameString authAuthorizerName "x-amz-customauthorizer-name="
  let usernameString ←
    addOptional usernameString authAuthorizerSignature "x-amz-customauthorizer-signature="
  let kwargs := kwargs.set "username" (.str usernameString)
  let kwargs := kwargs.set "password" authPassword
  let kwargs := kwargs.set "port" (.int 443)
  callBuilder platform { alpnList := some ["mqtt"] }
    [("use_websockets", .bool false), ("use_custom_authorizer", .bool true)] kwargs

def newDefaultBuilder (platform : Platform) (kwargs : Kwargs) : Except Exn Connection :=
  checkedBuilder platform {} [] [("use_websockets", .bool false)] kwargs

end IotCore.MqttConnectionBuilder
