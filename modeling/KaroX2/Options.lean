/-
KaroX2/Options.lean

`ConnectOptions` and what of the surroundings is a parameter of the model.

`validateOpts` is the check that `RobotImpl.__init__` makes; a `Setup` carries
the proof that it passed, as the constructor raises otherwise.  The random
numbers, the certificate parser and the construction of the TLS context belong
to the Python installation and are fields of the `Setup`.

Durations are seconds, as exact rationals.
-/
import KaroX2.Messages

namespace KaroX2

/-- `DropPolicy` -/
inductive DropPolicy where
  | dropOldest | dropNewest
  deriving DecidableEq, Repr

/-- `CallbackMode` -/
inductive CallbackMode where
  | dispatched | inline
  deriving DecidableEq, Repr

/-- `ConnectOptions`, with the fields of the two credentials spliced in -/
structure ConnectOptions where
  host : String := "192.168.10.10"
  certPem : PyStr := ⟨[]⟩
  keyPem : PyStr := ⟨[]⟩
  accessToken : List UInt8 := []
  clientId : PyStr := .ofString "karo-x2-sdk-python"
  sdkVersion : PyStr := ⟨[]⟩
  connectTimeout : ℚ := 5
  heartbeatInterval : ℚ := 10
  pingTimeout : ℚ := 3
  maxMissedPings : Int := 3
  reconnectMaxAttempts : Int := -1
  reconnectBaseDelay : ℚ := 1 / 2
  reconnectMaxDelay : ℚ := 30
  reconnectJitterRatio : ℚ := 3 / 10
  reconnectReplayHistory : Bool := true
  historyLimit : Int := 1000
  subscribeAckTimeout : ℚ := 5
  subscriptionQueueSize : Int := 100
  dropPolicy : DropPolicy := .dropOldest
  callbackMode : CallbackMode := .dispatched
  cmdvelRpcTimeout : ℚ := 1 / 5
  estopRpcTimeout : ℚ := 2

/-- `RobotImpl._validate_opts` -/
def validateOpts (o : ConnectOptions) : Except Exn Unit :=
  if o.host.isEmpty then
    .error (.sdk .transportFailure "ConnectOptions.host is empty")
  else if o.host.toList.contains ':' then
    .error (.sdk .transportFailure
      "ConnectOptions.host must not contain port; SDK uses fixed port 4434")
  else if !o.certPem.truthy && o.accessToken.isEmpty then
    .error (.sdk .authFailed "neither CertCredentials nor AccessTokenCredentials provided")
  else if o.certPem.truthy && !o.keyPem.truthy then
    .error (.sdk .authFailed "CertCredentials.cert_pem provided but key_pem empty")
  else if o.heartbeatInterval < 0 then
    .error (.sdk .internalError "heartbeat_interval must be >= 0")
  else if o.reconnectMaxDelay < o.reconnectBaseDelay then
    .error (.sdk .internalError "reconnect_max_delay < reconnect_base_delay")
  else if ¬(0 ≤ o.reconnectJitterRatio ∧ o.reconnectJitterRatio ≤ 1) then
    .error (.sdk .internalError "reconnect_jitter_ratio out of [0, 1]")
  else if o.subscriptionQueueSize ≤ 0 then
    .error (.sdk .internalError "subscription_queue_size must be >= 1")
  else .ok ()

/-- The options of a robot and its surroundings. -/
structure Setup where
  opts : ConnectOptions
  valid : validateOpts opts = .ok ()
  /-- the draws of `self._rng.random()` -/
  random : Nat → ℚ
  random_mem : ∀ n, 0 ≤ random n ∧ random n < 1
  /-- `pc.pem_to_der(cert_pem)`; its failure is `AUTH_FAILED` -/
  pemToDer : Except String (List UInt8)
  /-- `WsClient._build_ssl_context()` -/
  sslContext : Except Exn Unit

/-- `sdk_version()` -/
def defaultSdkVersion : PyStr := .ofString "3.3.1"

end KaroX2
