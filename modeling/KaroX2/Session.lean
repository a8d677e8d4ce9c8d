/-
KaroX2/Session.lean

Connecting and reconnecting: `_establish`, the delayed attempt that
`_schedule_reconnect` creates, and the replay of the emergency stop.

`_establish` is cut into three phases: the dial, the handshake, and the
restoration of the session.  Each is a coroutine of its own that runs under a
label of its own, so an observer can see how far an attempt has come; the update
between two phases moves the attempt from one label to the next.  A phase that
ends the attempt returns the update that `_establish` makes last.
-/
import KaroX2.Subscription

namespace KaroX2

open Coop

variable (σ : Setup)

/-- How a phase of `_establish` ends: with the attempt, or so that it goes on. -/
inductive Attempt (α : Type) where
  | ended (last : World → World)
  | goesOn (a : α)

/-! ### The dial -/

/-- `WsClient.connect`, up to the creation of its reader -/
def wsConnect : M Unit :=
  match σ.sslContext with
  | .error e => Coro.raise e
  | .ok _ => do
    match ← (suspend .wsConnect).attempt with
    | .ok _ => pure ()
    | .error (.timeout t) => Coro.raise (.sdk .timeout ("ws connect timeout: " ++ t))
    | .error (.ssl t) => Coro.raise (.sdk .authFailed ("TLS error: " ++ t))
    | .error (.invalidHandshake t) => Coro.raise (.sdk .transportFailure ("WS handshake: " ++ t))
    | .error (.os t) => Coro.raise (.sdk .transportFailure ("TCP error: " ++ t))
    | .error e => Coro.raise e

/-- The transition to `TRANSIENT_FAILURE` and the retry after a failed dial. -/
def World.dialFailed (code : ErrorCode) (message : String) (w : World) : World :=
  (w.transientFailure σ "ws connect failed" code message).retry σ

/-- What `_establish` does when `ws.connect` has returned or raised -/
def dialed (me : TaskId) : Except Exn Unit → M (Attempt Unit)
  | .ok _ => pure (.goesOn ())
  | .error (.sdk code msg) =>
    if classify code = .fatal then do
      abortToFatal me code ("ws connect fatal: " ++ (Exn.sdk code msg).text)
      pure (.ended id)
    else pure (.ended (World.dialFailed σ code (Exn.sdk code msg).text))
  | .error e => Coro.raise e

/-- `_establish` after its guard, up to the outcome of `ws.connect` -/
def dial (me : TaskId) : M (Attempt Unit) := do
  let r ← (wsConnect σ).attempt
  dialed σ me r

/-- The connection is open: a new client with its reader, the two handlers, and
`self._ws = ws`. -/
def World.install (w : World) : World :=
  { w.setClient w.clientCount fun _ => { readTask := some w.tasks.next, handlers := true } with
    conn.ws := some w.clientCount
    clientCount := w.clientCount + 1
    tasks := w.tasks.spawn (.reader w.clientCount)
    log := .installed w.clientCount :: w.log }

/-! ### The handshake -/

/-- The failure branches of `_establish`: `TRANSIENT_FAILURE`, close, and the
retry as the last update. -/
def retryLater (me : TaskId) (reason : String) (code : ErrorCode) (message : String) :
    M (Attempt DecodedResponse) := do
  Coro.modify (World.transientFailure σ reason code message)
  closeWs me id
  pure (.ended (World.retry σ))

/-- The bytes of the handshake command -/
def handshakeCommand (rid : Nat) : Except Exn SdkCommand :=
  let version := if σ.opts.sdkVersion.truthy then σ.opts.sdkVersion else defaultSdkVersion
  if σ.opts.certPem.truthy then
    match σ.pemToDer with
    | .ok der => encodeHandshakeCert rid version σ.opts.clientId der
    | .error e => .error (.sdk .authFailed ("PEM → DER failed: " ++ e))
  else encodeHandshakeToken rid version σ.opts.clientId σ.opts.accessToken

/-- The response is accepted. -/
def DecodedResponse.accepted (resp : DecodedResponse) : Bool := resp.success && resp.hasHandshake

/-- The code with which a handshake response is turned down. -/
def DecodedResponse.handshakeCode (resp : DecodedResponse) : ErrorCode :=
  if resp.success then .internalError else resp.sdkCode

/-- `_establish` with a handshake response: accepted or not -/
def handshakeAnswered (me : TaskId) (resp : DecodedResponse) : M (Attempt DecodedResponse) :=
  if resp.accepted then pure (.goesOn resp)
  else if classify resp.handshakeCode = .fatal then do
    abortToFatal me resp.handshakeCode ("handshake rejected: " ++ resp.message)
    pure (.ended id)
  else retryLater σ me "handshake failed" resp.handshakeCode resp.message

/-- `_establish` from the assignment of `self._ws` to the handshake response -/
def handshake (me : TaskId) : M (Attempt DecodedResponse) := do
  let rid ← nextRid
  match handshakeCommand σ rid with
  | .error (.sdk code msg) => do
    abortToFatal me code ("handshake encode: " ++ (Exn.sdk code msg).text)
    pure (.ended id)
  | .error e => Coro.raise e
  | .ok cmd =>
    match ← (sendRpcAndWait rid "handshake" cmd).attempt with
    | .ok resp => handshakeAnswered σ me resp
    | .error (.timeout _) => retryLater σ me "handshake timeout" .timeout ""
    | .error (.sdk code msg) =>
      if classify code = .fatal then do
        abortToFatal me code ("handshake error: " ++ (Exn.sdk code msg).text)
        pure (.ended id)
      else retryLater σ me "handshake transport failed" code (Exn.sdk code msg).text
    | .error e => Coro.raise e

/-! ### Restoring a session -/

/-- `self._robot_info = RobotInfo(…)` -/
def World.setRobotInfo (resp : DecodedResponse) (w : World) : World :=
  let info : RobotInfo := ⟨resp.robotSn, resp.robotModel, resp.protocolVersion, resp.availableTopics⟩
  { w with conn.robotInfo := some info }

/-- `READY` after a reconnect. -/
def World.reconnectOk (w : World) : World :=
  World.transition .ready { reason := "reconnect ok" }
    { w with
      conn.reconnectAttempt := 0
      conn.reconnectTotalCount := w.conn.reconnectTotalCount + 1 }

/-- The two counters that gate `READY` after a reconnect, and `READY` if there is
nothing to restore. -/
def World.armReconnect (w : World) : World :=
  let w := { w with
    conn.reconnectSubsPending := w.subs.subs.size
    conn.reconnectEstopPending := w.estop.engaged }
  if w.conn.reconnectSubsPending = 0 ∧ w.conn.reconnectEstopPending = false then w.reconnectOk
  else w

/-- What `_establish` does on an accepted handshake response, up to its loop over
the slots. -/
def World.beginSession (isReconnect : Bool) (c : WsId) (resp : DecodedResponse) (w : World) :
    World :=
  let w := w.setRobotInfo resp
  let w := w.startHeartbeat σ
  let w := w.resolveAllSemantics
  let w := w.push (.handshake c isReconnect w.estop.engaged)
  if isReconnect then w.armReconnect
  else w.transition .ready { reason := "handshake ok" }

/-- A round of `_resubscribe_all_after_reconnect` -/
def resubscribe (me : TaskId) (s : SlotId) : M Unit := do
  Coro.modify (World.setSlot s fun x => { x with freshRetryDone := false })
  let w ← Coro.read
  let slot := w.subs.slots s
  let since := if slot.semantics = .event ∧ σ.opts.reconnectReplayHistory = true ∧ slot.lastSeq > 0
    then slot.lastSeq + 1 else 0
  sendSubscribe σ me s since

/-- A round of the loop after the first handshake -/
def sendPending (me : TaskId) (s : SlotId) : M Unit := do
  let w ← Coro.read
  Coro.when ((w.subs.slots s).state = .pending ∧ (w.subs.slots s).inflightSubscribeRequestId = 0)
    (sendSubscribe σ me s 0)

/-- `asyncio.create_task(self._do_estop_replay())` if it is pending -/
def World.startReplay (w : World) : World :=
  if w.conn.reconnectEstopPending then w.spawn .estopReplay else w

/-- A round of the loop of `_establish` over the slots -/
def restoreSlot (me : TaskId) (isReconnect : Bool) (s : SlotId) : M Unit :=
  if isReconnect then resubscribe σ me s else sendPending σ me s

/-- What `_establish` does last -/
def World.restored (isReconnect : Bool) (w : World) : World :=
  if isReconnect then w.startReplay else w

/-! ### `_establish` -/

/-- `_establish` from the dial on -/
def attempt (me : TaskId) (isReconnect : Bool) (ep : Nat) : M Unit := do
  let dialing : Label := .establish isReconnect ep
  match ← Coro.within dialing (dial σ me) with
  | .error e => do
    Coro.leaveBy dialing id
    Coro.raise e
  | .ok (.ended f) => Coro.leaveBy dialing f
  | .ok (.goesOn _) => do
    let w ← Coro.read
    let c := w.clientCount
    let shaking : Label := .handshaking isReconnect ep c
    Coro.become dialing shaking World.install
    match ← Coro.within shaking (handshake σ me) with
    | .error e => do
      Coro.leaveBy shaking id
      Coro.raise e
    | .ok (.ended f) => Coro.leaveBy shaking f
    | .ok (.goesOn resp) => do
      -- where there is nothing to restore the loop is empty and no replay is pending
      let w ← Coro.read
      Coro.become shaking (.restoring isReconnect ep c w.subs.subs.values)
        (World.beginSession σ isReconnect c resp)
      Coro.rounds (.restoring isReconnect ep c) (World.restored isReconnect)
        (restoreSlot σ me isReconnect) w.subs.subs.values

/-- `_establish(is_reconnect=False)` -/
def establish (me : TaskId) : M Unit := do
  let w ← Coro.read
  Coro.when (w.conn.state = .idle) do
    Coro.enterBy (.establish false (epoch w.log))
      (World.transition .connecting { reason := "connect()" })
    attempt σ me false (epoch w.log)

/-! ### Reconnecting -/

/-- The transition to `RECONNECTING` -/
def World.beginReconnect (n : Nat) (w : World) : World :=
  World.transition .reconnecting { reason := "reconnecting" }
    { w with conn.reconnectAttempt := n }

/-- `_do_reconnect`.  It goes on with `_establish(is_reconnect=True)`, whose guard
holds after the transition. -/
def doReconnect (me : TaskId) (n delayMs : Nat) : M Unit := do
  Coro.enterBy .backoff id
  match ← Coro.within .backoff (suspend (.sleep delayMs)) with
  | .error _ => Coro.leaveBy .backoff id
  | .ok _ => do
    let w ← Coro.read
    if w.conn.state = .transientFailure then do
      Coro.become .backoff (.establish true (epoch w.log)) (World.beginReconnect n)
      attempt σ me true (epoch w.log)
    else Coro.leaveBy .backoff id

/-! ### Replaying the emergency stop -/

/-- `self._reconnect_estop_pending = False` -/
def World.clearEstopPending (w : World) : World := { w with conn.reconnectEstopPending := false }

/-- `READY` after a replayed emergency stop. -/
def World.replayOk (w : World) : World :=
  World.transition .ready
    { reason := "reconnect ok (estop replayed)", lastAction := "estop_replay_ok" }
    { w with
      conn.reconnectAttempt := 0
      conn.reconnectTotalCount := w.conn.reconnectTotalCount + 1 }

/-- The end of `_do_estop_replay` after a full success. -/
def World.estopReplayed (w : World) : World :=
  let w := w.clearEstopPending
  if w.conn.reconnectSubsPending = 0 then w.replayOk else w

/-- `_do_estop_replay` -/
def estopReplay (me : TaskId) : M Unit := do
  let w ← Coro.read
  Coro.scope (.estopReplay (epoch w.log)) id do
    let rid ← nextRid
    match encodeEmergencyStop rid true
        (w.estop.reason.append (.ofString " [auto-replayed after reconnect]")) with
    | .error e => Coro.raise e
    | .ok cmd =>
      match ← (sendRpcAndWait rid "safety.emergency_stop.replay" cmd).attempt with
      | .ok resp =>
        if resp.rpcOk then pure ((), World.estopReplayed)
        else do
          onTransportCloseAfter σ World.clearEstopPending me
            (if resp.hasRpc && resp.rpcCode ≠ .ok then resp.rpcCode else resp.sdkCode)
            "estop replay failed"
          pure ((), id)
      | .error (.timeout _) | .error (.sdk _ _) => do
        onTransportCloseAfter σ World.clearEstopPending me .timeout "estop replay timeout"
        pure ((), id)
      | .error e => Coro.raise e

end KaroX2
