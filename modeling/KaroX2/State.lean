/-
KaroX2/State.lean

The parts of `RobotImpl` that run without a suspension: updates of the world.

`_transition`, `_fire_status`, `_post_log` and `_schedule_reconnect` are
declared `async` or create tasks, but do not await anything, so each is one
update.  A timer or a future is named by the request id it belongs to, and
cancelling a task is a flag in the table of tasks.
-/
import KaroX2.World

namespace KaroX2

open Coop Py

variable (σ : Setup)

namespace World

/-! ### Heaps and tables -/

def push (o : Obs) (w : World) : World := { w with log := o :: w.log }

def setSlot (s : SlotId) (f : SubSlot → SubSlot) (w : World) : World :=
  { w with subs.slots := Function.update w.subs.slots s (f (w.subs.slots s)) }

def setClient (c : WsId) (f : WsClient → WsClient) (w : World) : World :=
  { w with clients := Function.update w.clients c (f (w.clients c)) }

def setFuture (rid : Nat) (x : Fut) (w : World) : World :=
  { w with rpc.futures := Function.update w.rpc.futures rid x }

/-- `asyncio.create_task` -/
def spawn (p : Job) (w : World) : World := { w with tasks := w.tasks.spawn p }

/-- `t is not None and not t.done()` and `t is not current`: cancel it -/
def cancelOther (me : TaskId) (t : Option TaskId) (w : World) : World :=
  match t with
  | some t => if w.tasks.done t || t = me then w else { w with tasks := w.tasks.cancel t }
  | none => w

/-- `handle.cancel()` -/
def cancelTimer (rid : Nat) (w : World) : World := { w with rpc.timers := w.rpc.timers.erase rid }

/-- `loop.call_later(…)` -/
def callLater (rid : Nat) (x : Timer) (w : World) : World :=
  { w with rpc.timers := w.rpc.timers.insert rid x }

/-- `if not future.done(): future.set_exception(e)`, and with a result -/
def resolve (rid : Nat) (x : Fut) (w : World) : World :=
  if (w.rpc.futures rid).done then w else w.setFuture rid x

/-- `_next_rid`; the id is the old `nextRequestId` -/
def bumpRid (w : World) : World := { w with rpc.nextRequestId := w.rpc.nextRequestId + 1 }

/-! ### Logging and status -/

/-- `_post_log` -/
def postLog (level : LogLevel) (msg : String) : World → World := push (.posted level msg)

/-- `_fire_status` -/
def fireStatus (s : SlotId) (st : StreamStatus) : World → World := push (.status s st)

/-- `_transition` -/
def transition (new : ConnectionState) (info : StateChangeInfo) (w : World) : World :=
  if w.conn.state = new then w
  else
    { w with
      conn.state := new
      stateEvt := w.stateEvt.set
      log := .transition w.conn.state new { info with reconnectAttempt := w.conn.reconnectAttempt }
        :: w.log }

/-! ### Back-off -/

/-- The loop of `_next_backoff_ms`: double up to the maximum. -/
def backoffExp (mx : ℚ) : Nat → ℚ → ℚ
  | 0, exp => exp
  | n + 1, exp => if exp ≥ mx then exp else backoffExp mx n (exp * 2)

/-- The value of `_next_backoff_ms` for one random draw. -/
def backoffMs (o : ConnectOptions) (attempt : Nat) (u : ℚ) : Nat :=
  let base := o.reconnectBaseDelay * 1000
  let mx := o.reconnectMaxDelay * 1000
  let exp := backoffExp mx attempt base
  let exp := if exp > mx then mx else exp
  let jr := max (1 / 20) o.reconnectJitterRatio
  let actual := exp - exp * jr * u
  let actual := if actual < 0 then 0 else actual
  actual.floor.toNat

/-- `_next_backoff_ms`, which draws a random number -/
def nextBackoffMs (attempt : Nat) (w : World) : Nat × World :=
  (backoffMs σ.opts attempt (σ.random w.draws), { w with draws := w.draws + 1 })

/-- The transition to `TRANSIENT_FAILURE` with the advertised retry time. -/
def transientFailure (reason : String) (code : ErrorCode) (message : String) (w : World) : World :=
  let (ms, w) := w.nextBackoffMs σ w.conn.reconnectAttempt
  w.transition .transientFailure
    { reason := reason, lastErrorCode := code, lastErrorMessage := message, nextRetryInMs := ms }

/-- `_schedule_reconnect` -/
def scheduleReconnect (attempt : Nat) (w : World) : World :=
  if w.conn.state.terminal then w
  else if σ.opts.reconnectMaxAttempts ≥ 0 ∧ (attempt : Int) > σ.opts.reconnectMaxAttempts then
    w.spawn (.abortToFatal .transportFailure "reconnect_max_attempts reached")
  else
    let (ms, w) := w.nextBackoffMs σ (attempt - 1)
    { w with
      conn.reconnectAttempt := attempt - 1
      conn.reconnectTask := some w.tasks.next
      tasks := w.tasks.spawn (.doReconnect attempt ms)
      log := .reconnectScheduled attempt ms :: w.log }

/-! ### Slots -/

/-- `_stop_sub_worker` -/
def stopSubWorker (me : TaskId) (s : SlotId) (w : World) : World :=
  w.cancelOther me (w.subs.slots s).dispatchWorker

/-- `_start_sub_worker` -/
def startSubWorker (s : SlotId) (w : World) : World :=
  let slot := w.subs.slots s
  if slot.callbackMode = .inline then w
  else
    let q := slot.dispatchQueue.getD []
    let busy := match slot.dispatchWorker with
      | some t => !w.tasks.done t
      | none => false
    if busy then w.setSlot s fun x => { x with dispatchQueue := some q }
    else (w.setSlot s fun x =>
      { x with dispatchQueue := some q, dispatchWorker := some w.tasks.next }).spawn (.subWorker s)

/-- Close a slot and fire its `CLOSED` status. -/
def markClosed (s : SlotId) (code : ErrorCode) (reason : String) (w : World) : World :=
  (w.setSlot s fun x => { x with state := .closed, errorCode := code }).fireStatus s
    { kind := .closed, errorCode := code, reason := reason }

/-- The five lines with which a subscription is closed: state, error code,
status, worker, and `self._subs.pop(topic, None)`. -/
def closeSlot (me : TaskId) (topic : String) (s : SlotId) (code : ErrorCode) (reason : String)
    (w : World) : World :=
  let w := (w.markClosed s code reason).stopSubWorker me s
  { w with subs.subs := w.subs.subs.erase topic }

/-- One round of the loops of `close` and `_abort_to_fatal` over the slots. -/
def closeSlotOnce (me : TaskId) (code : ErrorCode) (reason : String) (w : World) (s : SlotId) :
    World :=
  let w := if (w.subs.slots s).state = .closed then w else w.markClosed s code reason
  w.stopSubWorker me s

/-- The loop of `close` and `_abort_to_fatal` over the slots, and `self._subs.clear()`. -/
def closeAllSlots (me : TaskId) (code : ErrorCode) (reason : String) (w : World) : World :=
  let w := w.subs.subs.values.foldl (closeSlotOnce me code reason) w
  { w with subs.subs := .empty }

/-- One round of the loop of `_on_transport_close` over the slots. -/
def pauseSlot (reason : ErrorCode) (msg : String) (w : World) (s : SlotId) : World :=
  let prev := (w.subs.slots s).state
  let w :=
    if prev = .active ∨ prev = .pending then
      (w.setSlot s fun x => { x with state := .paused }).fireStatus s
        { kind := .paused, errorCode := reason, reason := msg }
    else w
  w.setSlot s fun x => { x with pendingBuffer := [], inflightSubscribeRequestId := 0 }

/-- The loop of `_on_transport_close` over the slots. -/
def pauseSlots (reason : ErrorCode) (msg : String) (w : World) : World :=
  w.subs.subs.values.foldl (pauseSlot reason msg) w

/-! ### Outstanding requests -/

/-- One round of the loops over `_inflight`: the timer is cancelled and the
future gets the exception. -/
def failRequest (e : Exn) (w : World) (x : Nat × InflightRpc) : World :=
  (match x.2.timeoutHandle with
    | some h => w.cancelTimer h
    | none => w).resolve x.1 (.exception e)

/-- All outstanding requests fail and `_inflight` is cleared. -/
def failInflight (e : Exn) (w : World) : World :=
  let w := w.rpc.inflight.items.foldl (failRequest e) w
  { w with rpc.inflight := .empty }

/-- The acknowledgement timers are cancelled; `_sub_ack_timers` and
`_inflight_sub` are cleared. -/
def clearSubAcks (w : World) : World :=
  let w := w.subs.subAckTimers.values.foldl (fun w h => w.cancelTimer h) w
  { w with subs.subAckTimers := .empty, subs.inflightSub := .empty }

/-- `_resolve_semantics` -/
def resolveSemantics (w : World) (topic : String) : DeliverySemantics :=
  match w.conn.robotInfo with
  | some info =>
    match info.availableTopics.find? fun d => d.name = topic with
    | some d => d.deliverySemantics
    | none => .telemetry
  | none => .telemetry

/-- `for slot in self._subs.values(): slot.semantics = self._resolve_semantics(slot.topic)` -/
def resolveAllSemantics (w : World) : World :=
  w.subs.subs.values.foldl
    (fun w s => w.setSlot s fun x => { x with semantics := w.resolveSemantics x.topic }) w

/-- The start of `_start_heartbeat`: the old task is asked to stop. -/
def restartHeartbeat (w : World) : World :=
  let w := match w.conn.heartbeatTask with
    | some t => if w.tasks.done t then w else { w with tasks := w.tasks.cancel t }
    | none => w
  { w with hb.lastInbound := w.clock.steady, hb.missCount := 0 }

/-- `_start_heartbeat` -/
def startHeartbeat (w : World) : World :=
  let w := w.restartHeartbeat
  if σ.opts.heartbeatInterval ≤ 0 then w
  else
    { w with
      conn.heartbeatTask := some w.tasks.next
      tasks := w.tasks.spawn .heartbeat }

/-- `_reset_liveness_on_inbound` -/
def resetLiveness (w : World) : World :=
  { w with hb := ⟨w.clock.steady, 0, true, true⟩ }

/-- `_TokenBucket.try_acquire` -/
def tryAcquire (now : ℚ) (b : TokenBucket) : Bool × TokenBucket :=
  let elapsed := now - b.last
  let tokens := min b.burst (b.tokens + elapsed * b.maxHz)
  if tokens ≥ 1 then (true, { b with last := now, tokens := tokens - 1 })
  else (false, { b with last := now, tokens := tokens })

end World

end KaroX2
