/-
KaroX2/Subscription.lean

The life of a subscription: the subscribe call, the request on the wire, its
acknowledgement or time-out, the delivery of pushes, and the end of it.

The handler of an acknowledgement is split where it loops: everything up to the
drain of the pending buffer is `handleSubscribeAck`, which returns what is left
to be drained, and the rounds of `_drain_pending_buffer` with the end of the
handler are `drainRound`.  In between, the label of the handler is not left.
-/
import KaroX2.Connection

namespace KaroX2

open Coop

variable (σ : Setup)

/-! ### The subscribe request -/

/-- Everything that `_send_subscribe` records between the encoding and the send. -/
def World.registerSubscribe (s : SlotId) (rid since : Nat) (w : World) : World :=
  let slot := w.subs.slots s
  let w := w.setSlot s fun x =>
    { x with
      expectedResumeSeq := since
      isReconnectResume := slot.state = .paused || (slot.everActive && w.conn.state = .reconnecting)
      state := .pending
      inflightSubscribeRequestId := rid }
  { w.callLater rid (.ackTimeout rid slot.topic) with
    subs.inflightSub := w.subs.inflightSub.insert rid slot.topic
    subs.subAckTimers := w.subs.subAckTimers.insert rid rid }

/-- What `_send_subscribe` undoes after a failed send. -/
def World.unregisterSubscribe (s : SlotId) (rid : Nat) (w : World) : World :=
  { (w.cancelTimer rid).setSlot s fun x => { x with inflightSubscribeRequestId := 0 } with
    subs.subAckTimers := w.subs.subAckTimers.erase rid
    subs.inflightSub := w.subs.inflightSub.erase rid }

/-- `effective_since` -/
def effectiveSince (slot : SubSlot) (sinceSeq : Nat) : Nat :=
  match slot.semantics with
  | .telemetry => 0
  | .event => sinceSeq

/-- `self._ws is not None and await self._ws.send(bytes)` -/
def transmit (cmd : SdkCommand) : M Bool := do
  let w ← Coro.read
  match w.conn.ws with
  | none => pure false
  | some c => wsSend c cmd

/-- `_send_subscribe`.  What is undone after a failed send is the first update of
the `_on_transport_close` that follows it. -/
def sendSubscribe (me : TaskId) (s : SlotId) (sinceSeq : Nat) : M Unit :=
  Coro.call (.sendSubscribe s) do
    let rid ← nextRid
    let w ← Coro.read
    let slot := w.subs.slots s
    let since := effectiveSince slot sinceSeq
    let limit := if since > 0 then σ.opts.historyLimit else 0
    match encodeSubscribe rid slot.topic slot.desiredHz since limit with
    | .error e =>
      Coro.scope (.unsendable s) (World.closeSlot me slot.topic s .internalError e.text)
        (pure ((), id))
    | .ok cmd => do
      let ok ← Coro.scope (.subscribing s rid) (World.registerSubscribe s rid since) do
        let ok ← transmit cmd
        pure (ok, id)
      Coro.when (ok = false) (onTransportCloseAfter σ (World.unregisterSubscribe s rid) me
        .transportFailure "SendSubscribe failed")

/-- `_handle_subscribe_ack_timeout` -/
def handleSubscribeAckTimeout (me : TaskId) (rid : Nat) (topic : String) : M Unit := do
  let w ← Coro.read
  Coro.when (w.subs.subAckTimers.has rid = true) do
    Coro.modify (World.postLog .warn ("SubscribeAck timeout for " ++ topic))
    onTransportClose σ me .timeout "SubscribeAck timeout"

/-- The `SubSlot` of a subscribe call. -/
def World.newSlot (s : SlotId) (topic : String) (desiredHz : PyFloat) (w : World) : World :=
  { w.setSlot s fun _ =>
      { topic := topic
        desiredHz := desiredHz
        semantics := w.resolveSemantics topic
        callbackMode := σ.opts.callbackMode
        dropPolicy := σ.opts.dropPolicy
        queueSize := σ.opts.subscriptionQueueSize.toNat } with
    subs.slotCount := s + 1 }

/-- `self._subs[topic] = slot` and `self._start_sub_worker(slot)` -/
def World.enlist (s : SlotId) (topic : String) (w : World) : World :=
  { w with subs.subs := w.subs.subs.insert topic s }.startSubWorker s

/-- `_subscribe_internal` up to the test of the state: the new slot is closed at
once where the topic is taken. -/
def World.beginSubscribe (s : SlotId) (topic : String) (desiredHz : PyFloat) (w : World) : World :=
  if w.subs.subs.has topic then
    (w.newSlot σ s topic desiredHz).markClosed s .topicAlreadySubscribed "already subscribed"
  else (w.newSlot σ s topic desiredHz).enlist s topic

/-- The facade is created. -/
def World.handOut (s : SlotId) : World → World :=
  World.setSlot s fun x => { x with finalizer := true }

/-- `_subscribe_internal`.  `user_closed` of a new slot is false, so the branch
on it is never taken. -/
def subscribeInternal (me : TaskId) (topic : String) (desiredHz : PyFloat) : M SlotId := do
  let w ← Coro.read
  let s := w.subs.slotCount
  Coro.scope (.subscribe s) (World.beginSubscribe σ s topic desiredHz) do
    Coro.when (w.subs.subs.has topic = false ∧ w.conn.state = .ready) (sendSubscribe σ me s 0)
    pure (s, World.handOut s)

/-! ### Delivery -/

/-- `await slot.frame_dispatcher(push)` with every exception ignored -/
def dispatchFrame (s : SlotId) (push : DecodedTopicPush) : M Unit := swallow do
  let _ ← suspend (.callback s push)
  pure ()

/-- An accepted push is handed to the user, or put into the queue of the worker. -/
def World.handOver (s : SlotId) (push : DecodedTopicPush) (w : World) : Bool × World :=
  match (w.subs.slots s).callbackMode with
  | .inline => (true, w.push (.delivered s push))
  | .dispatched => (false, w.setSlot s fun x => x.bufferDispatch push)

/-- `_deliver_push_to_sub` up to the callback: is there one? -/
def World.acceptPush (s : SlotId) (push : DecodedTopicPush) (w : World) : Bool × World :=
  match (w.subs.slots s).checkSeq push.seq with
  | .duplicate =>
    (false, w.postLog .debug ("duplicate envelope seq, dropping: " ++ (w.subs.slots s).topic))
  | .regression =>
    (false, w.postLog .warn ("envelope seq regression in-session: " ++ (w.subs.slots s).topic))
  | .accept lastSeq gap =>
    let w := w.setSlot s fun x => { x with lastSeq := lastSeq }
    let w := match gap with
      | some g => w.fireStatus s { kind := .gap, gapCount := some g }
      | none => w
    let w := w.setSlot s fun x => x.recordReceived w.clock.steady w.clock.epochMs
    (w.push (.accepted s push)).handOver s push

/-- `_deliver_push_to_sub` -/
def deliverPushToSub (s : SlotId) (push : DecodedTopicPush) : M Unit := do
  let go ← Coro.update (World.acceptPush s push)
  Coro.when (go = true) (dispatchFrame s push)

/-- `slot.drop_count += 1` -/
def World.countDrop (s : SlotId) : World → World :=
  World.setSlot s fun x => { x with dropCount := x.dropCount + 1 }

/-- `_handle_sdk_topic_push` -/
def handleSdkTopicPush (push : DecodedTopicPush) : M Unit := do
  let w ← Coro.read
  match w.subs.subs.get? push.topic with
  | none => Coro.modify (World.postLog .debug ("topic push for unknown sub: " ++ push.topic))
  | some s =>
    match (w.subs.slots s).state with
    | .closed => pure ()
    | .pending => Coro.modify (World.setSlot s fun x => x.bufferPending push)
    | .paused => Coro.modify (World.countDrop s)
    | .active => deliverPushToSub s push

/-- The oldest push that waits for the dispatch worker is taken. -/
def World.popDispatch (s : SlotId) (w : World) : Option DecodedTopicPush × World :=
  match (w.subs.slots s).dispatchQueue with
  | some (push :: q) => (some push, w.setSlot s fun x => { x with dispatchQueue := some q })
  | _ => (none, w)

/-- One round of `_sub_dispatch_worker`: does the worker go on? -/
def subWorkerRound (s : SlotId) : M Bool := do
  let w ← Coro.read
  if (w.subs.slots s).state = .closed ∨ (w.subs.slots s).dispatchQueue = none then pure false
  else
    match ← (suspend (.queueGet s)).attempt with
    | .error _ => pure false
    | .ok _ => do
      let push ← Coro.update (World.popDispatch s)
      let w ← Coro.read
      match push with
      | none => pure false
      | some push =>
        if (w.subs.slots s).state = .closed then pure false
        else
          Coro.modify (World.push (.delivered s push))
          match ← (dispatchFrame s push).attempt with
          | .error _ => pure false
          | .ok _ => pure true

/-! ### The acknowledgement -/

/-- `_maybe_finish_reconnect`; `phase` is the captured `is_reconnect_phase`. -/
def World.maybeFinishReconnect (phase : Bool) (w : World) : World :=
  if phase && w.conn.reconnectSubsPending > 0 then
    let w := { w with conn.reconnectSubsPending := w.conn.reconnectSubsPending - 1 }
    if w.conn.reconnectSubsPending = 0 ∧ w.conn.reconnectEstopPending = false then
      World.transition .ready { reason := "reconnect ok" }
        { w with
          conn.reconnectAttempt := 0
          conn.reconnectTotalCount := w.conn.reconnectTotalCount + 1 }
    else w
  else w

/-- What is left to be drained after an accepted acknowledgement: the slot, the
sequence number to start from, `is_reconnect_phase`, the epoch. -/
abbrev AckNext := Option (SlotId × Nat × Bool × Nat)

/-- How `_handle_subscribe_ack` goes on: it returns with an update, or it drains
the pending buffer from a sequence number on. -/
inductive AckEnd where
  | finished (last : World → World)
  | drain (nextSeq : Nat)

/-- The subscription ends, which may have been the last one to wait for. -/
def World.closeAndFinish (me : TaskId) (topic : String) (s : SlotId) (code : ErrorCode)
    (reason : String) (phase : Bool) (w : World) : World :=
  (w.closeSlot me topic s code reason).maybeFinishReconnect phase

/-- The acknowledgement is an error response. -/
def ackFailed (me : TaskId) (topic : String) (s : SlotId) (phase : Bool) (resp : DecodedResponse) :
    M AckEnd :=
  match classify resp.sdkCode with
  | .fatal => do
    abortToFatal me resp.sdkCode ("subscribe fatal: " ++ resp.message)
    pure (.finished id)
  | .transient =>
    if phase then do
      onTransportClose σ me resp.sdkCode resp.message
      pure (.finished id)
    else pure (.finished (World.closeSlot me topic s resp.sdkCode resp.message))
  | _ => pure (.finished (World.closeAndFinish me topic s resp.sdkCode resp.message phase))

/-- A telemetry subscription is accepted. -/
def World.activateTelemetry (s : SlotId) (w : World) : World :=
  (w.setSlot s fun x => { x with lastSeq := 0, state := .active }).fireStatus s
    { kind := if (w.subs.slots s).isReconnectResume then .resumed else .started }

/-- The last sequence number, the status and the gap after an accepted
acknowledgement of an event subscription with `next_seq = K`. -/
def SubSlot.resumeAt (x : SubSlot) (K : Nat) : Nat × StreamStatusKind × Option Nat :=
  if x.expectedResumeSeq = 0 then
    (if K ≥ 1 then K - 1 else 0, if x.isReconnectResume then .resumed else .started, none)
  else if K = x.expectedResumeSeq then (x.lastSeq, .resumed, some 0)
  else if K > x.expectedResumeSeq then (K - 1, .resumed, some (K - x.expectedResumeSeq))
  else (if K ≥ 1 then K - 1 else 0, .resumed, none)

/-- An event subscription is accepted. -/
def World.activateEvent (s : SlotId) (K : Nat) (w : World) : World :=
  let (lastSeq, kind, gap) := (w.subs.slots s).resumeAt K
  (w.setSlot s fun x => { x with lastSeq := lastSeq, state := .active }).fireStatus s
    { kind := kind, gapCount := gap }

/-- The rejection says that history cannot be replayed. -/
def SubscribeRejectReason.historyGone : SubscribeRejectReason → Bool
  | .historyTooOld | .replayNotSupported => true
  | _ => false

/-- `slot.last_seq = 0` and `slot.fresh_retry_done = True` -/
def World.startAfresh (s : SlotId) : World → World :=
  World.setSlot s fun x => { x with lastSeq := 0, freshRetryDone := true }

/-- `_handle_subscribe_ack` once the slot is found, up to the drain. -/
def settleAck (me : TaskId) (topic : String) (s : SlotId) (phase : Bool) (resp : DecodedResponse) :
    M AckEnd := do
  let w ← Coro.read
  if resp.success = false then ackFailed σ me topic s phase resp
  else if (w.subs.slots s).semantics = .telemetry then
    if resp.subAccepted = false then
      pure (.finished (World.closeAndFinish me topic s (rejectReasonToError resp.subRejectReason)
        resp.subMessage phase))
    else do
      Coro.modify (World.activateTelemetry s)
      pure (.drain 0)
  else if resp.subAccepted = false then
    if resp.subRejectReason.historyGone then
      if (w.subs.slots s).freshRetryDone then
        pure (.finished (World.closeAndFinish me topic s .internalError
          "fresh subscribe rejected after replay fallback" phase))
      else do
        Coro.modify (World.startAfresh s)
        sendSubscribe σ me s 0
        pure (.finished id)
    else
      pure (.finished (World.closeAndFinish me topic s (rejectReasonToError resp.subRejectReason)
        resp.subMessage phase))
  else do
    Coro.modify (World.activateEvent s resp.subNextSeq)
    pure (.drain resp.subNextSeq)

/-- `self._inflight_sub.pop(rid, None)`, `handle.cancel()` and
`self._sub_ack_timers.pop(rid, None)` -/
def World.takeAck (rid : Nat) (w : World) : World :=
  let w := match w.subs.subAckTimers.get? rid with
    | some h => w.cancelTimer h
    | none => w
  { w with
    subs.inflightSub := w.subs.inflightSub.erase rid
    subs.subAckTimers := w.subs.subAckTimers.erase rid }

/-- The acknowledgement is the one that the slot waits for. -/
def World.beginAck (s : SlotId) (resp : DecodedResponse) (w : World) : World :=
  ((w.takeAck resp.requestId).setSlot s fun x => { x with inflightSubscribeRequestId := 0 }).push
    (.acknowledged s resp)

/-- `_handle_subscribe_ack` up to the drain.  The lookups do not depend on the
entries that `takeAck` removes, so they come first. -/
def handleSubscribeAck (me : TaskId) (resp : DecodedResponse) : M AckNext := do
  let rid := resp.requestId
  let w ← Coro.read
  match w.subs.inflightSub.get? rid with
  | none => do
    Coro.modify (World.postLog .debug "SubscribeAck for unknown request_id")
    pure none
  | some topic =>
    match w.subs.subs.get? topic with
    | none => do
      Coro.modify (World.takeAck rid)
      pure none
    | some s =>
      if (w.subs.slots s).inflightSubscribeRequestId ≠ rid then do
        Coro.modify (World.takeAck rid)
        pure none
      else do
        let phase : Bool := w.conn.state = .reconnecting
        let l : Label := .handleSubscribeAck s phase (epoch w.log)
        Coro.enterBy l (World.beginAck s resp)
        match ← Coro.within l (settleAck σ me topic s phase resp) with
        | .ok (.finished f) => do
          Coro.leaveBy l f
          pure none
        | .ok (.drain K) => pure (some (s, K, phase, epoch w.log))
        | .error e => do
          Coro.leaveBy l id
          Coro.raise e

/-- The end of `_handle_subscribe_ack`, after the drain. -/
def World.ackDone (s : SlotId) (phase : Bool) (w : World) : World :=
  (w.setSlot s fun x => { x with everActive := true, isReconnectResume := false }).maybeFinishReconnect
    phase

/-- A buffered push is older than what the acknowledgement starts from. -/
def SubSlot.stale (x : SubSlot) (nextSeq : Nat) (push : DecodedTopicPush) : Bool :=
  x.semantics = .event && nextSeq > 0 && push.seq ≠ 0 && push.seq < nextSeq

/-- `slot.pending_buffer.popleft()` -/
def World.popPending (s : SlotId) (rest : List DecodedTopicPush) : World → World :=
  World.setSlot s fun x => { x with pendingBuffer := rest }

/-- One round of `_drain_pending_buffer`, up to the callback. -/
def World.drainFront (s : SlotId) (nextSeq : Nat) (front : DecodedTopicPush)
    (rest : List DecodedTopicPush) (w : World) : Bool × World :=
  if (w.subs.slots s).stale nextSeq front then (false, (w.popPending s rest).countDrop s)
  else (w.popPending s rest).acceptPush s front

/-- `_handle_subscribe_ack` from the drain on: a round of it, or its end. -/
def drainRound (c : WsId) (s : SlotId) (nextSeq : Nat) (phase : Bool) (ep : Nat) :
    M (Flow Karo) := do
  let l : Label := .handleSubscribeAck s phase ep
  let w ← Coro.read
  match (w.subs.slots s).pendingBuffer with
  | [] => do
    Coro.leaveBy l (World.ackDone s phase)
    pure (.next (.readLoop c))
  | front :: rest =>
    let round : M Unit := do
      let go ← Coro.update (World.drainFront s nextSeq front rest)
      Coro.when (go = true) (dispatchFrame s front)
    match ← Coro.within l round with
    | .ok _ => pure (.next (.drain c s nextSeq phase ep))
    | .error e => do
      Coro.leaveBy l id
      Coro.raise e

/-! ### Unsubscribing -/

/-- `slot.unsubscribe_sent = True` -/
def World.markUnsubscribed (s : SlotId) : World → World :=
  World.setSlot s fun x => { x with unsubscribeSent := true }

/-- The warning of a dropped subscription. -/
def World.warnDropped (topic : String) : World → World :=
  World.postLog .warn ("subscription dropped without explicit unsubscribe() — topic=" ++ topic)

/-- `unsubscribe_request` for the slot `s` that is registered under the topic:
the result, and the update that closes the slot. -/
def unsubscribeSlot (me : TaskId) (topic : String) (s : SlotId) (syncWait : Bool) :
    M (ErrorCode × (World → World)) := do
  let w ← Coro.read
  match w.conn.ws with
  | none => pure disconnected
  | some c =>
    if w.conn.state = .ready ∧ (w.clients c).attached = true ∧ (w.clients c).isOpen = true then do
      let rid ← nextRid
      if syncWait then
        match ← (sendRpcAndWait rid "unsubscribe" (encodeUnsubscribe rid topic)).attempt with
        | .ok resp => do
          Coro.modify (World.markUnsubscribed s)
          let code := if resp.success then .ok else resp.sdkCode
          pure (code, World.closeSlot me topic s code resp.message)
        | .error (.timeout _) =>
          pure (.timeout, World.closeSlot me topic s .timeout "Unsubscribe timeout")
        | .error (.sdk code msg) =>
          pure (code, World.closeSlot me topic s code (Exn.sdk code msg).text)
        | .error e => Coro.raise e
      else do
        if ← wsSend c (encodeUnsubscribe rid topic) then
          Coro.modify (World.markUnsubscribed s)
        else pure ()
        pure (.ok, World.warnDropped topic ∘ World.closeSlot me topic s .ok "Unsubscribe()")
    else pure disconnected
where
  disconnected : ErrorCode × (World → World) :=
    (if syncWait then .disconnected else .ok,
      World.closeSlot me topic s .disconnected "Unsubscribe() while disconnected")

/-- `unsubscribe_request`, called for the handle `h` -/
def unsubscribeRequest (me : TaskId) (h : SlotId) (syncWait : Bool) : M ErrorCode :=
  Coro.call (.unsubscribeRequest h syncWait) do
    let w ← Coro.read
    let topic := (w.subs.slots h).topic
    match w.subs.subs.get? topic with
    | none => pure .ok
    | some s => Coro.scope (.unsubscribing topic s) id (unsubscribeSlot me topic s syncWait)

/-- `slot.user_closed = True`, and the finalizer is detached -/
def World.markUserClosed (h : SlotId) : World → World :=
  World.setSlot h fun x => { x with userClosed := true, finalizer := false }

/-- `SubscriptionFacade.unsubscribe` -/
def unsubscribe (me : TaskId) (h : SlotId) : M ErrorCode := do
  Coro.modify (World.markUserClosed h)
  unsubscribeRequest me h true

end KaroX2
