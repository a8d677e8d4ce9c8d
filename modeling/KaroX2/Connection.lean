/-
KaroX2/Connection.lean

The three ways a connection ends: `_on_transport_close`, `_abort_to_fatal` and
`close`.

Each of them first settles everything that depends on the connection (slots,
outstanding requests, timers, the heartbeat) without a suspension, and then
suspends in `WsClient.close`.  They differ in where they set the state: before
the suspension in `_on_transport_close` and `close`, after it in
`_abort_to_fatal`.
-/
import KaroX2.Transport

namespace KaroX2

open Coop

variable (σ : Setup)

namespace World

/-- What `_on_transport_close` settles before it moves the state. -/
def dropSession (me : TaskId) (reason : ErrorCode) (msg : String) (w : World) : World :=
  let w := w.pauseSlots reason msg
  let w := w.failInflight (.sdk reason msg)
  let w := w.clearSubAcks
  let w := w.cancelOther me w.conn.heartbeatTask
  { w with hb.missCount := 0 }

/-- `_on_transport_close` up to its suspension -/
def loseTransport (me : TaskId) (reason : ErrorCode) (msg : String) (w : World) : World :=
  ((w.push (.transportClose reason msg)).dropSession me reason msg).transientFailure σ
    (if msg = "" then "transport closed" else msg) reason msg

/-- `_abort_to_fatal` up to its suspension -/
def abandon (me : TaskId) (code : ErrorCode) (message : String) (w : World) : World :=
  let w := w.closeAllSlots me code (if message = "" then "Fatal" else message)
  let w := w.failInflight (.sdk code message)
  let w := w.clearSubAcks
  let w := w.cancelOther me w.conn.heartbeatTask
  w.cancelOther me w.conn.reconnectTask

/-- What `close` settles after it has moved the state. -/
def closeDown (me : TaskId) (w : World) : World :=
  let w := w.cancelOther me w.conn.reconnectTask
  let w := w.cancelOther me w.conn.heartbeatTask
  let w := w.failInflight (.sdk .cancelled "Robot.close()")
  let w := w.clearSubAcks
  w.closeAllSlots me .cancelled "Robot.close()"

/-- `close` up to its suspension -/
def shutDown (me : TaskId) (w : World) : World :=
  (w.transition .shutdown { reason := "user close()", lastErrorCode := .cancelled }).closeDown me

/-- `self._schedule_reconnect(self._reconnect_attempt + 1)` -/
def retry (w : World) : World := w.scheduleReconnect σ (w.conn.reconnectAttempt + 1)

/-- The transition to `FATAL` -/
def fail (code : ErrorCode) (message : String) : World → World :=
  transition .fatal { reason := message, lastErrorCode := code, lastErrorMessage := message }

end World

/-- `_on_transport_close`, called right after the update `first`. -/
def onTransportCloseAfter (first : World → World) (me : TaskId) (reason : ErrorCode)
    (msg : String) : M Unit :=
  Coro.scope .onTransportClose first do
    let w ← Coro.read
    if w.conn.state.terminal then pure ((), id)
    else do
      Coro.modify (World.loseTransport σ me reason msg)
      closeWs me id
      pure ((), World.retry σ)

/-- `_on_transport_close` -/
def onTransportClose (me : TaskId) (reason : ErrorCode) (msg : String) : M Unit :=
  onTransportCloseAfter σ id me reason msg

/-- `_abort_to_fatal` -/
def abortToFatal (me : TaskId) (code : ErrorCode) (message : String) : M Unit :=
  Coro.scope .abortToFatal (World.abandon me code message) do
    closeWs me (World.fail code message)
    pure ((), id)

/-- `close` -/
def close (me : TaskId) : M Unit := Coro.scope .close id do
  let w ← Coro.read
  if w.conn.state = .shutdown then pure ((), id)
  else do
    Coro.modify (World.shutDown me)
    closeWs me id
    pure ((), id)

end KaroX2
