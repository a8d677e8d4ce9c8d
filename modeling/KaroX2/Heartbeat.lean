/-
KaroX2/Heartbeat.lean

`_heartbeat_loop` and `_send_and_wait_ping`.

The two nested loops are two task bodies: `heartbeatRound` is a round of the
outer loop, `pingRound n` a round of the inner one with `n` rounds left.  Both
run inside the label of the heartbeat, which is not left before the task ends.
A cancellation ends the task quietly, whatever it was suspended on.
-/
import KaroX2.Connection

namespace KaroX2

open Coop

variable (σ : Setup)

/-- `except asyncio.CancelledError: pass` around the whole loop -/
def untilCancelled (c : M (Flow Karo)) : M (Flow Karo) := do
  match ← Coro.within (S := Karo) .heartbeat c with
  | .ok f => pure f
  | .error .cancelled => pure .done
  | .error e => Coro.raise e

/-- `self._heartbeat_wakeup.clear()` -/
def World.clearWakeup (w : World) : World := { w with hb.heartbeatWakeup := false }

/-- The start of `_heartbeat_loop` -/
def heartbeat : M (Flow Karo) := do
  Coro.enterBy .heartbeat id
  pure (.next .heartbeatRound)

/-- A round of `_heartbeat_loop` -/
def heartbeatRound : M (Flow Karo) := untilCancelled do
  let w ← Coro.read
  let idle := w.clock.steady - w.hb.lastInbound
  if w.conn.state ≠ .ready then pure .done
  else if idle < σ.opts.heartbeatInterval then
    match ← (suspend (.heartbeatWakeup (σ.opts.heartbeatInterval - idle))).attempt with
    | .ok _ => do
      Coro.modify World.clearWakeup
      pure (.next .heartbeatRound)
    | .error (.timeout _) => pure (.next .heartbeatRound)
    | .error e => Coro.raise e
  else
    match w.conn.ws with
    | none => pure .done
    | some c =>
      if (w.clients c).attached && (w.clients c).isOpen then
        pure (.next (.pingRound (σ.opts.maxMissedPings + 1).toNat))
      else pure .done

/-- The entry in `_inflight` for a heartbeat ping, which has no timer. -/
def World.registerPing (rid : Nat) (w : World) : World :=
  { w with
    rpc.inflight := w.rpc.inflight.insert rid ⟨"ping", none⟩
    hb.pingDeadlineEvt := false }

/-- The ping was not answered: it is withdrawn and counted. -/
def World.countMiss (rid : Nat) (w : World) : World :=
  { w.unregister rid with hb.missCount := w.hb.missCount + 1 }

/-- The ping was answered, or anything else came in. -/
def World.pingDone (rid : Nat) (w : World) : World :=
  { w with hb.missCount := 0 }.unregister rid

/-- A ping was not answered in time. -/
def pingMissed (me : TaskId) (rid left : Nat) : M (Flow Karo) := do
  Coro.modify (World.countMiss rid)
  let w ← Coro.read
  if (w.hb.missCount : Int) ≥ σ.opts.maxMissedPings then do
    Coro.modify (World.postLog .warn "heartbeat: declaring dead")
    onTransportClose σ me .transportFailure "heartbeat dead"
    pure (.next .heartbeatRound)
  else pure (.next (.pingRound left))

/-- `_send_and_wait_ping` once the socket is found open -/
def sendPing (me : TaskId) (c : WsId) (left : Nat) : M (Flow Karo) := do
  let rid ← nextRid
  let w ← Coro.read
  Coro.modify (World.registerPing rid)
  if ← wsSend c (encodePing rid w.clock.epochMs) then
    match ← (suspend (.pingOrInbound rid)).attempt with
    | .ok _ => do
      Coro.modify (World.pingDone rid)
      pure (.next .heartbeatRound)
    | .error (.timeout _) => pingMissed σ me rid left
    | .error e => Coro.raise e
  else do
    Coro.modify (World.unregister rid)
    onTransportClose σ me .transportFailure "heartbeat send failed"
    pure (.next .heartbeatRound)

/-- A round of `_send_and_wait_ping` with `n` rounds left -/
def pingRound (me : TaskId) : Nat → M (Flow Karo)
  | 0 => pure (.next .heartbeatRound)
  | left + 1 => untilCancelled do
    let w ← Coro.read
    match w.conn.ws with
    | none => pure (.next .heartbeatRound)
    | some c =>
      if w.conn.state = .ready ∧ (w.clients c).attached = true ∧ (w.clients c).isOpen = true then
        sendPing σ me c left
      else pure (.next .heartbeatRound)

end KaroX2
