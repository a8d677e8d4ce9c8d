/-
KaroX2/Transport.lean

`WsClient.send`, `WsClient.close` and `RobotImpl._send_rpc_and_wait`.

The websocket library is what a task is suspended on: a send, a close and the
end of the reader may be answered in any order, successfully or by an
exception.  Wherever the library may suspend the task, the model does.
-/
import KaroX2.State

namespace KaroX2

open Coop

/-! ### Exceptions -/

/-- `try: … except Exception: pass`; a cancellation is not an `Exception`. -/
def swallow (c : M Unit) : M Unit := do
  match ← c.attempt with
  | .error .cancelled => Coro.raise .cancelled
  | _ => pure ()

/-! ### `WsClient` -/

/-- `WsClient.send` -/
def wsSend (c : WsId) (cmd : SdkCommand) : M Bool := do
  let w ← Coro.read
  if (w.clients c).attached && (w.clients c).isOpen then
    match ← (suspend (.wsSend c cmd)).attempt with
    | .ok _ => do
      Coro.modify (World.push (.sent c cmd))
      pure true
    | .error .cancelled => Coro.raise .cancelled
    | .error _ => pure false
  else
    pure false

/-- `self._ws.close()` has begun -/
def World.shutSocket (c : WsId) : World → World :=
  World.setClient c fun k => { k with isOpen := false }

/-- `self._read_task = None; self._ws = None` -/
def World.detach (c : WsId) : World → World :=
  World.setClient c fun k => { k with readTask := none, attached := false }

/-- `self._read_task.cancel()` -/
def World.cancelReader (reader : TaskId) (w : World) : World :=
  { w with tasks := w.tasks.cancel reader }

/-- The end of `WsClient.close`: wait for the reader, unless it is the caller. -/
def joinReader (me : TaskId) (c : WsId) : M Unit := do
  let w ← Coro.read
  match (w.clients c).readTask with
  | none => Coro.modify (World.detach c)
  | some reader =>
    if reader = me then Coro.modify (World.detach c)
    else
      match ← (suspend (.joinReader reader)).attempt with
      | .ok _ => Coro.modify (World.detach c)
      | .error _ => do
        let w ← Coro.read
        match (w.clients c).readTask with
        | none => Coro.raise (.other "'NoneType' object has no attribute 'cancel'")
        | some reader => do
          Coro.modify (World.cancelReader reader)
          -- `except (CancelledError, Exception): pass`
          let _ ← (suspend (.joinCancelled reader)).attempt
          Coro.modify (World.detach c)

/-- `WsClient.close` -/
def closeClient (me : TaskId) (c : WsId) : M Unit := do
  let w ← Coro.read
  Coro.when (w.clients c).attached do
    Coro.when (w.clients c).isOpen do
      Coro.modify (World.shutSocket c)
      swallow do
        let _ ← suspend (.wsClose c)
        pure ()
    joinReader me c

/-- `self._ws = None` -/
def World.clearWs (w : World) : World := { w with conn.ws := none }

/-- `if self._ws is not None: await self._ws.close(); self._ws = None`, and what
the caller does right after it. -/
def closeWs (me : TaskId) (last : World → World) : M Unit := do
  let w ← Coro.read
  match w.conn.ws with
  | none => Coro.modify last
  | some c => Coro.scope (.closeClient c) id do
    closeClient me c
    pure ((), last ∘ World.clearWs)

/-! ### Requests -/

/-- `_next_rid` -/
def nextRid : M Nat := Coro.update fun w => (w.rpc.nextRequestId, w.bumpRid)

/-- The entry in `_inflight` and its timer. -/
def World.register (rid : Nat) (method : String) (w : World) : World :=
  { w.callLater rid (.rpcTimeout rid) with
    rpc.inflight := w.rpc.inflight.insert rid ⟨method, some rid⟩ }

def World.unregister (rid : Nat) (w : World) : World :=
  { w with rpc.inflight := w.rpc.inflight.erase rid }

/-- The entry in `_inflight` and its timer go. -/
def World.withdraw (rid : Nat) (w : World) : World := (w.unregister rid).cancelTimer rid

/-- `await fut`.  Cancelling the task cancels the future that it waits for. -/
def awaitResponse (c : WsId) (rid : Nat) (cmd : SdkCommand) : M DecodedResponse := do
  match ← (suspend (.future rid)).attempt with
  | .error e => do
    Coro.modify (World.resolve rid (.exception .cancelled))
    Coro.raise e
  | .ok _ => do
    let w ← Coro.read
    match w.rpc.futures rid with
    | .result resp => do
      Coro.modify (World.push (.answered c cmd resp))
      pure resp
    | .exception e => Coro.raise e
    | .pending => Coro.raise (.other "invalid state")

/-- `_send_rpc_and_wait` -/
def sendRpcAndWait (rid : Nat) (method : String) (cmd : SdkCommand) : M DecodedResponse := do
  let w ← Coro.read
  Coro.call (.sendRpcAndWait rid w.conn.ws) do
    match w.conn.ws with
    | none => Coro.raise (.sdk .transportFailure "ws not open")
    | some c => do
      Coro.modify (World.register rid method)
      if ← wsSend c cmd then
        awaitResponse c rid cmd
      else do
        Coro.modify (World.withdraw rid)
        Coro.raise (.sdk .transportFailure "ws send failed")

end KaroX2
