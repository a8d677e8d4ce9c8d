/-
KaroX2/Commands.lean

The calls that send a request and report its outcome by value: velocity,
emergency stop, navigation tasks, ping; and `wait_until_ready`.

They share a shape: refuse outside `READY`, send, and translate the response or
the exception.  `requireOk` is the translation of a response that several of
them repeat: the response has to be a success, to carry an rpc payload, and the
rpc code has to be OK.
-/
import KaroX2.Transport

namespace KaroX2

open Coop

variable (σ : Setup)

/-! ### Statistics -/

def RpcStat.counted (s : RpcStat) : RpcStat := { s with count := s.count + 1 }

def RpcStat.failed (s : RpcStat) : RpcStat := { s with errorCount := s.errorCount + 1 }

def World.cmdVelStat (f : RpcStat → RpcStat) (w : World) : World :=
  { w with stats.cmdVel := f w.stats.cmdVel }

def World.emergencyStopStat (f : RpcStat → RpcStat) (w : World) : World :=
  { w with stats.emergencyStop := f w.stats.emergencyStop }

def World.pingStat (f : RpcStat → RpcStat) (w : World) : World :=
  { w with stats.ping := f w.stats.ping }

/-- The code and the message with which a response fails, if it does. -/
def DecodedResponse.requireOk (resp : DecodedResponse) : Option (ErrorCode × String) :=
  if resp.success = false then some (resp.sdkCode, resp.message)
  else if resp.hasRpc = false then some (.internalError, "missing rpc payload in response")
  else if resp.rpcCode ≠ .ok then some (resp.rpcCode, resp.rpcMessage)
  else none

/-! ### Velocity -/

/-- `self._cmdvel_rate.try_acquire()` -/
def World.acquire (w : World) : Bool × World :=
  let (ok, bucket) := World.tryAcquire w.clock.steady w.stats.cmdvelRate
  (ok, { w with stats.cmdvelRate := bucket })

/-- `self._cmdvel_seq += 1` -/
def World.nextSeq (w : World) : Nat × World :=
  (w.stats.cmdvelSeq + 1, { w with stats.cmdvelSeq := w.stats.cmdvelSeq + 1 })

/-- `cmd_vel` with a response -/
def cmdVelAnswered (t0 : ℚ) (resp : DecodedResponse) : M CmdVelResult := do
  let w ← Coro.read
  let rttMs := ((w.clock.steady - t0) * 1000).floor
  match resp.requireOk with
  | some (code, message) => do
    Coro.modify (World.cmdVelStat RpcStat.failed)
    pure ⟨false, code, message, rttMs⟩
  | none => pure ⟨true, .ok, "", rttMs⟩

/-- A failed `cmd_vel` -/
def cmdVelFailed (code : ErrorCode) (message : String) : M CmdVelResult := do
  Coro.modify (World.cmdVelStat RpcStat.failed)
  pure ⟨false, code, message, 0⟩

/-- `cmd_vel` -/
def cmdVel (vx vy wz : PyFloat) : M CmdVelResult := Coro.call .cmdVel do
  let w ← Coro.read
  if w.conn.state ≠ .ready then cmdVelFailed .disconnected "Robot is not Ready"
  else do
    let granted ← Coro.update World.acquire
    if granted = false then cmdVelFailed .rateLimited "client-side rate limit (20 Hz)"
    else do
      Coro.modify (World.cmdVelStat RpcStat.counted)
      let rid ← nextRid
      let seq ← Coro.update World.nextSeq
      let w ← Coro.read
      match ← (sendRpcAndWait rid "control.cmd_vel"
          (encodeCmdVel rid vx vy wz seq w.clock.epochMs)).attempt with
      | .ok resp => cmdVelAnswered w.clock.steady resp
      | .error (.timeout _) => cmdVelFailed .timeout "cmd_vel timeout"
      | .error (.sdk code msg) => cmdVelFailed code (Exn.sdk code msg).text
      | .error e => Coro.raise e

/-! ### Emergency stop -/

/-- A failed `emergency_stop` -/
def emergencyStopFailed (code : ErrorCode) (message : String) : M CommandResult := do
  Coro.modify (World.emergencyStopStat RpcStat.failed)
  pure ⟨false, code, message⟩

/-- `self._last_estop_intent = …; self._last_estop_reason = reason` -/
def World.recordIntent (engage : Bool) (reason : PyStr) (w : World) : World :=
  { w with estop := ⟨engage, reason⟩ }

/-- `emergency_stop_rpc` with a response: only a full success records the intent,
as the last update. -/
def emergencyStopAnswered (engage : Bool) (reason : PyStr) (resp : DecodedResponse) :
    M (CommandResult × (World → World)) :=
  match resp.requireOk with
  | some (code, message) => do
    let r ← emergencyStopFailed code message
    pure (r, id)
  | none => pure (⟨true, .ok, ""⟩, World.recordIntent engage reason)

/-- `emergency_stop_rpc` -/
def emergencyStop (engage : Bool) (reason : PyStr) : M CommandResult :=
  Coro.scope (.emergencyStop engage) id do
    let w ← Coro.read
    if w.conn.state ≠ .ready then pure (⟨false, .disconnected, "Robot is not Ready"⟩, id)
    else do
      Coro.modify (World.emergencyStopStat RpcStat.counted)
      let rid ← nextRid
      match encodeEmergencyStop rid engage reason with
      | .error e => Coro.raise e
      | .ok cmd =>
        match ← (sendRpcAndWait rid "safety.emergency_stop" cmd).attempt with
        | .ok resp => emergencyStopAnswered engage reason resp
        | .error (.timeout _) => do
          let r ← emergencyStopFailed .timeout "estop timeout"
          pure (r, id)
        | .error (.sdk code msg) => do
          let r ← emergencyStopFailed code (Exn.sdk code msg).text
          pure (r, id)
        | .error e => Coro.raise e

/-! ### Tasks of the robot -/

/-- `_await_create_task` with a response -/
def createTaskAnswered (resp : DecodedResponse) : CreateTaskResult :=
  match resp.requireOk with
  | some (code, message) => ⟨false, code, message, ""⟩
  | none =>
    match resp.taskId with
    | some taskId =>
      if taskId = "" then ⟨false, .internalError, "malformed CreateNavigationTask response", ""⟩
      else ⟨true, .ok, "", taskId⟩
    | none => ⟨false, .internalError, "malformed CreateNavigationTask response", ""⟩

/-- The two `create_navigation_task_to_…` calls; `encode` is applied to the
new request id. -/
def createNavTask (encode : Nat → Except Exn SdkCommand) : M CreateTaskResult := do
  let w ← Coro.read
  if w.conn.state ≠ .ready then pure ⟨false, .disconnected, "Robot is not Ready", ""⟩
  else do
    let rid ← nextRid
    match encode rid with
    | .error e => Coro.raise e
    | .ok cmd =>
      match ← (sendRpcAndWait rid "move.create_task" cmd).attempt with
      | .ok resp => pure (createTaskAnswered resp)
      | .error (.timeout _) => pure ⟨false, .timeout, "move.create_task timeout", ""⟩
      | .error (.sdk code msg) => pure ⟨false, code, (Exn.sdk code msg).text, ""⟩
      | .error e => Coro.raise e

/-- `create_navigation_task_to_marker` -/
def createNavTaskMarker (markerId : PyStr) : M CreateTaskResult :=
  createNavTask fun rid => encodeCreateNavTaskMarker rid markerId

/-- `create_navigation_task_to_pose` -/
def createNavTaskPose (x y theta : PyFloat) : M CreateTaskResult :=
  createNavTask fun rid => encodeCreateNavTaskPose rid x y theta

/-- `_task_command` with a response -/
def taskCommandAnswered (resp : DecodedResponse) : CommandResult :=
  match resp.requireOk with
  | some (code, message) => ⟨false, code, message⟩
  | none => ⟨true, .ok, ""⟩

/-- `_task_command` -/
def taskCommand (method : String) (encoder : Nat → PyStr → Except Exn SdkCommand)
    (taskId : PyStr) : M CommandResult := do
  let w ← Coro.read
  if w.conn.state ≠ .ready then pure ⟨false, .disconnected, "Robot is not Ready"⟩
  else do
    let rid ← nextRid
    match encoder rid taskId with
    | .error e => Coro.raise e
    | .ok cmd =>
      match ← (sendRpcAndWait rid method cmd).attempt with
      | .ok resp => pure (taskCommandAnswered resp)
      | .error (.timeout _) => pure ⟨false, .timeout, method ++ " timeout"⟩
      | .error (.sdk code msg) => pure ⟨false, code, (Exn.sdk code msg).text⟩
      | .error e => Coro.raise e

/-- `cancel_task` -/
def cancelTask (taskId : PyStr) : M CommandResult :=
  taskCommand "task_actions.cancel_task" encodeCancelTask taskId

/-- `pause_task` -/
def pauseTask (taskId : PyStr) : M CommandResult :=
  taskCommand "task_actions.pause_task" encodePauseTask taskId

/-- `resume_task` -/
def resumeTask (taskId : PyStr) : M CommandResult :=
  taskCommand "task_actions.resume_task" encodeResumeTask taskId

/-! ### Ping -/

/-- `ping` -/
def ping : M ℚ := Coro.call .ping do
  let w ← Coro.read
  if w.conn.state ≠ .ready then pure (-1)
  else do
    Coro.modify (World.pingStat RpcStat.counted)
    let rid ← nextRid
    let w ← Coro.read
    match ← (sendRpcAndWait rid "ping" (encodePing rid w.clock.epochMs)).attempt with
    | .ok _ => do
      let w' ← Coro.read
      pure (w'.clock.steady - w.clock.steady)
    | .error (.timeout _) | .error (.sdk _ _) => do
      Coro.modify (World.pingStat RpcStat.failed)
      pure (-1)
    | .error e => Coro.raise e

/-! ### Waiting for the connection -/

/-- A round of the loop of `wait_until_ready`: the result, or one more round. -/
def waitRound (me : TaskId) (timeout : Option ℚ) : M (Option Bool) := do
  Coro.modify fun w => { w with stateEvt.flag := false }
  let w ← Coro.read
  if w.conn.state = .ready then pure (some true)
  else if w.conn.state.terminal then pure (some false)
  else do
    Coro.modify fun w => { w with stateEvt.waiters := w.stateEvt.waiters ++ [me] }
    let _ ← suspend (.stateChanged timeout)
    pure none

end KaroX2
