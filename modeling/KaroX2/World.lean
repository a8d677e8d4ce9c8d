/-
KaroX2/World.lean

The state of a `RobotImpl` with everything it shares with the event loop, and
the code of the model as data: the bodies of its tasks, what they can be
suspended on, and the labels of their calls.

The attributes of `RobotImpl` are grouped by the part of the code that owns
them; the objects it points to (`SubSlot`, `WsClient`, futures) live in heaps
indexed by numbers.  `log` is a history variable: what happened, newest first.
No branch of the code reads it; the statements about runs do.  Status and state
handlers of the user run in tasks of their own and touch nothing, so they are
log entries here.
-/
import KaroX2.Slot
import KaroX2.Coop.Loop
import KaroX2.Coop.Tasks
import KaroX2.Py.Dict

namespace KaroX2

open Coop Py

/-! ### Connection states -/

/-- `ConnectionState` -/
inductive ConnectionState where
  | idle | connecting | ready | transientFailure | reconnecting | shutdown | fatal
  deriving DecidableEq, Repr

/-- `SHUTDOWN` and `FATAL`. -/
def ConnectionState.terminal : ConnectionState → Bool
  | .shutdown | .fatal => true
  | _ => false

/-- `StateChangeInfo` -/
structure StateChangeInfo where
  reason : String := ""
  lastErrorCode : ErrorCode := .ok
  lastErrorMessage : String := ""
  nextRetryInMs : Nat := 0
  reconnectAttempt : Nat := 0
  lastAction : String := ""
  deriving DecidableEq, Repr

/-! ### The code as data -/

/-- `WsClient`s are numbered in the order in which their connections opened. -/
abbrev WsId := Nat

/-- The public calls of `Robot` and `Subscription`. -/
inductive ApiCall where
  | connect
  | close
  | waitUntilReady (timeout : Option ℚ)
  | subscribe (topic : String) (desiredHz : PyFloat)
  | unsubscribe (handle : SlotId)
  | cmdVel (vx vy wz : PyFloat)
  | emergencyStop (engage : Bool) (reason : PyStr)
  | createNavTaskMarker (markerId : PyStr)
  | createNavTaskPose (x y theta : PyFloat)
  | cancelTask (taskId : PyStr)
  | pauseTask (taskId : PyStr)
  | resumeTask (taskId : PyStr)
  | ping
  deriving DecidableEq, Repr

/-- `subscribe_robot_status` -/
def ApiCall.subscribeRobotStatus (desiredHz : PyFloat) : ApiCall := .subscribe "robot.state" desiredHz

/-- `subscribe_task_events` -/
def ApiCall.subscribeTaskEvents : ApiCall := .subscribe "tasks.events" ⟨0⟩

/-- `subscribe_safety_events` -/
def ApiCall.subscribeSafetyEvents : ApiCall := .subscribe "robot.safety" ⟨0⟩

/-- What a task is created for. -/
inductive Job where
  | establishInitial
  | reader (c : WsId)
  | heartbeat
  | subWorker (slot : SlotId)
  | doReconnect (attempt delayMs : Nat)
  | estopReplay
  | subscribeAckTimeout (rid : Nat) (topic : String)
  | abortToFatal (code : ErrorCode) (message : String)
  | unsubscribeDropped (handle : SlotId)
  | api (call : ApiCall)
  deriving DecidableEq, Repr

/-- Task bodies: the start of a job, and one constructor for each of its loops
that is entered later.  The `epoch` of a drain loop is an annotation: how many
sessions had ended when the acknowledgement arrived. -/
inductive Proc where
  | run (job : Job)
  | readLoop (c : WsId)
  | drain (c : WsId) (slot : SlotId) (nextSeq : Nat) (phase : Bool) (epoch : Nat)
  | heartbeatRound
  | pingRound (left : Nat)
  /-- a task that was cancelled before its first step -/
  | neverRun
  deriving DecidableEq, Repr

/-- What a task can be suspended on. -/
inductive Op where
  | wsConnect
  | wsSend (c : WsId) (cmd : SdkCommand)
  | wsClose (c : WsId)
  | joinReader (reader : TaskId)
  | joinCancelled (reader : TaskId)
  | recv (c : WsId)
  | future (rid : Nat)
  | sleep (delayMs : Nat)
  | heartbeatWakeup (timeout : ℚ)
  | pingOrInbound (rid : Nat)
  | stateChanged (timeout : Option ℚ)
  | queueGet (slot : SlotId)
  | callback (slot : SlotId) (push : DecodedTopicPush)
  deriving DecidableEq

/-- What a suspended task is answered.  Results of futures and items of queues
are read from the world after the task has been resumed. -/
inductive Reply where
  | done
  | inbound (m : Inbound)
  /-- the `async for` over the socket ended -/
  | eof
  deriving DecidableEq, Repr

/-- Calls and regions of code that an observer can tell apart.  The numbers
named `epoch` say how many sessions had ended when the call began. -/
inductive Label where
  /-- `_do_reconnect` before it moves the state -/
  | backoff
  /-- `_establish` up to the assignment of `self._ws` -/
  | establish (isReconnect : Bool) (epoch : Nat)
  /-- `_establish` from there to the handshake response -/
  | handshaking (isReconnect : Bool) (epoch : Nat) (c : WsId)
  /-- `_establish` after the handshake response, and the slots that its loop has
  not yet done with -/
  | restoring (isReconnect : Bool) (epoch : Nat) (c : WsId) (rest : List SlotId)
  /-- `_send_rpc_and_wait`, and `self._ws` when it was called -/
  | sendRpcAndWait (rid : Nat) (ws : Option WsId)
  | sendSubscribe (slot : SlotId)
  /-- `_send_subscribe` after a failed encoding -/
  | unsendable (slot : SlotId)
  /-- `_send_subscribe` from the entry in `_inflight_sub` to the end of the send -/
  | subscribing (slot : SlotId) (rid : Nat)
  | onTransportClose
  | closeClient (c : WsId)
  | abortToFatal
  | close
  | handleSubscribeAck (slot : SlotId) (phase : Bool) (epoch : Nat)
  | estopReplay (epoch : Nat)
  | emergencyStop (engage : Bool)
  | cmdVel
  | ping
  | unsubscribeRequest (handle : SlotId) (syncWait : Bool)
  /-- `unsubscribe_request` for the slot that is registered under the topic -/
  | unsubscribing (topic : String) (slot : SlotId)
  | subscribe (slot : SlotId)
  | heartbeat
  deriving DecidableEq, Repr

/-! ### Results of calls -/

/-- `CmdVelResult` -/
structure CmdVelResult where
  accepted : Bool := false
  code : ErrorCode := .ok
  message : String := ""
  rttMs : Int := 0
  deriving DecidableEq

/-- `EmergencyStopResult` and `TaskCommandResult` -/
structure CommandResult where
  ok : Bool := false
  code : ErrorCode := .ok
  message : String := ""
  deriving DecidableEq

/-- `CreateTaskResult` -/
structure CreateTaskResult where
  accepted : Bool := false
  code : ErrorCode := .ok
  message : String := ""
  taskId : String := ""
  deriving DecidableEq

inductive ApiResult where
  | unit
  | ready (b : Bool)
  | handle (h : SlotId)
  | unsubscribed (code : ErrorCode)
  | cmdVel (r : CmdVelResult)
  | command (r : CommandResult)
  | createTask (r : CreateTaskResult)
  | ping (rtt : ℚ)
  deriving DecidableEq

/-! ### History -/

/-- `LogLevel`, the levels in use -/
inductive LogLevel where
  | debug | info | warn
  deriving DecidableEq, Repr

/-- How the stream of inbound messages ended. -/
inductive StreamEnd where
  | normal
  | closed (code : Nat)
  | failed
  deriving DecidableEq, Repr

/-- Log entries. -/
inductive Obs where
  | posted (level : LogLevel) (msg : String)
  | transition (old new : ConnectionState) (info : StateChangeInfo)
  /-- `self._ws = ws` -/
  | installed (c : WsId)
  /-- a handshake response was accepted, with the estop intent at that time -/
  | handshake (c : WsId) (isReconnect engaged : Bool)
  /-- `_on_transport_close` passed its guard -/
  | transportClose (reason : ErrorCode) (msg : String)
  /-- the reader's stream ended -/
  | streamEnded (c : WsId) (how : StreamEnd)
  /-- `_fire_close` invoked `on_close` -/
  | onClose (c : WsId)
  | reconnectScheduled (attempt delayMs : Nat)
  /-- `ws.send` returned `True` -/
  | sent (c : WsId) (cmd : SdkCommand)
  /-- a call took the response to its request -/
  | answered (c : WsId) (cmd : SdkCommand) (resp : DecodedResponse)
  /-- the acknowledgement that the slot waited for has arrived -/
  | acknowledged (slot : SlotId) (resp : DecodedResponse)
  | status (slot : SlotId) (s : StreamStatus)
  /-- a push passed the sequence check -/
  | accepted (slot : SlotId) (push : DecodedTopicPush)
  /-- a push was handed to the frame dispatcher -/
  | delivered (slot : SlotId) (push : DecodedTopicPush)
  | returned (t : TaskId) (r : ApiResult)
  | raised (t : TaskId) (e : Exn)
  deriving DecidableEq

/-- The entry says that the session, if there was one, is over. -/
def Obs.endsSession : Obs → Bool
  | .transportClose _ _ => true
  | .transition _ new _ => new = .transientFailure || new.terminal
  | _ => false

/-- How many times a session was declared over. -/
def epoch (log : List Obs) : Nat := log.countP Obs.endsSession

/-- How far the connection has come since a session was last declared over. -/
inductive Phase where
  | down
  | dialing
  | up (c : WsId)
  | live (c : WsId)
  deriving DecidableEq, Repr

/-- The phase of the connection: an attempt begins with the transition to
`CONNECTING` or `RECONNECTING`, installs a client, and makes a session live with
the handshake response. -/
def phase : List Obs → Phase
  | [] => .down
  | .installed c :: _ => .up c
  | .handshake c _ _ :: _ => .live c
  | .transition _ new _ :: log =>
    if new = .connecting ∨ new = .reconnecting then .dialing
    else if new = .ready then phase log
    else .down
  | .transportClose _ _ :: _ => .down
  | _ :: log => phase log

/-- The client of the phase. -/
def Phase.client : Phase → Option WsId
  | .up c | .live c => some c
  | _ => none

/-- The client of the live session. -/
def Phase.session : Phase → Option WsId
  | .live c => some c
  | _ => none

/-! ### State -/

/-- `RobotInfo`, the fields that the SDK reads -/
structure RobotInfo where
  sn : String
  model : String
  protocolVersion : String
  availableTopics : List TopicDescriptor
  deriving DecidableEq, Repr

/-- The connection. -/
structure Conn where
  state : ConnectionState := .idle
  ws : Option WsId := none
  robotInfo : Option RobotInfo := none
  connectInvoked : Bool := false
  heartbeatTask : Option TaskId := none
  reconnectAttempt : Nat := 0
  reconnectTotalCount : Nat := 0
  reconnectTask : Option TaskId := none
  reconnectSubsPending : Nat := 0
  reconnectEstopPending : Bool := false

/-- The emergency stop that the user last asked for. -/
structure Estop where
  /-- `_last_estop_intent == "engaged"` -/
  engaged : Bool := false
  reason : PyStr := ⟨[]⟩

/-- The subscriptions. -/
structure Subs where
  subs : Dict String SlotId := .empty
  slots : SlotId → SubSlot
  slotCount : Nat := 0
  inflightSub : Dict Nat String := .empty
  /-- `_sub_ack_timers`; a timer is named by the request it is for -/
  subAckTimers : Dict Nat Nat := .empty

/-- An `asyncio.Future[DecodedResponse]`. -/
inductive Fut where
  | pending
  | result (resp : DecodedResponse)
  | exception (e : Exn)
  deriving DecidableEq, Repr

def Fut.done : Fut → Bool
  | .pending => false
  | _ => true

/-- `_InflightRpc`; its future is the one of its request id -/
structure InflightRpc where
  method : String
  timeoutHandle : Option Nat
  deriving DecidableEq, Repr

/-- The callback of a timer of the event loop. -/
inductive Timer where
  | rpcTimeout (rid : Nat)
  | ackTimeout (rid : Nat) (topic : String)
  deriving DecidableEq, Repr

/-- Requests and their responses. -/
structure Rpc where
  nextRequestId : Nat := 1
  inflight : Dict Nat InflightRpc := .empty
  futures : Nat → Fut := fun _ => .pending
  timers : Dict Nat Timer := .empty

/-- An entry of `_rpc_stats` -/
structure RpcStat where
  count : Nat := 0
  errorCount : Nat := 0
  deriving DecidableEq, Repr

/-- `_TokenBucket` -/
structure TokenBucket where
  maxHz : ℚ
  burst : ℚ
  tokens : ℚ
  last : ℚ

/-- Statistics and the rate limit. -/
structure Stats where
  cmdVel : RpcStat := {}
  emergencyStop : RpcStat := {}
  ping : RpcStat := {}
  cmdvelRate : TokenBucket
  cmdvelSeq : Nat := 0

/-- The heartbeat. -/
structure Heartbeat where
  lastInbound : ℚ
  missCount : Nat := 0
  /-- `_ping_deadline_evt.is_set()` -/
  pingDeadlineEvt : Bool := false
  /-- `_heartbeat_wakeup.is_set()` -/
  heartbeatWakeup : Bool := false

/-- A `WsClient` whose connection has been opened. -/
structure WsClient where
  /-- `_ws is not None` -/
  attached : Bool := true
  /-- the socket is neither closing nor closed -/
  isOpen : Bool := true
  readTask : Option TaskId := none
  closed : Bool := false
  /-- `on_message` and `on_close` are set -/
  handlers : Bool := false

/-- An `asyncio.Event` with its waiters. -/
structure Event where
  flag : Bool := false
  waiters : List TaskId := []
  woken : List TaskId := []
  deriving DecidableEq, Repr

/-- `evt.set()` -/
def Event.set (e : Event) : Event :=
  if e.flag then e else ⟨true, [], e.waiters ++ e.woken⟩

/-- The time, as `time.monotonic()` and `int(time.time() * 1000)`. -/
structure Clock where
  steady : ℚ
  epochMs : Nat

structure World where
  conn : Conn := {}
  estop : Estop := {}
  subs : Subs
  rpc : Rpc := {}
  stats : Stats
  hb : Heartbeat
  clients : WsId → WsClient := fun _ => {}
  clientCount : Nat := 0
  tasks : Tasks Job := .empty
  stateEvt : Event := {}
  clock : Clock
  /-- how many random numbers have been drawn -/
  draws : Nat := 0
  log : List Obs := []

/-- The coroutine language of the SDK. -/
abbrev Karo : Sig := ⟨World, Op, Reply, Exn, Label, Proc⟩

/-- Coroutines of the SDK. -/
abbrev M := Coro Karo

/-- `await` -/
abbrev suspend (op : Op) : M Reply := Coro.wait (S := Karo) op

/-- A slot before it is created. -/
def SubSlot.blank : SubSlot where
  topic := ""
  desiredHz := ⟨0⟩
  semantics := .telemetry
  callbackMode := .dispatched
  dropPolicy := .dropOldest
  queueSize := 1

/-- `RobotImpl.__init__` -/
def World.init (clock : Clock) : World where
  subs := { slots := fun _ => .blank }
  stats := { cmdvelRate := ⟨20, 1, 1, clock.steady⟩ }
  hb := { lastInbound := clock.steady }
  clock := clock

end KaroX2
