/-
KaroX2/System.lean

The whole client: the body of every task, the event loop around them, and what
the user, the clock and the peer can do.

A suspended task may be answered in every way in which its operation can end.
A task with a request to cancel it is answered by the cancellation; only where
the code waits through `asyncio.wait_for` may the result overtake it.  The runs
of this system include those of the FIFO scheduler of `asyncio`.
-/
import KaroX2.Inbound
import KaroX2.Heartbeat
import KaroX2.Commands

namespace KaroX2

open Coop

variable (σ : Setup)

/-! ### Task bodies -/

/-- The task ends with the call. -/
def andDone (c : M Unit) : M (Flow Karo) := do
  c
  pure .done

/-- The result of a public call is what its task leaves in the history. -/
def returning (me : TaskId) (c : M ApiResult) : M (Flow Karo) := do
  let r ← c
  Coro.modify (World.push (.returned me r))
  pure .done

/-- `RobotImpl.connect`, which does not suspend -/
def World.connect (w : World) : World :=
  if w.conn.connectInvoked then w
  else { w.spawn .establishInitial with conn.connectInvoked := true }

/-- The public calls. -/
def apiBody (me : TaskId) : ApiCall → M (Flow Karo)
  | .connect => returning me do
    Coro.modify World.connect
    pure .unit
  | .close => returning me do
    close me
    pure .unit
  | .waitUntilReady timeout => do
    match ← waitRound me timeout with
    | some b => returning me (pure (.ready b))
    | none => pure (.next (.run (.api (.waitUntilReady timeout))))
  | .subscribe topic hz => returning me (.handle <$> subscribeInternal σ me topic hz)
  | .unsubscribe h => returning me (.unsubscribed <$> unsubscribe me h)
  | .cmdVel vx vy wz => returning me (.cmdVel <$> cmdVel vx vy wz)
  | .emergencyStop engage reason => returning me (.command <$> emergencyStop engage reason)
  | .createNavTaskMarker m => returning me (.createTask <$> createNavTaskMarker m)
  | .createNavTaskPose x y th => returning me (.createTask <$> createNavTaskPose x y th)
  | .cancelTask i => returning me (.command <$> cancelTask i)
  | .pauseTask i => returning me (.command <$> pauseTask i)
  | .resumeTask i => returning me (.command <$> resumeTask i)
  | .ping => returning me (.ping <$> ping)

/-- The start of a job. -/
def jobBody (me : TaskId) : Job → M (Flow Karo)
  | .establishInitial => andDone (establish σ me)
  | .reader c => readStart c
  | .heartbeat => heartbeat
  | .subWorker s => do
    if ← subWorkerRound s then pure (.next (.run (.subWorker s))) else pure .done
  | .doReconnect attempt delayMs => andDone (doReconnect σ me attempt delayMs)
  | .estopReplay => andDone (estopReplay σ me)
  | .subscribeAckTimeout rid topic => andDone (handleSubscribeAckTimeout σ me rid topic)
  | .abortToFatal code message => andDone (abortToFatal me code message)
  | .unsubscribeDropped h => andDone do
    let _ ← unsubscribeRequest me h false
    pure ()
  | .api call => apiBody σ me call

/-- The body of a task. -/
def body (me : TaskId) : Proc → M (Flow Karo)
  | .run job => jobBody σ me job
  | .readLoop c => readRound σ me c
  | .drain c s nextSeq phase ep => drainRound c s nextSeq phase ep
  | .heartbeatRound => heartbeatRound σ
  | .pingRound left => pingRound σ me left
  | .neverRun => Coro.raise .cancelled

/-! ### The event loop -/

/-- A task that was cancelled before its first step is started only to end. -/
def World.createdProc (w : World) (t : TaskId) : Option Proc :=
  match w.tasks.get? t with
  | some x => if x.status = .created then some (if x.cancelled then .neverRun else .run x.proc) else none
  | none => none

/-- The operation is waited for through `asyncio.wait_for`. -/
def Op.waitFor : Op → Bool
  | .wsConnect | .joinReader _ | .heartbeatWakeup _ | .pingOrInbound _ | .stateChanged (some _) => true
  | _ => false

/-- How an operation may end, cancellation apart. -/
def World.mayEnd (w : World) (t : TaskId) : Op → Except Exn Reply → Bool
  | .wsConnect, .ok .done => true
  | .wsConnect, .error (.sdk _ _) => false
  | .wsConnect, .error _ => true
  | .wsSend _ _, .ok .done => true
  | .wsSend _ _, .error (.connectionClosed _ _) | .wsSend _ _, .error (.other _) => true
  | .wsClose _, .ok .done | .wsClose _, .error (.other _) => true
  | .joinReader r, .ok .done => w.tasks.done r
  | .joinReader _, .error (.timeout _) => true
  | .joinCancelled r, .ok .done => w.tasks.done r
  | .recv _, .ok (.inbound _) => true
  | .recv c, .ok .eof => !(w.clients c).isOpen
  | .recv c, .error (.connectionClosed _ _) | .recv c, .error (.other _) => !(w.clients c).isOpen
  | .future rid, .ok .done => (w.rpc.futures rid).done
  | .sleep _, .ok .done => true
  | .heartbeatWakeup _, .ok .done => w.hb.heartbeatWakeup
  | .heartbeatWakeup _, .error (.timeout _) => true
  | .pingOrInbound rid, .ok .done => w.hb.pingDeadlineEvt || (w.rpc.futures rid).done
  | .pingOrInbound _, .error (.timeout _) => true
  | .stateChanged _, .ok .done => w.stateEvt.woken.contains t
  | .stateChanged (some _), .error (.timeout _) => true
  | .queueGet s, .ok .done => (w.subs.slots s).dispatchQueue.any fun q => !q.isEmpty
  | .callback _ _, .ok .done => true
  | .callback _ _, .error _ => true
  | _, _ => false

/-- The task may be answered this way. -/
def World.ready (w : World) (t : TaskId) (op : Op) : Except Exn Reply → Bool
  | .error .cancelled =>
    w.tasks.isCancelled t ||
      -- a reader that was cancelled passes its cancellation on to who joins it
      (match op with
        | .joinReader r | .joinCancelled r => w.tasks.done r
        | _ => false)
  | r => (!w.tasks.isCancelled t || op.waitFor) && w.mayEnd t op r

/-- A request to cancel is served by the reply; an event forgets its waiter. -/
def World.resume (t : TaskId) (op : Op) (r : Except Exn Reply) (w : World) : World :=
  let w := match r with
    | .error .cancelled => { w with tasks := w.tasks.served t }
    | _ => w
  match op with
  | .stateChanged _ =>
    { w with
      stateEvt.waiters := w.stateEvt.waiters.filter fun u => u ≠ t
      stateEvt.woken := w.stateEvt.woken.filter fun u => u ≠ t }
  | _ => w

/-- A task has ended.  `_on_done` aborts after a crash of the first `_establish`. -/
def World.finish (t : TaskId) (r : Except Exn Unit) (w : World) : World :=
  let w := { w with tasks := w.tasks.finish t }
  match r with
  | .ok _ | .error .cancelled => w
  | .error e =>
    let w := w.push (.raised t e)
    if w.tasks.procOf t = some .establishInitial then
      w.spawn (.abortToFatal .internalError ("establish task crashed: " ++ e.text))
    else w

/-! ### The environment -/

/-- What the user, the clock and the peer do between two tasks. -/
inductive EnvStep where
  | tick (seconds : ℚ) (epochMs : Nat)
  | peerClose (c : WsId)
  | fireTimer (rid : Nat)
  | call (a : ApiCall)
  | cancelCall (t : TaskId)
  | dropHandle (h : SlotId)
  deriving DecidableEq

/-- A timer fires: its callback runs. -/
def World.fireTimer (rid : Nat) (w : World) : Option World :=
  match w.rpc.timers.get? rid with
  | none => none
  | some (.rpcTimeout r) =>
    let w := w.cancelTimer rid
    some (if w.rpc.inflight.has r then (w.unregister r).resolve r (.exception (.timeout "")) else w)
  | some (.ackTimeout r topic) => some ((w.cancelTimer rid).spawn (.subscribeAckTimeout r topic))

/-- `_facade_finalizer_callback` -/
def World.dropHandle (h : SlotId) (w : World) : World :=
  let w := w.setSlot h fun x => { x with userClosed := true, finalizer := false }
  if (w.subs.slots h).state = .closed ∨ w.conn.connectInvoked = false then w
  else w.spawn (.unsubscribeDropped h)

/-- The user holds the handle `h`. -/
def World.holds (w : World) (h : SlotId) : Bool :=
  (w.subs.slots h).finalizer || (w.subs.slots h).userClosed

def World.env : EnvStep → World → Option World
  | .tick seconds epochMs, w =>
    if 0 ≤ seconds then
      some { w with clock := ⟨w.clock.steady + seconds, epochMs⟩ }
    else none
  | .peerClose c, w =>
    if c < w.clientCount ∧ (w.clients c).isOpen = true then
      some (w.setClient c fun k => { k with isOpen := false })
    else none
  | .fireTimer rid, w => w.fireTimer rid
  | .call (.unsubscribe h), w => if w.holds h then some (w.spawn (.api (.unsubscribe h))) else none
  | .call a, w => some (w.spawn (.api a))
  | .cancelCall t, w =>
    match w.tasks.procOf t with
    | some (.api _) => some { w with tasks := w.tasks.cancel t }
    | _ => none
  | .dropHandle h, w => if (w.subs.slots h).finalizer then some (w.dropHandle h) else none

/-- The client as a system of tasks. -/
def robot : Sys Karo where
  Env := EnvStep
  body := body σ
  created := World.createdProc
  start := fun t w => { w with tasks := w.tasks.begin t }
  ready := World.ready
  resume := World.resume
  finish := World.finish
  env := World.env

/-- The default options and a one-byte access token. -/
def Setup.plain : Setup where
  opts := { accessToken := [0x6b] }
  valid := by decide +kernel
  random := fun _ => 0
  random_mem := fun _ => ⟨le_rfl, one_pos⟩
  pemToDer := .error "no certificate"
  sslContext := .ok ()

/-- The same, with callbacks in the reader task. -/
def Setup.inlined : Setup where
  opts := { accessToken := [0x6b], callbackMode := .inline }
  valid := by decide +kernel
  random := Setup.plain.random
  random_mem := Setup.plain.random_mem
  pemToDer := Setup.plain.pemToDer
  sslContext := Setup.plain.sslContext

/-- A new `RobotImpl`. -/
def initial (clock : Clock) : Config Karo := ⟨.init clock, [], none⟩

end KaroX2
