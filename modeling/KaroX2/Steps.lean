/-
KaroX2/Steps.lean

What the tasks of the client do, step by step: its outline.

The relations of this file say which updates a task makes at which place of its
code, in which circumstances it makes them, and how its call stack changes.  A
circumstance is what the code has established by then without a suspension in
between: the state it has tested, the reply it was given and where it waited for
it, the response it took from a future.

* `Move`     updates within a call
* `Enters`   calls that are begun
* `Leaves`   calls that are ended
* `Becomes`  regions of `_establish` that follow each other
* `Waits`    suspensions
* `Ends`     ends of tasks

That the code does follow the outline is proved in the modules of `Walk`; the statements
about runs are proved from the outline alone.
-/
import KaroX2.Updates
import KaroX2.Coop.Outline

namespace KaroX2

open Coop Py

/-! ### What is known of a running task -/

namespace Coop.Running

/-- The task was answered `r` where it waited for `op` under `p`, and has begun
no call since. -/
def Got (x : Running Karo) (p : List Label) (op : Op) (r : Except Exn Reply) : Prop :=
  x.since = .answered ⟨x.task, p, op⟩ r

/-- The task has just taken the response to the request `rid`, which it had sent
to `c` from its present call. -/
structure Took (x : Running Karo) (w : World) (rid : Nat) (c : WsId) (cmd : SdkCommand)
    (resp : DecodedResponse) : Prop where
  got : ∃ rep, Got x (x.path ++ [.sendRpcAndWait rid (some c)]) (.future rid) (.ok rep)
  future : w.rpc.futures rid = .result resp
  log : ∃ l, w.log = .answered c cmd resp :: l

/-- The request `rid` of the present call has failed with this exception after a
suspension. -/
inductive Lost (x : Running Karo) (w : World) (rid : Nat) : Exn → Prop
  | future (c : WsId) (rep : Reply) (e : Exn)
      (h : Got x (x.path ++ [.sendRpcAndWait rid (some c)]) (.future rid) (.ok rep))
      (hf : w.rpc.futures rid = .exception e) : Lost x w rid e
  | send (c : WsId) (cmd : SdkCommand) (e : Exn)
      (h : Got x (x.path ++ [.sendRpcAndWait rid (some c)]) (.wsSend c cmd) (.error e))
      (he : e ≠ .cancelled) : Lost x w rid (.sdk .transportFailure "ws send failed")

/-- The running task drains the buffer of the slot: it has just activated the slot,
or it goes on after a callback. -/
def Drains (x : Running Karo) (w : World) (s : SlotId) : Prop :=
  (x.since = .called ∧ (w.subs.slots s).state = .active) ∨
    ∃ push r, Got x x.path (.callback s push) r ∧ r ≠ .error .cancelled

end Coop.Running

/-! ### What a reply leads to -/

/-- An exception of `websockets.connect` after which `_establish` retries. -/
def Exn.connectRetry : Exn → Bool
  | .timeout _ | .invalidHandshake _ | .os _ => true
  | _ => false

/-- An exception of its request after which the handshake is retried. -/
def Exn.handshakeRetry : Exn → Bool
  | .timeout _ => true
  | .sdk code _ => classify code ≠ .fatal
  | _ => false

/-- With this reply the closing of a client goes on to its end. -/
def Op.closes : Op → Except Exn Reply → Bool
  | .wsClose _, r => r ≠ .error .cancelled
  | .joinReader _, .ok _ | .joinCancelled _, _ => true
  | _, _ => false

/-- The caller of `_send_rpc_and_wait` gets a response, or an exception that it
handles. -/
def Exn.settles : Exn → Bool
  | .timeout _ | .sdk _ _ => true
  | _ => false

/-- The same for the future of the request. -/
def Fut.settles : Fut → Bool
  | .result _ => true
  | .exception e => e.settles
  | .pending => false

/-- After this answer `unsubscribe_request` closes the slot that it had looked up. -/
def Unsubscribes (w : World) (s : Site Karo) (r : Except Exn Reply) : Prop :=
  match s.op, r with
  | .wsSend _ _, .ok _ => ∃ h topic slot, s.path = [.unsubscribeRequest h false, .unsubscribing topic slot]
  | .wsSend _ _, .error e => e ≠ .cancelled
  | .future rid, .ok _ => (w.rpc.futures rid).settles = true
  | _, _ => False

/-- There is no client to send with. -/
def World.Unconnected (w : World) : Prop :=
  ∀ c, w.conn.ws = some c → ((w.clients c).attached && (w.clients c).isOpen) = false

/-! ### Updates within a call -/

/-- Where `_send_subscribe` is called from. -/
inductive Subscribes (w : World) (s : SlotId) : List Label → Prop
  | restoring (isR : Bool) (ep : Nat) (c : WsId) (rest : List SlotId) :
      Subscribes w s [.restoring isR ep c (s :: rest)]
  | retrying (phase : Bool) (ep : Nat) (hep : ep = epoch w.log)
      (hs : phase = true ↔ w.conn.state = .reconnecting)
      (hr : ∃ topic, w.subs.subs.get? topic = some s) :
      Subscribes w s [.handleSubscribeAck s phase ep]
  | subscribing (hs : w.conn.state = .ready) (hr : ∃ topic, w.subs.subs.get? topic = some s) :
      Subscribes w s [.subscribe s]

/-- A subscribe request asks for what follows the last sequence number, or for no
history. -/
def Resumes (x : SubSlot) (since : Nat) : Prop :=
  since = 0 ∨ since = x.lastSeq + 1 ∧ 0 < x.lastSeq ∧ x.semantics = .event

/-- The stream of messages ended like this. -/
def StreamEnd.of : Except Exn Reply → StreamEnd
  | .ok _ => .normal
  | .error (.connectionClosed code _) => .closed code
  | .error _ => .failed

variable (σ : Setup)

/-- The updates of a task that stays in its call. -/
inductive Move (x : Running Karo) (w : World) : World → Prop
  | quiet {w' : World} (h : Quiet w w') : Move x w w'
  | sent (c : WsId) (cmd : SdkCommand) (rep : Reply) (h : x.Got x.path (.wsSend c cmd) (.ok rep)) :
      Move x w (w.push (.sent c cmd))
  | answered (q : List Label) (rid : Nat) (c : WsId) (cmd : SdkCommand) (resp : DecodedResponse)
      (rep : Reply) (hp : x.path = q ++ [.sendRpcAndWait rid (some c)])
      (h : x.Got x.path (.future rid) (.ok rep)) (hf : w.rpc.futures rid = .result resp) :
      Move x w (w.push (.answered c cmd resp))
  | connected (hp : x.path = []) : Move x w w.connect
  -- the reader
  | streamEnded (c : WsId) (r : Except Exn Reply) (hp : x.path = [])
      (ht : w.tasks.procOf x.task = some (.reader c)) (h : x.Got [] (.recv c) r)
      (hr : r ≠ .error .cancelled) : Move x w (w.push (.streamEnded c (.of r)))
  | latched (c : WsId) (e : Exn) (hp : x.path = [])
      (ht : w.tasks.procOf x.task = some (.reader c)) (h : x.Got [] (.recv c) (.error e))
      (hc : (w.clients c).closed = false) :
      Move x w (w.setClient c fun k => { k with closed := true })
  | closeFired (c : WsId) (e : Exn) (hp : x.path = [])
      (ht : w.tasks.procOf x.task = some (.reader c)) (h : x.Got [] (.recv c) (.error e))
      (hc : (w.clients c).handlers = true) : Move x w (w.push (.onClose c))
  -- subscriptions
  | buffered (s : SlotId) (push : DecodedTopicPush) (hp : x.path = [])
      (hs : (w.subs.slots s).state = .pending) :
      Move x w (w.setSlot s fun x => x.bufferPending push)
  | received (s : SlotId) (push : DecodedTopicPush) (hp : x.path = [])
      (hs : (w.subs.slots s).state = .active) : Move x w (w.acceptPush s push).2
  | dispatched (s : SlotId) (push : DecodedTopicPush) (hp : x.path = [])
      (hs : (w.subs.slots s).state ≠ .closed) : Move x w (w.push (.delivered s push))
  | drained (s : SlotId) (K : Nat) (front : DecodedTopicPush) (rest : List DecodedTopicPush)
      (phase : Bool) (ep : Nat) (hp : x.path = [.handleSubscribeAck s phase ep])
      (hb : (w.subs.slots s).pendingBuffer = front :: rest)
      (hx : x.Drains w s) : Move x w (w.drainFront s K front rest).2
  | activated {w' : World} (s : SlotId) (phase : Bool) (ep : Nat) (resp : DecodedResponse)
      (hp : x.path = [.handleSubscribeAck s phase ep]) (hx : x.since = .called)
      (hs : ∃ topic, w.subs.subs.get? topic = some s)
      (hl : ∃ l, w.log = .acknowledged s resp :: l) (ha : resp.subAccepted = true)
      (h : (w.subs.slots s).semantics = .telemetry ∧ w' = w.activateTelemetry s ∨
        (w.subs.slots s).semantics = .event ∧ w' = w.activateEvent s resp.subNextSeq) : Move x w w'
  | startedAfresh (s : SlotId) (phase : Bool) (ep : Nat) (resp : DecodedResponse)
      (hp : x.path = [.handleSubscribeAck s phase ep]) (hx : x.since = .called)
      (hs : ∃ topic, w.subs.subs.get? topic = some s)
      (hl : ∃ l, w.log = .acknowledged s resp :: l) (ha : resp.subAccepted = false) :
      Move x w (w.startAfresh s)
  | forgotten (rid : Nat) (topic : String) (hp : x.path = [])
      (hi : w.subs.inflightSub.get? rid = some topic)
      (hs : ∀ s, w.subs.subs.get? topic = some s →
        (w.subs.slots s).inflightSubscribeRequestId ≠ rid) : Move x w (w.takeAck rid)
  -- the connection
  | lost (q : List Label) (reason : ErrorCode) (msg : String)
      (hp : x.path = q ++ [.onTransportClose]) (hx : x.since = .called)
      (hs : w.conn.state.terminal = false) : Move x w (w.loseTransport σ x.task reason msg)
  | shutDown (hp : x.path = [.close]) (hx : x.since = .called)
      (ht : w.tasks.procOf x.task = some (.api .close)) (hs : w.conn.state ≠ .shutdown) :
      Move x w (w.shutDown x.task)
  | aborted (q : List Label) (code : ErrorCode) (message : String)
      (hp : x.path = q ++ [.abortToFatal]) (hx : x.since = .called) (hw : w.conn.ws = none) :
      Move x w (w.fail code message)
  | turnedDown (isR : Bool) (ep : Nat) (c : WsId) (rid : Nat) (reason : String) (code : ErrorCode)
      (message : String) (hp : x.path = [.handshaking isR ep c])
      (h : (∃ e, x.Lost w rid e ∧ e.handshakeRetry = true) ∨
        ∃ c cmd resp, x.Took w rid c cmd resp ∧ resp.accepted = false ∧
          classify resp.handshakeCode ≠ .fatal) :
      Move x w (w.transientFailure σ reason code message)

/-! ### Calls -/

/-- Where `_on_transport_close` is called from, failed sends of a subscribe
request and of the replay apart. -/
inductive Loses (x : Running Karo) (w : World) : Prop
  | reader (c : WsId) (hp : x.path = []) (ht : w.tasks.procOf x.task = some (.reader c))
  | ackTimeout (rid : Nat) (topic : String) (hp : x.path = [])
      (ht : w.tasks.procOf x.task = some (.subscribeAckTimeout rid topic))
  | heartbeat (hp : x.path = [.heartbeat])
  | acking (s : SlotId) (phase : Bool) (ep : Nat) (hp : x.path = [.handleSubscribeAck s phase ep])

/-- Where `_abort_to_fatal` is called from. -/
inductive Aborting (x : Running Karo) : Prop
  | task (hp : x.path = [])
  | dialing (isR : Bool) (ep : Nat) (hp : x.path = [.establish isR ep])
  | handshaking (isR : Bool) (ep : Nat) (c : WsId) (hp : x.path = [.handshaking isR ep c])
  | acking (s : SlotId) (phase : Bool) (ep : Nat) (hp : x.path = [.handleSubscribeAck s phase ep])

/-- Where requests are sent from. -/
inductive Requesting (x : Running Karo) : Prop
  | task (hp : x.path = [])
  | handshaking (isR : Bool) (ep : Nat) (c : WsId) (hp : x.path = [.handshaking isR ep c])
  | estopReplay (ep : Nat) (hp : x.path = [.estopReplay ep])
  | emergencyStop (engage : Bool) (hp : x.path = [.emergencyStop engage])
  | cmdVel (hp : x.path = [.cmdVel])
  | ping (hp : x.path = [.ping])
  | unsubscribing (h : SlotId) (topic : String) (s : SlotId)
      (hp : x.path = [.unsubscribeRequest h true, .unsubscribing topic s]) (hx : x.since = .called)

/-- The calls that a task begins, with their updates. -/
inductive Enters (x : Running Karo) (w : World) : Label → World → Prop
  | backoff (n ms : Nat) (hp : x.path = []) (hx : x.since = .begun)
      (ht : w.tasks.procOf x.task = some (.doReconnect n ms)) : Enters x w .backoff w
  | establish (hp : x.path = []) (hx : x.since = .begun)
      (ht : w.tasks.procOf x.task = some .establishInitial) (hs : w.conn.state = .idle) :
      Enters x w (.establish false (epoch w.log))
        (w.transition .connecting { reason := "connect()" })
  | sendRpcAndWait (rid : Nat) (hp : Requesting x)
      (hr : rid + 1 = w.rpc.nextRequestId) : Enters x w (.sendRpcAndWait rid w.conn.ws) w
  | sendSubscribe (s : SlotId) (h : Subscribes w s x.path) : Enters x w (.sendSubscribe s) w
  | unsendable (q : List Label) (s : SlotId) (reason : String) (hp : x.path = q ++ [.sendSubscribe s])
      (hx : x.since = .called) (h : Subscribes w s q) :
      Enters x w (.unsendable s)
        (w.closeSlot x.task (w.subs.slots s).topic s .internalError reason)
  | subscribing (q : List Label) (s : SlotId) (rid since : Nat)
      (hp : x.path = q ++ [.sendSubscribe s]) (hx : x.since = .called) (h : Subscribes w s q)
      (hr : rid + 1 = w.rpc.nextRequestId) (hs : Resumes (w.subs.slots s) since) :
      Enters x w (.subscribing s rid) (w.registerSubscribe s rid since)
  | onTransportClose (hp : Loses x w) : Enters x w .onTransportClose w
  | sendFailed (q : List Label) (s : SlotId) (rid : Nat) (hp : x.path = q ++ [.sendSubscribe s])
      (hq : ∃ v, Subscribes v s q) :
      Enters x w .onTransportClose (w.unregisterSubscribe s rid)
  | replayFailed (ep : Nat) (hp : x.path = [.estopReplay ep]) :
      Enters x w .onTransportClose w.clearEstopPending
  | closeClient (q : List Label) (l : Label) (c : WsId) (hp : x.path = q ++ [l])
      (hc : w.conn.ws = some c)
      (hx : x.since = .called ∨ ∃ isR ep c, x.path = [.handshaking isR ep c])
      (hl : l = .abortToFatal ∨ (l = .onTransportClose ∨ ∃ isR ep c, l = .handshaking isR ep c) ∧
        w.conn.state = .transientFailure ∨ l = .close ∧ w.conn.state = .shutdown) :
      Enters x w (.closeClient c) w
  | abortToFatal (code : ErrorCode) (message : String) (hp : Aborting x) :
      Enters x w .abortToFatal (w.abandon x.task code message)
  | close (hp : x.path = []) (ht : w.tasks.procOf x.task = some (.api .close)) : Enters x w .close w
  | handleSubscribeAck (c : WsId) (resp : DecodedResponse) (topic : String) (s : SlotId) (rep : Reply)
      (hp : x.path = []) (ht : w.tasks.procOf x.task = some (.reader c))
      (hx : x.Got [] (.recv c) (.ok rep))
      (hi : w.subs.inflightSub.get? resp.requestId = some topic)
      (hs : w.subs.subs.get? topic = some s)
      (hr : (w.subs.slots s).inflightSubscribeRequestId = resp.requestId) :
      Enters x w (.handleSubscribeAck s (w.conn.state = .reconnecting) (epoch w.log))
        (w.beginAck s resp)
  | estopReplay (hp : x.path = []) (hx : x.since = .begun)
      (ht : w.tasks.procOf x.task = some .estopReplay) : Enters x w (.estopReplay (epoch w.log)) w
  | emergencyStop (engage : Bool) (hp : x.path = []) : Enters x w (.emergencyStop engage) w
  | cmdVel (hp : x.path = []) : Enters x w .cmdVel w
  | ping (hp : x.path = []) : Enters x w .ping w
  | unsubscribeRequest (h : SlotId) (syncWait : Bool) (hp : x.path = []) :
      Enters x w (.unsubscribeRequest h syncWait) w
  | unsubscribing (h : SlotId) (syncWait : Bool) (s : SlotId)
      (hp : x.path = [.unsubscribeRequest h syncWait])
      (hs : w.subs.subs.get? (w.subs.slots h).topic = some s) :
      Enters x w (.unsubscribing (w.subs.slots h).topic s) w
  | subscribe (topic : String) (hz : PyFloat) (hp : x.path = []) :
      Enters x w (.subscribe w.subs.slotCount) (w.beginSubscribe σ w.subs.slotCount topic hz)
  | heartbeat (hp : x.path = []) (hx : x.since = .begun)
      (ht : w.tasks.procOf x.task = some .heartbeat) : Enters x w .heartbeat w

/-- Ends of calls with nothing to do. -/
inductive Idles : Label → Prop
  | backoff : Idles .backoff
  | establish (isR : Bool) (ep : Nat) : Idles (.establish isR ep)
  | handshaking (isR : Bool) (ep : Nat) (c : WsId) : Idles (.handshaking isR ep c)
  | restoring (isR : Bool) (ep : Nat) (c : WsId) (s : SlotId) (rest : List SlotId) :
      Idles (.restoring isR ep c (s :: rest))
  | sendRpcAndWait (rid : Nat) (ws : Option WsId) : Idles (.sendRpcAndWait rid ws)
  | sendSubscribe (s : SlotId) : Idles (.sendSubscribe s)
  | unsendable (s : SlotId) : Idles (.unsendable s)
  | subscribing (s : SlotId) (rid : Nat) : Idles (.subscribing s rid)
  | closeClient (c : WsId) : Idles (.closeClient c)
  | abortToFatal : Idles .abortToFatal
  | close : Idles .close
  | estopReplay (ep : Nat) : Idles (.estopReplay ep)
  | emergencyStop (engage : Bool) : Idles (.emergencyStop engage)
  | cmdVel : Idles .cmdVel
  | ping : Idles .ping
  | unsubscribeRequest (h : SlotId) (syncWait : Bool) : Idles (.unsubscribeRequest h syncWait)
  | unsubscribing (topic : String) (s : SlotId) : Idles (.unsubscribing topic s)
  | subscribe (s : SlotId) : Idles (.subscribe s)

/-- The calls that a task ends, with their last updates; `q` is the call stack
that it returns to. -/
inductive Leaves (x : Running Karo) (q : List Label) (w : World) : Label → World → Prop
  | idle {l : Label} (h : Idles l) : Leaves x q w l w
  -- `_establish`
  | dialFailed (isR : Bool) (ep : Nat) (code : ErrorCode) (message : String)
      (h : (∃ e, x.Got [.establish isR ep] .wsConnect (.error e) ∧ e.connectRetry = true) ∨
        (∃ e, σ.sslContext = .error e) ∧ ep = epoch w.log ∧
          w.conn.state = if isR then .reconnecting else .connecting) :
      Leaves x q w (.establish isR ep) (w.dialFailed σ code message)
  | retried (isR : Bool) (ep : Nat) (c : WsId) : Leaves x q w (.handshaking isR ep c) (w.retry σ)
  | restored (isR : Bool) (ep : Nat) (c : WsId) :
      Leaves x q w (.restoring isR ep c []) (w.restored isR)
  -- the end of a connection
  | closed (p : List Label) (l : Label) (c : WsId) (last : World → World)
      (hp : q = p ++ [l])
      (hx : x.since = .called ∨ ∃ op r, x.Got x.path op r ∧ op.closes r = true)
      (hl : l ≠ .abortToFatal ∧ last = id ∨
        l = .abortToFatal ∧ ∃ code message, last = World.fail code message) :
      Leaves x q w (.closeClient c) (last w.clearWs)
  | lossIgnored (hs : w.conn.state.terminal = true) (hx : x.since = .called) :
      Leaves x q w .onTransportClose w
  | lossRaised (s : Site Karo) (r : Except Exn Reply) (hx : x.since = .answered s r) :
      Leaves x q w .onTransportClose w
  | lossHandled (hw : w.conn.ws = none)
      (hs : x.since = .called → w.conn.state = .transientFailure) :
      Leaves x q w .onTransportClose (w.retry σ)
  -- acknowledgements
  | rejected (s : SlotId) (phase : Bool) (topic : String) (code : ErrorCode) (reason : String)
      (hx : x.since = .called) (hph : phase = true ↔ w.conn.state = .reconnecting)
      (hs : w.subs.subs.get? topic = some s) :
      Leaves x q w (.handleSubscribeAck s phase (epoch w.log))
        (w.closeAndFinish x.task topic s code reason phase)
  | dropped (s : SlotId) (topic : String) (code : ErrorCode) (reason : String)
      (hx : x.since = .called) (hs : w.subs.subs.get? topic = some s)
      (hph : w.conn.state ≠ .reconnecting) :
      Leaves x q w (.handleSubscribeAck s false (epoch w.log))
        (w.closeSlot x.task topic s code reason)
  | acked (s : SlotId) (phase : Bool) (ep : Nat) (hq : q = [])
      (h : (x.since = .called ∧ ep = epoch w.log ∧ (phase = true ↔ w.conn.state = .reconnecting) ∧
          (w.subs.slots s).state = .active) ∨
        ∃ push r, x.Got [.handleSubscribeAck s phase ep] (.callback s push) r ∧
          r ≠ .error .cancelled) :
      Leaves x q w (.handleSubscribeAck s phase ep) (w.ackDone s phase)
  | ackOver (s : SlotId) (phase : Bool) (ep : Nat)
      (h : ep < epoch w.log ∨ w.conn.state.terminal = true) :
      Leaves x q w (.handleSubscribeAck s phase ep) w
  | ackResent (s : SlotId) (phase : Bool) (ep rid : Nat) (c : WsId) (cmd : SdkCommand) (rep : Reply)
      (h : x.Got [.handleSubscribeAck s phase ep, .sendSubscribe s, .subscribing s rid]
        (.wsSend c cmd) (.ok rep)) :
      Leaves x q w (.handleSubscribeAck s phase ep) w
  | ackUnencodable (s : SlotId) (phase : Bool)
      (hx : x.since = .called) (hph : phase = true ↔ w.conn.state = .reconnecting)
      (hs : (w.subs.slots s).state = .closed) :
      Leaves x q w (.handleSubscribeAck s phase (epoch w.log)) w
  | ackRaised (s : SlotId) (phase : Bool) (ep : Nat) (s' : Site Karo) (r : Except Exn Reply)
      (h : x.since = .answered s' r) : Leaves x q w (.handleSubscribeAck s phase ep) w
  -- the emergency stop
  | replayed (ep rid : Nat) (c : WsId) (cmd : SdkCommand) (resp : DecodedResponse)
      (hp : x.path = [.estopReplay ep])
      (h : x.Took w rid c cmd resp) (ho : resp.rpcOk = true) (he : cmd.engages = true) :
      Leaves x q w (.estopReplay ep) w.estopReplayed
  | intended (engage : Bool) (reason : PyStr) (rid : Nat) (c : WsId) (cmd : SdkCommand)
      (resp : DecodedResponse) (hp : x.path = [.emergencyStop engage])
      (h : x.Took w rid c cmd resp) (ho : resp.rpcOk = true) (hr : cmd.requestId = rid)
      (he : cmd.engages = engage ∧ cmd.releases = !engage) :
      Leaves x q w (.emergencyStop engage) (w.recordIntent engage reason)
  -- handles
  | unsubscribed (handle : SlotId) (syncWait : Bool) (topic : String) (s : SlotId)
      (code : ErrorCode) (reason : String) {w' : World}
      (hp : x.path = [.unsubscribeRequest handle syncWait, .unsubscribing topic s])
      (hx : x.since = .called ∨
        ∃ site r, x.since = .answered site r ∧ x.path <+: site.path ∧ Unsubscribes w site r) (h : w' = w.closeSlot x.task topic s code reason ∨
        w' = (w.closeSlot x.task topic s code reason).warnDropped topic) :
      Leaves x q w (.unsubscribing topic s) w'
  | handedOut (s : SlotId) : Leaves x q w (.subscribe s) (w.handOut s)

/-- The regions that `_establish` goes through. -/
inductive Becomes (x : Running Karo) (w : World) : List Label → World → Prop
  | reconnects (n ms : Nat) (rep : Reply) (hp : x.path = [.backoff])
      (ht : w.tasks.procOf x.task = some (.doReconnect n ms))
      (hx : x.Got [.backoff] (.sleep ms) (.ok rep)) (hs : w.conn.state = .transientFailure) :
      Becomes x w [.establish true (epoch w.log)] (w.beginReconnect n)
  | installs (isR : Bool) (ep : Nat) (rep : Reply) (hp : x.path = [.establish isR ep])
      (hx : x.Got [.establish isR ep] .wsConnect (.ok rep)) :
      Becomes x w [.handshaking isR ep w.clientCount] w.install
  | begins (isR : Bool) (ep : Nat) (c : WsId) (rid : Nat) (cmd : SdkCommand)
      (resp : DecodedResponse) (hp : x.path = [.handshaking isR ep c])
      (hx : x.Took w rid c cmd resp) (hr : resp.accepted = true) :
      Becomes x w [.restoring isR ep c w.subs.subs.values] (w.beginSession σ isR c resp)
  | restores (isR : Bool) (ep : Nat) (c : WsId) (s : SlotId) (rest : List SlotId)
      (hp : x.path = [.restoring isR ep c (s :: rest)]) :
      Becomes x w [.restoring isR ep c rest] w

/-! ### Suspensions and ends -/

/-- The operations that a task is suspended on, and where. -/
inductive Waits (x : Running Karo) (w : World) : Op → Prop
  | wsConnect (isR : Bool) (ep : Nat) (hp : x.path = [.establish isR ep]) : Waits x w .wsConnect
  | wsSend (c : WsId) (cmd : SdkCommand) (hw : w.conn.ws = some c)
      (hc : (w.clients c).attached = true) (ho : (w.clients c).isOpen = true)
      (hp : (∃ q rid, x.path = q ++ [.sendRpcAndWait rid (some c)] ∧ cmd.requestId = rid) ∨
        (∃ q s rid, x.path = q ++ [.subscribing s rid]) ∨ x.path = [.heartbeat] ∨
        ∃ h topic s, x.path = [.unsubscribeRequest h false, .unsubscribing topic s]) :
      Waits x w (.wsSend c cmd)
  | closing {op : Op} (q : List Label) (c : WsId) (hp : x.path = q ++ [.closeClient c])
      (ho : op = .wsClose c ∨ (∃ t, op = .joinReader t) ∨ ∃ t, op = .joinCancelled t)
      (hc : x.since = .called → (w.clients c).isOpen = false) : Waits x w op
  | recv (c : WsId) (hp : x.path = []) (ht : w.tasks.procOf x.task = some (.reader c)) :
      Waits x w (.recv c)
  | future (q : List Label) (rid : Nat) (c : WsId)
      (hp : x.path = q ++ [.sendRpcAndWait rid (some c)]) : Waits x w (.future rid)
  | sleep (n ms : Nat) (hp : x.path = [.backoff])
      (ht : w.tasks.procOf x.task = some (.doReconnect n ms)) : Waits x w (.sleep ms)
  | beating {op : Op} (hp : x.path = [.heartbeat])
      (ho : (∃ d, op = .heartbeatWakeup d) ∨ ∃ rid, op = .pingOrInbound rid) : Waits x w op
  | idling {op : Op} (hp : x.path = [])
      (ho : (∃ d, op = .stateChanged d) ∨ ∃ s, op = .queueGet s) : Waits x w op
  | callback (s : SlotId) (push : DecodedTopicPush)
      (hp : x.path = [] ∨ (∃ phase ep, x.path = [.handleSubscribeAck s phase ep]) ∧ x.Drains w s) :
      Waits x w (.callback s push)

/-- Why a heartbeat ends. -/
inductive Stops (x : Running Karo) (w : World) : Prop
  | notReady (h : w.conn.state ≠ .ready)
  | unconnected (h : w.Unconnected)
  | interrupted (s : Site Karo) (h : x.since = .answered s (.error .cancelled))
  | raised (s : Site Karo) (r : Except Exn Reply) (h : x.since = .answered s r)
      (hs : .onTransportClose ∈ s.path)

/-- The ends of tasks. -/
inductive Ends (x : Running Karo) (w : World) : Except Exn Unit → Prop
  | ended {r : Except Exn Unit} (hp : x.path = []) : Ends x w r
  | heartbeat {r : Except Exn Unit} (hp : x.path = [.heartbeat])
      (ht : w.tasks.procOf x.task = some .heartbeat) (h : Stops x w) : Ends x w r

/-! ### The outline -/

/-- How the world changes while a task is suspended. -/
structure Later (w w' : World) : Prop where
  log : ∃ l, w'.log = l ++ w.log
  proc : ∀ t j, w.tasks.procOf t = some j → w'.tasks.procOf t = some j
  slotCount : w.subs.slotCount ≤ w'.subs.slotCount
  topic : ∀ s < w.subs.slotCount, (w'.subs.slots s).topic = (w.subs.slots s).topic
  clientCount : w.clientCount ≤ w'.clientCount
  nextRid : w.rpc.nextRequestId ≤ w'.rpc.nextRequestId
  future : ∀ rid, (w.rpc.futures rid).done = true → w'.rpc.futures rid = w.rpc.futures rid

/-- The outline of the client. -/
def outline : Outline (robot σ) where
  step := fun x q w w' => q = x.path ∧ Move σ x w w' ∨
    (∃ l, x.path = q ++ [l] ∧ Leaves σ x q w l w') ∨ Becomes σ x w q w'
  enter := fun x l w w' => Enters σ x w l w'
  wait := fun x op w => Waits x w op
  finish := fun x r w => Ends x w r
  later := Later

end KaroX2
