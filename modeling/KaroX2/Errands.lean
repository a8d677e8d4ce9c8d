/-
KaroX2/Errands.lean

What a task may send, and whose callback it may invoke.

Each task has an errand, which is given by its job.  `Job.sends` is the table of the
commands that a job sends: a reader only ever subscribes, the heartbeat only pings, and
nothing but a public call moves the robot or releases its stop, with the arguments of
the call.  `Job.invokes` says that a callback is invoked by the worker of its slot, or
by a reader where the slot is in the mode INLINE.

The errands form a protocol.  Its updates leave the callback modes as they are, so what a
reader has found stays true.  They leave the intent of the emergency stop alone as well,
which is recorded by a public call only, right after the robot has acknowledged the
command of this call.
-/
import KaroX2.Pipeline
import KaroX2.Closing
import KaroX2.Serialize

namespace KaroX2

open Coop

variable {σ : Setup} {w w' w'' : World} {me : TaskId} {s : SlotId}

/-! ### The table of commands -/

/-- The command subscribes to a topic. -/
def Payload.subscribes (p : Payload) : Prop :=
  ∃ topic hz since limit, p = .subscribe topic hz since limit

/-- The command opens a session. -/
def Payload.handshakes (p : Payload) : Prop :=
  (∃ v i der, p = .handshakeCert v i der) ∨ ∃ v i token, p = .handshakeToken v i token

/-- The public call sends the command. -/
def ApiCall.sends : ApiCall → Payload → Prop
  | .connect, _ | .close, _ | .waitUntilReady _, _ => False
  | .subscribe _ _, p => p.subscribes
  | .unsubscribe _, p => ∃ topic, p = .unsubscribe topic
  | .cmdVel vx vy wz, p => ∃ seq ms, p = .rpc "control.cmd_vel" 200 (.cmdVel vx vy wz seq ms)
  | .emergencyStop engage reason, p => p = .rpc "safety.emergency_stop" 2000
      (.emergencyStop engage (if reason.truthy then some reason else none))
  | .createNavTaskMarker m, p => p = .rpc "move.create_task" 2000 (.createTaskMarker m)
  | .createNavTaskPose x y theta, p => p = .rpc "move.create_task" 2000 (.createTaskPose x y theta)
  | .cancelTask i, p => p = .rpc "task_actions.cancel_task" 2000 (.taskCommand i)
  | .pauseTask i, p => p = .rpc "task_actions.pause_task" 2000 (.taskCommand i)
  | .resumeTask i, p => p = .rpc "task_actions.resume_task" 2000 (.taskCommand i)
  | .ping, p => ∃ ms, p = .ping ms

/-- The job sends the command. -/
def Job.sends : Job → Payload → Prop
  | .establishInitial, p | .doReconnect _ _, p => p.handshakes ∨ p.subscribes
  | .reader _, p => p.subscribes
  | .heartbeat, p => ∃ ms, p = .ping ms
  | .estopReplay, p =>
      ∃ reason, p = .rpc "safety.emergency_stop" 2000 (.emergencyStop true reason)
  | .unsubscribeDropped _, p => ∃ topic, p = .unsubscribe topic
  | .api call, p => call.sends p
  | .subWorker _, _ | .subscribeAckTimeout _ _, _ | .abortToFatal _ _, _ => False

/-- The command makes the robot act: it moves, its tasks change, or its stop is released. -/
def Payload.acts : Payload → Bool
  | .rpc _ _ (.emergencyStop engage _) => !engage
  | .rpc _ _ _ => true
  | _ => false

/-- Only public calls make the robot act. -/
theorem Job.sends_acts {j : Job} {p : Payload} (h : j.sends p) (ha : p.acts = true) :
    ∃ call, j = .api call ∧ call.sends p := by
  have hsub : ¬p.subscribes := by
    rintro ⟨topic, hz, since, limit, rfl⟩
    cases ha
  have hshake : ¬p.handshakes := by
    rintro (⟨v, i, der, rfl⟩ | ⟨v, i, token, rfl⟩) <;> cases ha
  cases j with
  | api call => exact ⟨call, rfl, h⟩
  | establishInitial | doReconnect => exact absurd h (not_or.mpr ⟨hshake, hsub⟩)
  | reader => exact absurd h hsub
  | heartbeat | estopReplay | unsubscribeDropped =>
    obtain ⟨_, rfl⟩ := h
    cases ha
  | subWorker | subscribeAckTimeout | abortToFatal => cases h

/-- The rate of a subscription is not what a job is held to. -/
theorem Job.sends_rounded {F : Floats} {j : Job} {p : Payload} (h : j.sends p) :
    j.sends (p.rounded F) := by
  cases p with
  | subscribe topic hz since limit =>
    have hsub : (Payload.subscribe topic ⟨F.widen (F.narrow hz.bits)⟩ since limit).subscribes :=
      ⟨_, _, _, _, rfl⟩
    cases j with
    | establishInitial | doReconnect => exact .inr hsub
    | reader => exact hsub
    | heartbeat | estopReplay | unsubscribeDropped => exact nomatch h
    | subWorker | subscribeAckTimeout | abortToFatal => exact h
    | api call =>
      cases call with
      | subscribe => exact hsub
      | _ => exact nomatch h
  | _ => exact h

/-! ### The emergency stop -/

/-- The command engages or releases the emergency stop. -/
def Payload.stops : Payload → Bool
  | .rpc _ _ (.emergencyStop _ _) => true
  | _ => false

/-- The robot has acknowledged a command of the emergency stop. -/
def Obs.stops : Obs → Bool
  | .answered _ cmd resp => resp.rpcOk && cmd.payload.stops
  | _ => false

/-- The acknowledged commands of the emergency stop so far. -/
def stops (log : List Obs) : List Obs := log.filter Obs.stops

/-- The intent, and what the robot has acknowledged. -/
def World.intent (w : World) : Estop × List Obs := (w.estop, stops w.log)

/-- The intent that the job has to record when its command is acknowledged. -/
def Job.intends : Job → DecodedResponse → Option (Bool × PyStr)
  | .api (.emergencyStop engage reason), resp =>
    if resp.rpcOk then some (engage, reason) else none
  | _, _ => none

theorem DecodedResponse.rpcOk_of_refused {resp : DecodedResponse} {x : ErrorCode × String}
    (h : resp.requireOk = some x) : resp.rpcOk = false := by
  unfold DecodedResponse.requireOk at h
  unfold DecodedResponse.rpcOk
  split at h
  · simp [*]
  · split at h
    · simp [*]
    · split at h
      · simp [*]
      · cases h

/-- Only a call of `emergency_stop` has an intent. -/
theorem Job.intends_none {j : Job} {p : Payload} (h : j.sends p) (hp : p.stops = false)
    (resp : DecodedResponse) : j.intends resp = none := by
  unfold Job.intends
  split
  · rw [h] at hp
    cases hp
  · rfl

theorem Payload.stops_subscribes {p : Payload} (h : p.subscribes) : p.stops = false := by
  obtain ⟨topic, hz, since, limit, rfl⟩ := h
  rfl

theorem Payload.stops_handshakes {p : Payload} (h : p.handshakes) : p.stops = false := by
  rcases h with ⟨v, i, der, rfl⟩ | ⟨v, i, token, rfl⟩ <;> rfl

theorem LogGrows.stops_eq {log log' : List Obs} (h : LogGrows log log') :
    stops log' = stops log :=
  h.filter_eq fun o ho => by cases o <;> first | rfl | cases ho

/-! ### Callbacks -/

/-- The job invokes the callback of the slot. -/
def Job.invokes : Job → World → SlotId → Prop
  | .subWorker u, _, s => s = u
  | .reader _, w, s => (w.subs.slots s).callbackMode = .inline
  | _, _, _ => False

/-- The job sends the command, which an encoder has made. -/
structure Job.Encodes (j : Job) (cmd : SdkCommand) : Prop where
  sends : j.sends cmd.payload
  encoded : cmd.Encoded

/-- The job may be suspended on the operation. -/
def Job.may (j : Job) : Op → World → Prop
  | .wsSend _ cmd, _ => j.Encodes cmd
  | .callback s _, w => j.invokes w s
  | _, _ => True

/-- The job that the body is a part of. -/
def Proc.serves : Proc → Job → Prop
  | .run j', j => j = j'
  | .readLoop c, j | .drain c _ _ _ _, j => j = .reader c
  | .heartbeatRound, j | .pingRound _, j => j = .heartbeat
  | .neverRun, _ => True

/-- The task goes on with its job. -/
def Flow.serves (j : Job) : Flow Karo → Prop
  | .next p => p.serves j
  | .done => True

/-! ### Callback modes and the intent -/

variable (σ) in
/-- A slot keeps its callback mode, or gets the one of the options; the intent stays. -/
structure Moded (w w' : World) : Prop where
  modes : ∀ s, (w'.subs.slots s).callbackMode = (w.subs.slots s).callbackMode ∨
    (w'.subs.slots s).callbackMode = σ.opts.callbackMode
  intent : w'.intent = w.intent

namespace Moded

theorem same (h : (w'.subs.slots, w'.intent) = (w.subs.slots, w.intent)) : Moded σ w w' := by
  obtain ⟨hslots, hintent⟩ := Prod.mk.inj h
  exact ⟨fun _ => .inl (by rw [hslots]), hintent⟩

theorem refl (w : World) : Moded σ w w := same rfl

theorem trans (h : Moded σ w w') (h' : Moded σ w' w'') : Moded σ w w'' := by
  refine ⟨fun s => ?_, h'.intent.trans h.intent⟩
  rcases h'.modes s with hs' | hs'
  · rw [hs']
    exact h.modes s
  · exact .inr hs'

theorem foldl {α : Type} {f : World → α → World} (hf : ∀ w x, Moded σ w (f w x)) (l : List α)
    (w : World) : Moded σ w (l.foldl f w) := by
  induction l generalizing w with
  | nil => exact refl w
  | cons x l ih => exact (hf w x).trans (ih _)

/-- A slot is written. -/
theorem setting {x : SubSlot}
    (h : (w'.subs.slots, w'.intent) = (Function.update w.subs.slots s x, w.intent))
    (hx : x.callbackMode = (w.subs.slots s).callbackMode) : Moded σ w w' := by
  obtain ⟨hslots, hintent⟩ := Prod.mk.inj h
  refine ⟨fun u => .inl ?_, hintent⟩
  rw [hslots]
  by_cases hu : u = s
  · subst hu
    rw [Function.update_self, hx]
  · rw [Function.update_of_ne hu]

theorem setSlot {f : SubSlot → SubSlot} (hf : ∀ x, (f x).callbackMode = x.callbackMode) :
    Moded σ w (w.setSlot s f) := setting rfl (hf _)

/-- A silent update of other parts of the world. -/
theorem of_silent {q : TaskId → Prop} (h : Silent q w w') (hs : w'.subs.slots = w.subs.slots) :
    Moded σ w w' := same (Prod.ext hs (Prod.ext h.estop h.log.stops_eq))

section Updates

variable {rid : Nat} {topic reason msg : String} {code : ErrorCode} {e : Exn} {c : WsId}

theorem cancelOther {t : Option TaskId} : Moded σ w (w.cancelOther me t) := by
  unfold World.cancelOther
  split
  · split
    · exact refl w
    · exact same rfl
  · exact refl w

theorem resolve {x : Fut} : Moded σ w (w.resolve rid x) := by
  unfold World.resolve
  split
  · exact refl w
  · exact same rfl

theorem transition {new : ConnectionState} {info : StateChangeInfo} :
    Moded σ w (w.transition new info) := by
  unfold World.transition
  split
  · exact refl w
  · exact same rfl

theorem transientFailure : Moded σ w (w.transientFailure σ reason code msg) := by
  obtain ⟨info, h⟩ := transientFailure_eq σ w reason code msg
  have hdrawn : Moded σ w { w with draws := w.draws + 1 } := same rfl
  rw [h]
  exact hdrawn.trans transition

theorem retry : Moded σ w (w.retry σ) := by
  unfold World.retry World.scheduleReconnect
  split
  · exact refl w
  · split <;> exact same rfl

theorem markClosed : Moded σ w (w.markClosed s code reason) := setting rfl rfl

theorem closeSlot : Moded σ w (w.closeSlot me topic s code reason) := by
  have hstop : Moded σ w ((w.markClosed s code reason).stopSubWorker me s) :=
    markClosed.trans cancelOther
  exact hstop.trans (same rfl)

theorem closeAllSlots : Moded σ w (w.closeAllSlots me code reason) := by
  have honce : ∀ v s, Moded σ v (World.closeSlotOnce me code reason v s) := by
    intro v s
    unfold World.closeSlotOnce
    dsimp only
    split
    · exact cancelOther
    · exact markClosed.trans cancelOther
  exact (foldl honce _ w).trans (same rfl)

theorem pauseSlots : Moded σ w (w.pauseSlots code reason) := by
  refine foldl (fun v s => ?_) _ w
  unfold World.pauseSlot
  dsimp only
  split
  · have hpaused : Moded σ v ((v.setSlot s fun x => { x with state := .paused }).fireStatus s
        { kind := .paused, errorCode := code, reason := reason }) := setting rfl rfl
    exact hpaused.trans (setSlot fun _ => by rfl)
  · exact setSlot fun _ => by rfl

theorem failInflight : Moded σ w (w.failInflight e) := by
  have honce : ∀ v x, Moded σ v (World.failRequest e v x) := by
    intro v x
    unfold World.failRequest
    split
    · rename_i h _
      have hcancel : Moded σ v (v.cancelTimer h) := same rfl
      exact hcancel.trans resolve
    · exact resolve
  exact (foldl honce _ w).trans (same rfl)

theorem clearSubAcks : Moded σ w w.clearSubAcks := by
  have honce : ∀ (v : World) h, Moded σ v (v.cancelTimer h) := fun _ _ => same rfl
  exact (foldl honce _ w).trans (same rfl)

theorem loseTransport : Moded σ w (w.loseTransport σ me code msg) := by
  have hpush : Moded σ w (w.push (.transportClose code msg)) := same rfl
  have hdrop : ∀ v : World, Moded σ v (v.dropSession me code msg) := fun v =>
    (((pauseSlots.trans failInflight).trans clearSubAcks).trans cancelOther).trans (same rfl)
  exact (hpush.trans (hdrop _)).trans transientFailure

theorem abandon : Moded σ w (w.abandon me code msg) :=
  (((closeAllSlots.trans failInflight).trans clearSubAcks).trans cancelOther).trans cancelOther

theorem closeDown : Moded σ w (w.closeDown me) := by
  unfold World.closeDown
  refine .trans ?_ closeAllSlots
  refine .trans ?_ clearSubAcks
  refine .trans ?_ failInflight
  exact cancelOther.trans cancelOther

theorem shutDown : Moded σ w (w.shutDown me) := transition.trans closeDown

theorem takeAck : Moded σ w (w.takeAck rid) :=
  of_silent (Silent.takeAck (q := fun _ => False)) (by rw [takeAck_subs])

theorem beginAck {resp : DecodedResponse} : Moded σ w (w.beginAck s resp) := by
  have hslot : Moded σ (w.takeAck resp.requestId) (w.beginAck s resp) :=
    setting rfl rfl
  exact takeAck.trans hslot

theorem registerSubscribe {since : Nat} : Moded σ w (w.registerSubscribe s rid since) :=
  setting rfl rfl

theorem unregisterSubscribe : Moded σ w (w.unregisterSubscribe s rid) := setting rfl rfl

theorem handleRpcResponse {resp : DecodedResponse} : Moded σ w (w.handleRpcResponse resp) := by
  unfold World.handleRpcResponse
  split
  · exact same rfl
  · split
    · rename_i h _
      have hfree : Moded σ w ((w.unregister resp.requestId).cancelTimer h) := same rfl
      exact hfree.trans resolve
    · have hfree : Moded σ w (w.unregister resp.requestId) := same rfl
      exact hfree.trans resolve

theorem maybeFinishReconnect {phase : Bool} : Moded σ w (w.maybeFinishReconnect phase) := by
  obtain ⟨v, hv, h⟩ : ∃ v, v = w.maybeFinishReconnect phase ∧ Finishes w phase v :=
    ⟨_, rfl, maybeFinishReconnect_finishes w phase⟩
  rw [← hv]
  cases h with
  | refused => exact refl w
  | counted => exact same rfl
  | finished =>
    have hcounted : Moded σ w { w with
        conn.reconnectSubsPending := w.conn.reconnectSubsPending - 1
        conn.reconnectAttempt := 0
        conn.reconnectTotalCount := w.conn.reconnectTotalCount + 1 } := same rfl
    exact hcounted.trans transition

theorem acceptPush {push : DecodedTopicPush} : Moded σ w (w.acceptPush s push).2 := by
  have hover : ∀ v : World, Moded σ v (v.handOver s push).2 := by
    intro v
    unfold World.handOver
    split
    · exact same rfl
    · refine setting rfl ?_
      show ((v.subs.slots s).bufferDispatch push).callbackMode = _
      unfold SubSlot.bufferDispatch
      split <;> rfl
  have hrecorded : ∀ (x : SubSlot) now ms,
      (x.recordReceived now ms).callbackMode = x.callbackMode :=
    fun x now ms => congrArg Piped.callbackMode (recordReceived_piped x now ms)
  unfold World.acceptPush
  split
  · exact same rfl
  · exact same rfl
  · rename_i lastSeq gap _
    have hseq : Moded σ w (w.setSlot s fun x => { x with lastSeq := lastSeq }) :=
      setSlot fun _ => by rfl
    have hrest : ∀ v : World, Moded σ v (World.handOver s push ((v.setSlot s fun x =>
        x.recordReceived v.clock.steady v.clock.epochMs).push (.accepted s push))).2 := by
      intro v
      have hset : Moded σ v ((v.setSlot s fun x =>
          x.recordReceived v.clock.steady v.clock.epochMs).push (.accepted s push)) :=
        setting rfl (hrecorded _ _ _)
      exact hset.trans (hover _)
    split
    · refine (hseq.trans ?_).trans (hrest _)
      exact same rfl
    · exact hseq.trans (hrest _)

theorem popDispatch : Moded σ w (w.popDispatch s).2 := by
  unfold World.popDispatch
  split
  · exact setting rfl rfl
  · exact refl w

theorem drainFront {K : Nat} {front : DecodedTopicPush} {rest : List DecodedTopicPush} :
    Moded σ w (w.drainFront s K front rest).2 := by
  have hpop : Moded σ w (w.popPending s rest) := setSlot fun _ => by rfl
  unfold World.drainFront
  split
  · exact hpop.trans (setting rfl rfl)
  · exact hpop.trans acceptPush

theorem startSubWorker : Moded σ w (w.startSubWorker s) := by
  unfold World.startSubWorker
  dsimp only
  split
  · exact refl w
  · split <;> split <;> exact setting rfl rfl

/-- A new slot has the mode of the options. -/
theorem beginSubscribe {hz : PyFloat} : Moded σ w (w.beginSubscribe σ s topic hz) := by
  have hnew : Moded σ w (w.newSlot σ s topic hz) := by
    refine ⟨fun u => ?_, rfl⟩
    by_cases h : u = s
    · subst h
      exact .inr (by simp [World.newSlot, World.setSlot])
    · exact .inl (by simp [World.newSlot, World.setSlot, h])
  unfold World.beginSubscribe
  split
  · exact hnew.trans markClosed
  · have hlisted : Moded σ (w.newSlot σ s topic hz) { w.newSlot σ s topic hz with
        subs.subs := (w.newSlot σ s topic hz).subs.subs.insert topic s } := same rfl
    exact (hnew.trans hlisted).trans startSubWorker

theorem beginSession {isR : Bool} {resp : DecodedResponse} :
    Moded σ w (w.beginSession σ isR c resp) := by
  have hbeat : ∀ v : World, Moded σ v (v.startHeartbeat σ) := by
    intro v
    obtain ⟨v₁, hsilent, hsubs, h⟩ := startHeartbeat_eq (σ := σ) (w := v)
    have hstopped : Moded σ v v₁ := of_silent hsilent (by rw [hsubs])
    rw [h]
    split
    · exact hstopped
    · exact hstopped.trans (same rfl)
  have hresolve : ∀ v : World, Moded σ v v.resolveAllSemantics := fun v =>
    foldl (fun _ _ => setSlot fun _ => by rfl) _ v
  have harm : ∀ v : World, Moded σ v v.armReconnect := by
    intro v
    unfold World.armReconnect World.reconnectOk
    dsimp only
    split
    · refine .trans ?_ transition
      exact same rfl
    · exact same rfl
  have hinfo : Moded σ w (w.setRobotInfo resp) := same rfl
  have hbegun := (hinfo.trans (hbeat _)).trans (hresolve _)
  have hpush : ∀ v : World, Moded σ v (v.push (.handshake c isR v.estop.engaged)) :=
    fun v => same rfl
  unfold World.beginSession
  dsimp only
  split
  · exact (hbegun.trans (hpush _)).trans (harm _)
  · exact (hbegun.trans (hpush _)).trans transition

theorem restored {isR : Bool} : Moded σ w (w.restored isR) := by
  unfold World.restored World.startReplay
  split
  · split
    · exact same rfl
    · exact refl w
  · exact refl w

theorem estopReplayed : Moded σ w w.estopReplayed := by
  unfold World.estopReplayed World.replayOk
  dsimp only
  split
  · refine .trans ?_ transition
    exact same rfl
  · exact same rfl

theorem connect : Moded σ w w.connect := by
  unfold World.connect
  split
  · exact refl w
  · exact same rfl

end Updates

end Moded

/-! ### The protocol -/

/-- The job of a task, and the intent that it has yet to record. -/
structure Errand where
  job : Job
  pending : Option (Bool × PyStr) := none

variable (σ) in
/-- A task does its errand.  When it takes a response, its job says what it has to record
before it is suspended again. -/
def errands : Protocol Karo Errand where
  update g w w' g' := g' = g ∧ Moded σ w w' ∨
    (∃ c cmd resp, w' = w.push (.answered c cmd resp) ∧ g.job.sends cmd.payload ∧
      g.pending = none ∧ g' = ⟨g.job, g.job.intends resp⟩) ∨
    ∃ engage reason, g.pending = some (engage, reason) ∧ w' = w.recordIntent engage reason ∧
      g' = ⟨g.job, none⟩
  wait g op w g' := g' = g ∧ g.pending = none ∧ g.job.may op w

end KaroX2
