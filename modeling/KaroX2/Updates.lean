/-
KaroX2/Updates.lean

The updates that do concern the connection, and what the event loop and the
environment do to the world.

What each of them does to the attributes of the connection, to the tasks and to
the history, as one lemma per view or as one statement of all that can happen.
The invariants are proved from these lemmas; none of them unfolds an update
again.
-/
import KaroX2.Quiet

namespace KaroX2

open Coop

variable {σ : Setup} {w w' : World} {me : TaskId}

/-! ### Transitions -/

section

variable {new : ConnectionState} {info : StateChangeInfo}

@[simp] theorem transition_conn :
    (w.transition new info).conn = { w.conn with state := new } := by
  unfold World.transition
  split
  · rename_i h
    rw [← h]
  · rfl

@[simp] theorem transition_estop : (w.transition new info).estop = w.estop := by
  unfold World.transition
  split <;> rfl

@[simp] theorem transition_subs : (w.transition new info).subs = w.subs := by
  unfold World.transition
  split <;> rfl

@[simp] theorem transition_tasks : (w.transition new info).tasks = w.tasks := by
  unfold World.transition
  split <;> rfl

@[simp] theorem transition_clients : (w.transition new info).clients = w.clients := by
  unfold World.transition
  split <;> rfl

@[simp] theorem transition_clientCount : (w.transition new info).clientCount = w.clientCount := by
  unfold World.transition
  split <;> rfl

@[simp] theorem transition_rpc : (w.transition new info).rpc = w.rpc := by
  unfold World.transition
  split <;> rfl

theorem transition_log : (w.transition new info).log = if w.conn.state = new then w.log else
    .transition w.conn.state new { info with reconnectAttempt := w.conn.reconnectAttempt }
      :: w.log := by
  unfold World.transition
  split <;> rfl

end

/-! ### Failures -/

section

variable {reason message : String} {code : ErrorCode}

/-- The transition of a failure, apart from the random number that it draws. -/
theorem transientFailure_eq (σ : Setup) (w : World) (reason : String) (code : ErrorCode)
    (message : String) : ∃ info, w.transientFailure σ reason code message
      = { w with draws := w.draws + 1 }.transition .transientFailure info := ⟨_, rfl⟩

@[simp] theorem transientFailure_conn : (w.transientFailure σ reason code message).conn
    = { w.conn with state := .transientFailure } := by
  obtain ⟨info, h⟩ := transientFailure_eq σ w reason code message
  rw [h, transition_conn]

@[simp] theorem transientFailure_estop :
    (w.transientFailure σ reason code message).estop = w.estop := transition_estop

@[simp] theorem transientFailure_subs :
    (w.transientFailure σ reason code message).subs = w.subs := transition_subs

@[simp] theorem transientFailure_tasks :
    (w.transientFailure σ reason code message).tasks = w.tasks := transition_tasks

@[simp] theorem transientFailure_clients :
    (w.transientFailure σ reason code message).clients = w.clients := transition_clients

@[simp] theorem transientFailure_clientCount :
    (w.transientFailure σ reason code message).clientCount = w.clientCount :=
  transition_clientCount

@[simp] theorem transientFailure_rpc :
    (w.transientFailure σ reason code message).rpc = w.rpc := transition_rpc

end

/-! ### Retries -/

/-- What `_schedule_reconnect` does: nothing in a terminal state, an abort after
the last attempt, or a new attempt. -/
inductive Retries (w : World) : World → Prop
  | refused (h : w.conn.state.terminal = true) : Retries w w
  | exhausted (h : w.conn.state.terminal = false) (code : ErrorCode) (message : String) :
      Retries w (w.spawn (.abortToFatal code message))
  | scheduled (h : w.conn.state.terminal = false) (n ms draws : Nat) :
      Retries w { w with
        draws := draws
        conn.reconnectAttempt := n - 1
        conn.reconnectTask := some w.tasks.next
        tasks := w.tasks.spawn (.doReconnect n ms)
        log := .reconnectScheduled n ms :: w.log }

theorem retry_retries (w : World) : Retries w (w.retry σ) := by
  unfold World.retry World.scheduleReconnect
  split
  · exact .refused ‹_›
  · rename_i h
    have h : w.conn.state.terminal = false := Bool.eq_false_iff.mpr h
    split
    · exact .exhausted h _ _
    · exact .scheduled h _ _ _

@[simp] theorem retry_state : (w.retry σ).conn.state = w.conn.state := by
  cases h : w.conn.state.terminal with
  | true => simp [World.retry, World.scheduleReconnect, h]
  | false =>
    unfold World.retry World.scheduleReconnect
    simp only [h, Bool.false_eq_true, if_false]
    split <;> rfl

/-! ### The end of a task -/

/-- The end of a task: it may be recorded, and a crash of the first `_establish`
creates the task that aborts. -/
theorem finish_eq (w : World) (t : TaskId) (r : Except Exn Unit) :
    ∃ l ts, w.finish t r = { w with tasks := ts, log := l ++ w.log } ∧
      (∀ o ∈ l, o.routine = true) ∧
      (ts = w.tasks.finish t ∨
        ∃ code message, ts = (w.tasks.finish t).spawn (.abortToFatal code message)) := by
  unfold World.finish
  dsimp only
  split
  · exact ⟨[], _, rfl, by simp, .inl rfl⟩
  · exact ⟨[], _, rfl, by simp, .inl rfl⟩
  · rename_i e _
    split
    · exact ⟨[.raised t e], _, rfl, by simp [Obs.routine], .inr ⟨_, _, rfl⟩⟩
    · exact ⟨[.raised t e], _, rfl, by simp [Obs.routine], .inl rfl⟩

/-- Serving a reply changes the flags of the task and the event at most. -/
theorem resume_eq (t : TaskId) (op : Op) (r : Except Exn Reply) (w : World) :
    ∃ ts evt, w.resume t op r = { w with tasks := ts, stateEvt := evt } ∧
      (ts = w.tasks ∨ ts = w.tasks.served t) := by
  unfold World.resume
  dsimp only
  split <;> split <;> first
    | exact ⟨_, _, rfl, .inl rfl⟩
    | exact ⟨_, _, rfl, .inr rfl⟩

/-- A created task runs its job unless it was cancelled before. -/
theorem created_task {t : TaskId} {p : Proc} (h : w.createdProc t = some p) :
    ∃ x, w.tasks.get? t = some x ∧ x.status = .created ∧ (p = .neverRun ∨ p = .run x.proc) := by
  unfold World.createdProc at h
  split at h
  · rename_i x hx
    split at h
    · rename_i hs
      refine ⟨x, hx, hs, ?_⟩
      split at h
      · exact .inl (Option.some.inj h).symm
      · exact .inr (Option.some.inj h).symm
    · cases h
  · cases h

/-! ### The environment -/

/-- What the environment does: a quiet update, a request to cancel a public call,
a new task. -/
inductive Env (w : World) : World → Prop
  | quiet {w' : World} (h : Quiet w w') : Env w w'
  | cancels {t : TaskId} (a : ApiCall) (h : w.tasks.procOf t = some (.api a)) :
      Env w { w with tasks := w.tasks.cancel t }
  | acks {w' : World} (h : Quiet w w') (rid : Nat) (topic : String) :
      Env w (w'.spawn (.subscribeAckTimeout rid topic))
  | calls (a : ApiCall) : Env w (w.spawn (.api a))
  | drops {w' : World} (h : Quiet w w') (s : SlotId) : Env w (w'.spawn (.unsubscribeDropped s))

theorem env_env {e : EnvStep} (h : World.env e w = some w') : Env w w' := by
  unfold World.env at h
  split at h
  · split at h
    · obtain rfl := Option.some.inj h
      exact .quiet (.of_eq rfl rfl rfl rfl rfl rfl le_rfl rfl rfl)
    · cases h
  · split at h
    · obtain rfl := Option.some.inj h
      exact .quiet (.setClient fun _ => ⟨nofun, id, fun _ => id, rfl, rfl⟩)
    · cases h
  · rename_i rid
    unfold World.fireTimer at h
    split at h
    · cases h
    · obtain rfl := Option.some.inj h
      refine .quiet ?_
      split
      · exact (Quiet.cancelTimer.trans .unregister).trans .resolve
      · exact .cancelTimer
    · obtain rfl := Option.some.inj h
      exact .acks .cancelTimer _ _
  · split at h
    · obtain rfl := Option.some.inj h
      exact .calls _
    · cases h
  · obtain rfl := Option.some.inj h
    exact .calls _
  · split at h
    · rename_i a ht
      obtain rfl := Option.some.inj h
      exact .cancels a ht
    · cases h
  · split at h
    · obtain rfl := Option.some.inj h
      unfold World.dropHandle
      dsimp only
      split
      · exact .quiet (.setSlot fun _ => rfl)
      · exact .drops (.setSlot fun _ => by rfl) _
    · cases h

/-! ### Slots -/

theorem cancelOther_subs {u : Option TaskId} : (w.cancelOther me u).subs = w.subs := by
  unfold World.cancelOther
  split
  · split <;> rfl
  · rfl

/-- Closing a slot changes the slot and takes the topic out of the registry. -/
theorem closeSlot_subs {topic : String} {s : SlotId} {code : ErrorCode} {reason : String} :
    (w.closeSlot me topic s code reason).subs =
      { (w.setSlot s fun x => { x with state := .closed, errorCode := code }).subs with
        subs := w.subs.subs.erase topic } := by
  simp only [World.closeSlot, World.stopSubWorker, cancelOther_subs]
  rfl

theorem closeSlot_closed {topic : String} {s : SlotId} {code : ErrorCode} {reason : String} :
    ((w.closeSlot me topic s code reason).subs.slots s).state = .closed := by
  rw [closeSlot_subs]
  simp [World.setSlot]

theorem takeAck_subs {rid : Nat} : (w.takeAck rid).subs = { w.subs with
    inflightSub := w.subs.inflightSub.erase rid
    subAckTimers := w.subs.subAckTimers.erase rid } := by
  unfold World.takeAck
  dsimp only
  split <;> rfl

theorem beginAck_subs {s : SlotId} {resp : DecodedResponse} : (w.beginAck s resp).subs =
    { (w.setSlot s fun x => { x with inflightSubscribeRequestId := 0 }).subs with
      inflightSub := w.subs.inflightSub.erase resp.requestId
      subAckTimers := w.subs.subAckTimers.erase resp.requestId } := by
  simp only [World.beginAck, World.push, World.setSlot, takeAck_subs]

/-! ### A session begins -/

/-- `_start_heartbeat` asks the old task to stop and creates a new one, unless
there is to be none. -/
theorem startHeartbeat_eq : ∃ w₁, Silent (fun t => w.conn.heartbeatTask = some t) w w₁ ∧
    w₁.subs = w.subs ∧
    w.startHeartbeat σ = if σ.opts.heartbeatInterval ≤ 0 then w₁ else
      { w₁ with
        conn.heartbeatTask := some w₁.tasks.next
        tasks := w₁.tasks.spawn .heartbeat } := by
  refine ⟨w.restartHeartbeat, .restartHeartbeat, ?_, rfl⟩
  unfold World.restartHeartbeat
  dsimp only
  split
  · split <;> rfl
  · rfl

theorem resolveAllSemantics_subs : ∃ f, w.resolveAllSemantics.subs = { w.subs with slots := f } := by
  unfold World.resolveAllSemantics
  generalize w.subs.subs.values = l
  induction l generalizing w with
  | nil => exact ⟨_, rfl⟩
  | cons s l ih =>
    obtain ⟨f, hf⟩ := ih (w := w.setSlot s fun x => { x with semantics := w.resolveSemantics x.topic })
    exact ⟨f, hf⟩

@[simp] theorem startHeartbeat_state : (w.startHeartbeat σ).conn.state = w.conn.state := by
  obtain ⟨v, hv, -, h⟩ := startHeartbeat_eq (σ := σ) (w := w)
  rw [h]
  split
  · rw [hv.conn]
  · show v.conn.state = w.conn.state
    rw [hv.conn]

/-- A session begins with `READY`, or the state waits for what is to be restored. -/
theorem beginSession_state (σ : Setup) (w : World) (isR : Bool) (c : WsId)
    (resp : DecodedResponse) : (w.beginSession σ isR c resp).conn.state = .ready ∨
      isR = true ∧ (w.beginSession σ isR c resp).conn.state = w.conn.state := by
  have hsame : ∀ v : World, v.conn.state = w.conn.state → v.armReconnect.conn.state = .ready ∨
      v.armReconnect.conn.state = w.conn.state := by
    intro v hv
    unfold World.armReconnect World.reconnectOk
    dsimp only
    split
    · exact .inl (by rw [transition_conn])
    · exact .inr hv
  unfold World.beginSession
  dsimp only
  split
  · rename_i hr
    refine (hsame _ ?_).imp_right fun h => ⟨hr, h⟩
    show ((w.setRobotInfo resp).startHeartbeat σ).resolveAllSemantics.conn.state = _
    rw [(Silent.resolveAllSemantics (q := fun _ => False)).conn, startHeartbeat_state]
    rfl
  · exact .inl (by rw [transition_conn])

/-- `_start_sub_worker` creates at most one task, the worker of the slot. -/
theorem startSubWorker_cases (w : World) (s : SlotId) :
    (∃ f : SubSlot → SubSlot, w.startSubWorker s = w.setSlot s f ∧
      ∀ x, (f x).control = x.control) ∨
    ∃ q, w.startSubWorker s = (w.setSlot s fun x =>
      { x with dispatchQueue := q, dispatchWorker := some w.tasks.next }).spawn (.subWorker s) := by
  unfold World.startSubWorker
  dsimp only
  split
  · refine .inl ⟨id, ?_, fun _ => rfl⟩
    simp [World.setSlot]
  · split
    · split
      · exact .inl ⟨_, rfl, fun _ => rfl⟩
      · exact .inr ⟨_, rfl⟩
    · exact .inr ⟨_, rfl⟩

theorem startSubWorker_conn {s : SlotId} : (w.startSubWorker s).conn = w.conn ∧
    (w.startSubWorker s).log = w.log := by
  rcases startSubWorker_cases w s with ⟨f, h, -⟩ | ⟨q, h⟩
  · rw [h]
    exact ⟨rfl, rfl⟩
  · rw [h]
    exact ⟨rfl, rfl⟩

theorem startSubWorker_registry {s : SlotId} : (w.startSubWorker s).subs.subs = w.subs.subs := by
  rcases startSubWorker_cases w s with ⟨f, h, -⟩ | ⟨q, h⟩
  · rw [h]
    rfl
  · rw [h]
    rfl

/-- A subscribe call takes the next slot: it is closed at once where the topic
is taken, and registered otherwise. -/
theorem beginSubscribe_conn {s : SlotId} {topic : String} {hz : PyFloat} :
    (w.beginSubscribe σ s topic hz).conn = w.conn := by
  unfold World.beginSubscribe
  split
  · rfl
  · exact startSubWorker_conn.1

theorem beginSubscribe_log {s : SlotId} {topic : String} {hz : PyFloat} :
    LogGrows w.log (w.beginSubscribe σ s topic hz).log := by
  unfold World.beginSubscribe
  split
  · exact .cons rfl
  · rw [World.enlist, startSubWorker_conn.2]
    exact .refl

theorem beginSubscribe_get {s : SlotId} {topic : String} {hz : PyFloat}
    (h : w.subs.subs.has topic = false) :
    (w.beginSubscribe σ s topic hz).subs.subs.get? topic = some s := by
  rw [World.beginSubscribe, if_neg (by simp [h]), World.enlist, startSubWorker_registry]
  simp [World.newSlot]

/-! ### Pushes -/

/-- What an accepted push leaves alone. -/
structure Delivers (s : SlotId) (w w' : World) : Prop where
  registry : w'.subs.subs = w.subs.subs
  slotCount : w'.subs.slotCount = w.subs.slotCount
  other : ∀ u, u ≠ s → w'.subs.slots u = w.subs.slots u
  state : (w'.subs.slots s).state = (w.subs.slots s).state
  errorCode : (w'.subs.slots s).errorCode = (w.subs.slots s).errorCode

namespace Delivers

variable {s : SlotId} {w₁ w₂ w₃ : World}

theorem trans (h : Delivers s w₁ w₂) (h' : Delivers s w₂ w₃) : Delivers s w₁ w₃ :=
  ⟨h'.registry.trans h.registry, h'.slotCount.trans h.slotCount,
    fun u hu => (h'.other u hu).trans (h.other u hu), h'.state.trans h.state,
    h'.errorCode.trans h.errorCode⟩

theorem push {o : Obs} : Delivers s w (w.push o) := ⟨rfl, rfl, fun _ _ => rfl, rfl, rfl⟩

theorem setSlot {f : SubSlot → SubSlot} (hs : ∀ x, (f x).state = x.state)
    (he : ∀ x, (f x).errorCode = x.errorCode) : Delivers s w (w.setSlot s f) where
  registry := rfl
  slotCount := rfl
  other := fun u hu => by simp [World.setSlot, hu]
  state := by simp [World.setSlot, hs]
  errorCode := by simp [World.setSlot, he]

theorem bufferDispatch {p : DecodedTopicPush} :
    Delivers s w (w.setSlot s fun x => x.bufferDispatch p) := by
  refine setSlot (fun x => ?_) fun x => ?_ <;>
  · unfold SubSlot.bufferDispatch
    split <;> rfl

theorem acceptPush {p : DecodedTopicPush} : Delivers s w (w.acceptPush s p).2 := by
  have hover : ∀ v : World, Delivers s v (v.handOver s p).2 := by
    intro v
    unfold World.handOver
    split
    · exact push
    · exact bufferDispatch
  have hrec : ∀ v : World, Delivers s v (((v.setSlot s fun x =>
      x.recordReceived v.clock.steady v.clock.epochMs).push (.accepted s p)).handOver s p).2 := by
    intro v
    refine ((setSlot (fun x => ?_) fun x => ?_).trans push).trans (hover _)
    · exact congrArg SubSlot.Control.state (Quiet.recordReceived_control x _ _)
    · exact congrArg SubSlot.Control.errorCode (Quiet.recordReceived_control x _ _)
  have hseq : ∀ n, Delivers s w (w.setSlot s fun x => { x with lastSeq := n }) :=
    fun n => setSlot (fun _ => rfl) fun _ => rfl
  unfold World.acceptPush
  rcases (w.subs.slots s).checkSeq p.seq with ⟨n, - | g⟩ | - | -
  · exact (hseq n).trans (hrec _)
  · exact ((hseq n).trans push).trans (hrec _)
  · exact push
  · exact push

theorem popPending {rest : List DecodedTopicPush} : Delivers s w (w.popPending s rest) :=
  setSlot (fun _ => rfl) fun _ => rfl

theorem countDrop : Delivers s w (w.countDrop s) := setSlot (fun _ => by rfl) fun _ => by rfl

theorem drainFront {K : Nat} {front : DecodedTopicPush} {rest : List DecodedTopicPush} :
    Delivers s w (w.drainFront s K front rest).2 := by
  unfold World.drainFront
  split
  · exact popPending.trans countDrop
  · exact popPending.trans acceptPush

end Delivers

theorem activateTelemetry_active {s : SlotId} :
    ((w.activateTelemetry s).subs.slots s).state = .active := by
  simp [World.activateTelemetry, World.fireStatus, World.push, World.setSlot]

theorem activateEvent_active {s : SlotId} {K : Nat} :
    ((w.activateEvent s K).subs.slots s).state = .active := by
  simp [World.activateEvent, World.fireStatus, World.push, World.setSlot]

/-! ### The gate of `READY` -/

/-- What `_maybe_finish_reconnect` does: nothing outside a reconnect, or one
subscription less to wait for, and `READY` after the last one. -/
inductive Finishes (w : World) (phase : Bool) : World → Prop
  | refused (h : phase = true → w.conn.reconnectSubsPending = 0) : Finishes w phase w
  | counted (hp : phase = true) (h : 0 < w.conn.reconnectSubsPending)
      (hr : w.conn.reconnectSubsPending ≠ 1 ∨ w.conn.reconnectEstopPending = true) :
      Finishes w phase
        { w with conn.reconnectSubsPending := w.conn.reconnectSubsPending - 1 }
  | finished (hp : phase = true) (h : w.conn.reconnectSubsPending = 1)
      (hr : w.conn.reconnectEstopPending = false) :
      Finishes w phase (World.transition .ready { reason := "reconnect ok" }
        { w with
          conn.reconnectSubsPending := w.conn.reconnectSubsPending - 1
          conn.reconnectAttempt := 0
          conn.reconnectTotalCount := w.conn.reconnectTotalCount + 1 })

theorem Finishes.state {phase : Bool} (h : Finishes w phase w') :
    w'.conn.state = .ready ∨ w'.conn.state = w.conn.state := by
  cases h with
  | refused | counted => exact .inr rfl
  | finished => exact .inl (by rw [transition_conn])

theorem maybeFinishReconnect_finishes (w : World) (phase : Bool) :
    Finishes w phase (w.maybeFinishReconnect phase) := by
  unfold World.maybeFinishReconnect
  split
  · rename_i h
    obtain ⟨hp, h⟩ : phase = true ∧ 0 < w.conn.reconnectSubsPending := by simpa using h
    dsimp only
    split
    · rename_i hr
      exact .finished hp (by omega) hr.2
    · rename_i hr
      refine .counted hp h ?_
      by_cases h₁ : w.conn.reconnectSubsPending = 1
      · refine .inr ?_
        simpa [h₁] using hr
      · exact .inl h₁
  · rename_i h
    refine .refused fun hp => ?_
    simpa [hp] using h

end KaroX2
