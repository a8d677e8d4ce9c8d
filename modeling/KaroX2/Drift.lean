/-
KaroX2/Drift.lean

What nearly all updates leave alone.

The statistics and the clock, the ways in which the requests end, the results of
the public calls, the readers and what they report are the business of a few calls.
The state of the connection moves in one way only, by `_transition`, which sets the
event that `wait_until_ready` waits for.  `Drift` says that an update keeps to this;
it holds of all updates of the client but those of the calls that count, wait for the
connection, or return, of a reader at the end of its stream, and of the installation
of a client.
-/
import KaroX2.System

namespace KaroX2

open Coop

variable {σ : Setup} {w w' w'' : World} {me : TaskId}

/-! ### The parts of the world -/

/-- A request fails with an error of the SDK, a time-out or a cancellation. -/
def Fut.sound : Fut → Bool
  | .exception (.sdk _ _) | .exception (.timeout _) | .exception .cancelled => true
  | .exception _ => false
  | _ => true

/-- Which futures have ended in one of these ways, if they have ended. -/
def World.sound (w : World) : Nat → Bool := fun rid => (w.rpc.futures rid).sound

/-- A public call returns. -/
def Obs.returns : Obs → Bool
  | .returned _ _ => true
  | _ => false

/-- The results of the public calls so far. -/
def returns (log : List Obs) : List Obs := log.filter Obs.returns

/-- A public call returns, a stream ends, or `on_close` is invoked. -/
def Obs.concludes : Obs → Bool
  | .returned _ _ | .streamEnded _ _ | .onClose _ => true
  | _ => false

/-- All conclusions so far. -/
def conclusions (log : List Obs) : List Obs := log.filter Obs.concludes

/-- The latch of each client, and whether its handlers are set. -/
def World.latches (w : World) : WsId → Bool × Bool :=
  fun c => ((w.clients c).closed, (w.clients c).handlers)

/-- The job of the reader of the client. -/
def reads (c : WsId) (j : Job) : Bool := j = .reader c

/-- What an update does not touch unless it says so, the tasks apart. -/
def World.shell (w : World) : (Stats × Clock × (Nat → Bool)) × ConnectionState × Event ×
    List Obs × WsId × (WsId → Bool × Bool) :=
  ((w.stats, w.clock, w.sound), w.conn.state, w.stateEvt, conclusions w.log, w.clientCount, w.latches)

/-- The update leaves the shell alone, transitions apart, and creates no reader. -/
structure Drift (w w' : World) : Prop where
  stats : w'.stats = w.stats
  clock : w'.clock = w.clock
  sound : w'.sound = w.sound
  event : w'.conn.state = w.conn.state ∧ w'.stateEvt = w.stateEvt ∨ w'.stateEvt = w.stateEvt.set
  conclusions : conclusions w'.log = conclusions w.log
  clientCount : w'.clientCount = w.clientCount
  latches : w'.latches = w.latches
  readers : ∀ c, w'.tasks.pending (reads c) ≤ w.tasks.pending (reads c)

@[simp] theorem Event.set_set (e : Event) : e.set.set = e.set := by
  by_cases h : e.flag = true
  · have hset : e.set = e := if_pos h
    rw [hset, hset]
  · rw [Event.set, Event.set, if_neg h, if_pos rfl]

namespace Drift

/-- Only tasks are created or changed, none of them a reader. -/
theorem retask (h : World.shell w' = w.shell)
    (ht : ∀ c, w'.tasks.pending (reads c) ≤ w.tasks.pending (reads c)) : Drift w w' := by
  obtain ⟨hfirst, hstate, hevent, hconclusions, hclients, hlatches⟩ : _ ∧ _ ∧ _ ∧ _ ∧ _ ∧ _ := by
    simpa [World.shell] using h
  exact ⟨hfirst.1, hfirst.2.1, hfirst.2.2, .inl ⟨hstate, hevent⟩, hconclusions, hclients,
    hlatches, ht⟩

theorem same (h : (w'.shell, w'.tasks) = (w.shell, w.tasks)) : Drift w w' := by
  obtain ⟨hshell, htasks⟩ := Prod.mk.inj h
  exact retask hshell fun _ => htasks ▸ le_rfl

theorem refl (w : World) : Drift w w := .same rfl

theorem trans (h : Drift w w') (h' : Drift w' w'') : Drift w w'' where
  stats := h'.stats.trans h.stats
  clock := h'.clock.trans h.clock
  sound := h'.sound.trans h.sound
  conclusions := h'.conclusions.trans h.conclusions
  clientCount := h'.clientCount.trans h.clientCount
  latches := h'.latches.trans h.latches
  readers c := (h'.readers c).trans (h.readers c)
  event := by
    -- one transition or more set the event
    rcases h'.event with ⟨hstate', hevent'⟩ | hset'
    · rcases h.event with ⟨hstate, hevent⟩ | hset
      · exact .inl ⟨hstate'.trans hstate, hevent'.trans hevent⟩
      · exact .inr (hevent'.trans hset)
    · rcases h.event with ⟨-, hevent⟩ | hset
      · exact .inr (hevent ▸ hset')
      · exact .inr (by rw [hset', hset, Event.set_set])

/-- An update of parts of the world that the shell does not show, before another one. -/
theorem after {v : World} (h : Drift v w') (hv : (v.shell, v.tasks) = (w.shell, w.tasks)) :
    Drift w w' := (same hv).trans h

theorem foldl {α : Type} {f : World → α → World} (hf : ∀ w x, Drift w (f w x)) (l : List α)
    (w : World) : Drift w (l.foldl f w) := by
  induction l generalizing w with
  | nil => exact refl w
  | cons x l ih => exact (hf w x).trans (ih _)

/-- The results of the calls are among the conclusions. -/
theorem returns (h : Drift w w') : returns w'.log = KaroX2.returns w.log := by
  have hfilter : ∀ log : List Obs, KaroX2.returns log = (KaroX2.conclusions log).filter Obs.returns := by
    intro log
    rw [KaroX2.returns, KaroX2.conclusions, List.filter_filter]
    congr
    funext o
    cases o <;> rfl
  rw [hfilter, hfilter, h.conclusions]

/-! ### Updates -/

section Updates

variable {s : SlotId} {c : WsId} {rid : Nat} {topic reason : String} {code : ErrorCode}

theorem push {o : Obs} (ho : o.concludes = false) : Drift w (w.push o) where
  stats := rfl
  clock := rfl
  sound := rfl
  event := .inl ⟨rfl, rfl⟩
  conclusions := List.filter_cons_of_neg (by simp [ho])
  clientCount := rfl
  latches := rfl
  readers _ := le_rfl

/-- A task is created that is not a reader. -/
theorem spawn {j : Job} (hj : ∀ c, j ≠ .reader c) : Drift w (w.spawn j) := by
  refine retask rfl fun c => ?_
  show (w.tasks.spawn j).pending _ ≤ _
  rw [Tasks.pending_spawn]
  simp [reads, hj c]

theorem begin {t : TaskId} : Drift w { w with tasks := w.tasks.begin t } :=
  retask rfl fun _ => Tasks.pending_begin_le

theorem cancel {t : TaskId} : Drift w { w with tasks := w.tasks.cancel t } :=
  retask rfl fun _ => Tasks.pending_cancel_le

/-- A client is changed in other parts than its latch and its handlers. -/
theorem client {f : WsClient → WsClient}
    (hf : ∀ k, (f k).closed = k.closed ∧ (f k).handlers = k.handlers) :
    Drift w (w.setClient c f) := by
  refine same (Prod.ext ?_ rfl)
  have hlatches : (w.setClient c f).latches = w.latches := by
    funext d
    show ((Function.update w.clients c (f (w.clients c)) d).closed, _) = _
    by_cases hd : d = c
    · subst hd
      simp [World.latches, World.setClient, (hf _).1, (hf _).2]
    · simp [World.latches, World.setClient, hd]
  simp only [World.shell, hlatches]
  rfl

/-- A future ends in one of the sound ways. -/
theorem resolve {x : Fut} (h : x.sound = true) : Drift w (w.resolve rid x) := by
  unfold World.resolve
  split
  -- a future that is done keeps its result
  · exact refl w
  · rename_i hd
    -- so the future was pending, which is sound, and becomes `x`
    have hp : (w.rpc.futures rid).sound = true := by
      cases hx : w.rpc.futures rid with
      | pending => rfl
      | result | exception => exact absurd (by rw [hx]; rfl) hd
    refine ⟨rfl, rfl, funext fun r => ?_, .inl ⟨rfl, rfl⟩, rfl, rfl, rfl, fun _ => le_rfl⟩
    show (Function.update w.rpc.futures rid x r).sound = (w.rpc.futures r).sound
    by_cases hr : r = rid
    · subst hr
      rw [Function.update_self, h, hp]
    · rw [Function.update_of_ne hr]

theorem cancelOther {t : Option TaskId} : Drift w (w.cancelOther me t) := by
  unfold World.cancelOther
  split
  · split
    · exact same rfl
    · exact cancel
  · exact refl w

/-- The one way in which the state moves. -/
theorem transition {new : ConnectionState} {info : StateChangeInfo} :
    Drift w (w.transition new info) := by
  unfold World.transition
  split
  · exact refl w
  · exact ⟨rfl, rfl, rfl, .inr rfl, List.filter_cons_of_neg nofun, rfl, rfl, fun _ => le_rfl⟩

theorem transientFailure {message : String} :
    Drift w (w.transientFailure σ reason code message) := by
  obtain ⟨info, h⟩ : ∃ info, w.transientFailure σ reason code message
      = { w with draws := w.draws + 1 }.transition .transientFailure info := ⟨_, rfl⟩
  rw [h]
  exact transition.after rfl

theorem retry : Drift w (w.retry σ) := by
  unfold World.retry World.scheduleReconnect
  split
  · exact refl w
  · split
    · exact spawn (by simp)
    · dsimp only
      exact ((spawn (by simp)).trans (push rfl)).trans (same rfl)

theorem markClosed : Drift w (w.markClosed s code reason) := same rfl

theorem closeSlot : Drift w (w.closeSlot me topic s code reason) :=
  (markClosed.trans cancelOther).trans (same rfl)

theorem closeAllSlots : Drift w (w.closeAllSlots me code reason) := by
  have hround (v : World) (s : SlotId) : Drift v (v.closeSlotOnce me code reason s) := by
    unfold World.closeSlotOnce
    dsimp only
    split
    · exact cancelOther
    · exact markClosed.trans cancelOther
  exact (foldl hround _ w).trans (same rfl)

theorem pauseSlots : Drift w (w.pauseSlots code reason) := by
  refine foldl (fun v s => ?_) _ w
  unfold World.pauseSlot
  dsimp only
  split <;> exact same rfl

theorem failInflight : Drift w (w.failInflight (.sdk code reason)) := by
  have hround (v : World) (x : Nat × InflightRpc) :
      Drift v (v.failRequest (.sdk code reason) x) := by
    unfold World.failRequest
    split
    · exact (resolve rfl).after rfl
    · exact resolve rfl
  exact (foldl hround _ w).trans (same rfl)

theorem clearSubAcks : Drift w w.clearSubAcks :=
  (foldl (f := fun v h => v.cancelTimer h) (fun _ _ => same rfl) _ w).trans (same rfl)

theorem dropSession : Drift w (w.dropSession me code reason) :=
  (((pauseSlots.trans failInflight).trans clearSubAcks).trans cancelOther).trans (same rfl)

theorem loseTransport : Drift w (w.loseTransport σ me code reason) :=
  (dropSession.trans transientFailure).after rfl

theorem abandon : Drift w (w.abandon me code reason) :=
  (((closeAllSlots.trans failInflight).trans clearSubAcks).trans cancelOther).trans cancelOther

theorem shutDown : Drift w (w.shutDown me) :=
  transition.trans <|
    (((cancelOther.trans cancelOther).trans failInflight).trans clearSubAcks).trans closeAllSlots

theorem maybeFinishReconnect {phase : Bool} : Drift w (w.maybeFinishReconnect phase) := by
  unfold World.maybeFinishReconnect
  split
  · dsimp only
    split
    · exact transition.after rfl
    · exact same rfl
  · exact refl w

theorem acceptPush {push : DecodedTopicPush} : Drift w (w.acceptPush s push).2 := by
  unfold World.acceptPush World.handOver
  split
  · exact same rfl
  · exact same rfl
  · dsimp only
    split <;> split <;> exact same rfl

theorem takeAck : Drift w (w.takeAck rid) := by
  unfold World.takeAck
  split <;> exact same rfl

theorem startSubWorker : Drift w (w.startSubWorker s) := by
  unfold World.startSubWorker
  dsimp only
  split
  · exact refl w
  · split <;> split <;> first
      | exact same rfl
      | exact (spawn (by simp)).after rfl

theorem beginSubscribe {hz : PyFloat} : Drift w (w.beginSubscribe σ s topic hz) := by
  unfold World.beginSubscribe
  split
  · exact same rfl
  · exact startSubWorker.after rfl

theorem drainFront {K : Nat} {front : DecodedTopicPush} {rest : List DecodedTopicPush} :
    Drift w (w.drainFront s K front rest).2 := by
  unfold World.drainFront
  split
  · exact same rfl
  · exact acceptPush.after rfl

theorem popDispatch : Drift w (w.popDispatch s).2 := by
  unfold World.popDispatch
  split <;> exact same rfl

theorem restartHeartbeat : Drift w w.restartHeartbeat := by
  unfold World.restartHeartbeat
  dsimp only
  split
  · split
    · exact same rfl
    · exact cancel.trans (same rfl)
  · exact same rfl

theorem startHeartbeat : Drift w (w.startHeartbeat σ) := by
  unfold World.startHeartbeat
  dsimp only
  split
  · exact restartHeartbeat
  · exact restartHeartbeat.trans ((spawn (by simp)).trans (same rfl))

theorem resolveAllSemantics : Drift w w.resolveAllSemantics :=
  foldl (f := fun w s => w.setSlot s fun x => { x with semantics := w.resolveSemantics x.topic })
    (fun _ _ => same rfl) _ w

theorem armReconnect : Drift w w.armReconnect := by
  unfold World.armReconnect World.reconnectOk
  dsimp only
  split
  · exact transition.after rfl
  · exact same rfl

theorem beginSession {isR : Bool} {resp : DecodedResponse} :
    Drift w (w.beginSession σ isR c resp) := by
  -- the parts of the beginning of a session, in the order of the source
  have hbegun : Drift w ((w.setRobotInfo resp).startHeartbeat σ).resolveAllSemantics :=
    (startHeartbeat.trans resolveAllSemantics).after rfl
  unfold World.beginSession
  dsimp only
  split
  · exact hbegun.trans (armReconnect.after rfl)
  · exact hbegun.trans (transition.after rfl)

theorem restored {isR : Bool} : Drift w (w.restored isR) := by
  unfold World.restored World.startReplay
  split
  · split
    · exact spawn (by simp)
    · exact refl w
  · exact refl w

theorem estopReplayed : Drift w w.estopReplayed := by
  unfold World.estopReplayed World.replayOk
  dsimp only
  split
  · exact transition.after rfl
  · exact same rfl

theorem handleRpcResponse {resp : DecodedResponse} : Drift w (w.handleRpcResponse resp) := by
  unfold World.handleRpcResponse
  split
  · exact same rfl
  · split
    · exact (resolve rfl).after rfl
    · exact (resolve rfl).after rfl

end Updates

/-! ### The environment and the event loop -/

/-- The environment only drifts, or time passes. -/
theorem env {e : EnvStep} (h : World.env e w = some w') : Drift w w' ∨
    ∃ seconds epochMs, 0 ≤ seconds ∧
      w' = { w with clock := ⟨w.clock.steady + seconds, epochMs⟩ } := by
  unfold World.env at h
  split at h
  · split at h
    · rename_i hpos
      exact .inr ⟨_, _, hpos, (Option.some.inj h).symm⟩
    · cases h
  · split at h
    · obtain rfl := Option.some.inj h
      exact .inl (client fun _ => ⟨rfl, rfl⟩)
    · cases h
  · rename_i rid
    unfold World.fireTimer at h
    split at h
    · cases h
    · -- a request that is still in flight ends with the time-out
      obtain rfl := Option.some.inj h
      left
      split
      · exact (resolve rfl).after rfl
      · exact same rfl
    · obtain rfl := Option.some.inj h
      exact .inl ((spawn (by simp)).after rfl)
  · split at h
    · obtain rfl := Option.some.inj h
      exact .inl (spawn (by simp))
    · cases h
  · obtain rfl := Option.some.inj h
    exact .inl (spawn (by simp))
  · split at h
    · obtain rfl := Option.some.inj h
      exact .inl cancel
    · cases h
  · split at h
    · obtain rfl := Option.some.inj h
      left
      unfold World.dropHandle
      dsimp only
      split
      · exact same rfl
      · exact (spawn (by simp)).after rfl
    · cases h

theorem finish {t : TaskId} {r : Except Exn Unit} : Drift w (w.finish t r) := by
  have hfinish : Drift w { w with tasks := w.tasks.finish t } :=
    retask rfl fun _ => Tasks.pending_finish_le
  unfold World.finish
  dsimp only
  split
  · exact hfinish
  · exact hfinish
  · split
    · exact (hfinish.trans (push rfl)).trans (spawn (by simp))
    · exact hfinish.trans (push rfl)

end Drift

end KaroX2
