/-
KaroX2/Progress.lean

What no step undoes.

`Later` holds between the worlds before and after every step of the outline:
the history is only added to, tasks keep their bodies, slots their topics and
done futures their results, and the counters do not go back.
-/
import KaroX2.Steps

namespace KaroX2

open Coop

variable {σ : Setup} {w w' w₁ w₂ w₃ : World} {x : Running Karo}

namespace Later

theorem refl (w : World) : Later w w :=
  ⟨⟨[], rfl⟩, fun _ _ => id, le_rfl, fun _ _ => rfl, le_rfl, le_rfl, fun _ _ => rfl⟩

theorem trans (h : Later w₁ w₂) (h' : Later w₂ w₃) : Later w₁ w₃ where
  log := by
    obtain ⟨l, hl⟩ := h.log
    obtain ⟨m, hm⟩ := h'.log
    exact ⟨m ++ l, by rw [hm, hl, List.append_assoc]⟩
  proc := fun t j ht => h'.proc t j (h.proc t j ht)
  slotCount := h.slotCount.trans h'.slotCount
  topic := fun s hs => (h'.topic s (hs.trans_le h.slotCount)).trans (h.topic s hs)
  clientCount := h.clientCount.trans h'.clientCount
  nextRid := h.nextRid.trans h'.nextRid
  future := fun rid hd => by
    have he := h.future rid hd
    exact (h'.future rid (he ▸ hd)).trans he

theorem epoch_le (h : Later w w') : epoch w.log ≤ epoch w'.log := by
  obtain ⟨l, hl⟩ := h.log
  rw [hl, epoch, epoch, List.countP_append]
  exact Nat.le_add_left _ _

/-- An update of the other parts of the world. -/
theorem of_eq (h₁ : w'.log = w.log) (h₂ : w'.tasks = w.tasks) (h₃ : w'.subs = w.subs)
    (h₄ : w'.clientCount = w.clientCount) (h₅ : w'.rpc = w.rpc) : Later w w' :=
  ⟨⟨[], h₁⟩, fun _ _ => by rw [h₂]; exact id, by rw [h₃], fun _ _ => by rw [h₃], h₄ ▸ le_rfl,
    h₅ ▸ le_rfl, fun _ _ => by rw [h₅]⟩

theorem push {o : Obs} : Later w (w.push o) := { refl w with log := ⟨[o], rfl⟩ }

theorem setSlot {s : SlotId} {f : SubSlot → SubSlot} (hf : ∀ y, (f y).topic = y.topic) :
    Later w (w.setSlot s f) :=
  { refl w with
    topic := fun u _ => by
      rcases eq_or_ne u s with rfl | h
      · simp [World.setSlot, hf]
      · simp [World.setSlot, h] }

theorem spawn {j : Job} : Later w (w.spawn j) :=
  { refl w with proc := fun _ _ => Tasks.procOf_spawn }

theorem transition {new : ConnectionState} {info : StateChangeInfo} :
    Later w (w.transition new info) := by
  unfold World.transition
  split
  · exact refl w
  · exact { refl w with log := ⟨[_], rfl⟩ }

theorem andTransition {new : ConnectionState} {info : StateChangeInfo} (h : Later w w₁) :
    Later w (w₁.transition new info) :=
  h.trans transition

theorem transientFailure {reason message : String} {code : ErrorCode} :
    Later w (w.transientFailure σ reason code message) := by
  obtain ⟨info, h⟩ := transientFailure_eq σ w reason code message
  rw [h]
  exact andTransition (of_eq rfl rfl rfl rfl rfl)

theorem retries (h : Retries w w') : Later w w' := by
  cases h with
  | refused _ => exact refl w
  | exhausted _ _ _ => exact spawn
  | scheduled _ n ms draws =>
    exact { refl w with log := ⟨[_], rfl⟩, proc := fun _ _ => Tasks.procOf_spawn }

end Later

theorem Silent.later {q : TaskId → Prop} (h : Silent q w w') : Later w w' where
  log := by
    obtain ⟨l, hl, -⟩ := h.log
    exact ⟨l, hl⟩
  proc := fun t j ht => (h.tasks.procOf_eq t).trans ht
  slotCount := h.slotCount ▸ le_rfl
  topic := fun s _ => h.topic s
  clientCount := h.clientCount ▸ le_rfl
  nextRid := h.nextRid
  future := h.future

theorem Quiet.later (h : Quiet w w') : Later w w' := h.toSilent.later

/-! ### The updates of the outline -/

namespace Later

theorem connect : Later w w.connect := by
  unfold World.connect
  split
  · exact refl w
  · have h : Later w (w.spawn .establishInitial) := spawn
    exact h.trans (of_eq rfl rfl rfl rfl rfl)

theorem enlist {s : SlotId} {topic : String} : Later w (w.enlist s topic) := by
  have h₁ : Later w { w with subs.subs := w.subs.subs.insert topic s } :=
    { refl w with }
  refine h₁.trans ?_
  rcases startSubWorker_cases { w with subs.subs := w.subs.subs.insert topic s } s with
    ⟨f, h, hf⟩ | ⟨q, h⟩
  · rw [World.enlist, h]
    exact (Quiet.setSlot hf).later
  · rw [World.enlist, h]
    exact (setSlot fun _ => by rfl).trans spawn

theorem loseTransport {me : TaskId} {reason : ErrorCode} {msg : String} :
    Later w (w.loseTransport σ me reason msg) := by
  have h : Later w ((w.push (.transportClose reason msg)).dropSession me reason msg) :=
    push.trans Silent.dropSession.later
  exact h.trans transientFailure

theorem shutDown {me : TaskId} : Later w (w.shutDown me) :=
  transition.trans Silent.closeDown.later

theorem install : Later w w.install where
  log := ⟨[_], rfl⟩
  proc := fun _ _ => Tasks.procOf_spawn
  slotCount := le_rfl
  topic := fun _ _ => rfl
  clientCount := Nat.le_succ _
  nextRid := le_rfl
  future := fun _ _ => rfl

theorem newSlot {topic : String} {hz : PyFloat} :
    Later w (w.newSlot σ w.subs.slotCount topic hz) :=
  { refl w with
    slotCount := Nat.le_succ _
    topic := fun s hs => by simp [World.newSlot, World.setSlot, Nat.ne_of_lt hs] }

theorem beginSubscribe {topic : String} {hz : PyFloat} :
    Later w (w.beginSubscribe σ w.subs.slotCount topic hz) := by
  unfold World.beginSubscribe
  split
  · exact newSlot.trans (Silent.markClosed (q := fun _ => False)).later
  · exact newSlot.trans enlist

theorem startHeartbeat : Later w (w.startHeartbeat σ) := by
  obtain ⟨w₁, h₁, -, h⟩ := startHeartbeat_eq (σ := σ) (w := w)
  rw [h]
  split
  · exact h₁.later
  · exact h₁.later.trans { refl w₁ with proc := fun _ _ => Tasks.procOf_spawn }

theorem maybeFinishReconnect {b : Bool} : Later w (w.maybeFinishReconnect b) := by
  unfold World.maybeFinishReconnect
  split
  · dsimp only
    split
    · exact andTransition (of_eq rfl rfl rfl rfl rfl)
    · exact of_eq rfl rfl rfl rfl rfl
  · exact refl w

theorem beginSession {isR : Bool} {c : WsId} {resp : DecodedResponse} :
    Later w (w.beginSession σ isR c resp) := by
  have h₁ : Later w (w.setRobotInfo resp) := of_eq rfl rfl rfl rfl rfl
  have h₂ : Later w (((w.setRobotInfo resp).startHeartbeat σ).resolveAllSemantics) :=
    (h₁.trans startHeartbeat).trans (Silent.resolveAllSemantics (q := fun _ => False)).later
  have h₃ : ∀ v : World, Later v v.armReconnect := by
    intro v
    unfold World.armReconnect World.reconnectOk
    dsimp only
    split
    · exact andTransition (of_eq rfl rfl rfl rfl rfl)
    · exact of_eq rfl rfl rfl rfl rfl
  unfold World.beginSession
  dsimp only
  split
  · exact (h₂.trans push).trans (h₃ _)
  · exact (h₂.trans push).trans transition

theorem startReplay : Later w w.startReplay := by
  unfold World.startReplay
  split
  · exact spawn
  · exact refl w

theorem estopReplayed : Later w w.estopReplayed := by
  unfold World.estopReplayed World.replayOk World.clearEstopPending
  dsimp only
  split
  · exact andTransition (of_eq rfl rfl rfl rfl rfl)
  · exact of_eq rfl rfl rfl rfl rfl

end Later

/-! ### The outline makes progress -/

theorem Move.later (h : Move σ x w w') : Later w w' := by
  cases h with
  | quiet h => exact h.later
  | sent | answered | streamEnded | closeFired => exact Later.push
  | connected => exact Later.connect
  | latched => exact Later.of_eq rfl rfl rfl rfl rfl
  | buffered => exact (Silent.bufferPending (q := fun _ => False)).later
  | received => exact (Silent.acceptPush (q := fun _ => False)).later
  | dispatched => exact Later.push
  | drained => exact (Silent.drainFront (q := fun _ => False)).later
  | startedAfresh => exact (Silent.startAfresh (q := fun _ => False)).later
  | activated s phase ep resp hp hx hs hl ha h =>
    rcases h with ⟨-, rfl⟩ | ⟨-, rfl⟩
    · exact (Silent.activateTelemetry (q := fun _ => False)).later
    · exact (Silent.activateEvent (q := fun _ => False)).later
  | forgotten => exact (Silent.takeAck (q := fun _ => False)).later
  | lost => exact Later.loseTransport
  | shutDown => exact Later.shutDown
  | aborted => exact Later.transition
  | turnedDown => exact Later.transientFailure

theorem Enters.later {l : Label} (h : Enters σ x w l w') : Later w w' := by
  cases h with
  | establish => exact Later.transition
  | unsendable => exact (Silent.closeSlot (q := fun _ => False)).later
  | subscribing => exact (Silent.registerSubscribe (q := fun _ => False)).later
  | sendFailed => exact (Silent.unregisterSubscribe (q := fun _ => False)).later
  | replayFailed => exact Later.of_eq rfl rfl rfl rfl rfl
  | abortToFatal => exact Silent.abandon.later
  | handleSubscribeAck => exact (Silent.beginAck (q := fun _ => False)).later
  | subscribe => exact Later.beginSubscribe
  | _ => exact Later.refl w

theorem Leaves.later {l : Label} {q : List Label} (h : Leaves σ x q w l w') : Later w w' := by
  have closeSlot : ∀ topic s code reason, Later w (w.closeSlot x.task topic s code reason) :=
    fun _ _ _ _ => (Silent.closeSlot (q := fun _ => False)).later
  cases h with
  | dialFailed => exact Later.transientFailure.trans (Later.retries (retry_retries _))
  | retried => exact Later.retries (retry_retries w)
  | restored isR =>
    cases isR
    · exact Later.refl w
    · exact Later.startReplay
  | closed p l c last hp hx hl =>
    have h : Later w w.clearWs := Later.of_eq rfl rfl rfl rfl rfl
    rcases hl with ⟨-, rfl⟩ | ⟨-, code, message, rfl⟩
    · exact h
    · exact h.trans Later.transition
  | lossHandled => exact Later.retries (retry_retries w)
  | rejected => exact (closeSlot _ _ _ _).trans Later.maybeFinishReconnect
  | dropped => exact closeSlot _ _ _ _
  | acked s =>
    exact (Later.setSlot fun _ => by rfl).trans Later.maybeFinishReconnect
  | replayed => exact Later.estopReplayed
  | intended => exact Later.of_eq rfl rfl rfl rfl rfl
  | unsubscribed handle syncWait topic s code reason hp hx h =>
    rcases h with rfl | rfl
    · exact closeSlot _ _ _ _
    · exact (closeSlot _ _ _ _).trans Later.push
  | handedOut => exact Later.setSlot fun _ => by rfl
  | _ => exact Later.refl w

theorem Becomes.later {q : List Label} (h : Becomes σ x w q w') : Later w w' := by
  cases h with
  | reconnects => exact Later.andTransition (Later.of_eq rfl rfl rfl rfl rfl)
  | installs => exact Later.install
  | begins => exact Later.beginSession
  | restores => exact Later.refl w

theorem outline_step_later {q : List Label} (h : (outline σ).step x q w w') : Later w w' := by
  rcases h with ⟨-, h⟩ | ⟨l, -, h⟩ | h
  · exact h.later
  · exact h.later
  · exact h.later

/-! ### The event loop makes progress -/

theorem begin_later {t : TaskId} : Later w { w with tasks := w.tasks.begin t } :=
  { Later.refl w with proc := fun _ _ h => Tasks.procOf_begin.trans h }

theorem resume_later {t : TaskId} {op : Op} {r : Except Exn Reply} :
    Later w (w.resume t op r) := by
  obtain ⟨ts, evt, h, rfl | rfl⟩ := resume_eq t op r w
  · rw [h]
    exact Later.of_eq rfl rfl rfl rfl rfl
  · rw [h]
    exact { Later.refl w with proc := fun _ _ h => Tasks.procOf_served.trans h }

theorem finish_later {t : TaskId} {r : Except Exn Unit} : Later w (w.finish t r) := by
  obtain ⟨l, ts, h, -, rfl | ⟨code, message, rfl⟩⟩ := finish_eq w t r
  · rw [h]
    exact { Later.refl w with log := ⟨l, rfl⟩, proc := fun _ _ h => Tasks.procOf_finish.trans h }
  · rw [h]
    exact { Later.refl w with
      log := ⟨l, rfl⟩
      proc := fun _ _ h => Tasks.procOf_spawn (Tasks.procOf_finish.trans h) }

theorem env_later {e : EnvStep} (h : World.env e w = some w') : Later w w' := by
  cases env_env h with
  | quiet h => exact h.later
  | cancels a h =>
    exact { Later.refl w with proc := fun _ _ h => Tasks.procOf_cancel.trans h }
  | acks hq => exact hq.later.trans Later.spawn
  | calls => exact Later.spawn
  | drops hq => exact hq.later.trans Later.spawn

/-- **Tasks keep their jobs**, and the log only grows. -/
theorem later_guaranteed {A : Constraint (robot σ)} {K : Invariant Karo} :
    Guarantees (outline σ) A K fun _ w w' => Later w w' where
  refl := fun _ w => .refl w
  step := fun _ _ hs => outline_step_later hs
  enter := fun _ _ h => h.later
  start := fun _ => begin_later
  resume := resume_later
  finish := fun _ _ => finish_later
  env := fun h => env_later h

end KaroX2
