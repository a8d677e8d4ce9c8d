/-
KaroX2/Aging.lean

A task is started once.

No update of the table of tasks undoes the start of a task, so none of the updates of
the outline does.
-/
import KaroX2.Walk.Tasks

namespace KaroX2

open Coop

namespace Coop.Tasks

variable {P : Type} {a b c : Tasks P} {t u : TaskId}

/-- The task has been started. -/
def Begun (ts : Tasks P) (t : TaskId) : Prop := ∃ x, ts.get? t = some x ∧ x.status ≠ .created

/-- What has been started in the one table has been in the other. -/
def Ages (a b : Tasks P) : Prop := ∀ t, a.Begun t → b.Begun t

namespace Ages

theorem refl : Ages a a := fun _ => id

theorem trans (h : Ages a b) (h' : Ages b c) : Ages a c := fun t => h' t ∘ h t

theorem spawn {p : P} : Ages a (a.spawn p) := by
  rintro t ⟨x, hx, hs⟩
  exact ⟨x, get?_spawn_of_some hx, hs⟩

theorem update {f : Task P → Task P} (hf : ∀ x, x.status ≠ .created → (f x).status ≠ .created) :
    Ages a (a.update u f) := by
  rintro t ⟨x, hx, hs⟩
  by_cases hu : u = t
  · exact ⟨f x, by rw [get?_update, if_pos hu, hx]; rfl, hf x hs⟩
  · exact ⟨x, by rw [get?_update, if_neg hu, hx], hs⟩

theorem begin : Ages a (a.begin u) := update fun _ _ => by simp

theorem finish : Ages a (a.finish u) := update fun _ _ => by simp

theorem served : Ages a (a.served u) := update fun _ h => h

theorem cancel : Ages a (a.cancel u) := by
  refine update fun x h => ?_
  split
  · exact h
  · exact h

theorem cancels {q : TaskId → Prop} (h : Cancels q a b) : Ages a b := by
  induction h with
  | refl => exact refl
  | cancel _ _ ih => exact ih.trans cancel

end Ages

end Coop.Tasks

variable {σ : Setup} {w w' : World} {x : Running Karo}

/-- No task of the first world is to be started again in the second. -/
def Ages (w w' : World) : Prop := w.tasks.Ages w'.tasks

namespace Ages

variable {w₁ w₂ : World}

theorem refl : Ages w w := Tasks.Ages.refl

theorem trans (h : Ages w w₁) (h' : Ages w₁ w₂) : Ages w w₂ := Tasks.Ages.trans h h'

theorem of_eq (h : w'.tasks = w.tasks) : Ages w w' := by
  show w.tasks.Ages w'.tasks
  rw [h]
  exact Tasks.Ages.refl

theorem of_spawn {j : Job} (h : w'.tasks = w.tasks.spawn j) : Ages w w' := by
  show w.tasks.Ages w'.tasks
  rw [h]
  exact Tasks.Ages.spawn

theorem silent {q : TaskId → Prop} (h : Silent q w w') : Ages w w' := Tasks.Ages.cancels h.tasks

theorem push {o : Obs} : Ages w (w.push o) := of_eq rfl

theorem transition {new : ConnectionState} {info : StateChangeInfo} :
    Ages w (w.transition new info) := of_eq transition_tasks

theorem retries (h : Retries w w') : Ages w w' := by
  cases h with
  | refused _ => exact refl
  | exhausted _ _ _ => exact of_spawn rfl
  | scheduled _ n ms draws => exact of_spawn rfl

theorem closeSlot {me : TaskId} {topic reason : String} {s : SlotId} {code : ErrorCode} :
    Ages w (w.closeSlot me topic s code reason) := silent (Silent.closeSlot (q := fun _ => False))

theorem maybeFinishReconnect {b : Bool} : Ages w (w.maybeFinishReconnect b) := by
  unfold World.maybeFinishReconnect
  split
  · dsimp only
    split
    · exact of_eq transition_tasks
    · exact of_eq rfl
  · exact refl

theorem beginSubscribe {topic : String} {hz : PyFloat} {s : SlotId} :
    Ages w (w.beginSubscribe σ s topic hz) := by
  unfold World.beginSubscribe
  split
  · exact of_eq rfl
  · let v : World := { w.newSlot σ s topic hz with
      subs.subs := (w.newSlot σ s topic hz).subs.subs.insert topic s }
    show Ages w (v.startSubWorker s)
    rcases startSubWorker_cases v s with ⟨f, h, -⟩ | ⟨q, h⟩
    · rw [h]
      exact of_eq rfl
    · rw [h]
      exact of_spawn rfl

theorem beginSession {isR : Bool} {c : WsId} {resp : DecodedResponse} :
    Ages w (w.beginSession σ isR c resp) := by
  have hinfo : Ages w (w.setRobotInfo resp) := of_eq rfl
  have hheart : ∀ v : World, Ages v (v.startHeartbeat σ) := by
    intro v
    obtain ⟨w₁, h₁, -, h⟩ := startHeartbeat_eq (σ := σ) (w := v)
    rw [h]
    split
    · exact silent h₁
    · exact (silent h₁).trans (of_spawn rfl)
  have hsem : ∀ v : World, Ages v v.resolveAllSemantics :=
    fun v => silent (Silent.resolveAllSemantics (q := fun _ => False))
  have harm : ∀ v : World, Ages v v.armReconnect := by
    intro v
    unfold World.armReconnect World.reconnectOk
    dsimp only
    split
    · exact of_eq transition_tasks
    · exact of_eq rfl
  have hlive := (hinfo.trans (hheart _)).trans (hsem _)
  unfold World.beginSession
  dsimp only
  split
  · exact (hlive.trans push).trans (harm _)
  · exact (hlive.trans push).trans transition

theorem move (h : Move σ x w w') : Ages w w' := by
  cases h with
  | quiet h => exact silent h.toSilent
  | sent | answered | streamEnded | closeFired | latched | dispatched => exact of_eq rfl
  | connected =>
    unfold World.connect
    split
    · exact refl
    · exact of_spawn rfl
  | buffered => exact of_eq rfl
  | received => exact silent (Silent.acceptPush (q := fun _ => False))
  | drained => exact silent (Silent.drainFront (q := fun _ => False))
  | startedAfresh => exact of_eq rfl
  | activated s phase ep resp hp hx hs hl ha h =>
    rcases h with ⟨-, rfl⟩ | ⟨-, rfl⟩
    · exact of_eq rfl
    · exact of_eq rfl
  | forgotten => exact silent (Silent.takeAck (q := fun _ => False))
  | lost q reason msg =>
    have hpush : Ages w (w.push (.transportClose reason msg)) := of_eq rfl
    exact (hpush.trans (silent Silent.dropSession)).trans (of_eq transientFailure_tasks)
  | shutDown => exact transition.trans (silent Silent.closeDown)
  | aborted => exact transition
  | turnedDown => exact of_eq transientFailure_tasks

theorem enters {l : Label} (h : Enters σ x w l w') : Ages w w' := by
  cases h with
  | establish => exact transition
  | unsendable => exact closeSlot
  | subscribing => exact of_eq rfl
  | sendFailed => exact of_eq rfl
  | replayFailed => exact of_eq rfl
  | abortToFatal => exact silent Silent.abandon
  | handleSubscribeAck => exact silent (Silent.beginAck (q := fun _ => False))
  | subscribe => exact beginSubscribe
  | _ => exact refl

theorem leaves {l : Label} {q : List Label} (h : Leaves σ x q w l w') : Ages w w' := by
  cases h with
  | dialFailed => exact trans (of_eq transientFailure_tasks) (retries (retry_retries _))
  | retried => exact retries (retry_retries w)
  | restored isR =>
    cases isR
    · exact refl
    · show Ages w w.startReplay
      unfold World.startReplay
      split
      · exact of_spawn rfl
      · exact refl
  | closed p l c last hp hx hl =>
    rcases hl with ⟨-, rfl⟩ | ⟨-, code, message, rfl⟩
    · exact of_eq rfl
    · exact of_eq transition_tasks
  | lossHandled => exact retries (retry_retries w)
  | rejected => exact closeSlot.trans maybeFinishReconnect
  | dropped => exact closeSlot
  | acked s phase =>
    let v := w.setSlot s fun x => { x with everActive := true, isReconnectResume := false }
    have hset : Ages w v := of_eq rfl
    exact hset.trans maybeFinishReconnect
  | replayed =>
    unfold World.estopReplayed
    dsimp only
    split
    · exact of_eq transition_tasks
    · exact of_eq rfl
  | intended => exact of_eq rfl
  | unsubscribed handle syncWait topic s code reason hp hx h =>
    rcases h with rfl | rfl
    · exact closeSlot
    · exact closeSlot.trans (push (w := w.closeSlot x.task topic s code reason))
  | handedOut => exact of_eq rfl
  | _ => exact refl

theorem becomes {q : List Label} (h : Becomes σ x w q w') : Ages w w' := by
  cases h with
  | reconnects => exact of_eq transition_tasks
  | installs => exact of_spawn rfl
  | begins => exact beginSession
  | restores => exact refl

theorem env {e : EnvStep} (h : World.env e w = some w') : Ages w w' := by
  cases env_env h with
  | quiet h => exact silent h.toSilent
  | cancels a h => exact Tasks.Ages.cancel
  | acks hq => exact (silent hq.toSilent).trans (of_spawn rfl)
  | calls => exact of_spawn rfl
  | drops hq => exact (silent hq.toSilent).trans (of_spawn rfl)

end Ages

/-- **Tasks are started once**: no step undoes a start. -/
theorem ages_guaranteed : Guarantees (outline σ) (fun _ _ _ => True) .trivial
    fun _ w w' => Ages w w' where
  refl := fun _ _ => .refl
  step := fun _ _ hs => by
    rcases hs with ⟨-, h⟩ | ⟨l, -, h⟩ | h
    · exact .move h
    · exact .leaves h
    · exact .becomes h
  enter := fun _ _ h => .enters h
  start := fun _ => Tasks.Ages.begin
  resume := fun {s r w} => by
    show Ages w (w.resume s.task s.op r)
    obtain ⟨ts, evt, h, rfl | rfl⟩ := resume_eq s.task s.op r w
    · exact .of_eq (by rw [h])
    · rw [h]
      exact Tasks.Ages.served
  finish := fun {x r w _} _ _ => by
    show Ages w (w.finish x.task r)
    obtain ⟨l, ts, h, -, rfl | ⟨code, message, rfl⟩⟩ := finish_eq w x.task r
    · rw [h]
      exact Tasks.Ages.finish
    · rw [h]
      exact Tasks.Ages.trans .finish .spawn
  env := fun h => .env h

end KaroX2
