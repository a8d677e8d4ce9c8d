/-
KaroX2/Crew.lean

The tasks under way, and the workers among them.

The crew are the tasks that have been started and have not ended; a task is in it once.
Of all tasks that were created to dispatch the pushes of a slot, only the one that the
slot names is still to come or under way: `_start_sub_worker` creates a worker where the
last one is done or there was none.
-/
import KaroX2.Aging
import Mathlib.Data.Multiset.MapFold

namespace KaroX2

open Coop

namespace Coop.Tasks

variable {P : Type} {a b : Tasks P} {t u : TaskId} {p : P} {x : Status}

/-! ### The status of a task -/

theorem status?_update {f : Task P → Task P} (hf : ∀ x, (f x).status = x.status) :
    (a.update u f).status? t = a.status? t := by
  simp only [status?, get?_update]
  split
  · cases a.get? t <;> simp [hf]
  · rfl

theorem status?_cancel : (a.cancel u).status? t = a.status? t :=
  status?_update fun x => by split <;> rfl

theorem status?_served : (a.served u).status? t = a.status? t := status?_update fun _ => rfl

theorem status?_spawn (h : a.status? t = some x) : (a.spawn p).status? t = some x := by
  obtain ⟨y, hy, rfl⟩ := Option.map_eq_some_iff.mp h
  rw [status?, get?_spawn_of_some hy]
  rfl

/-- An update of another task. -/
theorem status?_update_ne {f : Task P → Task P} (h : u ≠ t) :
    (a.update u f).status? t = a.status? t := by
  rw [status?, get?_update, if_neg h]
  rfl

theorem status?_begin (h : a.status? u = some x) : (a.begin u).status? u = some .started := by
  obtain ⟨y, hy, -⟩ := Option.map_eq_some_iff.mp h
  rw [status?, begin, get?_update, if_pos rfl, hy]
  rfl

theorem status?_finish (h : a.status? u = some x) : (a.finish u).status? u = some .finished := by
  obtain ⟨y, hy, -⟩ := Option.map_eq_some_iff.mp h
  rw [status?, finish, get?_update, if_pos rfl, hy]
  rfl

theorem done_eq : a.done t = decide (a.status? t = some .finished) := by
  unfold done status?
  cases a.get? t with
  | none => simp
  | some x => simp

end Coop.Tasks

variable {σ : Setup} {w w' w'' : World} {x : Running Karo} {s : SlotId}

/-! ### Updates that start no worker -/

/-- The tasks are where they were, and no worker is created. -/
structure Retains (w w' : World) : Prop where
  slotCount : w.subs.slotCount ≤ w'.subs.slotCount
  worker : ∀ s, (w'.subs.slots s).dispatchWorker = (w.subs.slots s).dispatchWorker
  hired : ∀ t s, w'.tasks.procOf t = some (.subWorker s) → w.tasks.procOf t = some (.subWorker s)
  status : ∀ t x, w.tasks.status? t = some x → w'.tasks.status? t = some x

namespace Retains

theorem same (h : (w'.tasks, w'.subs.slotCount, w'.subs.slots)
    = (w.tasks, w.subs.slotCount, w.subs.slots)) : Retains w w' := by
  obtain ⟨htasks, hcount, hslots⟩ : w'.tasks = w.tasks ∧ w'.subs.slotCount = w.subs.slotCount ∧
      w'.subs.slots = w.subs.slots := by simpa using h
  exact ⟨hcount.ge, fun _ => by rw [hslots], fun _ _ => htasks ▸ id, fun _ _ => htasks ▸ id⟩

theorem refl (w : World) : Retains w w := same rfl

theorem trans (h : Retains w w') (h' : Retains w' w'') : Retains w w'' where
  slotCount := h.slotCount.trans h'.slotCount
  worker s := (h'.worker s).trans (h.worker s)
  hired t s ht := h.hired t s (h'.hired t s ht)
  status t x ht := h'.status t x (h.status t x ht)

theorem of_silent {p : TaskId → Prop} (h : Silent p w w') : Retains w w' where
  slotCount := h.slotCount.ge
  worker := h.worker
  hired t s ht := (h.tasks.procOf_eq t).symm.trans ht
  status t x ht := by
    have hle : ∀ {ts ts' : Tasks Job} {r : TaskId → Prop}, Tasks.Cancels r ts ts' →
        ts'.status? t = ts.status? t := by
      intro ts ts' r hc
      induction hc with
      | refl => rfl
      | cancel _ _ ih => rw [Tasks.status?_cancel, ih]
    rw [hle h.tasks, ht]

theorem spawn {j : Job} (hj : ∀ s, j ≠ .subWorker s) : Retains w (w.spawn j) where
  slotCount := le_rfl
  worker _ := rfl
  hired t s ht := by
    have ht : (w.tasks.spawn j).procOf t = some (.subWorker s) := ht
    by_cases hn : t = w.tasks.next
    · subst hn
      rw [Tasks.procOf_spawn_next] at ht
      exact absurd (Option.some.inj ht) (hj s)
    · rw [Tasks.procOf, Tasks.get?_spawn, if_neg hn] at ht
      exact ht
  status _ _ := Tasks.status?_spawn

/-- Other parts of the world change before. -/
theorem after {v : World} (h : Retains v w') (hv : (v.tasks, v.subs.slotCount, v.subs.slots)
    = (w.tasks, w.subs.slotCount, w.subs.slots)) : Retains w w' := (same hv).trans h

theorem transition {new : ConnectionState} {info : StateChangeInfo} :
    Retains w (w.transition new info) := same (by rw [transition_tasks, transition_subs])

theorem transientFailure {reason message : String} {code : ErrorCode} :
    Retains w (w.transientFailure σ reason code message) :=
  same (by rw [transientFailure_tasks, transientFailure_subs])

theorem push {o : Obs} : Retains w (w.push o) := same rfl

theorem retries (h : Retries w w') : Retains w w' := by
  cases h with
  | refused => exact refl w
  | exhausted h code message => exact spawn (by simp)
  | scheduled h n ms draws =>
    have hspawn : Retains w (w.spawn (.doReconnect n ms)) := spawn (by simp)
    exact hspawn.trans (same rfl)

theorem finishes {phase : Bool} (h : Finishes w phase w') : Retains w w' := by
  cases h with
  | refused => exact refl w
  | counted => exact same rfl
  | finished => exact transition.after rfl

theorem closeSlot {me : TaskId} {topic reason : String} {code : ErrorCode} :
    Retains w (w.closeSlot me topic s code reason) :=
  of_silent (Silent.closeSlot (q := fun _ => False))

theorem setSlot {f : SubSlot → SubSlot} (hf : ∀ x, (f x).dispatchWorker = x.dispatchWorker) :
    Retains w (w.setSlot s f) where
  slotCount := le_rfl
  worker u := by
    by_cases h : u = s
    · subst h
      simp [World.setSlot, hf]
    · simp [World.setSlot, h]
  hired _ _ := id
  status _ _ := id

theorem beginSession {isR : Bool} {c : WsId} {resp : DecodedResponse} :
    Retains w (w.beginSession σ isR c resp) := by
  have hinfo : Retains w (w.setRobotInfo resp) := same rfl
  have hbeat : ∀ v : World, Retains v (v.startHeartbeat σ) := by
    intro v
    obtain ⟨v₁, hv, -, h⟩ := startHeartbeat_eq (σ := σ) (w := v)
    rw [h]
    split
    · exact of_silent hv
    · have hspawn : Retains v₁ (v₁.spawn .heartbeat) := spawn (by simp)
      exact ((of_silent hv).trans hspawn).trans (same rfl)
  have harm : ∀ v : World, Retains v v.armReconnect := by
    intro v
    unfold World.armReconnect World.reconnectOk
    dsimp only
    split
    · exact transition.after rfl
    · exact same rfl
  have hbegun := (hinfo.trans (hbeat _)).trans
    (of_silent (Silent.resolveAllSemantics (q := fun _ => False)))
  unfold World.beginSession
  dsimp only
  split
  · exact (hbegun.trans push).trans (harm _)
  · exact (hbegun.trans push).trans transition

/-! ### The steps of the outline -/

theorem move (h : Move σ x w w') : Retains w w' := by
  cases h with
  | quiet h => exact of_silent h.toSilent
  | sent | answered | streamEnded | closeFired | latched | dispatched => exact same rfl
  | connected =>
    unfold World.connect
    split
    · exact refl w
    · have hspawn : Retains w (w.spawn .establishInitial) := spawn (by simp)
      exact hspawn.trans (same rfl)
  | buffered => exact setSlot fun _ => rfl
  | received => exact of_silent (Silent.acceptPush (q := fun _ => False))
  | drained => exact of_silent (Silent.drainFront (q := fun _ => False))
  | startedAfresh => exact setSlot fun _ => rfl
  | activated s phase ep resp hp hx hs hl ha h =>
    rcases h with ⟨-, rfl⟩ | ⟨-, rfl⟩
    · exact of_silent (Silent.activateTelemetry (q := fun _ => False))
    · exact of_silent (Silent.activateEvent (q := fun _ => False))
  | forgotten => exact of_silent (Silent.takeAck (q := fun _ => False))
  | lost q reason msg =>
    have hpush : Retains w (w.push (.transportClose reason msg)) := push
    exact (hpush.trans (of_silent Silent.dropSession)).trans transientFailure
  | shutDown => exact transition.trans (of_silent Silent.closeDown)
  | aborted => exact transition
  | turnedDown => exact transientFailure

theorem leaves {l : Label} {q : List Label} (h : Leaves σ x q w l w') : Retains w w' := by
  cases h with
  | dialFailed => exact transientFailure.trans (retries (retry_retries _))
  | retried => exact retries (retry_retries w)
  | restored isR =>
    cases isR
    · exact refl w
    · show Retains w w.startReplay
      unfold World.startReplay
      split
      · exact spawn (by simp)
      · exact refl w
  | closed p l c last hp hx hl =>
    have hclear : Retains w w.clearWs := same rfl
    rcases hl with ⟨-, rfl⟩ | ⟨-, code, message, rfl⟩
    · exact hclear
    · exact hclear.trans transition
  | lossHandled => exact retries (retry_retries w)
  | rejected => exact closeSlot.trans (finishes (maybeFinishReconnect_finishes _ _))
  | dropped => exact closeSlot
  | acked s =>
    have hset : Retains w (w.setSlot s fun x =>
        { x with everActive := true, isReconnectResume := false }) := setSlot fun _ => rfl
    exact hset.trans (finishes (maybeFinishReconnect_finishes _ _))
  | replayed =>
    unfold World.estopReplayed World.replayOk
    dsimp only
    split
    · exact transition.after rfl
    · exact same rfl
  | intended => exact same rfl
  | unsubscribed handle syncWait topic s code reason hp hx h =>
    rcases h with rfl | rfl
    · exact closeSlot
    · exact closeSlot.trans (same rfl)
  | handedOut => exact setSlot fun _ => rfl
  | _ => exact refl w

theorem becomes {q : List Label} (h : Becomes σ x w q w') : Retains w w' := by
  cases h with
  | reconnects => exact transition.after rfl
  | installs =>
    have hspawn : Retains w (w.spawn (.reader w.clientCount)) := spawn (by simp)
    exact hspawn.trans (same rfl)
  | begins => exact beginSession
  | restores => exact refl w

theorem step {q : List Label} (h : (outline σ).step x q w w') : Retains w w' := by
  rcases h with ⟨-, h⟩ | ⟨l, -, h⟩ | h
  · exact move h
  · exact leaves h
  · exact becomes h

/-- A call begins with an update that creates no worker, or it subscribes. -/
theorem enters {l : Label} (h : Enters σ x w l w') :
    Retains w w' ∨ ∃ topic hz, w' = w.beginSubscribe σ w.subs.slotCount topic hz := by
  cases h with
  | subscribe topic hz => exact .inr ⟨topic, hz, rfl⟩
  | establish => exact .inl transition
  | unsendable => exact .inl closeSlot
  | subscribing => exact .inl (of_silent (Silent.registerSubscribe (q := fun _ => False)))
  | sendFailed => exact .inl (of_silent (Silent.unregisterSubscribe (q := fun _ => False)))
  | replayFailed => exact .inl (same rfl)
  | abortToFatal => exact .inl (of_silent Silent.abandon)
  | handleSubscribeAck => exact .inl (of_silent (Silent.beginAck (q := fun _ => False)))
  | _ => exact .inl (refl w)

theorem env {e : EnvStep} (h : World.env e w = some w') : Retains w w' := by
  cases env_env h with
  | quiet h => exact of_silent h.toSilent
  | @cancels t =>
    have hproc : ∀ u, (w.tasks.cancel t).procOf u = w.tasks.procOf u := fun _ => Tasks.procOf_cancel
    exact ⟨le_rfl, fun _ => rfl, fun u s hu => (hproc u).symm.trans hu,
      fun u x hu => Tasks.status?_cancel.trans hu⟩
  | acks hq => exact (of_silent hq.toSilent).trans (spawn (by simp))
  | calls => exact spawn (by simp)
  | drops hq => exact (of_silent hq.toSilent).trans (spawn (by simp))

theorem resume {t : TaskId} {op : Op} {r : Except Exn Reply} : Retains w (w.resume t op r) := by
  obtain ⟨ts, evt, h, rfl | rfl⟩ := resume_eq t op r w
  · rw [h]
    exact same rfl
  · rw [h]
    have hproc : ∀ u, (w.tasks.served t).procOf u = w.tasks.procOf u := fun _ => Tasks.procOf_served
    exact ⟨le_rfl, fun _ => rfl, fun u s hu => (hproc u).symm.trans hu,
      fun u x hu => Tasks.status?_served.trans hu⟩

end Retains

/-! ### The crew -/

/-- The tasks under way. -/
def crew (r : Option (Running Karo)) (o : Multiset (Site Karo)) : Multiset TaskId :=
  match r with
  | some x => x.task ::ₘ Multiset.map Site.task o
  | none => Multiset.map Site.task o

/-- The tasks under way differ and have been started; a worker that has not ended is the one
that its slot names. -/
structure Manned (w : World) (r : Option (Running Karo)) (o : Multiset (Site Karo)) : Prop where
  distinct : (crew r o).Nodup
  started : ∀ t ∈ crew r o, w.tasks.status? t = some .started
  enlisted : ∀ t s, w.tasks.procOf t = some (.subWorker s) → s < w.subs.slotCount
  sole : ∀ t s, w.tasks.procOf t = some (.subWorker s) → w.tasks.status? t ≠ some .finished →
    (w.subs.slots s).dispatchWorker = some t

namespace Manned

variable {r r' : Option (Running Karo)} {o o' : Multiset (Site Karo)}

theorem retains (h : Manned w r o) (hw : Retains w w') (hc : crew r' o' = crew r o) :
    Manned w' r' o' where
  distinct := hc ▸ h.distinct
  started t ht := hw.status t _ (h.started t (hc ▸ ht))
  enlisted t s ht := (h.enlisted t s (hw.hired t s ht)).trans_le hw.slotCount
  sole t s ht hs := by
    rw [hw.worker s]
    refine h.sole t s (hw.hired t s ht) fun hf => hs (hw.status t _ hf)

/-- The slot of a subscribe call is new, so it has no worker yet; it gets one if it is enlisted. -/
theorem subscribes (h : Manned w r o) {topic : String} {hz : PyFloat} (hc : crew r' o' = crew r o) :
    Manned (w.beginSubscribe σ w.subs.slotCount topic hz) r' o' := by
  have hfresh : ∀ t s, w.tasks.procOf t = some (.subWorker s) → s ≠ w.subs.slotCount :=
    fun t s ht => (h.enlisted t s ht).ne
  have hnew : Manned (w.newSlot σ w.subs.slotCount topic hz) r' o' := by
    refine ⟨hc ▸ h.distinct, fun t ht => h.started t (hc ▸ ht), fun t s ht => ?_,
      fun t s ht hs => ?_⟩
    · exact (h.enlisted t s ht).trans (Nat.lt_succ_self _)
    · rw [← h.sole t s ht hs]
      simp [World.newSlot, World.setSlot, hfresh t s ht]
  unfold World.beginSubscribe
  split
  · have hclosed : Retains (w.newSlot σ w.subs.slotCount topic hz)
        ((w.newSlot σ w.subs.slotCount topic hz).setSlot w.subs.slotCount fun x =>
          { x with state := .closed, errorCode := .topicAlreadySubscribed }) :=
      .setSlot fun _ => rfl
    exact hnew.retains (hclosed.trans .push) rfl
  · obtain ⟨v, hv⟩ : ∃ v, v = { w.newSlot σ w.subs.slotCount topic hz with
      subs.subs := (w.newSlot σ w.subs.slotCount topic hz).subs.subs.insert topic
        w.subs.slotCount } := ⟨_, rfl⟩
    have hlisted : Manned v r' o' := by
      rw [hv]
      exact hnew.retains (.same rfl) rfl
    have htasks : v.tasks = w.tasks := by rw [hv]; rfl
    have hcount : v.subs.slotCount = w.subs.slotCount + 1 := by rw [hv]; rfl
    show Manned (World.startSubWorker w.subs.slotCount _) r' o'
    rw [← hv]
    rcases startSubWorker_cases v w.subs.slotCount with ⟨f, he, hf⟩ | ⟨q, he⟩
    · rw [he]
      exact hlisted.retains (.setSlot fun x => congrArg SubSlot.Control.worker (hf x)) rfl
    -- the new worker is the only one of the new slot
    · rw [he]
      have hspawn : ∀ t s, (v.tasks.spawn (.subWorker w.subs.slotCount)).procOf t =
          some (.subWorker s) → t = v.tasks.next ∧ s = w.subs.slotCount ∨
            v.tasks.procOf t = some (.subWorker s) := by
        intro t s ht
        by_cases hn : t = v.tasks.next
        · subst hn
          rw [Tasks.procOf_spawn_next] at ht
          obtain rfl := Job.subWorker.inj (Option.some.inj ht)
          exact .inl ⟨rfl, rfl⟩
        · rw [Tasks.procOf, Tasks.get?_spawn, if_neg hn] at ht
          exact .inr ht
      refine ⟨hlisted.distinct, fun t ht => Tasks.status?_spawn (hlisted.started t ht),
        fun t s ht => ?_, fun t s ht hs => ?_⟩
      · rcases hspawn t s ht with ⟨-, rfl⟩ | ht
        · exact hcount ▸ Nat.lt_succ_self _
        · exact hlisted.enlisted t s ht
      · rcases hspawn t s ht with ⟨rfl, rfl⟩ | ht
        · simp [World.spawn, World.setSlot]
        · have hne : s ≠ w.subs.slotCount := hfresh t s (htasks ▸ ht)
          rw [← hlisted.sole t s ht fun hf => hs (Tasks.status?_spawn hf)]
          simp [World.spawn, World.setSlot, hne]

theorem starts {t : TaskId} {p : Proc} (h : Manned w none o) (hp : w.createdProc t = some p) :
    Manned { w with tasks := w.tasks.begin t } (some ⟨t, [], .begun⟩) o := by
  obtain ⟨y, hy, hs, -⟩ := created_task hp
  have hstatus : w.tasks.status? t = some .created := by rw [Tasks.status?, hy, Option.map_some, hs]
  have hnew : t ∉ crew none o := fun ht => by cases hstatus.symm.trans (h.started t ht)
  have hother : ∀ u, t ≠ u → (w.tasks.begin t).status? u = w.tasks.status? u :=
    fun u hu => Tasks.status?_update_ne hu
  have hself : (w.tasks.begin t).status? t = some .started := Tasks.status?_begin hstatus
  refine ⟨?_, fun u hu => ?_, fun u s hu => ?_, fun u s hu hf => ?_⟩
  · exact Multiset.nodup_cons.mpr ⟨hnew, h.distinct⟩
  · rcases Multiset.mem_cons.mp hu with rfl | hu
    · exact hself
    · exact (hother u fun he => hnew (he ▸ hu)).trans (h.started u hu)
  · exact h.enlisted u s (Tasks.procOf_begin.symm.trans hu)
  · refine h.sole u s (Tasks.procOf_begin.symm.trans hu) fun he => hf ?_
    by_cases hut : t = u
    · subst hut
      cases hstatus.symm.trans he
    · exact (hother u hut).trans he

theorem finishes {res : Except Exn Unit} (h : Manned w (some x) o) :
    Manned (w.finish x.task res) none o := by
  have hended : Manned { w with tasks := w.tasks.finish x.task } none o := by
    obtain ⟨hx, hdistinct⟩ := Multiset.nodup_cons.mp h.distinct
    have hself : (w.tasks.finish x.task).status? x.task = some .finished :=
      Tasks.status?_finish (h.started x.task (Multiset.mem_cons_self ..))
    have hother : ∀ u, x.task ≠ u → (w.tasks.finish x.task).status? u = w.tasks.status? u :=
      fun u hu => Tasks.status?_update_ne hu
    refine ⟨hdistinct, fun u hu => ?_, fun u s hu => ?_, fun u s hu hf => ?_⟩
    · have hne : x.task ≠ u := fun he => hx (he ▸ hu)
      exact (hother u hne).trans (h.started u (Multiset.mem_cons_of_mem hu))
    · exact h.enlisted u s (Tasks.procOf_finish.symm.trans hu)
    · refine h.sole u s (Tasks.procOf_finish.symm.trans hu) fun he => hf ?_
      by_cases hux : x.task = u
      · exact hux ▸ hself
      · exact (hother u hux).trans he
  obtain ⟨l, ts, he, -, rfl | ⟨code, message, rfl⟩⟩ := finish_eq w x.task res
  · rw [he]
    exact hended.retains (.same rfl) rfl
  · rw [he]
    have hspawn : Retains { w with tasks := w.tasks.finish x.task }
        (World.spawn (.abortToFatal code message) { w with tasks := w.tasks.finish x.task }) :=
      .spawn (by simp)
    exact hended.retains (hspawn.trans (.same rfl)) rfl

end Manned

theorem manned_kept : Keeps (outline σ) (fun _ _ _ => True) .trivial Manned where
  step _ h hs _ := h.retains (.step hs) rfl
  enter _ h _ hs _ := by
    rcases Retains.enters hs with hr | ⟨topic, hz, rfl⟩
    · exact h.retains hr rfl
    · exact h.subscribes rfl
  wait _ h _ _ := h.retains (.refl _) (Multiset.map_cons ..)
  resume {s _ _ o} _ h _ _ _ := h.retains .resume (Multiset.map_cons Site.task s o).symm
  start _ h _ hp _ := h.starts hp
  finish _ h _ _ := h.finishes
  env _ h _ he _ := h.retains (.env he) rfl

theorem manned_initial (clock : Clock) : Manned (.init clock) none 0 where
  distinct := Multiset.nodup_zero
  started _ ht := absurd ht (Multiset.notMem_zero _)
  enlisted _ _ ht := by cases ht
  sole _ _ ht := by cases ht

theorem mem_crew {r : Option (Running Karo)} {o : Multiset (Site Karo)} {y : Site Karo}
    (h : y ∈ o) : y.task ∈ crew r o := by
  have hy : y.task ∈ Multiset.map Site.task o := Multiset.mem_map_of_mem _ h
  cases r with
  | none => exact hy
  | some x => exact Multiset.mem_cons_of_mem hy

theorem Manned.sites_distinct {r : Option (Running Karo)} {o : Multiset (Site Karo)}
    (h : Manned w r o) : (Multiset.map Site.task o).Nodup := by
  cases r with
  | none => exact h.distinct
  | some x => exact (Multiset.nodup_cons.mp h.distinct).2

/-- **The crew in every run** -/
theorem manned {clock : Clock} {c : Config Karo} (h : Reaches (robot σ) (initial clock) c) :
    ∃ r, Manned c.world r c.sites := by
  have htraced := outlined.traced_run manned_kept (.initial (manned_initial clock)) h
  rcases hrun : c.running with - | ⟨t, k⟩
  · exact ⟨none, htraced.idle hrun⟩
  · obtain ⟨x, -, hx, -⟩ := htraced.running t k hrun
    exact ⟨some x, hx⟩

end KaroX2
