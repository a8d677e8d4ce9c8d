/-
KaroX2/Retrying.lean

The retry time that a failure announces, and the delay of its retry.

A failure moves the state to `TRANSIENT_FAILURE` and announces when the next
try comes; `_schedule_reconnect`, which the same call makes afterwards, creates
the task that sleeps before it tries.  Both compute their number with
`_next_backoff_ms`, each from a random draw of its own, so the announced time
is not the one that the task sleeps; and where no try is left the failure still
announces one.

`Announces` says what a step adds to the history about retries: which numbers it
may add, and from which try and which draw they come.  The rest of the module
puts the two steps of one call next to each other.
-/
import KaroX2.Backoff
import KaroX2.Walk.Tasks

namespace KaroX2

open Coop

/-! ### The history of failures and retries -/

/-- A failure is announced, or a retry is scheduled. -/
def Obs.retries : Obs → Bool
  | .transition _ .transientFailure _ | .reconnectScheduled _ _ => true
  | _ => false

/-- The failures announced and the retries scheduled so far. -/
def retries (log : List Obs) : List Obs := log.filter Obs.retries

variable (σ : Setup)

/-- The step adds the entries `l` about retries: the announced times come from
the first draw of the step, the delays from its last one. -/
structure Announces (w w' : World) (l : List Obs) : Prop where
  log : retries w'.log = l ++ retries w.log
  failed : ∀ old info, .transition old .transientFailure info ∈ l →
    info.nextRetryInMs
      = World.backoffMs σ.opts w.conn.reconnectAttempt (σ.random w.draws)
  scheduled : ∀ n ms, .reconnectScheduled n ms ∈ l →
    ms = World.backoffMs σ.opts w.conn.reconnectAttempt (σ.random (w'.draws - 1)) ∧
      w'.tasks.procOf w.tasks.next = some (.doReconnect n ms)

/-- The step adds nothing about retries. -/
def Hushed (w w' : World) : Prop := retries w'.log = retries w.log

variable {σ} {w w' w'' : World} {x : Running Karo} {q : List Label}

theorem Hushed.announces (h : Hushed w w') : Announces σ w w' [] where
  log := h
  failed _ _ hm := absurd hm List.not_mem_nil
  scheduled _ _ hm := absurd hm List.not_mem_nil

namespace Hushed

theorem refl : Hushed w w := rfl

theorem trans (h : Hushed w w') (h' : Hushed w' w'') : Hushed w w'' := Eq.trans h' h

theorem of_log (hl : LogGrows w.log w'.log) : Hushed w w' :=
  hl.filter_eq fun o ho => by cases o <;> first | rfl | cases ho

theorem of_silent {p : TaskId → Prop} (h : Silent p w w') : Hushed w w' := .of_log h.log

theorem push {o : Obs} (ho : o.retries = false) : Hushed w (w.push o) :=
  List.filter_cons_of_neg (by simp [ho])

theorem transition {new : ConnectionState} {info : StateChangeInfo}
    (h : new ≠ .transientFailure) : Hushed w (w.transition new info) := by
  unfold World.transition
  split
  · exact refl
  · apply List.filter_cons_of_neg
    cases new <;> first | exact absurd rfl h | exact Bool.false_ne_true

end Hushed

/-! ### Failures -/

/-- A failure announces the value of its own draw, if it moves the state. -/
theorem Announces.transientFailure {v : World} (hlog : Hushed w v) (hconn : v.conn = w.conn)
    (hdraws : v.draws = w.draws) (reason : String) (code : ErrorCode) (message : String) :
    ∃ l, Announces σ w (v.transientFailure σ reason code message) l ∧
      ∀ n ms, .reconnectScheduled n ms ∉ l := by
  by_cases hs : v.conn.state = .transientFailure
  · refine ⟨[], Hushed.announces (hlog.trans ?_), fun _ _ h => absurd h List.not_mem_nil⟩
    show retries (World.transition _ _ _).log = _
    rw [transition_log, if_pos hs]
  · refine ⟨[.transition v.conn.state .transientFailure
        { reason := reason, lastErrorCode := code, lastErrorMessage := message,
          nextRetryInMs := World.backoffMs σ.opts w.conn.reconnectAttempt (σ.random w.draws),
          reconnectAttempt := w.conn.reconnectAttempt }], ⟨?_, ?_, ?_⟩, ?_⟩
    · show retries (World.transition _ _ _).log = _
      rw [transition_log, if_neg hs]
      show _ :: retries v.log = _ :: retries w.log
      rw [hlog, hconn, hdraws]
    · intro old info h
      obtain ⟨-, -, rfl⟩ := Obs.transition.inj (List.mem_singleton.mp h)
      rfl
    · intro n ms h
      cases List.mem_singleton.mp h
    · intro n ms h
      cases List.mem_singleton.mp h

/-- `_schedule_reconnect` schedules the value of its own draw, if a try is left. -/
theorem Announces.retry (w : World) : ∃ l, Announces σ w (w.retry σ) l ∧
    ∀ old info, .transition old .transientFailure info ∉ l := by
  unfold World.retry World.scheduleReconnect
  split
  · exact ⟨[], Hushed.refl.announces, fun _ _ h => absurd h List.not_mem_nil⟩
  split
  · exact ⟨[], Hushed.announces rfl, fun _ _ h => absurd h List.not_mem_nil⟩
  · refine ⟨[.reconnectScheduled (w.conn.reconnectAttempt + 1)
        (World.backoffMs σ.opts w.conn.reconnectAttempt (σ.random w.draws))], ⟨rfl, ?_, ?_⟩, ?_⟩
    · intro old info h
      cases List.mem_singleton.mp h
    · intro n ms h
      obtain ⟨rfl, rfl⟩ := Obs.reconnectScheduled.inj (List.mem_singleton.mp h)
      exact ⟨rfl, Tasks.procOf_spawn_next⟩
    · intro old info h
      cases List.mem_singleton.mp h

/-- A failed dial fails and schedules its retry in one step. -/
theorem Announces.dialFailed (code : ErrorCode) (message : String) :
    ∃ l, Announces σ w (w.dialFailed σ code message) l := by
  obtain ⟨l, hl, hno⟩ := Announces.transientFailure (σ := σ) (w := w) .refl rfl rfl
    "ws connect failed" code message
  obtain ⟨m, hm, hno'⟩ := Announces.retry (σ := σ)
    (w.transientFailure σ "ws connect failed" code message)
  refine ⟨m ++ l, ?_, fun old info h => ?_, fun n ms h => ?_⟩
  · rw [List.append_assoc, ← hl.log]
    exact hm.log
  · rcases List.mem_append.mp h with h | h
    · exact absurd h (hno' old info)
    · exact hl.failed old info h
  · rcases List.mem_append.mp h with h | h
    · -- the failure has left the number of the try alone
      have hs := hm.scheduled n ms h
      rw [transientFailure_conn, transientFailure_tasks] at hs
      exact hs
    · exact absurd h (hno n ms)

/-! ### The loss of a connection -/

namespace World

variable {reason : ErrorCode} {msg : String} {me : TaskId}

/-- What a loop keeps that keeps it in every round. -/
theorem foldl_draws {β : Type} {f : World → β → World} (hf : ∀ v b, (f v b).draws = v.draws)
    (l : List β) (w : World) : (l.foldl f w).draws = w.draws := by
  induction l generalizing w with
  | nil => rfl
  | cons b l ih => exact (ih (f w b)).trans (hf w b)

theorem cancelOther_draws (t : Option TaskId) : (w.cancelOther me t).draws = w.draws := by
  unfold cancelOther
  split
  · split <;> rfl
  · rfl

theorem pauseSlot_draws (s : SlotId) : (w.pauseSlot reason msg s).draws = w.draws := by
  unfold pauseSlot
  dsimp only
  split <;> rfl

theorem failRequest_draws (e : Exn) (y : Nat × InflightRpc) :
    (w.failRequest e y).draws = w.draws := by
  unfold failRequest resolve
  split <;> split <;> rfl

theorem dropSession_draws : (w.dropSession me reason msg).draws = w.draws := by
  unfold dropSession
  dsimp only
  rw [cancelOther_draws]
  show (List.foldl _ _ _ : World).draws = _
  rw [foldl_draws (f := fun v h => v.cancelTimer h) fun _ _ => rfl]
  show (List.foldl _ _ _ : World).draws = _
  rw [foldl_draws fun _ _ => failRequest_draws _ _]
  exact foldl_draws (fun _ _ => pauseSlot_draws _) _ _

end World

theorem Announces.loseTransport (me : TaskId) (reason : ErrorCode) (msg : String) :
    ∃ l, Announces σ w (w.loseTransport σ me reason msg) l := by
  have hpush : Hushed w (w.push (.transportClose reason msg)) := .push rfl
  let v : World := w.push (.transportClose reason msg)
  have hdrop : Silent _ v (v.dropSession me reason msg) := Silent.dropSession
  obtain ⟨l, hl, -⟩ := Announces.transientFailure (σ := σ) (hpush.trans (.of_silent hdrop))
    hdrop.conn World.dropSession_draws (if msg = "" then "transport closed" else msg) reason msg
  exact ⟨l, hl⟩

/-! ### Other steps -/

theorem Hushed.startHeartbeat : Hushed w (w.startHeartbeat σ) := by
  obtain ⟨v, hv, -, he⟩ := startHeartbeat_eq (σ := σ) (w := w)
  rw [he]
  split
  · exact .of_silent hv
  · exact (Hushed.of_silent hv).trans rfl

theorem Hushed.finishes {phase : Bool} (h : Finishes w phase w') : Hushed w w' := by
  cases h with
  | refused => exact .refl
  | counted => rfl
  | finished => exact .transition nofun

theorem Hushed.armReconnect : Hushed w w.armReconnect := by
  unfold World.armReconnect World.reconnectOk
  dsimp only
  split
  · let v : World := { w with
      conn.reconnectSubsPending := w.subs.subs.size
      conn.reconnectEstopPending := w.estop.engaged
      conn.reconnectAttempt := 0
      conn.reconnectTotalCount := w.conn.reconnectTotalCount + 1 }
    exact (show Hushed w v from rfl).trans (.transition nofun)
  · rfl

theorem Hushed.beginSession {isR : Bool} {c : WsId} {resp : DecodedResponse} :
    Hushed w (w.beginSession σ isR c resp) := by
  have hinfo : Hushed w (w.setRobotInfo resp) := rfl
  have hshaken := (hinfo.trans (.startHeartbeat (σ := σ))).trans
    (.of_silent (Silent.resolveAllSemantics (q := fun _ => False)))
  obtain ⟨v, hv⟩ : ∃ v, v = ((w.setRobotInfo resp).startHeartbeat σ).resolveAllSemantics :=
    ⟨_, rfl⟩
  have hpushed : Hushed w (v.push (.handshake c isR v.estop.engaged)) :=
    (hv ▸ hshaken).trans (.push rfl)
  unfold World.beginSession
  dsimp only
  rw [← hv]
  split
  · exact hpushed.trans .armReconnect
  · exact hpushed.trans (.transition nofun)

theorem Hushed.estopReplayed : Hushed w w.estopReplayed := by
  unfold World.estopReplayed World.replayOk
  dsimp only
  split
  · let v : World := { w.clearEstopPending with
      conn.reconnectAttempt := 0
      conn.reconnectTotalCount := w.conn.reconnectTotalCount + 1 }
    exact (show Hushed w v from rfl).trans (.transition nofun)
  · rfl

/-! ### The steps of the outline -/

theorem Move.announces (h : Move σ x w w') : ∃ l, Announces σ w w' l := by
  have hsilent (v : World) {p : TaskId → Prop} (h : Silent p w v) :
      ∃ l, Announces σ w v l := ⟨[], (Hushed.of_silent h).announces⟩
  have hhushed (v : World) (h : Hushed w v) : ∃ l, Announces σ w v l := ⟨[], h.announces⟩
  cases h with
  | quiet h => exact hsilent _ h.toSilent
  | sent | answered | streamEnded | closeFired | dispatched => exact hhushed _ (.push rfl)
  | connected =>
    apply hhushed
    unfold World.connect
    split <;> rfl
  | latched | startedAfresh => exact hhushed _ rfl
  | buffered => exact hsilent _ (Silent.bufferPending (q := fun _ => False))
  | received => exact hsilent _ (Silent.acceptPush (q := fun _ => False))
  | drained => exact hsilent _ (Silent.drainFront (q := fun _ => False))
  | activated s phase ep resp hp hx hs hl ha h =>
    rcases h with ⟨-, rfl⟩ | ⟨-, rfl⟩
    · exact hsilent _ (Silent.activateTelemetry (q := fun _ => False))
    · exact hsilent _ (Silent.activateEvent (q := fun _ => False))
  | forgotten => exact hsilent _ (Silent.takeAck (q := fun _ => False))
  | shutDown =>
    have hstate : Hushed w
        (w.transition .shutdown { reason := "user close()", lastErrorCode := .cancelled }) :=
      .transition nofun
    exact hhushed _ (hstate.trans (.of_silent Silent.closeDown))
  | aborted => exact hhushed _ (.transition nofun)
  -- the two places in a call where the connection fails
  | lost q reason msg => exact Announces.loseTransport _ _ _
  | turnedDown isR ep c rid reason code message =>
    obtain ⟨l, hl, -⟩ := Announces.transientFailure (σ := σ) (w := w) .refl rfl rfl reason code
      message
    exact ⟨l, hl⟩

theorem Leaves.announces {l : Label} (h : Leaves σ x q w l w') : ∃ m, Announces σ w w' m := by
  have hhushed (v : World) (h : Hushed w v) : ∃ l, Announces σ w v l := ⟨[], h.announces⟩
  have hclose (topic : String) (s : SlotId) (code : ErrorCode) (reason : String) :
      Hushed w (w.closeSlot x.task topic s code reason) :=
    .of_silent (Silent.closeSlot (q := fun _ => False))
  cases h with
  | dialFailed => exact Announces.dialFailed _ _
  | retried | lossHandled =>
    obtain ⟨m, hm, -⟩ := Announces.retry (σ := σ) w
    exact ⟨m, hm⟩
  | restored isR =>
    apply hhushed
    cases isR
    · exact .refl
    · show Hushed w w.startReplay
      unfold World.startReplay
      split <;> rfl
  | closed p l c last hq hc hl =>
    rcases hl with ⟨-, rfl⟩ | ⟨rfl, code, message, rfl⟩
    · exact hhushed _ rfl
    · exact hhushed _ ((show Hushed w w.clearWs from rfl).trans (.transition nofun))
  | rejected => exact hhushed _ ((hclose ..).trans (.finishes (maybeFinishReconnect_finishes _ _)))
  | dropped => exact hhushed _ (hclose ..)
  | acked s =>
    have hactive : Hushed w (w.setSlot s fun x =>
        { x with everActive := true, isReconnectResume := false }) := rfl
    exact hhushed _ (hactive.trans (.finishes (maybeFinishReconnect_finishes _ _)))
  | replayed => exact hhushed _ .estopReplayed
  | unsubscribed handle syncWait topic s code reason hpath hc h =>
    rcases h with rfl | rfl
    · exact hhushed _ (hclose ..)
    · exact hhushed _ ((hclose ..).trans (.push rfl))
  | _ => exact hhushed _ rfl

theorem Becomes.hushed (h : Becomes σ x w q w') : Hushed w w' := by
  cases h with
  | reconnects n =>
    exact (show Hushed w { w with conn.reconnectAttempt := n } from rfl).trans (.transition nofun)
  | installs => exact List.filter_cons_of_neg nofun
  | begins => exact .beginSession
  | restores => exact .refl

theorem Enters.hushed {l : Label} (h : Enters σ x w l w') : Hushed w w' := by
  cases h with
  | establish => exact .transition nofun
  | unsendable => exact .of_silent (Silent.closeSlot (q := fun _ => False))
  | subscribing => exact .of_silent (Silent.registerSubscribe (q := fun _ => False))
  | sendFailed => exact .of_silent (Silent.unregisterSubscribe (q := fun _ => False))
  | replayFailed => rfl
  | abortToFatal => exact .of_silent Silent.abandon
  | handleSubscribeAck => exact .of_silent (Silent.beginAck (q := fun _ => False))
  | subscribe => exact .of_log beginSubscribe_log
  | _ => exact .refl

/-- Every step of every task draws its numbers like that. -/
theorem announces_guaranteed {A : Constraint (robot σ)} : Guarantees (outline σ) A .trivial
    fun _ w w' => ∃ l, Announces σ w w' l where
  refl _ _ := ⟨[], Hushed.refl.announces⟩
  step _ _ h := by
    rcases h with ⟨-, h⟩ | ⟨l, -, h⟩ | h
    · exact h.announces
    · exact h.announces
    · exact ⟨[], h.hushed.announces⟩
  enter _ _ h := ⟨[], h.hushed.announces⟩
  start _ := ⟨[], Hushed.announces rfl⟩
  resume {s r w} := by
    obtain ⟨ts, evt, h, -⟩ := resume_eq s.task s.op r w
    refine ⟨[], Hushed.announces ?_⟩
    show Hushed w (w.resume s.task s.op r)
    rw [h]
    rfl
  finish {x r w o} _ _ := by
    obtain ⟨l, ts, h, hl, -⟩ := finish_eq w x.task r
    refine ⟨[], Hushed.announces ?_⟩
    show Hushed w (w.finish x.task r)
    rw [h]
    exact .of_log ⟨l, rfl, hl⟩
  env h := by
    refine ⟨[], Hushed.announces ?_⟩
    cases env_env h with
    | quiet hq => exact .of_silent hq.toSilent
    | cancels | calls => rfl
    | acks hq => exact (Hushed.of_silent hq.toSilent).trans rfl
    | drops hq => exact (Hushed.of_silent hq.toSilent).trans rfl

/-! ### The sleep of the reconnect task -/

/-- A task in its back-off sleeps the delay that it was created with. -/
def Sleeps : Invariant Karo := fun w _ o => ∀ s ∈ o, s.path = [.backoff] →
  ∃ n ms, w.tasks.procOf s.task = some (.doReconnect n ms) ∧ s.op = .sleep ms

theorem Sleeps.later {r r' : Option (Running Karo)} {o o' : Multiset (Site Karo)}
    (h : Sleeps w r o) (hw : Later w w') (ho : ∀ s ∈ o', s ∈ o) : Sleeps w' r' o' := by
  intro s hs hp
  obtain ⟨n, ms, hproc, hop⟩ := h s (ho s hs) hp
  exact ⟨n, ms, hw.proc _ _ hproc, hop⟩

theorem Waits.sleeps {op : Op} (h : Waits x w op) (hp : x.path = [.backoff]) :
    ∃ n ms, w.tasks.procOf x.task = some (.doReconnect n ms) ∧ op = .sleep ms := by
  cases h with
  | sleep n ms _ ht => exact ⟨n, ms, ht, rfl⟩
  | wsConnect isR ep hp' => simp [hp'] at hp
  | wsSend c cmd hw hc ho hp' =>
    rcases hp' with ⟨q, rid, hp', -⟩ | ⟨q, s, rid, hp'⟩ | hp' | ⟨h, topic, s, hp'⟩ <;>
      simp [hp', List.append_eq_cons_iff] at hp
  | closing q c hp' | future q rid c hp' => simp [hp', List.append_eq_cons_iff] at hp
  | recv c hp' | beating hp' | idling hp' => simp [hp'] at hp
  | callback s push hp' =>
    rcases hp' with hp' | ⟨⟨phase, ep, hp'⟩, -⟩ <;> simp [hp'] at hp

theorem sleeps_kept {A : Constraint (robot σ)} : Keeps (outline σ) A .trivial Sleeps where
  step _ hi hs _ := hi.later (outline_step_later hs) fun _ => id
  enter _ hi _ hs _ := hi.later hs.later fun _ => id
  wait {x op w o} _ hi hs _ := by
    intro s hs' hp
    rcases Multiset.mem_cons.mp hs' with rfl | hs'
    · exact hs.sleeps hp
    · exact hi s hs' hp
  resume _ hi _ _ _ := hi.later resume_later fun _ => Multiset.mem_cons_of_mem
  start _ hi _ _ _ := hi.later begin_later fun _ => id
  finish _ hi _ _ := hi.later finish_later fun _ => id
  env _ hi _ he _ := hi.later (env_later he) fun _ => id

theorem sleeping {clock : Clock} {c : Config Karo} (hr : Reaches (robot σ) (initial clock) c) :
    Sleeps c.world none c.sites := by
  have htraced := outlined.traced_run sleeps_kept
    (.initial fun s hs => absurd hs (Multiset.notMem_zero s)) hr
  rcases h : c.running with - | ⟨t, k⟩
  · exact htraced.idle h
  · obtain ⟨x, -, hx, -⟩ := htraced.running t k h
    exact hx

/-! ### A failure and what its call does about it -/

variable (σ) in
/-- A step of a run that announces a failure. -/
structure Failure (clock : Clock) where
  before : Config Karo
  after : Config Karo
  action : Action Karo EnvStep
  info : StateChangeInfo
  reached : Reaches (robot σ) (initial clock) before
  step : Step (robot σ) before action after
  announced : ∃ l old, after.world.log = l ++ before.world.log ∧
    .transition old .transientFailure info ∈ l

/-- The action `b` begins the call in which `a` is an update. -/
def OpensCall (a b : Action Karo EnvStep) : Prop :=
  ∃ t p l, a = .update t (p ++ [l]) ∧ b = .enter t p l

variable {clock : Clock}

/-- An update of the same call of the same task: the failure itself, or a later one. -/
structure FollowUp (f : Failure σ clock) where
  before : Config Karo
  after : Config Karo
  sameCall : before = f.before ∧ after = f.after ∨
    Run (robot σ) (fun _ _ b => ¬OpensCall f.action b) f.after before
  step : Step (robot σ) before f.action after

/-- What the failure announces, before it is rounded down. -/
def Failure.exact (f : Failure σ clock) : ℚ :=
  World.envelope σ.opts f.before.world.conn.reconnectAttempt *
    (1 - World.jitter σ.opts * σ.random f.before.world.draws)

namespace FollowUp

variable {f : Failure σ clock}

/-- The step schedules the try `n` after a delay. -/
def Schedules (r : FollowUp f) (n ms : Nat) : Prop :=
  ∃ l, r.after.world.log = l ++ r.before.world.log ∧ .reconnectScheduled n ms ∈ l

/-- The task that the step creates. -/
def task (r : FollowUp f) : TaskId := r.before.world.tasks.next

/-- No try is left: the step creates the task that gives up. -/
def Exhausts (r : FollowUp f) : Prop :=
  r.after.world.tasks.procOf r.task
    = some (.abortToFatal .transportFailure "reconnect_max_attempts reached")

/-- The delay of the try, before it is rounded down: it comes from the last draw. -/
def exact (r : FollowUp f) : ℚ :=
  World.envelope σ.opts r.before.world.conn.reconnectAttempt *
    (1 - World.jitter σ.opts * σ.random (r.after.world.draws - 1))

/-- The announced time is that of the retry, and there is none without a retry. -/
structure Honest (r : FollowUp f) : Prop where
  scheduled : ∀ n ms, r.Schedules n ms → f.info.nextRetryInMs = ms
  exhausted : r.Exhausts → f.info.nextRetryInMs = 0

/-- The two draws fall into the same millisecond; without a retry the envelope has
gone below the first one. -/
structure Matched (r : FollowUp f) : Prop where
  scheduled : ∀ n ms, r.Schedules n ms →
    ∃ k : ℤ, (k ≤ f.exact ∧ f.exact < k + 1) ∧ k ≤ r.exact ∧ r.exact < k + 1
  exhausted : r.Exhausts → f.exact < 1

theorem reached (r : FollowUp f) : Reaches (robot σ) (initial clock) r.before := by
  rcases r.sameCall with ⟨h, -⟩ | h
  · exact h ▸ f.reached
  · have hafter : Reaches (robot σ) (initial clock) f.after := f.reached.tail ⟨_, f.step, trivial⟩
    exact hafter.trans (h.mono fun _ _ _ _ => trivial)

end FollowUp

/-! ### The values -/

/-- The new entries of a history are those that the step announces. -/
theorem Announces.mem {l m : List Obs} {o : Obs} (h : Announces σ w w' m)
    (hlog : w'.log = l ++ w.log) (ho : o ∈ l) (hr : o.retries = true) : o ∈ m := by
  have hm : l.filter Obs.retries = m := by
    have := h.log
    rw [retries, hlog, List.filter_append] at this
    exact List.append_cancel_right this
  exact hm ▸ List.mem_filter.mpr ⟨ho, hr⟩

theorem Failure.nextRetryInMs_eq (f : Failure σ clock) (hbase : 0 ≤ σ.opts.reconnectBaseDelay) :
    (f.info.nextRetryInMs : ℤ) = ⌊f.exact⌋ := by
  obtain ⟨l, old, hlog, hm⟩ := f.announced
  obtain ⟨m, hannounces⟩ := (announces_guaranteed (A := fun _ _ _ => True)).holds
    (outlined.traced_reaches f.reached) f.step trivial
  have hvalue := hannounces.failed old f.info (hannounces.mem hlog hm rfl)
  obtain ⟨hu₀, hu₁⟩ := σ.random_mem f.before.world.draws
  rw [hvalue, World.backoffMs_eq (World.patient_of_valid σ hbase) _ hu₀ hu₁]
  rfl

namespace FollowUp

variable {f : Failure σ clock}

theorem scheduled_eq (r : FollowUp f) {n ms : Nat} (h : r.Schedules n ms) :
    ms = World.backoffMs σ.opts r.before.world.conn.reconnectAttempt
        (σ.random (r.after.world.draws - 1)) ∧
      r.after.world.tasks.procOf r.task = some (.doReconnect n ms) := by
  obtain ⟨l, hlog, hm⟩ := h
  obtain ⟨m, hannounces⟩ := (announces_guaranteed (A := fun _ _ _ => True)).holds
    (outlined.traced_reaches r.reached) r.step trivial
  exact hannounces.scheduled n ms (hannounces.mem hlog hm rfl)

theorem delay_eq (r : FollowUp f) (hbase : 0 ≤ σ.opts.reconnectBaseDelay) {n ms : Nat}
    (h : r.Schedules n ms) : (ms : ℤ) = ⌊r.exact⌋ := by
  obtain ⟨hu₀, hu₁⟩ := σ.random_mem (r.after.world.draws - 1)
  rw [(r.scheduled_eq h).1, World.backoffMs_eq (World.patient_of_valid σ hbase) _ hu₀ hu₁]
  rfl

/-- The task that was created for the retry sleeps the scheduled delay. -/
theorem sleeps (r : FollowUp f) {n ms : Nat} (h : r.Schedules n ms) {c : Config Karo}
    (hc : Reaches (robot σ) r.after c) {op : Op} (hs : ⟨r.task, [.backoff], op⟩ ∈ c.sites) :
    op = .sleep ms := by
  have hafter : Reaches (robot σ) (initial clock) r.after := r.reached.tail ⟨_, r.step, trivial⟩
  have htraced := outlined.traced_run sleeps_kept
    (.initial fun s hs => absurd hs (Multiset.notMem_zero s)) hafter
  have hlater : Later r.after.world c.world :=
    later_guaranteed.along outlined sleeps_kept .refl .trans id htraced hc
  obtain ⟨n', ms', hproc, rfl⟩ := sleeping (hafter.trans hc) _ hs rfl
  have hjob := hlater.proc _ _ (r.scheduled_eq h).2
  rw [hproc] at hjob
  obtain ⟨-, rfl⟩ := Job.doReconnect.inj (Option.some.inj hjob)
  rfl

end FollowUp

/-- Two numbers in the same interval between integers. -/
theorem floor_eq_floor_iff {a b : ℚ} :
    ⌊a⌋ = ⌊b⌋ ↔ ∃ k : ℤ, (k ≤ a ∧ a < k + 1) ∧ k ≤ b ∧ b < k + 1 := by
  constructor
  · intro h
    exact ⟨⌊a⌋, ⟨Int.floor_le a, Int.lt_floor_add_one a⟩, h ▸ Int.floor_le b,
      h ▸ Int.lt_floor_add_one b⟩
  · rintro ⟨k, ha, hb⟩
    rw [Int.floor_eq_iff.mpr ha, Int.floor_eq_iff.mpr hb]


/-! ### The exact condition -/

/-- **The announced retry time is the real one** exactly if the two draws agree: the
reconnect task sleeps the delay that was scheduled for it, and that delay is what the
failure has announced if both come from the same millisecond of the envelope; where no
try is left, nothing is announced if the envelope is below one millisecond. -/
theorem advertised_retry_iff (clock : Clock) (hbase : 0 ≤ σ.opts.reconnectBaseDelay)
    (f : Failure σ clock) (r : FollowUp f) :
    (r.Honest ↔ r.Matched) ∧
      ∀ n ms, r.Schedules n ms → ∀ c, Reaches (robot σ) r.after c →
        ∀ op, ⟨r.task, [.backoff], op⟩ ∈ c.sites → op = .sleep ms := by
  have hvalue := f.nextRetryInMs_eq hbase
  refine ⟨⟨fun h => ⟨fun n ms hs => ?_, fun he => ?_⟩, fun h => ⟨fun n ms hs => ?_, fun he => ?_⟩⟩,
    fun n ms hs c hc op => r.sleeps hs hc⟩
  · rw [← floor_eq_floor_iff, ← hvalue, ← r.delay_eq hbase hs, h.scheduled n ms hs]
  · rw [h.exhausted he] at hvalue
    simpa using (Int.floor_eq_iff.mp hvalue.symm).2
  · have hfloor := floor_eq_floor_iff.mpr (h.scheduled n ms hs)
    rw [← hvalue, ← r.delay_eq hbase hs] at hfloor
    exact_mod_cast hfloor
  · have hlt : ⌊f.exact⌋ < 1 := Int.floor_lt.mpr (by exact_mod_cast h.exhausted he)
    omega

/-! ### A refused dial -/

/-- The first draw is nothing, the later ones are one half. -/
def Setup.uneven : Setup where
  opts := Setup.plain.opts
  valid := Setup.plain.valid
  random := fun n => if n = 0 then 0 else 1 / 2
  random_mem := fun n => by split <;> norm_num
  pemToDer := Setup.plain.pemToDer
  sslContext := Setup.plain.sslContext

/-- `connect()`, and the peer refuses; the next step announces the failure. -/
def refusedDial (σ : Setup) : Option (Config Karo) :=
  ((robot σ).play 4 [.env (.call .connect), .start 0, .start 1] (initial ⟨0, 0⟩)).bind fun c =>
    ((robot σ).play 0 [.resume 1 (.error (.os "refused"))] c).bind ((robot σ).smalls 1)

/-- What a step has added to the history. -/
def added (w w' : World) : List Obs := w'.log.take (w'.log.length - w.log.length)

theorem Later.log_eq (h : Later w w') : w'.log = added w w' ++ w.log := by
  obtain ⟨l, hl⟩ := h.log
  rw [added, hl]
  simp

/-- A failure and its retry in one step, with these two times. -/
def retriesAtOnce (advertised delay : Nat) : List Obs → Bool
  | [.reconnectScheduled _ ms, .transition _ .transientFailure info] =>
    decide (ms = delay) && decide (info.nextRetryInMs = advertised)
  | _ => false

theorem refusedDial_retries (advertised delay : Nat)
    (h : (refusedDial σ).any (fun c => ((robot σ).small c).any fun x =>
      retriesAtOnce advertised delay (added c.world x.2.world)) = true) :
    ∃ (f : Failure σ ⟨0, 0⟩) (r : FollowUp f) (n : Nat),
      f.info.nextRetryInMs = advertised ∧ r.Schedules n delay := by
  obtain ⟨c, hc, h⟩ := (Option.any_eq_true _ _).mp h
  obtain ⟨⟨a, d⟩, hd, h⟩ := (Option.any_eq_true _ _).mp h
  obtain ⟨c₁, h₁, hc⟩ := Option.bind_eq_some_iff.mp hc
  obtain ⟨c₂, h₂, hc⟩ := Option.bind_eq_some_iff.mp hc
  have hrun : Reaches (robot σ) (initial ⟨0, 0⟩) c :=
    ((play_run h₁).trans (play_run h₂)).trans (smalls_run hc)
  have hstep := small_step hd
  have hlog : d.world.log = added c.world d.world ++ c.world.log :=
    (later_guaranteed.holds (A := fun _ _ _ => True) (outlined.traced_reaches hrun) hstep
      trivial).log_eq
  unfold retriesAtOnce at h
  split at h
  · rename_i n ms old info hadded
    obtain ⟨rfl, rfl⟩ : ms = delay ∧ info.nextRetryInMs = advertised := by simpa using h
    rw [hadded] at hlog
    let f : Failure σ ⟨0, 0⟩ := ⟨c, d, a, info, hrun, hstep, _, old, hlog, by simp⟩
    exact ⟨f, ⟨c, d, .inl ⟨rfl, rfl⟩, hstep⟩, n, rfl, _, hlog, by simp⟩
  · cases h

/-- Half a second is announced, and the task sleeps 425 ms. -/
theorem advertised_retry_uneven : ∃ (f : Failure .uneven ⟨0, 0⟩) (r : FollowUp f) (n : Nat),
    f.info.nextRetryInMs = 500 ∧ r.Schedules n 425 ∧ ¬r.Honest := by
  obtain ⟨f, r, n, hf, hr⟩ := refusedDial_retries (σ := .uneven) 500 425 (by decide +kernel)
  refine ⟨f, r, n, hf, hr, fun h => ?_⟩
  have := h.scheduled n 425 hr
  omega

/-- With the same draw throughout the two times agree. -/
theorem advertised_retry_plain : ∃ (f : Failure .plain ⟨0, 0⟩) (r : FollowUp f),
    0 ≤ Setup.plain.opts.reconnectBaseDelay ∧ (r.Honest ↔ r.Matched) := by
  have hbase : 0 ≤ Setup.plain.opts.reconnectBaseDelay := by
    show (0 : ℚ) ≤ 1 / 2
    norm_num
  obtain ⟨f, r, n, -, -⟩ := refusedDial_retries (σ := .plain) 500 500 (by decide +kernel)
  exact ⟨f, r, hbase, (advertised_retry_iff ⟨0, 0⟩ hbase f r).1⟩

end KaroX2
