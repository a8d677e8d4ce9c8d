/-
KaroX2/Milestones.lean

The milestones of a connection, in its history.

The transitions of a run form a chain.  It begins in `IDLE`, never comes back to it, and
enters `CONNECTING` from there and `RECONNECTING` from `TRANSIENT_FAILURE` only.  So a client
connects for the first time at most once.

An update adds a handshake or a try to the milestones at most, and counts what it adds.
-/
import KaroX2.Attempts
import Mathlib.Algebra.Group.Pi.Basic
import Mathlib.Algebra.GroupWithZero.Nat

namespace KaroX2

open Coop

variable {σ : Setup} {w w' : World} {x : Running Karo} {q : List Label} {l : Label}
  {n : Nat}

/-! ### Chains of transitions -/

/-- The state may be followed by the other one. -/
def ConnectionState.leadsTo (old : ConnectionState) : ConnectionState → Prop
  | .idle => False
  | .connecting => old = .idle
  | .reconnecting => old = .transientFailure
  | new => old ≠ new

/-- The transitions of the history form a chain from `IDLE` to the state. -/
def Leads : List Obs → ConnectionState → Prop
  | [], s => s = .idle
  | .transition old new _ :: log, s => new = s ∧ old.leadsTo new ∧ Leads log old
  | _ :: log, s => Leads log s

/-- The entry is about the connection, and not about what it carries. -/
def Obs.milestone : Obs → Bool
  | .transition _ _ _ | .handshake _ _ _ | .reconnectScheduled _ _ => true
  | _ => false

/-- The milestones of a history. -/
def milestones (log : List Obs) : List Obs := log.filter Obs.milestone

/-- `CONNECTING` -/
def Obs.opens : Obs → Bool
  | .transition _ .connecting _ => true
  | _ => false

/-- `READY` -/
def Obs.readies : Obs → Bool
  | .transition _ .ready _ => true
  | _ => false

/-- The handshake of the first connection -/
def Obs.greets : Obs → Bool
  | .handshake _ isReconnect _ => !isReconnect
  | _ => false

/-- `RECONNECTING` with the number of the attempt -/
def Obs.tries (n : Nat) : Obs → Bool
  | .transition _ .reconnecting info => info.reconnectAttempt = n
  | _ => false

/-- A retry with the number of the attempt -/
def Obs.schedules (n : Nat) : Obs → Bool
  | .reconnectScheduled m _ => m = n
  | _ => false

theorem leads_milestones {log : List Obs} {s : ConnectionState} :
    Leads (milestones log) s ↔ Leads log s := by
  induction log generalizing s with
  | nil => exact Iff.rfl
  | cons e log ih =>
    cases e with
    | transition old new info => exact and_congr_right fun _ => and_congr_right fun _ => ih
    | _ => exact ih

theorem countP_milestones {p : Obs → Bool} (hp : ∀ e, p e = true → e.milestone = true)
    (log : List Obs) : (milestones log).countP p = log.countP p := by
  rw [milestones, List.countP_filter]
  refine List.countP_congr fun e _ => ?_
  simp only [Bool.and_eq_true]
  exact ⟨And.left, fun h => ⟨h, hp e h⟩⟩

theorem milestone_of_tries {e : Obs} (h : e.tries n = true) : e.milestone = true := by
  cases e <;> first | rfl | cases h

theorem milestone_of_schedules {e : Obs} (h : e.schedules n = true) : e.milestone = true := by
  cases e <;> first | rfl | cases h

theorem milestone_of_opens {e : Obs} (h : e.opens = true) : e.milestone = true := by
  cases e <;> first | rfl | cases h

theorem milestone_of_readies {e : Obs} (h : e.readies = true) : e.milestone = true := by
  cases e <;> first | rfl | cases h

theorem milestone_of_greets {e : Obs} (h : e.greets = true) : e.milestone = true := by
  cases e <;> first | rfl | cases h

theorem LogGrows.milestones_eq {log log' : List Obs} (h : LogGrows log log') :
    milestones log' = milestones log :=
  h.filter_eq fun e he => by cases e <;> first | rfl | cases he

/-- Nothing leads to `IDLE`, so a chain that ends there is empty. -/
theorem Leads.idle {log : List Obs} {s : ConnectionState} (h : Leads log s) (hs : s = .idle) :
    log.countP Obs.opens = 0 := by
  induction log with
  | nil => rfl
  | cons e log ih =>
    cases e with
    | transition old new info =>
      obtain ⟨rfl, hl, -⟩ := h
      subst hs
      exact hl.elim
    | _ => exact ih h

/-- A chain enters `CONNECTING` once at most. -/
theorem Leads.opens_le {log : List Obs} {s : ConnectionState} (h : Leads log s) :
    log.countP Obs.opens ≤ 1 := by
  induction log generalizing s with
  | nil => exact Nat.zero_le _
  | cons e log ih =>
    cases e with
    | transition old new info =>
      obtain ⟨-, hl, hlog⟩ := h
      cases new with
      | connecting =>
        show (Obs.transition old .connecting info :: log).countP Obs.opens ≤ 1
        rw [List.countP_cons_of_pos rfl, hlog.idle hl]
      | _ => exact ih hlog
    | _ => exact ih h

/-! ### Updates -/

/-- The task is a retry with the number. -/
def Job.retries (n : Nat) : Job → Bool
  | .doReconnect m _ => m = n
  | _ => false

/-- The retries with the number that have yet to be started. -/
def World.retries (w : World) (n : Nat) : Nat := w.tasks.pending (Job.retries n)

/-- How an update continues the history, with a number of first handshakes and of tries. -/
structure Proceeds (greeted : Nat) (tried : Nat → Nat) (w w' : World) : Prop where
  leads : Leads w.log w.conn.state → Leads w'.log w'.conn.state
  scheduled : ∀ n, w'.retries n + w.log.countP (Obs.schedules n) ≤
    w.retries n + w'.log.countP (Obs.schedules n)
  readied : w'.log.countP Obs.readies + (w.log.countP Obs.greets + w.conn.reconnectTotalCount) ≤
    w.log.countP Obs.readies + (w'.log.countP Obs.greets + w'.conn.reconnectTotalCount)
  opens : w.log.countP Obs.opens ≤ w'.log.countP Obs.opens
  greets : w'.log.countP Obs.greets = w.log.countP Obs.greets + greeted
  tries : ∀ n, w'.log.countP (Obs.tries n) = w.log.countP (Obs.tries n) + tried n

/-- The update makes no try, and is no first handshake. -/
abbrev Untried := Proceeds 0 0

namespace Proceeds

variable {w'' : World} {g g' : Nat} {k k' : Nat → Nat}

theorem refl : Untried w w :=
  ⟨id, fun _ => le_rfl, le_rfl, le_rfl, rfl, fun _ => rfl⟩

theorem trans (h : Proceeds g k w w') (h' : Proceeds g' k' w' w'') :
    Proceeds (g + g') (k + k') w w'' where
  leads hw := h'.leads (h.leads hw)
  scheduled n := by
    have := h.scheduled n
    have := h'.scheduled n
    omega
  readied := by
    have := h.readied
    have := h'.readied
    omega
  opens := h.opens.trans h'.opens
  greets := by rw [h'.greets, h.greets, Nat.add_assoc]
  tries n := by rw [h'.tries, h.tries, Pi.add_apply, Nat.add_assoc]

theorem after (h : Untried w w') (h' : Proceeds g k w' w'') : Proceeds g k w w'' := by
  have := h.trans h'
  rwa [zero_add, zero_add] at this

theorem next (h : Proceeds g k w w') (h' : Untried w' w'') : Proceeds g k w w'' := h.trans h'

theorem of_milestones (htasks : ∀ n, w'.retries n ≤ w.retries n)
    (hstate : w'.conn.state = w.conn.state)
    (htotal : w.conn.reconnectTotalCount ≤ w'.conn.reconnectTotalCount)
    (hlog : milestones w'.log = milestones w.log) : Untried w w' := by
  have hcount {p : Obs → Bool} (hp : ∀ e, p e = true → e.milestone = true) :
      w'.log.countP p = w.log.countP p := by
    rw [← countP_milestones hp, hlog, countP_milestones hp]
  refine ⟨fun h => ?_, fun n => ?_, ?_, ?_, ?_, fun n => ?_⟩
  · rw [← leads_milestones, hlog, hstate]
    exact leads_milestones.mpr h
  · rw [hcount fun _ => milestone_of_schedules]
    exact Nat.add_le_add_right (htasks n) _
  · rw [hcount (p := Obs.readies) fun _ => milestone_of_readies,
      hcount (p := Obs.greets) fun _ => milestone_of_greets]
    omega
  · rw [hcount fun _ => milestone_of_opens]
  · exact hcount fun _ => milestone_of_greets
  · exact hcount fun _ => milestone_of_tries

theorem same (htasks : w'.tasks = w.tasks) (hstate : w'.conn.state = w.conn.state)
    (htotal : w.conn.reconnectTotalCount ≤ w'.conn.reconnectTotalCount)
    (hlog : milestones w'.log = milestones w.log) : Untried w w' :=
  of_milestones (fun n => by rw [World.retries, htasks]; rfl) hstate htotal hlog

theorem of_silent {p : TaskId → Prop} (h : Silent p w w') : Untried w w' := by
  refine of_milestones (fun n => ?_) (by rw [h.conn]) (by rw [h.conn]) h.log.milestones_eq
  have hle : ∀ {ts ts' : Tasks Job} {r : TaskId → Prop}, Tasks.Cancels r ts ts' →
      ts'.pending (Job.retries n) ≤ ts.pending (Job.retries n) := by
    intro ts ts' r hc
    induction hc with
    | refl => exact le_rfl
    | cancel _ _ ih => exact Tasks.pending_cancel_le.trans ih
  exact hle h.tasks

theorem spawn {j : Job} (hj : ∀ n, j.retries n = false) : Untried w (w.spawn j) := by
  refine of_milestones (fun n => ?_) rfl le_rfl rfl
  show (w.tasks.spawn j).pending _ ≤ _
  rw [Tasks.pending_spawn, hj]
  exact le_rfl

/-- A transition that a reconnect does not end in, and that is no try. -/
theorem transition (new : ConnectionState) {info : StateChangeInfo}
    (hn : w.conn.state ≠ new → w.conn.state.leadsTo new) (hr : new ≠ .ready)
    (ht : new ≠ .reconnecting) : Untried w (w.transition new info) := by
  unfold World.transition
  split
  · exact refl
  · rename_i hne
    refine ⟨fun h => ⟨rfl, hn hne, h⟩, fun n => le_rfl, ?_, ?_, rfl, fun n => ?_⟩
    · cases new <;> first | exact le_rfl | exact absurd rfl hr
    · exact (List.sublist_cons_self _ _).countP_le
    · cases new <;> first | rfl | exact absurd rfl ht

/-- `READY`, where the total of the reconnects or of the first handshakes has grown. -/
theorem ready {v : World} {info : StateChangeInfo} (h : Proceeds g k w v)
    (hgrown : v.log.countP Obs.readies + 1 +
        (w.log.countP Obs.greets + w.conn.reconnectTotalCount) ≤
      w.log.countP Obs.readies + (v.log.countP Obs.greets + v.conn.reconnectTotalCount)) :
    Proceeds g k w (v.transition .ready info) := by
  unfold World.transition
  split
  · exact h
  · rename_i hne
    refine ⟨fun hw => ⟨rfl, hne, h.leads hw⟩, h.scheduled, ?_, h.opens, h.greets, h.tries⟩
    show (Obs.transition v.conn.state .ready _ :: v.log).countP Obs.readies + _ ≤ _
    rw [List.countP_cons_of_pos rfl]
    exact hgrown

/-- A reconnect ends, and is counted. -/
theorem readied_total {v : World} {info : StateChangeInfo} (h : Untried w v) (u : World)
    (htasks : u.tasks = v.tasks) (hstate : u.conn.state = v.conn.state)
    (htotal : u.conn.reconnectTotalCount = v.conn.reconnectTotalCount + 1)
    (hlog : u.log = v.log) : Untried w (u.transition .ready info) := by
  have hu : Untried v u := same htasks hstate (by omega) (by rw [hlog])
  refine ready (h.after hu) ?_
  have := h.readied
  rw [hlog, htotal]
  omega

theorem finishes {phase : Bool} (h : Finishes w phase w') : Untried w w' := by
  cases h with
  | refused => exact refl
  | counted => exact same rfl rfl le_rfl rfl
  | finished => exact readied_total refl _ rfl rfl rfl rfl

theorem startHeartbeat : Untried w (w.startHeartbeat σ) := by
  obtain ⟨v, hv, -, he⟩ := startHeartbeat_eq (σ := σ) (w := w)
  rw [he]
  split
  · exact of_silent hv
  · have hbeating := (of_silent hv).after (spawn (j := .heartbeat) fun _ => rfl)
    exact hbeating.after (same rfl rfl le_rfl rfl)

theorem armReconnect : Untried w w.armReconnect := by
  unfold World.armReconnect World.reconnectOk
  dsimp only
  split
  · exact readied_total refl _ rfl rfl rfl rfl
  · exact same rfl rfl le_rfl rfl

theorem estopReplayed : Untried w w.estopReplayed := by
  unfold World.estopReplayed World.replayOk
  dsimp only
  split
  · exact readied_total refl _ rfl rfl rfl rfl
  · exact same rfl rfl le_rfl rfl

/-- A session begins with a handshake, the first one or that of a reconnect. -/
theorem beginSession {isR : Bool} {c : WsId} {resp : DecodedResponse} :
    Proceeds (!isR).toNat 0 w (w.beginSession σ isR c resp) := by
  obtain ⟨v, hv⟩ : ∃ v, v = ((w.setRobotInfo resp).startHeartbeat σ).resolveAllSemantics :=
    ⟨_, rfl⟩
  have hinfo : Untried w (w.setRobotInfo resp) := same rfl rfl le_rfl rfl
  have hshaken : Untried w v := hv ▸ (hinfo.after (startHeartbeat (σ := σ))).after
    (of_silent (Silent.resolveAllSemantics (q := fun _ => False)))
  have hpushed : Proceeds (!isR).toNat 0 v (v.push (.handshake c isR v.estop.engaged)) := by
    refine ⟨id, fun _ => le_rfl, ?_, le_rfl, ?_, fun _ => rfl⟩
    · have hle : v.log.countP Obs.greets ≤
          (v.push (.handshake c isR v.estop.engaged)).log.countP Obs.greets :=
        (List.sublist_cons_self _ _).countP_le
      exact Nat.add_le_add_left (Nat.add_le_add_right hle _) _
    · show (Obs.handshake c isR v.estop.engaged :: v.log).countP Obs.greets = _
      rw [List.countP_cons]
      cases isR <;> rfl
  unfold World.beginSession
  dsimp only
  rw [← hv]
  cases isR with
  | true => exact (hshaken.after hpushed).next armReconnect
  | false =>
    refine (hshaken.after hpushed).ready ?_
    have := hshaken.readied
    have hgreets : (v.push (.handshake c false v.estop.engaged)).log.countP Obs.greets =
        v.log.countP Obs.greets + 1 := hpushed.greets
    rw [hgreets]
    show v.log.countP Obs.readies + 1 + _ ≤ _ + (_ + v.conn.reconnectTotalCount)
    omega

theorem transientFailure {reason : String} {code : ErrorCode} {message : String} :
    Untried w (w.transientFailure σ reason code message) := by
  have hdrawn : Untried w { w with draws := w.draws + 1 } := same rfl rfl le_rfl rfl
  exact hdrawn.after (transition .transientFailure id (by decide) (by decide))

theorem startSubWorker {s : SlotId} : Untried w (w.startSubWorker s) := by
  rcases startSubWorker_cases w s with ⟨f, h, -⟩ | ⟨d, h⟩
  · rw [h]
    exact same rfl rfl le_rfl rfl
  · rw [h]
    have hset : Untried w (w.setSlot s fun x =>
        { x with dispatchQueue := d, dispatchWorker := some w.tasks.next }) :=
      same rfl rfl le_rfl rfl
    exact hset.after (spawn fun _ => rfl)

theorem beginSubscribe {s : SlotId} {topic : String} {hz : PyFloat} :
    Untried w (w.beginSubscribe σ s topic hz) := by
  unfold World.beginSubscribe
  split
  · exact same rfl rfl le_rfl rfl
  · have hset : Untried w { w.newSlot σ s topic hz with
        subs.subs := (w.newSlot σ s topic hz).subs.subs.insert topic s } := same rfl rfl le_rfl rfl
    exact hset.after startSubWorker

/-- A retry is scheduled, or the task that aborts is created. -/
theorem retry : Untried w (w.retry σ) := by
  obtain ⟨v, hv, hr⟩ : ∃ v, v = w.retry σ ∧ Retries w v := ⟨_, rfl, retry_retries w⟩
  rw [← hv]
  cases hr with
  | refused => exact refl
  | exhausted => exact spawn fun _ => rfl
  | scheduled h m ms draws =>
    refine ⟨id, fun n => ?_, le_rfl, le_rfl, rfl, fun _ => rfl⟩
    show (w.tasks.spawn (.doReconnect m ms)).pending _ + _ ≤
      w.tasks.pending _ + (Obs.reconnectScheduled m ms :: w.log).countP _
    rw [Tasks.pending_spawn, List.countP_cons]
    have hn : Obs.schedules n (.reconnectScheduled m ms) = Job.retries n (.doReconnect m ms) := rfl
    rw [hn]
    cases Job.retries n (.doReconnect m ms)
    · exact le_rfl
    · simp only [Bool.toNat_true, if_true]
      omega

end Proceeds

/-! ### The steps of the outline -/

theorem Move.untried (h : Move σ x w w') : Untried w w' := by
  cases h with
  | quiet h => exact .of_silent h.toSilent
  | sent | answered | streamEnded | closeFired | dispatched | latched | startedAfresh =>
    exact .same rfl rfl le_rfl rfl
  | connected =>
    unfold World.connect
    split
    · exact .refl
    · have hspawn : Untried w (w.spawn .establishInitial) := .spawn fun _ => rfl
      exact hspawn.after (.same rfl rfl le_rfl rfl)
  | buffered => exact .of_silent (Silent.bufferPending (q := fun _ => False))
  | received => exact .of_silent (Silent.acceptPush (q := fun _ => False))
  | drained => exact .of_silent (Silent.drainFront (q := fun _ => False))
  | activated s phase ep resp hp hx hs hl ha h =>
    rcases h with ⟨-, rfl⟩ | ⟨-, rfl⟩
    · exact .of_silent (Silent.activateTelemetry (q := fun _ => False))
    · exact .of_silent (Silent.activateEvent (q := fun _ => False))
  | forgotten => exact .of_silent (Silent.takeAck (q := fun _ => False))
  | shutDown =>
    have hdown (info : StateChangeInfo) : Untried w (w.transition .shutdown info) :=
      .transition .shutdown id (by decide) (by decide)
    exact (hdown _).after (.of_silent Silent.closeDown)
  | aborted => exact .transition .fatal id (by decide) (by decide)
  | lost q reason msg =>
    have hpush : Untried w (w.push (.transportClose reason msg)) := .same rfl rfl le_rfl rfl
    exact (hpush.after (.of_silent Silent.dropSession)).after .transientFailure
  | turnedDown => exact .transientFailure

theorem Leaves.untried (h : Leaves σ x q w l w') : Untried w w' := by
  have hclose (topic : String) (s : SlotId) (code : ErrorCode) (reason : String) :
      Untried w (w.closeSlot x.task topic s code reason) :=
    .of_silent (Silent.closeSlot (q := fun _ => False))
  cases h with
  | dialFailed => exact Proceeds.transientFailure.after .retry
  | retried | lossHandled => exact .retry
  | restored isR =>
    cases isR
    · exact .refl
    · show Untried w w.startReplay
      unfold World.startReplay
      split
      · exact .spawn fun _ => rfl
      · exact .refl
  | closed p l c last hq hc hl =>
    have hcleared : Untried w w.clearWs := .same rfl rfl le_rfl rfl
    rcases hl with ⟨-, rfl⟩ | ⟨rfl, code, message, rfl⟩
    · exact hcleared
    · exact hcleared.after (.transition .fatal id (by decide) (by decide))
  | rejected => exact (hclose ..).after (.finishes (maybeFinishReconnect_finishes _ _))
  | dropped => exact hclose ..
  | acked s =>
    have hactive : Untried w (w.setSlot s fun x =>
        { x with everActive := true, isReconnectResume := false }) := .same rfl rfl le_rfl rfl
    exact hactive.after (.finishes (maybeFinishReconnect_finishes _ _))
  | replayed => exact .estopReplayed
  | unsubscribed handle syncWait topic s code reason hpath hc h =>
    rcases h with rfl | rfl
    · exact hclose ..
    · exact (hclose topic s code reason).after (.same rfl rfl le_rfl rfl)
  | _ => exact .same rfl rfl le_rfl rfl

/-- The first call of `_establish` is the only one that leaves `IDLE`. -/
theorem Enters.untried (h : Enters σ x w l w') : Untried w w' := by
  cases h with
  | establish hp hx ht hs => exact .transition .connecting (fun _ => hs) (by decide) (by decide)
  | unsendable => exact .of_silent (Silent.closeSlot (q := fun _ => False))
  | subscribing => exact .of_silent (Silent.registerSubscribe (q := fun _ => False))
  | sendFailed => exact .of_silent (Silent.unregisterSubscribe (q := fun _ => False))
  | replayFailed => exact .same rfl rfl le_rfl rfl
  | abortToFatal => exact .of_silent Silent.abandon
  | handleSubscribeAck => exact .of_silent (Silent.beginAck (q := fun _ => False))
  | subscribe => exact .beginSubscribe
  | _ => exact .refl

theorem env_untried {e : EnvStep} (he : World.env e w = some w') : Untried w w' := by
  cases env_env he with
  | quiet hq => exact .of_silent hq.toSilent
  | cancels => exact .of_milestones (fun _ => Tasks.pending_cancel_le) rfl le_rfl rfl
  | acks hq => exact (Proceeds.of_silent hq.toSilent).after (.spawn fun _ => rfl)
  | calls => exact .spawn fun _ => rfl
  | drops hq => exact (Proceeds.of_silent hq.toSilent).after (.spawn fun _ => rfl)

theorem resume_untried {t : TaskId} {op : Op} {rep : Except Exn Reply} :
    Untried w (w.resume t op rep) := by
  obtain ⟨ts, evt, heq, hts⟩ := resume_eq t op rep w
  rw [heq]
  refine .of_milestones (fun n => ?_) rfl le_rfl rfl
  rcases hts with rfl | rfl
  · exact le_rfl
  · exact Tasks.pending_served_le

theorem finish_untried {t : TaskId} {res : Except Exn Unit} : Untried w (w.finish t res) := by
  obtain ⟨log, ts, heq, hlog, hts⟩ := finish_eq w t res
  rw [heq]
  refine .of_milestones (fun n => ?_) rfl le_rfl (LogGrows.milestones_eq ⟨log, rfl, hlog⟩)
  rcases hts with rfl | ⟨code, message, rfl⟩
  · exact Tasks.pending_finish_le
  · show ((w.tasks.finish t).spawn _).pending _ ≤ _
    rw [Tasks.pending_spawn]
    exact Tasks.pending_finish_le

/-- A try uses the number of its retry. -/
theorem beginReconnect_proceeds (hs : w.conn.state = .transientFailure) :
    Proceeds 0 (Pi.single n 1) w (w.beginReconnect n) := by
  have hlog : ∃ info : StateChangeInfo, info.reconnectAttempt = n ∧
      w.beginReconnect n = { w with
        conn.state := .reconnecting
        conn.reconnectAttempt := n
        stateEvt := w.stateEvt.set
        log := .transition w.conn.state .reconnecting info :: w.log } := by
    unfold World.beginReconnect World.transition
    rw [if_neg (by simp [hs])]
    exact ⟨_, rfl, rfl⟩
  obtain ⟨info, hinfo, heq⟩ := hlog
  rw [heq]
  refine ⟨fun h => ⟨rfl, hs, h⟩, fun _ => le_rfl, le_rfl, le_rfl, rfl, fun m => ?_⟩
  show (Obs.transition w.conn.state .reconnecting info :: w.log).countP (Obs.tries m) = _
  have htries : Obs.tries m (.transition w.conn.state .reconnecting info) = decide (n = m) := by
    rw [← hinfo]
    rfl
  rw [List.countP_cons, htries, Pi.single_apply]
  simp [eq_comm]

theorem install_untried : Untried w w.install := by
  have hspawn : Untried w (w.spawn (.reader w.clientCount)) := .spawn fun _ => rfl
  exact hspawn.after (.same rfl rfl le_rfl rfl)

end KaroX2
