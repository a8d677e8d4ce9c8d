/-
KaroX2/Causes.lean

What a client does of its own accord has a cause.

Whatever it creates for itself is paid for by what happened before, one for one:

  * the task of the first dial by the first call of `connect`,
  * the connections by the first dial and the tries to reconnect,
  * the reader of a connection, and the session on it, by the connection,
  * the heartbeats by the handshakes,
  * the retries with a number by those that were scheduled with it,
  * the replays of an emergency stop by the handshakes of reconnects.

Some are created later than they are paid for.  Then a call owes them: `_establish` the
connection that it dials, then the session that it asks for, and then the replay that comes after
the subscriptions.
-/
import KaroX2.History
import KaroX2.Coop.Budget

namespace KaroX2

open Coop

namespace Coop.Tasks

variable {P : Type} {q : P → Bool} {ts : Tasks P} {t : TaskId} {p : P}

/-- The tasks that were ever created with a body in `q`. -/
def enrolled (q : P → Bool) (ts : Tasks P) : Nat := (ts.list.map Task.proc).countP q

theorem enrolled_spawn : (ts.spawn p).enrolled q = ts.enrolled q + (q p).toNat := by
  simp only [enrolled, spawn, List.map_append, List.countP_append, List.map_cons, List.map_nil,
    List.countP_singleton]
  cases q p <;> rfl

theorem enrolled_update {f : Task P → Task P} (hf : ∀ x, (f x).proc = x.proc) :
    (ts.update t f).enrolled q = ts.enrolled q := by
  have hproc : (ts.update t f).list.map Task.proc = ts.list.map Task.proc := by
    apply List.ext_getElem?
    intro n
    simp only [update, List.getElem?_map, List.getElem?_modify]
    cases ts.list[n]? <;> simp [apply_ite Task.proc, hf]
  rw [enrolled, enrolled, hproc]

theorem enrolled_cancel : (ts.cancel t).enrolled q = ts.enrolled q :=
  enrolled_update fun x => by split <;> rfl

theorem enrolled_begin : (ts.begin t).enrolled q = ts.enrolled q := enrolled_update fun _ => rfl

theorem enrolled_finish : (ts.finish t).enrolled q = ts.enrolled q := enrolled_update fun _ => rfl

theorem enrolled_served : (ts.served t).enrolled q = ts.enrolled q := enrolled_update fun _ => rfl

theorem Cancels.enrolled_eq {r : TaskId → Prop} {ts ts' : Tasks P} (h : Cancels r ts ts') :
    ts'.enrolled q = ts.enrolled q := by
  induction h with
  | refl => rfl
  | cancel _ _ ih => rw [enrolled_cancel, ih]

end Coop.Tasks

/-! ### The causes -/

/-- What the client creates for itself, by what it is paid with. -/
inductive Cause where
  | firstDial
  | connections
  | reader (c : WsId)
  | session (c : WsId)
  | heartbeats
  | retries (attempt : Nat)
  | replays
  deriving DecidableEq, Repr

/-- `_establish` has reached the robot. -/
def Obs.shakes : Obs → Bool
  | .handshake _ _ _ => true
  | _ => false

/-- `_establish` has reached the robot on the connection. -/
def Obs.shakesOn (c : WsId) : Obs → Bool
  | .handshake c' _ _ => c' = c
  | _ => false

/-- `_establish` has reached the robot again. -/
def Obs.rejoins : Obs → Bool
  | .handshake _ isReconnect _ => isReconnect
  | _ => false

/-- `CONNECTING` or `RECONNECTING` -/
def Obs.dials : Obs → Bool
  | .transition _ .connecting _ | .transition _ .reconnecting _ => true
  | _ => false

namespace Cause

/-- The tasks that are created for the cause. -/
def employs : Cause → Job → Bool
  | .firstDial, .establishInitial => true
  | .reader c, .reader c' => c' = c
  | .heartbeats, .heartbeat => true
  | .retries n, .doReconnect m _ => m = n
  | .replays, .estopReplay => true
  | _, _ => false

/-- What was created. -/
def spent : Cause → World → Nat
  | .connections, w => w.clientCount
  | .session c, w => w.log.countP (Obs.shakesOn c)
  | a, w => w.tasks.enrolled a.employs

/-- How often there was a cause to create it. -/
def earned : Cause → World → Nat
  | .firstDial, w => w.conn.connectInvoked.toNat
  | .connections, w => w.log.countP Obs.dials
  | .reader c, w | .session c, w => (decide (c < w.clientCount)).toNat
  | .heartbeats, w => w.log.countP Obs.shakes
  | .retries n, w => w.log.countP (Obs.schedules n)
  | .replays, w => w.log.countP Obs.rejoins

/-- The call has the cause to create it, and has not done so yet. -/
def owes : Cause → Label → Bool
  | .connections, .establish _ _ => true
  | .session c, .handshaking _ _ c' => c' = c
  | .replays, .restoring isReconnect _ _ _ => isReconnect
  | _, _ => false

/-- What is created with a connection. -/
def onInstall (c : WsId) : Cause → Nat
  | .connections => 1
  | a => (a.employs (.reader c)).toNat

/-- What is created with a session. -/
def onHandshake (c : WsId) : Cause → Nat
  | .session k => (decide (c = k)).toNat
  | a => (a.employs .heartbeat).toNat

def budget (a : Cause) : Budget Karo := ⟨a.spent, a.earned, a.owes⟩

end Cause

/-! ### Updates -/

variable {σ : Setup} {w w' : World} {x : Running Karo} {q : List Label} {l : Label} {clock : Clock}
  {a : Cause} {c : Config Karo}

/-- The update creates tasks, so many for each cause, and neither a connection nor a
session. -/
structure Hires (hired : Cause → Nat) (w w' : World) : Prop where
  tasks : ∀ a : Cause, w'.tasks.enrolled a.employs ≤ w.tasks.enrolled a.employs + hired a
  clientCount : w'.clientCount = w.clientCount
  sessions : ∀ c, w'.log.countP (Obs.shakesOn c) = w.log.countP (Obs.shakesOn c)
  invoked : w'.conn.connectInvoked = w.conn.connectInvoked

/-- The update creates nothing that needs a cause. -/
abbrev Idle := Hires fun _ => 0

namespace Hires

variable {w'' : World} {n : Cause → Nat}

theorem after (h : Idle w w') (h' : Hires n w' w'') : Hires n w w'' where
  tasks a := (h'.tasks a).trans (Nat.add_le_add_right (h.tasks a) _)
  clientCount := h'.clientCount.trans h.clientCount
  sessions c := (h'.sessions c).trans (h.sessions c)
  invoked := h'.invoked.trans h.invoked

theorem next (h : Hires n w w') (h' : Idle w' w'') : Hires n w w'' where
  tasks a := (h'.tasks a).trans (h.tasks a)
  clientCount := h'.clientCount.trans h.clientCount
  sessions c := (h'.sessions c).trans (h.sessions c)
  invoked := h'.invoked.trans h.invoked

theorem of_idle (h : Idle w w') : Hires n w w' where
  tasks a := (h.tasks a).trans (Nat.add_le_add_left (Nat.zero_le _) _)
  clientCount := h.clientCount
  sessions := h.sessions
  invoked := h.invoked

theorem spawn {j : Job} : Hires (fun a => (a.employs j).toNat) w (w.spawn j) where
  tasks _ := Tasks.enrolled_spawn.le
  clientCount := rfl
  sessions _ := rfl
  invoked := rfl

theorem spent_le (h : Hires n w w') : a.spent w' ≤ a.spent w + n a := by
  cases a with
  | connections => exact h.clientCount.le.trans (Nat.le_add_right _ _)
  | session c => exact (h.sessions c).le.trans (Nat.le_add_right _ _)
  | _ => exact h.tasks _

end Hires

namespace Idle

variable {w'' : World}

theorem refl : Idle w w := ⟨fun _ => le_rfl, rfl, fun _ => rfl, rfl⟩

theorem same (htasks : w'.tasks = w.tasks) (hcount : w'.clientCount = w.clientCount)
    (hlog : ∀ c, w'.log.countP (Obs.shakesOn c) = w.log.countP (Obs.shakesOn c))
    (hinvoked : w'.conn.connectInvoked = w.conn.connectInvoked) : Idle w w' :=
  ⟨fun a => by rw [htasks]; exact le_rfl, hcount, hlog, hinvoked⟩

theorem shakesOn_milestones {log log' : List Obs} (h : LogGrows log log') (c : WsId) :
    log'.countP (Obs.shakesOn c) = log.countP (Obs.shakesOn c) := by
  have hp : ∀ e : Obs, e.shakesOn c = true → e.milestone = true := by
    intro e he
    cases e <;> first | rfl | cases he
  rw [← countP_milestones hp, h.milestones_eq, countP_milestones hp]

theorem of_silent {p : TaskId → Prop} (h : Silent p w w') : Idle w w' where
  tasks _ := h.tasks.enrolled_eq.le
  clientCount := h.clientCount
  sessions := shakesOn_milestones h.log
  invoked := by rw [h.conn]

theorem spawn {j : Job} (hj : ∀ a, Cause.employs a j = false) : Idle w (w.spawn j) where
  tasks a := by
    show (w.tasks.spawn j).enrolled _ ≤ _
    rw [Tasks.enrolled_spawn, hj]
    exact le_rfl
  clientCount := rfl
  sessions _ := rfl
  invoked := rfl

theorem transition {new : ConnectionState} {info : StateChangeInfo} :
    Idle w (w.transition new info) := by
  unfold World.transition
  split
  · exact refl
  · exact same rfl rfl (fun _ => rfl) rfl

theorem transientFailure {reason message : String} {code : ErrorCode} :
    Idle w (w.transientFailure σ reason code message) := by
  have hdrawn : Idle w { w with draws := w.draws + 1 } := same rfl rfl (fun _ => rfl) rfl
  exact hdrawn.after transition

theorem finishes {phase : Bool} (h : Finishes w phase w') : Idle w w' := by
  cases h with
  | refused => exact refl
  | counted => exact same rfl rfl (fun _ => rfl) rfl
  | finished =>
    refine Hires.after ?_ transition
    exact same rfl rfl (fun _ => rfl) rfl

theorem armReconnect : Idle w w.armReconnect := by
  unfold World.armReconnect World.reconnectOk
  dsimp only
  split
  · refine Hires.after ?_ transition
    exact same rfl rfl (fun _ => rfl) rfl
  · exact same rfl rfl (fun _ => rfl) rfl

theorem estopReplayed : Idle w w.estopReplayed := by
  unfold World.estopReplayed World.replayOk
  dsimp only
  split
  · refine Hires.after ?_ transition
    exact same rfl rfl (fun _ => rfl) rfl
  · exact same rfl rfl (fun _ => rfl) rfl

theorem beginSubscribe {u : SlotId} {topic : String} {hz : PyFloat} :
    Idle w (w.beginSubscribe σ u topic hz) := by
  have hstart (v : World) : Idle v (v.startSubWorker u) := by
    rcases startSubWorker_cases v u with ⟨f, h, -⟩ | ⟨d, h⟩
    · rw [h]
      exact same rfl rfl (fun _ => rfl) rfl
    · rw [h]
      refine Hires.after ?_ (spawn fun b => by cases b <;> rfl)
      exact same rfl rfl (fun _ => rfl) rfl
  unfold World.beginSubscribe
  split
  · exact same rfl rfl (fun _ => rfl) rfl
  · refine Hires.after ?_ (hstart _)
    exact same rfl rfl (fun _ => rfl) rfl

end Idle

theorem countP_cons_toNat {p : Obs → Bool} {e : Obs} {log : List Obs} :
    (e :: log).countP p = log.countP p + (p e).toNat := by
  rw [List.countP_cons]
  cases p e <;> rfl

theorem Cause.earned_mono (hl : Later w w')
    (hinvoked : w.conn.connectInvoked = true → w'.conn.connectInvoked = true) :
    a.earned w ≤ a.earned w' := by
  obtain ⟨log, hlog⟩ := hl.log
  have hcount (f : Obs → Bool) : w.log.countP f ≤ w'.log.countP f := by
    rw [hlog, List.countP_append]
    exact Nat.le_add_left _ _
  cases a with
  | firstDial => exact Bool.toNat_le_toNat hinvoked
  | reader c | session c =>
    apply Bool.toNat_le_toNat
    intro hc
    exact decide_eq_true ((of_decide_eq_true hc).trans_le hl.clientCount)
  | _ => exact hcount _

/-- The update pays for all it creates. -/
def Pays (p q : List Label) (w w' : World) : Prop := ∀ a : Cause, a.budget.Pays p q w w'

theorem Idle.pays {p : List Label} (h : Idle w w') (hl : Later w w')
    (hq : ∀ a : Cause, a.budget.debts q ≤ a.budget.debts p) : Pays p q w w' := fun _ =>
  Nat.add_le_add (Nat.add_le_add h.spent_le (hq _))
    (Cause.earned_mono hl fun hw => h.invoked.trans hw)

namespace Pays

variable {p p' : List Label} {v : World} {j : Job}

theorem trans (h : Pays p q w v) (h' : Pays q p' v w') : Pays p p' w w' :=
  fun a => (h a).trans (h' a)

/-- What is created, and how it is paid for. -/
theorem creates (spend : Cause → Nat)
    (hspent : ∀ a : Cause, a.spent w' ≤ a.spent w + spend a)
    (hpaid : ∀ a : Cause, spend a + a.budget.debts q + a.earned w ≤
      a.budget.debts p + a.earned w') : Pays p q w w' := fun a => by
  have hspent := hspent a
  have hpaid := hpaid a
  show a.spent w' + a.budget.debts q + a.earned w ≤ a.spent w + a.budget.debts p + a.earned w'
  omega

/-- A task is created, and paid for. -/
theorem spawns (htasks : w'.tasks = w.tasks.spawn j) (hcount : w'.clientCount = w.clientCount)
    (hlog : ∀ c, w'.log.countP (Obs.shakesOn c) = w.log.countP (Obs.shakesOn c))
    (hpaid : ∀ a : Cause, (a.employs j).toNat + a.budget.debts q + a.earned w ≤
      a.budget.debts p + a.earned w') : Pays p q w w' := by
  apply creates (fun a => (a.employs j).toNat) _ hpaid
  intro a
  cases a with
  | connections => exact hcount.le
  | session c => exact (hlog c).le
  | _ =>
    show w'.tasks.enrolled _ ≤ _
    rw [htasks, Tasks.enrolled_spawn]
    exact le_rfl

theorem connect : Pays p p w w.connect := by
  unfold World.connect
  split
  · exact Idle.refl.pays (.refl w) fun _ => le_rfl
  · rename_i hnew
    refine spawns rfl rfl (fun _ => rfl) ?_
    intro a
    cases a with
    | firstDial =>
      show 1 + _ + w.conn.connectInvoked.toNat ≤ _ + 1
      rw [Bool.eq_false_of_not_eq_true hnew]
      show 1 + _ + 0 ≤ _ + 1
      omega
    | _ =>
      show 0 + _ + _ ≤ _
      rw [Nat.zero_add]
      exact le_rfl

theorem retry : Pays p p w (w.retry σ) := by
  obtain ⟨v, hv, hr⟩ : ∃ v, v = w.retry σ ∧ Retries w v := ⟨_, rfl, retry_retries w⟩
  have hl : Later w v := .retries hr
  rw [← hv]
  cases hr with
  | refused => exact Idle.refl.pays hl fun _ => le_rfl
  | exhausted => exact (Idle.spawn fun a => by cases a <;> rfl).pays hl fun _ => le_rfl
  | scheduled h n ms draws =>
    refine spawns rfl rfl (fun _ => rfl) ?_
    intro a
    cases a with
    | retries m =>
      show (decide (n = m)).toNat + _ + w.log.countP (Obs.schedules m) ≤
        _ + (Obs.reconnectScheduled n ms :: w.log).countP (Obs.schedules m)
      rw [countP_cons_toNat]
      show _ ≤ _ + (_ + (decide (n = m)).toNat)
      omega
    | _ =>
      show 0 + _ + _ ≤ _
      rw [Nat.zero_add]
      exact Nat.add_le_add_left (Cause.earned_mono hl id) _

/-- The first dial, which leaves `IDLE` -/
theorem opens {ep : Nat} {info : StateChangeInfo} (hs : w.conn.state = .idle) :
    Pays p (p ++ [.establish false ep]) w (w.transition .connecting info) := by
  have hidle : Idle w (w.transition .connecting info) := .transition
  refine creates (fun _ => 0) (fun _ => hidle.spent_le) fun a => ?_
  rw [Budget.debts_append, Nat.zero_add, Nat.add_assoc]
  apply Nat.add_le_add_left
  cases a with
  | connections =>
    show 1 + w.log.countP Obs.dials ≤ (w.transition .connecting info).log.countP Obs.dials
    rw [transition_log, if_neg (by simp [hs]), List.countP_cons_of_pos rfl]
    exact (Nat.add_comm _ _).le
  | _ =>
    show 0 + _ ≤ _
    rw [Nat.zero_add]
    exact Cause.earned_mono .transition fun hw => hidle.invoked.trans hw

/-- A try to reconnect -/
theorem reconnects {n ep : Nat} (hs : w.conn.state = .transientFailure) :
    Pays [.backoff] [.establish true ep] w (w.beginReconnect n) := by
  have hcounted : Idle w { w with conn.reconnectAttempt := n } :=
    .same rfl rfl (fun _ => rfl) rfl
  have hidle : Idle w (w.beginReconnect n) := hcounted.after Idle.transition
  have hl : Later w (w.beginReconnect n) := Later.andTransition (.of_eq rfl rfl rfl rfl rfl)
  refine creates (fun _ => 0) (fun _ => hidle.spent_le) fun a => ?_
  cases a with
  | connections =>
    show 0 + 1 + w.log.countP Obs.dials ≤ 0 + (w.beginReconnect n).log.countP Obs.dials
    unfold World.beginReconnect
    rw [transition_log, if_neg (by simp [hs]), List.countP_cons_of_pos rfl]
    show 0 + 1 + w.log.countP Obs.dials ≤ 0 + (w.log.countP Obs.dials + 1)
    omega
  | _ =>
    show 0 + 0 + _ ≤ 0 + _
    exact Nat.add_le_add_left (Cause.earned_mono hl fun hw => hidle.invoked.trans hw) _

/-- A connection is opened, with its reader and a session to come. -/
theorem install {isR : Bool} {ep : Nat} :
    Pays [.establish isR ep] [.handshaking isR ep w.clientCount] w w.install := by
  have hopened (c : WsId) : (decide (w.clientCount = c)).toNat +
      (decide (c < w.clientCount)).toNat ≤ (decide (c < w.clientCount + 1)).toNat := by
    rcases lt_trichotomy c w.clientCount with h | rfl | h
    · simp [h, h.ne', Nat.lt_succ_of_lt h]
    · simp
    · simp [h.ne, h.not_gt, Nat.not_lt.mpr (Nat.succ_le_of_lt h)]
  refine creates (Cause.onInstall w.clientCount) (fun a => ?_) fun a => ?_
  · cases a with
    | connections | session => exact le_rfl
    | _ => exact Tasks.enrolled_spawn.le
  · cases a with
    | connections => exact le_rfl
    | reader c =>
      show (decide (w.clientCount = c)).toNat + 0 + _ ≤ 0 + _
      rw [Nat.add_zero, Nat.zero_add]
      exact hopened c
    | session c =>
      rw [Budget.debts_singleton, Budget.debts_singleton]
      show 0 + (decide (w.clientCount = c)).toNat + _ ≤ 0 + _
      rw [Nat.zero_add, Nat.zero_add]
      exact hopened c
    | _ =>
      show 0 + 0 + _ ≤ 0 + _
      exact Nat.add_le_add_left (Cause.earned_mono .install id) _

theorem armReconnect_later : Later w w.armReconnect := by
  unfold World.armReconnect World.reconnectOk
  dsimp only
  split
  · apply Later.andTransition
    exact .of_eq rfl rfl rfl rfl rfl
  · exact .of_eq rfl rfl rfl rfl rfl

/-- The heartbeat is created, unless it is turned off. -/
theorem startHeartbeat :
    Hires (fun a => (a.employs .heartbeat).toNat) w (w.startHeartbeat σ) := by
  obtain ⟨v, hv, -, he⟩ := startHeartbeat_eq (σ := σ) (w := w)
  have hstopped : Idle w v := .of_silent hv
  rw [he]
  split
  · exact .of_idle hstopped
  · refine (Hires.after hstopped .spawn).next ?_
    exact .same rfl rfl (fun _ => rfl) rfl

/-- A session begins with a handshake, which pays for its heartbeat and for the replay of a
reconnect. -/
theorem beginSession {isR : Bool} {ep : Nat} {c : WsId} {resp : DecodedResponse}
    {todo : List SlotId} :
    Pays [.handshaking isR ep c] [.restoring isR ep c todo] w (w.beginSession σ isR c resp) := by
  obtain ⟨v, hv⟩ : ∃ v, v = ((w.setRobotInfo resp).startHeartbeat σ).resolveAllSemantics :=
    ⟨_, rfl⟩
  obtain ⟨u, hu⟩ : ∃ u, u = v.push (.handshake c isR v.estop.engaged) := ⟨_, rfl⟩
  have hinfo : Idle w (w.setRobotInfo resp) := .same rfl rfl (fun _ => rfl) rfl
  have hshaken : Hires (fun a => (a.employs .heartbeat).toNat) w v := by
    rw [hv]
    exact (Hires.after hinfo startHeartbeat).next
      (.of_silent (Silent.resolveAllSemantics (q := fun _ => False)))
  have hlater : Later w v := by
    have hl : Later w (w.setRobotInfo resp) := .of_eq rfl rfl rfl rfl rfl
    rw [hv]
    exact (hl.trans .startHeartbeat).trans
      (Silent.resolveAllSemantics (q := fun _ => False)).later
  have hpaid : Pays [.handshaking isR ep c] [.restoring isR ep c todo] w u := by
    rw [hu]
    have hearned (a : Cause) : a.earned w ≤ a.earned v :=
      Cause.earned_mono hlater fun hw => hshaken.invoked.trans hw
    refine creates (Cause.onHandshake c) (fun a => ?_) fun a => ?_
    · have hspent := hshaken.spent_le (a := a)
      cases a with
      | session k =>
        show (Obs.handshake c isR v.estop.engaged :: v.log).countP _ ≤ _
        rw [countP_cons_toNat, hshaken.sessions k]
        exact le_rfl
      | _ => exact hspent
    · have hearned := hearned a
      rw [Budget.debts_singleton, Budget.debts_singleton]
      cases a with
      | session k => exact Nat.add_le_add_left hearned _
      | heartbeats =>
        show 1 + 0 + _ ≤ 0 + (Obs.handshake c isR v.estop.engaged :: v.log).countP Obs.shakes
        rw [countP_cons_toNat]
        show 1 + 0 + w.log.countP Obs.shakes ≤ 0 + (v.log.countP Obs.shakes + 1)
        have : w.log.countP Obs.shakes ≤ v.log.countP Obs.shakes := hearned
        omega
      | replays =>
        show 0 + isR.toNat + _ ≤
          0 + (Obs.handshake c isR v.estop.engaged :: v.log).countP Obs.rejoins
        rw [countP_cons_toNat]
        show 0 + isR.toNat + w.log.countP Obs.rejoins ≤ 0 + (v.log.countP Obs.rejoins + isR.toNat)
        have : w.log.countP Obs.rejoins ≤ v.log.countP Obs.rejoins := hearned
        omega
      | _ => exact Nat.add_le_add_left hearned _
  unfold World.beginSession
  dsimp only
  rw [← hv, ← hu]
  split
  · exact hpaid.trans (Idle.armReconnect.pays armReconnect_later fun _ => le_rfl)
  · exact hpaid.trans (Idle.transition.pays .transition fun _ => le_rfl)

/-- The replay is created when the subscriptions are restored. -/
theorem restored {isR : Bool} {ep : Nat} {c : WsId} :
    Pays [.restoring isR ep c []] [] w (w.restored isR) := by
  have hends : Pays [.restoring isR ep c []] [] w w :=
    Idle.refl.pays (.refl w) fun _ => Nat.zero_le _
  cases isR with
  | false => exact hends
  | true =>
    show Pays _ _ w w.startReplay
    unfold World.startReplay
    split
    · refine spawns rfl rfl (fun _ => rfl) fun a => ?_
      cases a <;> exact le_rfl
    · exact hends

end Pays

/-! ### The steps of the outline -/

theorem Move.pays {p : List Label} (h : Move σ x w w') : Pays p p w w' := by
  have hl : Later w w' := h.later
  have hpays (hidle : Idle w w') : Pays p p w w' := hidle.pays hl fun _ => le_rfl
  cases h with
  | connected => exact .connect
  | quiet h => exact hpays (.of_silent h.toSilent)
  | sent | answered | streamEnded | closeFired | dispatched | latched | startedAfresh =>
    exact hpays (.same rfl rfl (fun _ => rfl) rfl)
  | buffered => exact hpays (.of_silent (Silent.bufferPending (q := fun _ => False)))
  | received => exact hpays (.of_silent (Silent.acceptPush (q := fun _ => False)))
  | drained => exact hpays (.of_silent (Silent.drainFront (q := fun _ => False)))
  | activated u phase ep resp hp hx hs hlog ha h =>
    rcases h with ⟨-, rfl⟩ | ⟨-, rfl⟩
    · exact hpays (.of_silent (Silent.activateTelemetry (q := fun _ => False)))
    · exact hpays (.of_silent (Silent.activateEvent (q := fun _ => False)))
  | forgotten => exact hpays (.of_silent (Silent.takeAck (q := fun _ => False)))
  | shutDown => exact hpays (Idle.transition.after (Idle.of_silent Silent.closeDown))
  | aborted => exact hpays .transition
  | lost p reason msg =>
    have hpush : Idle w (w.push (.transportClose reason msg)) := .same rfl rfl (fun _ => rfl) rfl
    refine hpays (Hires.after ?_ Idle.transientFailure)
    exact hpush.after (Idle.of_silent Silent.dropSession)
  | turnedDown => exact hpays .transientFailure

theorem Leaves.pays (h : Leaves σ x q w l w') : Pays (q ++ [l]) q w w' := by
  have hl : Later w w' := h.later
  have hends (v : World) : Pays (q ++ [l]) q v v := fun _ => .leaves
  have hpays (hidle : Idle w w') : Pays (q ++ [l]) q w w' :=
    (hends w).trans (hidle.pays hl fun _ => le_rfl)
  have hclose (topic : String) (u : SlotId) (code : ErrorCode) (reason : String) :
      Idle w (w.closeSlot x.task topic u code reason) :=
    .of_silent (Silent.closeSlot (q := fun _ => False))
  cases h with
  | dialFailed isR ep code message =>
    have hfailed (reason : String) : Pays q q w (w.transientFailure σ reason code message) :=
      Idle.transientFailure.pays .transientFailure fun _ => le_rfl
    exact ((hends w).trans (hfailed _)).trans .retry
  | retried | lossHandled => exact (hends w).trans .retry
  | restored isR ep c =>
    intro a
    have hrestored : Pays [.restoring isR ep c []] [] w (w.restored isR) := .restored
    have hbelow : a.budget.Pays (q ++ [.restoring isR ep c []]) (q ++ []) w (w.restored isR) :=
      (hrestored a).below
    rwa [List.append_nil] at hbelow
  | closed p l c last hq hc hlast =>
    have hcleared : Idle w w.clearWs := .same rfl rfl (fun _ => rfl) rfl
    rcases hlast with ⟨-, rfl⟩ | ⟨rfl, code, message, rfl⟩
    · exact hpays hcleared
    · exact hpays (hcleared.after Idle.transition)
  | rejected =>
    exact hpays ((hclose ..).after (Idle.finishes (maybeFinishReconnect_finishes _ _)))
  | dropped => exact hpays (hclose ..)
  | acked u =>
    have hactive : Idle w (w.setSlot u fun x =>
        { x with everActive := true, isReconnectResume := false }) :=
      .same rfl rfl (fun _ => rfl) rfl
    exact hpays (hactive.after (Idle.finishes (maybeFinishReconnect_finishes _ _)))
  | replayed => exact hpays .estopReplayed
  | unsubscribed handle syncWait topic u code reason hpath hc h =>
    rcases h with rfl | rfl
    · exact hpays (hclose ..)
    · refine hpays ((hclose topic u code reason).after ?_)
      exact Idle.same rfl rfl (fun _ => rfl) rfl
  | _ => exact hpays (.same rfl rfl (fun _ => rfl) rfl)

theorem Becomes.pays (h : Becomes σ x w q w') : Pays x.path q w w' := by
  cases h with
  | reconnects n ms rep hp ht hx hs =>
    rw [hp]
    exact .reconnects hs
  | installs isR ep rep hp =>
    rw [hp]
    exact .install
  | begins isR ep c rid cmd resp hp =>
    rw [hp]
    exact .beginSession
  | restores isR ep c u rest hp =>
    rw [hp]
    exact Idle.refl.pays (.refl w) fun a => by cases a <;> exact le_rfl

theorem Enters.pays {p : List Label} (h : Enters σ x w l w') : Pays p (p ++ [l]) w w' := by
  have hl : Later w w' := h.later
  have hpays (howes : ∀ a : Cause, a.owes l = false) (hidle : Idle w w') :
      Pays p (p ++ [l]) w w' := by
    refine hidle.pays hl fun a => ?_
    have hnone : (a.budget.owes l).toNat = 0 := congrArg Bool.toNat (howes a)
    rw [Budget.debts_append, Budget.debts_singleton, hnone]
    exact le_rfl
  cases h with
  | establish hp hx ht hs => exact .opens hs
  | unsendable =>
    exact hpays (fun a => by cases a <;> rfl)
      (.of_silent (Silent.closeSlot (q := fun _ => False)))
  | subscribing =>
    exact hpays (fun a => by cases a <;> rfl)
      (.of_silent (Silent.registerSubscribe (q := fun _ => False)))
  | sendFailed =>
    exact hpays (fun a => by cases a <;> rfl)
      (.of_silent (Silent.unregisterSubscribe (q := fun _ => False)))
  | replayFailed => exact hpays (fun a => by cases a <;> rfl) (.same rfl rfl (fun _ => rfl) rfl)
  | abortToFatal => exact hpays (fun a => by cases a <;> rfl) (.of_silent Silent.abandon)
  | handleSubscribeAck =>
    exact hpays (fun a => by cases a <;> rfl) (.of_silent (Silent.beginAck (q := fun _ => False)))
  | subscribe => exact hpays (fun a => by cases a <;> rfl) .beginSubscribe
  | _ => exact hpays (fun a => by cases a <;> rfl) .refl

theorem env_idle {e : EnvStep} (he : World.env e w = some w') : Idle w w' := by
  have hother {j : Job} (hj : ∀ a : Cause, a.employs j = false) (v : World) :
      Idle v (v.spawn j) := .spawn hj
  cases env_env he with
  | quiet hq => exact .of_silent hq.toSilent
  | cancels => exact ⟨fun _ => Tasks.enrolled_cancel.le, rfl, fun _ => rfl, rfl⟩
  | acks hq => exact (Idle.of_silent hq.toSilent).after (hother (fun a => by cases a <;> rfl) _)
  | calls => exact hother (fun a => by cases a <;> rfl) _
  | drops hq => exact (Idle.of_silent hq.toSilent).after (hother (fun a => by cases a <;> rfl) _)

theorem begin_idle {t : TaskId} : Idle w { w with tasks := w.tasks.begin t } :=
  ⟨fun _ => Tasks.enrolled_begin.le, rfl, fun _ => rfl, rfl⟩

theorem resume_idle {t : TaskId} {op : Op} {rep : Except Exn Reply} :
    Idle w (w.resume t op rep) := by
  obtain ⟨ts, evt, heq, hts⟩ := resume_eq t op rep w
  rw [heq]
  rcases hts with rfl | rfl
  · exact .same rfl rfl (fun _ => rfl) rfl
  · exact ⟨fun _ => Tasks.enrolled_served.le, rfl, fun _ => rfl, rfl⟩

theorem finish_idle {t : TaskId} {res : Except Exn Unit} : Idle w (w.finish t res) := by
  obtain ⟨log, ts, heq, hlog, hts⟩ := finish_eq w t res
  rw [heq]
  refine ⟨fun a => ?_, rfl, Idle.shakesOn_milestones ⟨log, rfl, hlog⟩, rfl⟩
  rcases hts with rfl | ⟨code, message, rfl⟩
  · exact Tasks.enrolled_finish.le
  · show ((w.tasks.finish t).spawn _).enrolled _ ≤ _
    rw [Tasks.enrolled_spawn, Tasks.enrolled_finish]
    cases a <;> exact le_rfl

/-! ### Runs -/

theorem cause_settles (a : Cause) : a.budget.Settles (outline σ) where
  step hs := by
    rcases hs with ⟨rfl, hm⟩ | ⟨l, hp, hm⟩ | hm
    · exact hm.pays a
    · rw [hp]
      exact hm.pays a
    · exact hm.pays a
  enter hs := hs.pays a
  resume _ _ _ _ := resume_idle.pays resume_later (fun _ => le_rfl) a
  start _ _ := begin_idle.pays begin_later (fun _ => le_rfl) a
  finish _ _ _ := finish_idle.pays finish_later (fun _ => le_rfl) a
  env he := (env_idle he).pays (env_later he) (fun _ => le_rfl) a

theorem cause_initial : a.spent (.init clock) ≤ a.earned (.init clock) := by
  cases a <;> exact Nat.zero_le _

/-- **Nothing without a cause**: in every run and for every cause, what was created and what the
suspended calls still owe is no more than what was earned. -/
theorem causes_balanced (h : Reaches (robot σ) (initial clock) c) (a : Cause) :
    a.spent c.world + (c.sites.map fun s => s.path.countP a.owes).sum ≤ a.earned c.world :=
  (cause_settles a).run outlined cause_initial h

/-- After the first connection is lost, a second one is owed by the try that dials. -/
theorem causes_balanced_dropped : ∃ c, Reaches (robot .plain) (initial ⟨0, 0⟩) c ∧
    Cause.connections.spent c.world = 1 ∧
    (c.sites.map fun s => s.path.countP Cause.connections.owes).sum = 1 ∧
    2 ≤ Cause.connections.earned c.world := by
  have hplay : ((robot .plain).play 4 droppedOnce (initial ⟨0, 0⟩)).any
      (fun c => Cause.connections.spent c.world = 1 ∧
        (c.sites.map fun s => s.path.countP Cause.connections.owes).sum = 1) = true := by
    decide +kernel
  obtain ⟨c, hc, hs⟩ := (Option.any_eq_true _ _).mp hplay
  obtain ⟨hspent, howed⟩ := of_decide_eq_true hs
  refine ⟨c, play_run hc, hspent, howed, ?_⟩
  have := causes_balanced (play_run hc) .connections
  omega

/-! ### Sessions, connections and retries -/

/-- The connection of the session that begins. -/
def Obs.session? : Obs → Option WsId
  | .handshake c _ _ => some c
  | _ => none

/-- The number of the try that begins. -/
def Obs.attempt? : Obs → Option Nat
  | .transition _ .reconnecting info => some info.reconnectAttempt
  | _ => none

/-- The number of the retry that is scheduled. -/
def Obs.retry? : Obs → Option Nat
  | .reconnectScheduled n _ => some n
  | _ => none

variable {log : List Obs} {n : Nat}

/-- Sessions on different connections are no more than the connections. -/
theorem sessions_le (h : ∀ k, log.countP (Obs.shakesOn k) ≤ (decide (k < n)).toNat) :
    (log.filterMap Obs.session?).length ≤ n := by
  have hcount (k : WsId) : (log.filterMap Obs.session?).count k = log.countP (Obs.shakesOn k) := by
    rw [List.count_filterMap]
    refine List.countP_congr fun e _ => ?_
    cases e <;> simp [Obs.session?, Obs.shakesOn]
  have hnodup : (log.filterMap Obs.session?).Nodup := by
    apply List.nodup_iff_count_le_one.mpr
    intro k
    rw [hcount]
    exact (h k).trans (Bool.toNat_le _)
  have hsub : log.filterMap Obs.session? ⊆ List.range n := by
    intro k hk
    have hpos : 0 < (log.filterMap Obs.session?).count k := List.count_pos_iff.mpr hk
    have hle := h k
    rw [hcount] at hpos
    apply List.mem_range.mpr
    by_contra hge
    rw [decide_eq_false hge] at hle
    exact absurd (hpos.trans_le hle) (lt_irrefl 0)
  calc (log.filterMap Obs.session?).length
    _ ≤ (List.range n).length := (List.subperm_of_subset hnodup hsub).length_le
    _ = n := List.length_range

/-- Tries that were scheduled, each with its number, are no more than the retries. -/
theorem tries_le (h : ∀ n, log.countP (Obs.tries n) ≤ log.countP (Obs.schedules n)) :
    (log.filterMap Obs.attempt?).length ≤ (log.filterMap Obs.retry?).length := by
  apply List.Subperm.length_le
  apply List.subperm_ext_iff.mpr
  intro n _
  rw [List.count_filterMap, List.count_filterMap]
  refine le_trans (le_of_eq ?_) ((h n).trans (le_of_eq ?_))
  · refine List.countP_congr fun e _ => ?_
    cases e with
    | transition old new info => cases new <;> simp [Obs.attempt?, Obs.tries]
    | _ => simp [Obs.attempt?, Obs.tries]
  · refine List.countP_congr fun e _ => ?_
    cases e <;> simp [Obs.retry?, Obs.schedules]

theorem dials_eq : log.countP Obs.dials =
    log.countP Obs.opens + (log.filterMap Obs.attempt?).length := by
  have hentry (e : Obs) : e.dials.toNat = e.opens.toNat + e.attempt?.isSome.toNat := by
    cases e with
    | transition old new info => cases new <;> rfl
    | _ => rfl
  rw [List.length_filterMap_eq_countP]
  induction log with
  | nil => rfl
  | cons e log ih =>
    have := hentry e
    rw [countP_cons_toNat, countP_cons_toNat, countP_cons_toNat]
    omega

/-- **Sessions, connections and retries**: in every run, the sessions are no more than the
connections, and these and the dials under way are no more than the retries and one more. -/
theorem connections_scheduled (h : Reaches (robot σ) (initial clock) c) :
    (c.world.log.filterMap Obs.session?).length ≤ c.world.clientCount ∧
    c.world.clientCount + (c.sites.map fun s => s.path.countP Cause.connections.owes).sum ≤
      1 + (c.world.log.filterMap Obs.retry?).length := by
  have hbalanced (a : Cause) :
      a.spent c.world + (c.sites.map fun s => s.path.countP a.owes).sum ≤ a.earned c.world :=
    (cause_settles a).run outlined cause_initial h
  obtain ⟨r, hc⟩ := chronicle h
  have hopens : c.world.log.countP Obs.opens ≤ 1 := hc.leads.opens_le
  have htries : (c.world.log.filterMap Obs.attempt?).length ≤
      (c.world.log.filterMap Obs.retry?).length :=
    tries_le fun n => (Nat.le_add_right _ _).trans (hc.tried n)
  refine ⟨sessions_le fun k => ?_, ?_⟩
  · exact (Nat.le_add_right _ _).trans (hbalanced (.session k))
  · have hdialled : c.world.clientCount +
        (c.sites.map fun s => s.path.countP Cause.connections.owes).sum ≤
          c.world.log.countP Obs.dials := hbalanced .connections
    have hdials : c.world.log.countP Obs.dials = _ + _ := dials_eq
    omega

theorem connections_scheduled_dropped : ∃ c, Reaches (robot .plain) (initial ⟨0, 0⟩) c ∧
    c.world.clientCount = 1 ∧ (c.world.log.filterMap Obs.retry?).length = 1 ∧
    (c.world.log.filterMap Obs.session?).length ≤ 1 ∧
    1 + (c.sites.map fun s => s.path.countP Cause.connections.owes).sum ≤ 1 + 1 := by
  have hplay : ((robot .plain).play 4 droppedOnce (initial ⟨0, 0⟩)).any
      (fun c => c.world.clientCount = 1 ∧
        (c.world.log.filterMap Obs.retry?).length = 1) = true := by
    decide +kernel
  obtain ⟨c, hc, hs⟩ := (Option.any_eq_true _ _).mp hplay
  obtain ⟨hcount, hretries⟩ := of_decide_eq_true hs
  have hscheduled := connections_scheduled (play_run hc)
  rw [hcount, hretries] at hscheduled
  exact ⟨c, play_run hc, hcount, hretries, hscheduled⟩

end KaroX2
