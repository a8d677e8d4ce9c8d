/-
KaroX2/Attempts.lean

Attempts to connect, and tries to reconnect.

An attempt is a scheduled retry, a retry that sleeps, a call of `_establish`, or a call of
`_on_transport_close`, which ends by scheduling a retry.  Each of them turns into the next
one: a scheduled retry sleeps, then establishes, and if this fails schedules the next.  A
call of `_on_transport_close` in a terminal state returns at once and does not count.

A try is a transition to `RECONNECTING`; the tries begin again in `READY`.
-/
import KaroX2.Lookup
import KaroX2.Walk.Tasks

namespace KaroX2

open Coop

variable {σ : Setup} {w w' : World} {x : Running Karo} {q : List Label} {l : Label}

/-! ### Attempts -/

/-- The task will establish a connection. -/
def Job.attempts : Job → Bool
  | .establishInitial | .doReconnect _ _ => true
  | _ => false

/-- The call establishes a connection, waits to do so, or will schedule a retry. -/
def Label.attempts : Label → Bool
  | .backoff | .establish _ _ | .handshaking _ _ _ | .restoring _ _ _ _ | .onTransportClose => true
  | _ => false

/-- The attempts among the calls of a task. -/
def attemptCount (p : List Label) : Nat := p.countP Label.attempts

/-- The attempts that have yet to be started. -/
def World.planned (w : World) : Nat := w.tasks.pending Job.attempts

/-- The task has just been started to establish a connection. -/
def Coop.Running.begins (x : Running Karo) (w : World) : Nat :=
  match x.since with
  | .begun => ((w.tasks.procOf x.task).any Job.attempts).toNat
  | _ => 0

/-- The task has called `_on_transport_close` in a terminal state. -/
def Coop.Running.ignores (x : Running Karo) (w : World) : Bool :=
  match x.since with
  | .called => w.conn.state.terminal && x.path.getLast? = some .onTransportClose
  | _ => false

/-- The attempts of the running task. -/
def Coop.Running.load (x : Running Karo) (w : World) : Nat :=
  if x.ignores w then attemptCount x.path.dropLast else attemptCount x.path + x.begins w

@[simp] theorem attemptCount_append {p : List Label} :
    attemptCount (p ++ q) = attemptCount p + attemptCount q := List.countP_append

theorem load_le : x.load w ≤ attemptCount x.path + x.begins w := by
  unfold Running.load
  split
  · exact ((List.dropLast_sublist _).countP_le).trans (Nat.le_add_right _ _)
  · exact le_rfl

theorem load_eq (h : x.ignores w = false) : x.load w = attemptCount x.path + x.begins w := by
  rw [Running.load, h]
  rfl

/-- Without its last call the task has no more attempts. -/
theorem load_ge (hp : x.path = q ++ [l]) : attemptCount q + x.begins w ≤ x.load w := by
  unfold Running.load
  split
  · rename_i h
    have hbegins : x.begins w = 0 := by
      unfold Running.ignores at h
      unfold Running.begins
      split
      · rename_i hs
        rw [hs] at h
        cases h
      · rfl
    rw [hp, hbegins, List.dropLast_concat]
    exact le_rfl
  · rw [hp, attemptCount_append]
    omega

theorem ignores_false (h : x.path.getLast? ≠ some .onTransportClose) : x.ignores w = false := by
  unfold Running.ignores
  split
  · simp [h]
  · rfl

theorem load_mono (hb : x.begins w' = x.begins w)
    (hi : x.ignores w = true → w'.conn.state.terminal = true) : x.load w' ≤ x.load w := by
  cases h : x.ignores w with
  | true =>
    have ht : w'.conn.state.terminal = true := hi h
    have h' : x.ignores w' = true := by
      unfold Running.ignores at h ⊢
      split at h
      · simp only [Bool.and_eq_true] at h ⊢
        exact ⟨ht, h.2⟩
      · cases h
    rw [Running.load, Running.load, h, h']
    exact le_rfl
  | false =>
    rw [load_eq h, ← hb]
    exact load_le

/-! ### The tries to reconnect -/

/-- The tries to reconnect since the last `READY`. -/
def tries : List Obs → Nat
  | .transition _ .reconnecting _ :: l => tries l + 1
  | .transition _ .ready _ :: _ => 0
  | _ :: l => tries l
  | [] => 0

/-- The number of the attempt counts the tries, which begin again in `READY`. -/
structure World.Tallied (w : World) : Prop where
  counted : tries w.log ≤ w.conn.reconnectAttempt
  ready : w.conn.state = .ready → tries w.log = 0

/-- The limit permits the attempt. -/
def Setup.Permits (σ : Setup) (n : Nat) : Prop :=
  0 ≤ σ.opts.reconnectMaxAttempts → (n : Int) ≤ σ.opts.reconnectMaxAttempts

theorem tries_transition {new : ConnectionState} (hn : new ≠ .reconnecting) {old : ConnectionState}
    {info : StateChangeInfo} {l : List Obs} : tries (.transition old new info :: l) ≤ tries l := by
  cases new with
  | reconnecting => exact absurd rfl hn
  | ready => exact Nat.zero_le _
  | _ => exact le_rfl

/-! ### Updates that plan no attempt -/

/-- No attempt is planned, `connect` is not called, and the tally of the tries is kept. -/
structure Unplanned (w w' : World) : Prop where
  planned : w'.planned ≤ w.planned
  invoked : w'.conn.connectInvoked = w.conn.connectInvoked
  fewer : tries w'.log ≤ tries w.log
  tallied : w.Tallied → w'.Tallied
  created : ∀ t n ms, w'.tasks.awaits t (.doReconnect n ms) → w.tasks.awaits t (.doReconnect n ms)

namespace Unplanned

variable {w'' : World}

theorem refl : Unplanned w w := ⟨le_rfl, rfl, le_rfl, id, fun _ _ _ h => h⟩

theorem trans (h : Unplanned w w') (h' : Unplanned w' w'') : Unplanned w w'' where
  planned := h'.planned.trans h.planned
  invoked := h'.invoked.trans h.invoked
  fewer := h'.fewer.trans h.fewer
  tallied hw := h'.tallied (h.tallied hw)
  created t n ms ht := h.created t n ms (h'.created t n ms ht)

theorem of_tasks (hplanned : w'.planned ≤ w.planned)
    (hcreated : ∀ t n ms, w'.tasks.awaits t (.doReconnect n ms) →
      w.tasks.awaits t (.doReconnect n ms))
    (hconn : w'.conn = w.conn) (htries : tries w'.log = tries w.log) : Unplanned w w' where
  planned := hplanned
  invoked := by rw [hconn]
  fewer := htries.le
  tallied hw := by
    refine ⟨?_, fun hr => htries.trans (hw.ready (hconn ▸ hr))⟩
    rw [hconn, htries]
    exact hw.counted
  created := hcreated

theorem same (htasks : w'.tasks = w.tasks)
    (hinvoked : w'.conn.connectInvoked = w.conn.connectInvoked)
    (hcounted : (tries w'.log, w'.conn.reconnectAttempt, w'.conn.state)
      = (tries w.log, w.conn.reconnectAttempt, w.conn.state)) : Unplanned w w' := by
  obtain ⟨htries, hattempt, hstate⟩ : tries w'.log = tries w.log ∧
      w'.conn.reconnectAttempt = w.conn.reconnectAttempt ∧ w'.conn.state = w.conn.state := by
    simpa using hcounted
  refine ⟨by rw [World.planned, htasks]; rfl, hinvoked, htries.le, fun hw => ⟨?_, fun hr => ?_⟩, ?_⟩
  · rw [htries, hattempt]
    exact hw.counted
  · exact htries.trans (hw.ready (hstate ▸ hr))
  · exact fun t n ms ht => htasks ▸ ht

theorem after {v : World} (h : Unplanned v w') (htasks : v.tasks = w.tasks)
    (hinvoked : v.conn.connectInvoked = w.conn.connectInvoked)
    (hcounted : (tries v.log, v.conn.reconnectAttempt, v.conn.state)
      = (tries w.log, w.conn.reconnectAttempt, w.conn.state)) : Unplanned w w' :=
  (same htasks hinvoked hcounted).trans h

theorem of_silent {p : TaskId → Prop} (h : Silent p w w') : Unplanned w w' := by
  refine of_tasks ?_ (fun _ _ _ => h.tasks.awaits) h.conn (h.log.eq_of_routine ?_)
  · have hle : ∀ {ts ts' : Tasks Job} {r : TaskId → Prop}, Tasks.Cancels r ts ts' →
        ts'.pending Job.attempts ≤ ts.pending Job.attempts := by
      intro ts ts' r hc
      induction hc with
      | refl => exact le_rfl
      | cancel _ _ ih => exact Tasks.pending_cancel_le.trans ih
    exact hle h.tasks
  · intro o l ho
    cases o <;> first | rfl | cases ho

theorem spawn {j : Job} (hj : j.attempts = false) : Unplanned w (w.spawn j) := by
  refine of_tasks ?_ (fun t n ms ht => ?_) rfl rfl
  · show (w.tasks.spawn j).pending _ ≤ _
    rw [Tasks.pending_spawn, hj]
    exact le_rfl
  · rcases Tasks.awaits_spawn ht with ht | rfl
    · exact ht
    · cases hj

theorem transition {new : ConnectionState} {info : StateChangeInfo} (hn : new ≠ .reconnecting) :
    Unplanned w (w.transition new info) := by
  unfold World.transition
  split
  · exact refl
  · refine ⟨le_rfl, rfl, tries_transition hn, fun hw => ?_, fun _ _ _ h => h⟩
    refine ⟨(tries_transition hn).trans hw.counted, ?_⟩
    intro (hr : new = .ready)
    subst hr
    rfl

/-- A reconnect ends, and the attempts are numbered from the beginning. -/
theorem readied {v : World} {info : StateChangeInfo} (htasks : v.tasks = w.tasks)
    (hinvoked : v.conn.connectInvoked = w.conn.connectInvoked)
    (hstate : v.conn.state = w.conn.state) (htries : tries v.log = tries w.log) : Unplanned w (v.transition .ready info) := by
  unfold World.transition
  split
  · rename_i hs
    have hzero (hw : w.Tallied) : tries v.log = 0 := htries.trans (hw.ready (hstate ▸ hs))
    refine ⟨by rw [World.planned, htasks]; rfl, hinvoked, htries.le, fun hw => ?_, ?_⟩
    · refine ⟨?_, fun _ => hzero hw⟩
      rw [hzero hw]
      exact Nat.zero_le _
    · exact fun t n ms ht => htasks ▸ ht
  · refine ⟨?_, hinvoked, Nat.zero_le _, fun hw => ⟨Nat.zero_le _, fun _ => rfl⟩, ?_⟩
    · show v.tasks.pending _ ≤ _
      rw [htasks]
      exact le_rfl
    · exact fun t n ms ht => htasks ▸ ht

end Unplanned

variable (σ) in
/-- The tally of the tries is kept, and a retry that is planned carries the next number. -/
structure Recounts (w w' : World) : Prop where
  fewer : tries w'.log ≤ tries w.log
  tallied : w.Tallied → w'.Tallied
  created : ∀ t n ms, w'.tasks.awaits t (.doReconnect n ms) →
    w.tasks.awaits t (.doReconnect n ms) ∨ n = w.conn.reconnectAttempt + 1 ∧ σ.Permits n

variable (σ) in
/-- A retry is one more attempt, unless the state is terminal or there is none left. -/
structure Retried (w w' : World) : Prop extends Recounts σ w w' where
  planned : w'.planned ≤ w.planned + 1
  invoked : w'.conn.connectInvoked = w.conn.connectInvoked

theorem Unplanned.recounts (h : Unplanned w w') : Recounts σ w w' where
  fewer := h.fewer
  tallied := h.tallied
  created t n ms ht := .inl (h.created t n ms ht)

theorem Unplanned.retried (h : Unplanned w w') : Retried σ w w' where
  toRecounts := h.recounts
  planned := h.planned.trans (Nat.le_succ _)
  invoked := h.invoked

theorem retry_retried : Retried σ w (w.retry σ) := by
  unfold World.retry World.scheduleReconnect
  split
  · exact Unplanned.refl.retried
  · split
    · exact (Unplanned.spawn rfl).retried
    · rename_i hpermits
      refine ⟨⟨le_rfl, fun hw => ⟨hw.counted, hw.ready⟩, fun t n ms ht => ?_⟩, ?_, rfl⟩
      · rcases Tasks.awaits_spawn ht with ht | he
        · exact .inl ht
        · obtain ⟨rfl, -⟩ := Job.doReconnect.inj he
          exact .inr ⟨rfl, fun hm => not_lt.mp fun hlt => hpermits ⟨hm, hlt⟩⟩
      · show (w.tasks.spawn _).pending _ ≤ _
        rw [Tasks.pending_spawn]
        exact le_rfl

/-- A retry right after an update that plans none and leaves the number of the attempt. -/
theorem Unplanned.retry (h : Unplanned w w')
    (hn : w'.conn.reconnectAttempt = w.conn.reconnectAttempt) : Retried σ w (w'.retry σ) := by
  have hretry : Retried σ w' (w'.retry σ) := retry_retried
  refine ⟨⟨hretry.fewer.trans h.fewer, fun hw => hretry.tallied (h.tallied hw), ?_⟩,
    hretry.planned.trans (Nat.succ_le_succ h.planned), hretry.invoked.trans h.invoked⟩
  intro t n ms ht
  rcases hretry.created t n ms ht with ht | ⟨rfl, hp⟩
  · exact .inl (h.created t n ms ht)
  · exact .inr ⟨by rw [hn], hp⟩

theorem transientFailure_attempt {reason : String} {code : ErrorCode} {message : String} :
    (w.transientFailure σ reason code message).conn.reconnectAttempt = w.conn.reconnectAttempt := by
  rw [transientFailure_conn]

theorem transientFailure_unplanned {reason : String} {code : ErrorCode} {message : String} :
    Unplanned w (w.transientFailure σ reason code message) := by
  show Unplanned w (World.transition .transientFailure _ { w with draws := w.draws + 1 })
  exact (Unplanned.transition (by decide)).after rfl rfl rfl

namespace Unplanned

theorem startHeartbeat : Unplanned w (w.startHeartbeat σ) := by
  obtain ⟨v, hv, -, he⟩ := startHeartbeat_eq (σ := σ) (w := w)
  rw [he]
  split
  · exact of_silent hv
  · exact ((of_silent hv).trans (spawn (j := .heartbeat) rfl)).trans (same rfl rfl rfl)

theorem finishes {phase : Bool} (h : Finishes w phase w') : Unplanned w w' := by
  cases h with
  | refused => exact refl
  | counted => exact same rfl rfl rfl
  | finished => exact readied rfl rfl rfl rfl

theorem armReconnect : Unplanned w w.armReconnect := by
  unfold World.armReconnect World.reconnectOk
  dsimp only
  split
  · exact readied rfl rfl rfl rfl
  · exact same rfl rfl rfl

theorem beginSession {isR : Bool} {c : WsId} {resp : DecodedResponse} :
    Unplanned w (w.beginSession σ isR c resp) := by
  have hinfo : Unplanned w (w.setRobotInfo resp) := same rfl rfl rfl
  have hshaken := (hinfo.trans (startHeartbeat (σ := σ))).trans
    (of_silent (Silent.resolveAllSemantics (q := fun _ => False)))
  obtain ⟨v, hv⟩ : ∃ v, v = ((w.setRobotInfo resp).startHeartbeat σ).resolveAllSemantics :=
    ⟨_, rfl⟩
  have hpushed : Unplanned w (v.push (.handshake c isR v.estop.engaged)) :=
    (hv ▸ hshaken).trans (same rfl rfl rfl)
  unfold World.beginSession
  dsimp only
  rw [← hv]
  split
  · exact hpushed.trans armReconnect
  · exact hpushed.trans (transition (by decide))

theorem startSubWorker {s : SlotId} : Unplanned w (w.startSubWorker s) := by
  unfold World.startSubWorker
  dsimp only
  split
  · exact refl
  · split <;> split <;> first
      | exact same rfl rfl rfl
      | exact (spawn (by rfl)).after rfl rfl rfl

theorem beginSubscribe {s : SlotId} {topic : String} {hz : PyFloat} :
    Unplanned w (w.beginSubscribe σ s topic hz) := by
  unfold World.beginSubscribe
  split
  · exact same rfl rfl rfl
  · exact startSubWorker.after rfl rfl rfl

theorem estopReplayed : Unplanned w w.estopReplayed := by
  unfold World.estopReplayed World.replayOk
  dsimp only
  split
  · exact readied rfl rfl rfl rfl
  · exact same rfl rfl rfl

end Unplanned

/-! ### The steps of the outline -/

theorem Move.unplanned (h : Move σ x w w') : Unplanned w w' ∨ w' = w.connect := by
  have hsilent (v : World) {p : TaskId → Prop} (h : Silent p w v) :
      Unplanned w v ∨ v = w.connect := .inl (.of_silent h)
  cases h with
  | quiet h => exact hsilent _ h.toSilent
  | sent | answered | streamEnded | closeFired | dispatched | latched | startedAfresh =>
    exact .inl (.same rfl rfl rfl)
  | connected => exact .inr rfl
  | buffered => exact hsilent _ (Silent.bufferPending (q := fun _ => False))
  | received => exact hsilent _ (Silent.acceptPush (q := fun _ => False))
  | drained => exact hsilent _ (Silent.drainFront (q := fun _ => False))
  | activated s phase ep resp hp hx hs hl ha h =>
    rcases h with ⟨-, rfl⟩ | ⟨-, rfl⟩
    · exact hsilent _ (Silent.activateTelemetry (q := fun _ => False))
    · exact hsilent _ (Silent.activateEvent (q := fun _ => False))
  | forgotten => exact hsilent _ (Silent.takeAck (q := fun _ => False))
  | shutDown => exact .inl ((Unplanned.transition (by decide)).trans (.of_silent Silent.closeDown))
  | aborted => exact .inl (.transition (by decide))
  | lost q reason msg =>
    have hpush : Unplanned w (w.push (.transportClose reason msg)) := .same rfl rfl rfl
    exact .inl ((hpush.trans (.of_silent Silent.dropSession)).trans transientFailure_unplanned)
  | turnedDown => exact .inl transientFailure_unplanned

/-- A task that has called `_on_transport_close` in a terminal state does not leave the state. -/
theorem Move.ignored (h : Move σ x w w') (hx : x.ignores w = true) :
    w'.conn.state.terminal = true := by
  obtain ⟨ht, hlast⟩ : w.conn.state.terminal = true ∧ x.path.getLast? = some .onTransportClose := by
    unfold Running.ignores at hx
    split at hx
    · simpa using hx
    · cases hx
  have hsilent (v : World) {p : TaskId → Prop} (h : Silent p w v) :
      v.conn.state.terminal = true := by
    rw [h.conn]
    exact ht
  cases h with
  | quiet h => exact hsilent _ h.toSilent
  | sent | answered | streamEnded | closeFired | dispatched | latched | startedAfresh => exact ht
  | connected hp | shutDown hp | aborted q code message hp
  | turnedDown isR ep c rid reason code message hp =>
    simp [hp] at hlast
  | buffered => exact hsilent _ (Silent.bufferPending (q := fun _ => False))
  | received => exact hsilent _ (Silent.acceptPush (q := fun _ => False))
  | drained => exact hsilent _ (Silent.drainFront (q := fun _ => False))
  | activated s phase ep resp hp hx hs hl ha h =>
    rcases h with ⟨-, rfl⟩ | ⟨-, rfl⟩
    · exact hsilent _ (Silent.activateTelemetry (q := fun _ => False))
    · exact hsilent _ (Silent.activateEvent (q := fun _ => False))
  | forgotten => exact hsilent _ (Silent.takeAck (q := fun _ => False))
  | lost q reason msg hp hs hn =>
    rw [ht] at hn
    cases hn

variable (σ) in
/-- The call ends with a retry; a call that is ignored does not. -/
structure Reschedules (x : Running Karo) (w w' : World) (l : Label) : Prop
    extends Retried σ w w' where
  attempts : l.attempts = true
  heeded : ∀ q, x.path = q ++ [l] → x.ignores w = false

theorem Leaves.unplanned (h : Leaves σ x q w l w') : Unplanned w w' ∨ Reschedules σ x w w' l := by
  have hclose (topic : String) (s : SlotId) (code : ErrorCode) (reason : String) :
      Unplanned w (w.closeSlot x.task topic s code reason) :=
    .of_silent (Silent.closeSlot (q := fun _ => False))
  have hretry : Retried σ w (w.retry σ) := retry_retried
  cases h with
  | dialFailed isR ep code message =>
    right
    refine ⟨transientFailure_unplanned.retry transientFailure_attempt, rfl, fun q hq => ?_⟩
    exact ignores_false (by rw [hq]; simp)
  | retried => exact .inr ⟨hretry, rfl, fun q hq => ignores_false (by rw [hq]; simp)⟩
  | lossHandled hw hs =>
    refine .inr ⟨hretry, rfl, fun q hq => ?_⟩
    unfold Running.ignores
    split
    · rename_i hcalled
      rw [hs hcalled]
      rfl
    · rfl
  | restored isR =>
    left
    cases isR
    · exact .refl
    · show Unplanned w w.startReplay
      unfold World.startReplay
      split
      · exact .spawn rfl
      · exact .refl
  | closed p l c last hq hc hl =>
    left
    have hcleared : Unplanned w w.clearWs := .same rfl rfl rfl
    rcases hl with ⟨-, rfl⟩ | ⟨rfl, code, message, rfl⟩
    · exact hcleared
    · exact hcleared.trans (.transition (by decide))
  | rejected => exact .inl ((hclose ..).trans (.finishes (maybeFinishReconnect_finishes _ _)))
  | dropped => exact .inl (hclose ..)
  | acked s =>
    have hactive : Unplanned w (w.setSlot s fun x =>
        { x with everActive := true, isReconnectResume := false }) := .same rfl rfl rfl
    exact .inl (hactive.trans (.finishes (maybeFinishReconnect_finishes _ _)))
  | replayed => exact .inl .estopReplayed
  | unsubscribed handle syncWait topic s code reason hpath hc h =>
    left
    rcases h with rfl | rfl
    · exact hclose ..
    · exact (hclose topic s code reason).trans (.same rfl rfl rfl)
  | _ => exact .inl (.same rfl rfl rfl)

/-- A retry that has slept moves the state, and all others plan no attempt. -/
theorem Becomes.unplanned (h : Becomes σ x w q w') : Unplanned w w' ∨
    ∃ n ms, x.path = [.backoff] ∧ x.since ≠ .begun ∧
      w.tasks.procOf x.task = some (.doReconnect n ms) ∧ w.conn.state = .transientFailure ∧
      w' = w.beginReconnect n := by
  cases h with
  | reconnects n ms rep hp ht hx hs =>
    refine .inr ⟨n, ms, hp, fun hb => ?_, ht, hs, rfl⟩
    rw [Running.Got, hb] at hx
    cases hx
  | installs =>
    have hspawn : Unplanned w (w.spawn (.reader w.clientCount)) := .spawn rfl
    exact .inl (hspawn.trans (.same rfl rfl rfl))
  | begins => exact .inl .beginSession
  | restores => exact .inl .refl

theorem Enters.unplanned (h : Enters σ x w l w') : Unplanned w w' := by
  cases h with
  | establish => exact .transition (by decide)
  | unsendable => exact .of_silent (Silent.closeSlot (q := fun _ => False))
  | subscribing => exact .of_silent (Silent.registerSubscribe (q := fun _ => False))
  | sendFailed => exact .of_silent (Silent.unregisterSubscribe (q := fun _ => False))
  | replayFailed => exact .same rfl rfl rfl
  | abortToFatal => exact .of_silent Silent.abandon
  | handleSubscribeAck => exact .of_silent (Silent.beginAck (q := fun _ => False))
  | subscribe => exact .beginSubscribe
  | _ => exact .refl

/-- Who begins a call or is suspended has not called `_on_transport_close` in vain. -/
theorem Enters.heeded (h : Enters σ x w l w') : x.ignores w = false := by
  cases h with
  | closeClient p a c hp hc hx hl =>
    by_cases ha : a = .onTransportClose
    · subst ha
      rcases hl with hl | ⟨-, hs⟩ | ⟨hl, -⟩
      · cases hl
      · unfold Running.ignores
        split
        · rw [hs]
          rfl
        · rfl
      · cases hl
    · exact ignores_false (by rw [hp]; simpa using ha)
  | backoff n ms hp | establish hp | close hp | handleSubscribeAck c resp topic s rep hp
  | estopReplay hp | emergencyStop engage hp | cmdVel hp | ping hp | unsubscribeRequest h syncWait hp
  | unsubscribing h syncWait s hp | subscribe topic hz hp | heartbeat hp | unsendable q s reason hp
  | subscribing q s rid since hp | sendFailed q s rid hp | replayFailed ep hp =>
    exact ignores_false (by rw [hp]; simp)
  | sendRpcAndWait rid hp =>
    cases hp with
    | task hp | handshaking isR ep c hp | estopReplay ep hp | emergencyStop engage hp | cmdVel hp
    | ping hp | unsubscribing h topic s hp => exact ignores_false (by rw [hp]; simp)
  | sendSubscribe s h =>
    refine ignores_false ?_
    generalize x.path = p at h
    cases h <;> simp
  | onTransportClose hp =>
    cases hp with
    | reader c hp | ackTimeout rid topic hp | heartbeat hp | acking s phase ep hp =>
      exact ignores_false (by rw [hp]; simp)
  | abortToFatal code message hp =>
    cases hp with
    | task hp | dialing isR ep hp | handshaking isR ep c hp | acking s phase ep hp =>
      exact ignores_false (by rw [hp]; simp)

theorem Waits.heeded {op : Op} (h : Waits x w op) : x.ignores w = false := by
  refine ignores_false ?_
  cases h with
  | wsSend c cmd hw hc ho hp =>
    rcases hp with ⟨q, rid, hp, -⟩ | ⟨q, s, rid, hp⟩ | hp | ⟨h, topic, s, hp⟩ <;> simp [hp]
  | callback s push hp =>
    rcases hp with hp | ⟨⟨phase, ep, hp⟩, -⟩ <;> simp [hp]
  | wsConnect isR ep hp | closing q c hp | recv c hp | future q rid c hp | sleep n ms hp
  | beating hp | idling hp => simp [hp]

theorem env_unplanned {e : EnvStep} (he : World.env e w = some w') : Unplanned w w' := by
  cases env_env he with
  | quiet hq => exact .of_silent hq.toSilent
  | cancels => exact .of_tasks Tasks.pending_cancel_le (fun _ _ _ => Tasks.awaits_cancel) rfl rfl
  | acks hq => exact (Unplanned.of_silent hq.toSilent).trans (.spawn rfl)
  | calls => exact .spawn rfl
  | drops hq => exact (Unplanned.of_silent hq.toSilent).trans (.spawn rfl)

end KaroX2
