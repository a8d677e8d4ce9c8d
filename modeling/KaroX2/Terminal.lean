/-
KaroX2/Terminal.lean

`SHUTDOWN` and `FATAL` as final states.

The code re-checks nothing after most of its suspensions, so the final states
are final only as long as no suspended task is answered in a way that makes it
go on with the connection.  `LeavesTerminal` lists these answers, place by place.
-/
import KaroX2.Walk.Tasks

namespace KaroX2

open Coop

variable (σ : Setup)

/-! ### The condition -/

/-- The outcome of the handshake makes `_establish` leave its state: for
`READY`, unless a session is to be restored first, or for `TRANSIENT_FAILURE`. -/
def HandshakeMoves (w : World) (isR : Bool) : Fut → Prop
  | .result resp =>
    if resp.accepted then isR = true → w.subs.subs.size = 0 ∧ w.estop.engaged = false
    else classify resp.handshakeCode ≠ .fatal
  | .exception e => e.handshakeRetry = true
  | .pending => False

/-- In a terminal state, the answer `r` to the suspended task `s` would make it
move the state, install a client or schedule a retry. -/
def LeavesTerminal (w : World) (s : Site Karo) (r : Except Exn Reply) : Prop :=
  match s.op, r with
  | .wsConnect, .ok _ => True
  | .wsConnect, .error e => e.connectRetry = true
  | .wsSend _ _, .error e =>
    e ≠ .cancelled ∧ ∃ isR ep c rid ws, s.path = [.handshaking isR ep c, .sendRpcAndWait rid ws]
  | .future rid, .ok _ =>
    (∃ isR ep c ws, s.path = [.handshaking isR ep c, .sendRpcAndWait rid ws] ∧
      HandshakeMoves w isR (w.rpc.futures rid)) ∨
    ∃ ep ws resp, s.path = [.estopReplay ep, .sendRpcAndWait rid ws] ∧
      w.rpc.futures rid = .result resp ∧ resp.rpcOk = true ∧ w.conn.reconnectSubsPending = 0
  | .callback _ _, r =>
    r ≠ .error .cancelled ∧ w.conn.reconnectSubsPending = 1 ∧
      w.conn.reconnectEstopPending = false ∧ ∃ h ep, s.path = [.handleSubscribeAck h true ep]
  | op, r =>
    op.closes r = true ∧ w.conn.state = .shutdown ∧
      ∃ q c, s.path = q ++ [.abortToFatal, .closeClient c]

/-- No suspended task goes on with a connection that has come to its end, and
nothing is aborted after `close()`. -/
def StaysTerminal : Constraint (robot σ)
  | w, _, .resume s r => w.conn.state.terminal = true → ¬LeavesTerminal w s r
  | w, _, .enter _ _ .abortToFatal => w.conn.state ≠ .shutdown
  | _, _, _ => True

/-! ### What a step may do -/

/-- A client is installed, or a retry is scheduled. -/
def Obs.connects : Obs → Bool
  | .installed _ | .reconnectScheduled _ _ => true
  | _ => false

/-- The clients installed and the retries scheduled so far. -/
def attempts (log : List Obs) : List Obs := log.filter Obs.connects

/-- The step leaves the state alone, and makes no attempt to connect. -/
structure Calm (w w' : World) : Prop where
  state : w'.conn.state = w.conn.state
  attempts : attempts w'.log = attempts w.log

/-- `close()` moves the state to `SHUTDOWN`. -/
structure Shuts (x : Running Karo) (w w' : World) : Prop where
  path : x.path = [.close]
  since : x.since = .called
  proc : w.tasks.procOf x.task = some (.api .close)
  before : w.conn.state ≠ .shutdown
  after : w'.conn.state = .shutdown

variable {σ} {w w' w'' : World} {x : Running Karo} {q : List Label}

namespace Calm

theorem refl : Calm w w := ⟨rfl, rfl⟩

theorem trans (h : Calm w w') (h' : Calm w' w'') : Calm w w'' :=
  ⟨h'.state.trans h.state, h'.attempts.trans h.attempts⟩

theorem of_log (h : w'.conn.state = w.conn.state) (hl : LogGrows w.log w'.log) : Calm w w' :=
  ⟨h, hl.filter_eq fun o ho => by cases o <;> first | rfl | cases ho⟩

theorem of_silent {p : TaskId → Prop} (h : Silent p w w') : Calm w w' :=
  .of_log (by rw [h.conn]) h.log

theorem push {o : Obs} (ho : o.connects = false) : Calm w (w.push o) :=
  ⟨rfl, List.filter_cons_of_neg (by simp [ho])⟩

theorem retry (ht : w.conn.state.terminal = true) : Calm w (w.retry σ) := by
  have he : w.retry σ = w := by simp [World.retry, World.scheduleReconnect, ht]
  rw [he]
  exact refl

theorem fail {code : ErrorCode} {message : String} (hs : w.conn.state ≠ .shutdown)
    (ht : w.conn.state.terminal = true) : Calm w (w.fail code message) := by
  have hf : w.conn.state = .fatal := by
    cases h : w.conn.state <;> simp_all [ConnectionState.terminal]
  have he : w.fail code message = w := by simp [World.fail, World.transition, hf]
  rw [he]
  exact refl

end Calm

/-! ### What a running task may still do -/

/-- Where the state is terminal, the running task was given none of the answers
after which it would go on with the connection. -/
def Resting (w : World) (x : Running Karo) : Prop :=
  match x.since with
  | .begun => True
  | .called => .abortToFatal ∈ x.path → w.conn.state ≠ .shutdown
  | .answered s r =>
    (∀ rid rep, s.op = .future rid → r = .ok rep → (w.rpc.futures rid).done = true) ∧
      (x.path = [] ∨ (∃ isR ep c rest, x.path = [.restoring isR ep c rest]) ∨
        (w.conn.state.terminal = true → x.path <+: s.path ∧ ¬LeavesTerminal w s r))

/-- The invariant of runs. -/
def Rests : Invariant Karo := fun w x _ => ∀ y, x = some y → Resting w y

/-- An answer says the same in a world that differs in nothing it depends on. -/
theorem LeavesTerminal.of_eq {s : Site Karo} {r : Except Exn Reply}
    (h : LeavesTerminal w' s r) (hs : w'.conn.state = w.conn.state)
    (hp : w'.conn.reconnectSubsPending = w.conn.reconnectSubsPending)
    (he : w'.conn.reconnectEstopPending = w.conn.reconnectEstopPending)
    (hi : w'.estop = w.estop)
    (hn : w'.subs.subs.size = w.subs.subs.size ∨ ∀ isR ep c l, s.path ≠ [.handshaking isR ep c, l])
    (hf : ∀ rid rep, s.op = .future rid → r = .ok rep → w'.rpc.futures rid = w.rpc.futures rid) :
    LeavesTerminal w s r := by
  obtain ⟨t, p, op⟩ := s
  cases op <;> cases r <;> simp only [LeavesTerminal] at h ⊢ <;>
    first | exact h | (simp_all; done) | skip
  case future.ok rid rep =>
    rw [hf rid rep rfl rfl, hp] at h
    refine h.imp_left ?_
    rintro ⟨isR, ep, c, ws, hpath, hm⟩
    refine ⟨isR, ep, c, ws, hpath, ?_⟩
    have hn := hn.resolve_right fun hno => hno isR ep c _ hpath
    simpa only [HandshakeMoves, hi, hn] using hm

theorem LeavesTerminal.of_silent {p : TaskId → Prop} {s : Site Karo} {r : Except Exn Reply}
    (h : LeavesTerminal w' s r) (hw : Silent p w w')
    (hn : w'.subs.subs.size = w.subs.subs.size ∨ ∀ isR ep c l, s.path ≠ [.handshaking isR ep c, l])
    (hf : ∀ rid rep, s.op = .future rid → r = .ok rep → (w.rpc.futures rid).done = true) :
    LeavesTerminal w s r :=
  h.of_eq (by rw [hw.conn]) (by rw [hw.conn]) (by rw [hw.conn]) hw.estop hn
    fun rid rep ho hr => hw.future rid (hf rid rep ho hr)

/-- In a terminal state the task was not given such an answer, where it is at a
place of `_establish`, of the replay or of an acknowledgement that decides. -/
theorem Resting.not_leaves {l : Label} {s : Site Karo} {r : Except Exn Reply} (h : Resting w x)
    (hx : x.since = .answered s r) (ht : w.conn.state.terminal = true) (hp : x.path = q ++ [l])
    (hl : ∀ isR ep c rest, l ≠ .restoring isR ep c rest) : ¬LeavesTerminal w s r := by
  unfold Resting at h
  rw [hx] at h
  rcases h.2 with h | ⟨isR, ep, c, rest, h⟩ | h
  · simp [hp] at h
  · rw [hp] at h
    have : q = [] ∧ l = .restoring isR ep c rest := by simpa using List.append_eq_cons_iff.mp h
    exact absurd this.2 (hl _ _ _ _)
  · exact (h ht).2

theorem Resting.future {s : Site Karo} {r : Except Exn Reply} (h : Resting w x)
    (hx : x.since = .answered s r) :
    ∀ rid rep, s.op = .future rid → r = .ok rep → (w.rpc.futures rid).done = true := by
  unfold Resting at h
  rw [hx] at h
  exact h.1

theorem Resting.aborting (h : Resting w x) (hx : x.since = .called)
    (hp : .abortToFatal ∈ x.path) : w.conn.state ≠ .shutdown := by
  unfold Resting at h
  rw [hx] at h
  exact h hp

/-! ### Steps in a terminal state -/

theorem Move.calm (h : Move σ x w w') (hx : Resting w x) (ht : w.conn.state.terminal = true) :
    Calm w w' ∨ Shuts x w w' := by
  cases h with
  | quiet h => exact .inl (.of_silent h.toSilent)
  | sent | answered | streamEnded | closeFired => exact .inl (.push rfl)
  | connected =>
    refine .inl ?_
    unfold World.connect
    split <;> exact ⟨rfl, rfl⟩
  | latched => exact .inl ⟨rfl, rfl⟩
  | buffered => exact .inl (.of_silent (Silent.bufferPending (q := fun _ => False)))
  | received => exact .inl (.of_silent (Silent.acceptPush (q := fun _ => False)))
  | dispatched => exact .inl (.push rfl)
  | drained => exact .inl (.of_silent (Silent.drainFront (q := fun _ => False)))
  | startedAfresh => exact .inl ⟨rfl, rfl⟩
  | activated s phase ep resp hp hx hs hl ha h =>
    rcases h with ⟨-, rfl⟩ | ⟨-, rfl⟩
    · exact .inl (.of_silent (Silent.activateTelemetry (q := fun _ => False)))
    · exact .inl (.of_silent (Silent.activateEvent (q := fun _ => False)))
  | forgotten => exact .inl (.of_silent (Silent.takeAck (q := fun _ => False)))
  | lost q reason msg hp hx' hs => exact absurd ht (by simp [hs])
  | shutDown hp hc hproc hs =>
    refine .inr ⟨hp, hc, hproc, hs, ?_⟩
    rw [World.shutDown, Silent.closeDown.conn, transition_conn]
  | aborted p code message hp hc hw =>
    exact .inl (.fail (hx.aborting hc (by simp [hp])) ht)
  | turnedDown isR ep c rid reason code message hp h =>
    exfalso
    obtain ⟨e, hlost, he⟩ | ⟨d, cmd, resp, htook, hacc, hcode⟩ := h
    · cases hlost with
      | future d rep _ hg hf =>
        refine hx.not_leaves hg ht (q := []) hp (by simp) (.inl ⟨isR, ep, c, some d, by simp [hp], ?_⟩)
        rw [hf]
        exact he
      | send d cmd e' hg hne =>
        exact hx.not_leaves hg ht (q := []) hp (by simp) ⟨hne, isR, ep, c, rid, some d, by simp [hp]⟩
    · obtain ⟨rep, hg⟩ := htook.got
      refine hx.not_leaves hg ht (q := []) hp (by simp) (.inl ⟨isR, ep, c, some d, by simp [hp], ?_⟩)
      rw [htook.future]
      simpa [HandshakeMoves, hacc] using hcode

theorem Calm.finishes {phase : Bool} (h : Finishes w phase w')
    (hn : phase = true → w.conn.reconnectSubsPending = 1 → w.conn.reconnectEstopPending = true) :
    Calm w w' := by
  cases h with
  | refused => exact .refl
  | counted => exact ⟨rfl, rfl⟩
  | finished hp h hr => exact absurd (hn hp h) (by simp [hr])

theorem Leaves.calm {l : Label} (h : Leaves σ x q w l w') (hp : x.path = q ++ [l])
    (hx : Resting w x) (ht : w.conn.state.terminal = true) : Calm w w' := by
  have notReconnecting : w.conn.state ≠ .reconnecting := fun h => by
    simp [h, ConnectionState.terminal] at ht
  have closeSlot : ∀ topic s code reason, Calm w (w.closeSlot x.task topic s code reason) :=
    fun _ _ _ _ => .of_silent (Silent.closeSlot (q := fun _ => False))
  cases h with
  | dialFailed isR ep code message h =>
    exfalso
    rcases h with ⟨e, hg, he⟩ | ⟨-, -, hs⟩
    · exact hx.not_leaves hg ht hp (by simp) he
    · rw [hs] at ht
      cases isR <;> cases ht
  | retried => exact .retry ht
  | restored isR =>
    cases isR
    · exact .refl
    · show Calm w w.startReplay
      unfold World.startReplay
      split <;> exact ⟨rfl, rfl⟩
  | closed p l c last hq hc hl =>
    rcases hl with ⟨-, rfl⟩ | ⟨rfl, code, message, rfl⟩
    · exact ⟨rfl, rfl⟩
    · have hs : w.conn.state ≠ .shutdown := by
        rcases hc with hc | ⟨op, r, hg, hr⟩
        · exact hx.aborting hc (by simp [hp, hq])
        · intro hs
          refine hx.not_leaves hg ht hp (by simp) ?_
          have hpath : ∃ q' c, x.path = q' ++ [.abortToFatal, .closeClient c] :=
            ⟨p, c, by simp [hp, hq]⟩
          cases op <;> first | exact ⟨hr, hs, hpath⟩ | cases hr
      have hclear : Calm w w.clearWs := ⟨rfl, rfl⟩
      exact hclear.trans (.fail hs ht)
  | lossHandled => exact .retry ht
  | rejected s phase topic code reason hc hph hs =>
    refine (closeSlot topic s code reason).trans
      (.finishes (maybeFinishReconnect_finishes _ _) fun h => ?_)
    exact absurd (hph.mp h) notReconnecting
  | dropped => exact closeSlot _ _ _ _
  | acked s phase ep _ h =>
    have hactive : Calm w (w.setSlot s fun x =>
        { x with everActive := true, isReconnectResume := false }) := ⟨rfl, rfl⟩
    refine hactive.trans (.finishes (maybeFinishReconnect_finishes _ _) ?_)
    rintro rfl hone
    rcases h with ⟨-, -, hph, -⟩ | ⟨push, r, hg, hr⟩
    · exact absurd (hph.mp rfl) notReconnecting
    · by_contra hn
      exact hx.not_leaves hg ht hp (by simp) ⟨hr, hone, Bool.eq_false_iff.mpr hn, s, ep, rfl⟩
  | replayed ep rid c cmd resp hpath h ho he =>
    obtain ⟨rep, hg⟩ := h.got
    unfold World.estopReplayed
    dsimp only
    split
    · rename_i hzero
      exact absurd (.inr ⟨ep, some c, resp, by simp [hpath], h.future, ho, hzero⟩)
        (hx.not_leaves hg ht hp (by simp))
    · exact ⟨rfl, rfl⟩
  | intended => exact ⟨rfl, rfl⟩
  | unsubscribed handle syncWait topic s code reason hpath hc h =>
    rcases h with rfl | rfl
    · exact closeSlot _ _ _ _
    · exact (closeSlot _ _ _ _).trans (.push rfl)
  | handedOut => exact ⟨rfl, rfl⟩
  | _ => exact .refl

/-- A session that has something to restore does not move the state yet. -/
theorem Calm.beginSession {isR : Bool} {c : WsId} {resp : DecodedResponse}
    (h : ¬(isR = true → w.subs.subs.size = 0 ∧ w.estop.engaged = false)) :
    Calm w (w.beginSession σ isR c resp) := by
  obtain ⟨rfl, hn⟩ : isR = true ∧ ¬(w.subs.subs.size = 0 ∧ w.estop.engaged = false) := by
    simpa using h
  have h₁ : Calm w (w.setRobotInfo resp) := ⟨rfl, rfl⟩
  have h₂ : Calm (w.setRobotInfo resp) ((w.setRobotInfo resp).startHeartbeat σ) ∧
      ((w.setRobotInfo resp).startHeartbeat σ).subs = w.subs ∧
      ((w.setRobotInfo resp).startHeartbeat σ).estop = w.estop := by
    obtain ⟨v, hv, hs, he⟩ := startHeartbeat_eq (σ := σ) (w := w.setRobotInfo resp)
    rw [he]
    split
    · exact ⟨.of_silent hv, hs, hv.estop⟩
    · exact ⟨(Calm.of_silent hv).trans ⟨rfl, rfl⟩, hs, hv.estop⟩
  obtain ⟨h₂, hsubs, hestop⟩ := h₂
  have h₃ := Silent.resolveAllSemantics (q := fun _ => False)
    (w := (w.setRobotInfo resp).startHeartbeat σ)
  obtain ⟨f, hf⟩ := resolveAllSemantics_subs (w := (w.setRobotInfo resp).startHeartbeat σ)
  have harm : ∀ v : World, v.subs.subs.size = w.subs.subs.size → v.estop = w.estop →
      Calm v v.armReconnect := by
    intro v hv he
    unfold World.armReconnect
    dsimp only
    rw [hv, he, if_neg hn]
    exact ⟨rfl, rfl⟩
  refine ((h₁.trans h₂).trans (.of_silent h₃)).trans (Calm.trans (.push rfl) (harm _ ?_ ?_))
  · show ((w.setRobotInfo resp).startHeartbeat σ).resolveAllSemantics.subs.subs.size = _
    rw [hf, hsubs]
  · exact h₃.estop.trans hestop

theorem Becomes.calm (h : Becomes σ x w q w') (hx : Resting w x)
    (ht : w.conn.state.terminal = true) : Calm w w' := by
  cases h with
  | reconnects n ms rep hp hproc hg hs => simp [hs, ConnectionState.terminal] at ht
  | installs isR ep rep hp hg =>
    exact absurd trivial (hx.not_leaves hg ht (q := []) hp (by simp))
  | begins isR ep c rid cmd resp hp htook hacc =>
    refine .beginSession fun hm => ?_
    obtain ⟨rep, hg⟩ := htook.got
    refine hx.not_leaves hg ht (q := []) hp (by simp) (.inl ⟨isR, ep, c, some c, by simp [hp], ?_⟩)
    rw [htook.future]
    simpa [HandshakeMoves, hacc] using hm
  | restores => exact .refl

theorem Enters.calm {l : Label} (h : Enters σ x w l w') (ht : w.conn.state.terminal = true) :
    Calm w w' := by
  cases h with
  | establish hp hx hproc hs => simp [hs, ConnectionState.terminal] at ht
  | unsendable => exact .of_silent (Silent.closeSlot (q := fun _ => False))
  | subscribing => exact .of_silent (Silent.registerSubscribe (q := fun _ => False))
  | sendFailed => exact .of_silent (Silent.unregisterSubscribe (q := fun _ => False))
  | replayFailed => exact ⟨rfl, rfl⟩
  | abortToFatal => exact .of_silent Silent.abandon
  | handleSubscribeAck => exact .of_silent (Silent.beginAck (q := fun _ => False))
  | subscribe => exact .of_log (by rw [beginSubscribe_conn]) beginSubscribe_log
  | _ => exact .refl

/-- In a terminal state a step leaves the state alone, unless it is `close()`. -/
theorem step_calm (h : (outline σ).step x q w w') (hx : Resting w x)
    (ht : w.conn.state.terminal = true) : Calm w w' ∨ Shuts x w w' := by
  rcases h with ⟨-, h⟩ | ⟨l, hp, h⟩ | h
  · exact h.calm hx ht
  · exact .inl (h.calm hp hx ht)
  · exact .inl (h.calm hx ht)

theorem finish_calm {t : TaskId} {r : Except Exn Unit} : Calm w (w.finish t r) := by
  obtain ⟨l, ts, h, hl, -⟩ := finish_eq w t r
  rw [h]
  exact .of_log rfl ⟨l, rfl, hl⟩

theorem resume_calm {t : TaskId} {op : Op} {r : Except Exn Reply} : Calm w (w.resume t op r) := by
  obtain ⟨ts, evt, h, -⟩ := resume_eq t op r w
  rw [h]
  exact ⟨rfl, rfl⟩

theorem env_calm {e : EnvStep} (h : World.env e w = some w') : Calm w w' := by
  cases env_env h with
  | quiet h => exact .of_silent h.toSilent
  | cancels => exact ⟨rfl, rfl⟩
  | acks hq => exact (Calm.of_silent hq.toSilent).trans ⟨rfl, rfl⟩
  | calls => exact ⟨rfl, rfl⟩
  | drops hq => exact (Calm.of_silent hq.toSilent).trans ⟨rfl, rfl⟩

/-! ### Steps into a terminal state -/

/-- An abort has come to its end. -/
structure Aborts (x : Running Karo) (q : List Label) (w' : World) : Prop where
  path : q <+: x.path
  state : w'.conn.state = .fatal
  since : x.since = .called ∨ ∃ op r, x.Got x.path op r ∧ op.closes r = true

theorem Move.ends (h : Move σ x w w') (hw : w.conn.state.terminal = false)
    (hw' : w'.conn.state.terminal = true) : Shuts x w w' ∨ Aborts x x.path w' := by
  have same : w'.conn.state = w.conn.state → Shuts x w w' ∨ Aborts x x.path w' := fun h => by
    rw [h, hw] at hw'
    cases hw'
  cases h with
  | quiet h => exact same (by rw [h.conn])
  | sent | answered | streamEnded | closeFired | latched => exact same rfl
  | connected =>
    refine same ?_
    unfold World.connect
    split <;> rfl
  | buffered | dispatched | startedAfresh => exact same rfl
  | received => exact same (by rw [(Silent.acceptPush (q := fun _ => False)).conn])
  | drained => exact same (by rw [(Silent.drainFront (q := fun _ => False)).conn])
  | activated s phase ep resp hp hx hs hl ha h =>
    rcases h with ⟨-, rfl⟩ | ⟨-, rfl⟩
    · exact same rfl
    · exact same rfl
  | forgotten => exact same (by rw [(Silent.takeAck (q := fun _ => False)).conn])
  | lost =>
    rw [World.loseTransport, transientFailure_conn] at hw'
    cases hw'
  | turnedDown =>
    rw [transientFailure_conn] at hw'
    cases hw'
  -- only `close` and an abort lead to a terminal state
  | shutDown hp hc hproc hs =>
    refine .inl ⟨hp, hc, hproc, hs, ?_⟩
    rw [World.shutDown, Silent.closeDown.conn, transition_conn]
  | aborted p code message hp hc hn =>
    exact .inr ⟨List.prefix_rfl, by rw [World.fail, transition_conn], .inl hc⟩

theorem Leaves.ends {l : Label} (h : Leaves σ x q w l w') (hp : x.path = q ++ [l])
    (hw : w.conn.state.terminal = false) (hw' : w'.conn.state.terminal = true) : Aborts x q w' := by
  have same : w'.conn.state = w.conn.state → Aborts x q w' := fun h => by
    rw [h, hw] at hw'
    cases hw'
  have finishes : ∀ {v : World} {phase : Bool}, v.conn.state = w.conn.state →
      w' = v.maybeFinishReconnect phase → Aborts x q w' := by
    rintro v phase hv rfl
    -- a reconnect finishes in `READY`, or the state stays
    rcases (maybeFinishReconnect_finishes v phase).state with h | h
    · rw [h] at hw'
      cases hw'
    · exact same (h.trans hv)
  have closeSlot : ∀ topic s code reason,
      (w.closeSlot x.task topic s code reason).conn.state = w.conn.state := fun _ _ _ _ => by
    rw [(Silent.closeSlot (q := fun _ => False)).conn]
  cases h with
  | dialFailed =>
    rw [World.dialFailed, retry_state, transientFailure_conn] at hw'
    cases hw'
  | retried | lossHandled => exact same retry_state
  | restored isR =>
    refine same ?_
    cases isR
    · rfl
    · show w.startReplay.conn.state = w.conn.state
      unfold World.startReplay
      split <;> rfl
  | closed p l c last hq hc hl =>
    rcases hl with ⟨-, rfl⟩ | ⟨-, code, message, rfl⟩
    · exact same rfl
    · exact ⟨⟨_, hp.symm⟩, by rw [World.fail, transition_conn], hc⟩
  | rejected s phase topic code reason => exact finishes (closeSlot topic s code reason) rfl
  | dropped => exact same (closeSlot _ _ _ _)
  | acked s phase =>
    exact finishes (v := w.setSlot s fun x => { x with everActive := true, isReconnectResume := false })
      rfl rfl
  | replayed =>
    unfold World.estopReplayed World.replayOk at hw' same
    dsimp only at hw' same
    split at hw'
    · rw [transition_conn] at hw'
      cases hw'
    · exact absurd hw' (by simpa [World.clearEstopPending] using hw)
  | unsubscribed handle syncWait topic s code reason hpath hc h =>
    rcases h with rfl | rfl
    · exact same (closeSlot topic s code reason)
    · exact same (closeSlot topic s code reason)
  | _ => exact same rfl

theorem Becomes.ends (h : Becomes σ x w q w') (hw : w.conn.state.terminal = false) :
    w'.conn.state.terminal = false := by
  cases h with
  | reconnects =>
    rw [World.beginReconnect, transition_conn]
    rfl
  | installs => exact hw
  | begins isR ep c rid cmd resp =>
    rcases beginSession_state σ w isR c resp with h | ⟨-, h⟩
    · rw [h]
      rfl
    · rw [h]
      exact hw
  | restores => exact hw

theorem step_ends (h : (outline σ).step x q w w') (hw : w.conn.state.terminal = false)
    (hw' : w'.conn.state.terminal = true) : Shuts x w w' ∨ Aborts x q w' := by
  rcases h with ⟨rfl, h⟩ | ⟨l, hp, h⟩ | h
  · exact h.ends hw hw'
  · exact .inr (h.ends hp hw hw')
  · exact absurd hw' (by simp [h.ends hw])

/-! ### The answers stay harmless -/

/-- No step in a terminal state gives an answer a weight that it did not have. -/
theorem step_answers {s : Site Karo} {r : Except Exn Reply} (h : (outline σ).step x q w w')
    (hx : Resting w x) (hs : x.since = .answered s r) (ht : w.conn.state.terminal = true)
    (hp : x.path <+: s.path) (hq : q ≠ []) (hr : ∀ isR ep c rest, q ≠ [.restoring isR ep c rest])
    (hl : LeavesTerminal w' s r) : LeavesTerminal w s r := by
  have notCalled : x.since ≠ .called := by simp [hs]
  have hf := hx.future hs
  have registry : ∀ {p : TaskId → Prop}, Silent p w w' → w'.subs.subs = w.subs.subs →
      LeavesTerminal w s r := fun hw hn => hl.of_silent hw (.inl (by rw [hn])) hf
  have idle : w'.conn = w.conn → w'.estop = w.estop → w'.subs = w.subs → w'.rpc = w.rpc →
      LeavesTerminal w s r := fun hc he hn hr => hl.of_eq (by rw [hc]) (by rw [hc]) (by rw [hc]) he
    (.inl (by rw [hn])) fun _ _ _ _ => by rw [hr]
  have closers : ∀ {v : World}, w' = v.clearWs → v = w → LeavesTerminal w s r := by
    rintro v rfl rfl
    exact hl.of_eq rfl rfl rfl rfl (.inl rfl) fun _ _ _ _ => rfl
  rcases h with ⟨rfl, h⟩ | ⟨l, hpath, h⟩ | h
  · cases h with
    | quiet h => exact registry h.toSilent h.registry
    | sent | answered => exact idle rfl rfl rfl rfl
    | connected hp' | streamEnded _ _ hp' | latched _ _ hp' | closeFired _ _ hp'
    | forgotten _ _ hp' | buffered _ _ hp' | received _ _ hp' | dispatched _ _ hp' =>
      exact absurd hp' hq
    | drained s K front rest =>
      exact registry (p := fun _ => False) .drainFront Delivers.drainFront.registry
    | activated _ _ _ _ _ hc | startedAfresh _ _ _ _ _ hc | lost _ _ _ _ hc
    | shutDown _ hc | aborted _ _ _ _ hc => exact absurd hc notCalled
    | turnedDown isR ep c rid reason code message hp' h =>
      rcases (Move.turnedDown (σ := σ) isR ep c rid reason code message hp' h).calm hx ht with h | h
      · have := h.state
        rw [transientFailure_conn] at this
        simp [← this, ConnectionState.terminal] at ht
      · exact absurd h.since notCalled
  · cases h with
    | dialFailed isR ep code message h =>
      have := ((Leaves.dialFailed isR ep code message h).calm hpath hx ht).state
      rw [World.dialFailed, retry_state, transientFailure_conn] at this
      simp [← this, ConnectionState.terminal] at ht
    | retried | lossHandled =>
      have he : w.retry σ = w := by simp [World.retry, World.scheduleReconnect, ht]
      rwa [he] at hl
    | restored isR =>
      cases isR
      · exact hl
      · change LeavesTerminal w.startReplay s r at hl
        unfold World.startReplay at hl
        split at hl
        · exact hl.of_eq rfl rfl rfl rfl (.inl rfl) fun _ _ _ _ => rfl
        · exact hl
    | closed p l c last hq' hc hlast =>
      rcases hlast with ⟨-, rfl⟩ | ⟨hab, code, message, rfl⟩
      · exact closers rfl rfl
      · have hc := ((Leaves.closed (σ := σ) p l c _ hq' hc (.inr ⟨hab, code, message, rfl⟩)).calm hpath hx ht).state
        have hf : w.clearWs.conn.state = .fatal := by
          show w.conn.state = .fatal
          rw [← hc, World.fail, transition_conn]
        refine closers (v := w) ?_ rfl
        rw [World.fail, World.transition, if_pos hf]
    | rejected _ _ _ _ _ hc | dropped _ _ _ _ hc => exact absurd hc notCalled
    | acked slot phase ep _ h =>
      exfalso
      rcases h with ⟨hc, -⟩ | ⟨push, r', hg, -⟩
      · exact notCalled hc
      · obtain ⟨rfl, rfl⟩ := Since.answered.inj (hs.symm.trans hg)
        rw [hpath] at hp
        have := hp.length_le
        simp only [List.length_append, List.length_singleton] at this
        exact hq (List.length_eq_zero_iff.mp (by omega))
    | replayed _ _ _ _ _ hp' | intended _ _ _ _ _ _ hp' =>
      rw [hpath] at hp'
      exact absurd (List.append_eq_cons_iff.mp hp') (by simp [hq])
    | unsubscribed handle syncWait topic slot code reason hp' hc h =>
      have hno : ∀ isR ep c l, s.path ≠ [.handshaking isR ep c, l] := by
        intro isR ep c l he
        rw [hp', he] at hp
        simp at hp
      rcases h with rfl | rfl
      · exact hl.of_silent (Silent.closeSlot (q := fun _ => False)) (.inr hno) hf
      · exact hl.of_silent ((Silent.closeSlot (q := fun _ => False)).trans (.push rfl)) (.inr hno) hf
    | handedOut => exact hl.of_eq rfl rfl rfl rfl (.inl rfl) fun _ _ _ _ => rfl
    | _ => exact hl
  · cases h with
    | reconnects n ms rep hp' hproc hg hst => simp [hst, ConnectionState.terminal] at ht
    | installs isR ep rep hp' hg => exact absurd trivial (hx.not_leaves hg ht (q := []) hp' (by simp))
    | begins isR ep c => exact absurd rfl (hr isR ep c _)
    | restores isR ep c s rest => exact absurd rfl (hr isR ep c rest)

/-! ### Runs -/

/-- No step goes on inside an abort that it was not in before. -/
theorem step_aborting (h : (outline σ).step x q w w') (hq : .abortToFatal ∈ q) :
    .abortToFatal ∈ x.path := by
  rcases h with ⟨rfl, -⟩ | ⟨l, hp, -⟩ | h
  · exact hq
  · rw [hp]
    exact List.mem_append_left _ hq
  · cases h <;> simp at hq

/-- In a terminal state no step goes on in the next region of `_establish`, the
loop over the slots apart. -/
theorem step_path (h : (outline σ).step x q w w') (hx : Resting w x)
    (ht : w.conn.state.terminal = true) :
    q <+: x.path ∨ ∃ isR ep c rest, q = [.restoring isR ep c rest] := by
  rcases h with ⟨rfl, -⟩ | ⟨l, hp, -⟩ | h
  · exact .inl List.prefix_rfl
  · exact .inl ⟨_, hp.symm⟩
  · cases h with
    | reconnects n ms rep hp hproc hg hs => simp [hs, ConnectionState.terminal] at ht
    | installs isR ep rep hp hg => exact absurd trivial (hx.not_leaves hg ht (q := []) hp (by simp))
    | begins | restores => exact .inr ⟨_, _, _, _, rfl⟩

theorem step_resting (h : (outline σ).step x q w w') (hx : Resting w x) :
    Resting w' { x with path := q } := by
  -- nothing is asked of a task before its first wait, of a call only inside an abort, and of
  -- an answer that it stays without weight
  cases hs : x.since with
  | begun =>
    trivial
  | called =>
    intro hq hdown
    have hp := step_aborting h hq
    have hw := hx.aborting hs hp
    by_cases ht : w.conn.state.terminal = true
    · rcases step_calm h hx ht with h | h
      · exact hw (h.state ▸ hdown)
      · simp [h.path] at hp
    · rcases step_ends h (Bool.eq_false_iff.mpr ht) (by rw [hdown]; rfl) with h | h
      · simp [h.path] at hp
      · rw [h.state] at hdown
        cases hdown
  | answered s r =>
    have hlater := outline_step_later h
    have hf := hx.future hs
    refine ⟨fun rid rep ho hr => hlater.future rid (hf rid rep ho hr) ▸ hf rid rep ho hr, ?_⟩
    by_cases hq : q = []
    · exact .inl hq
    -- the loop over the slots may go on; it does not touch the state
    by_cases hrest : ∃ isR ep c rest, q = [.restoring isR ep c rest]
    · exact .inr (.inl hrest)
    refine .inr (.inr fun ht' => ?_)
    by_cases ht : w.conn.state.terminal = true
    · have hpre := (step_path h hx ht).resolve_right hrest
      have hx' := hx
      unfold Resting at hx'
      rw [hs] at hx'
      rcases hx'.2 with hp | ⟨isR, ep, c, rest, hp⟩ | hp
      · rw [hp] at hpre
        exact absurd (List.prefix_nil.mp hpre) hq
      · -- a part of one region is nothing or the region
        rw [hp, List.prefix_iff_eq_take] at hpre
        rcases hlen : q.length with - | n
        · exact absurd (List.length_eq_zero_iff.mp hlen) hq
        · rw [hlen, List.take_succ_cons, List.take_nil] at hpre
          exact absurd ⟨isR, ep, c, rest, hpre⟩ hrest
      · obtain ⟨hp, hn⟩ := hp ht
        refine ⟨hpre.trans hp, fun hl => hn (step_answers h hx hs ht hp hq ?_ hl)⟩
        exact fun isR ep c rest he => hrest ⟨isR, ep, c, rest, he⟩
    -- the step into the terminal state is an abort here, and its answer is about the closing
    · rcases step_ends h (Bool.eq_false_iff.mpr ht) ht' with h | h
      · exact absurd (hs.symm.trans h.since) nofun
      · obtain ⟨op, r', hg, hr⟩ := h.since.resolve_left (by simp [hs])
        obtain ⟨rfl, rfl⟩ := Since.answered.inj (hs.symm.trans hg)
        refine ⟨h.path, ?_⟩
        have hst : w'.conn.state ≠ .shutdown := by simp [h.state]
        cases op <;> first | exact fun hl => hst hl.2.1 | cases hr

theorem rests_kept : Keeps (outline σ) (StaysTerminal σ) .trivial Rests where
  step := by
    rintro x q w w' o - hi hs - y ⟨rfl⟩
    exact step_resting hs (hi x rfl)
  enter := by
    rintro x l w w' o - hi ha he - y ⟨rfl⟩ hm hs
    have hx := hi x rfl
    have hst : w.conn.state = .shutdown := by
      cases he with
      | establish =>
        rw [transition_conn] at hs
        cases hs
      | unsendable => rwa [(Silent.closeSlot (q := fun _ => False)).conn] at hs
      | subscribing => rwa [(Silent.registerSubscribe (q := fun _ => False)).conn] at hs
      | sendFailed => rwa [(Silent.unregisterSubscribe (q := fun _ => False)).conn] at hs
      | abortToFatal => rwa [Silent.abandon.conn] at hs
      | handleSubscribeAck => rwa [(Silent.beginAck (q := fun _ => False)).conn] at hs
      | subscribe => rwa [beginSubscribe_conn] at hs
      | _ => exact hs
    -- a region that can be entered outside an abort does not lie inside one
    cases he with
    | sendRpcAndWait rid hp => cases hp <;> simp_all
    | onTransportClose hp => cases hp <;> simp_all
    | sendFailed p s rid hp hq =>
      obtain ⟨v, hq⟩ := hq
      exact absurd hm (by simp [hp, hq.not_aborting])
    | abortToFatal => exact ha hst
    | closeClient p l c hp hc hx' =>
      rcases hx' with hx' | ⟨isR, ep, d, hp'⟩
      · exact hx.aborting hx' (by simpa using hm) hst
      · simp [hp'] at hm
    | sendSubscribe s h => exact absurd hm (by simp [h.not_aborting])
    | subscribing p s rid since hp hc h => exact absurd hm (by simp [hp, h.not_aborting])
    | unsendable p s reason hp hc h => exact absurd hm (by simp [hp, h.not_aborting])
    | _ => simp_all
  wait := fun _ _ _ _ _ h => nomatch h
  resume := by
    rintro s r w o - - ha hr - y ⟨rfl⟩
    obtain ⟨ts, evt, he, -⟩ := resume_eq s.task s.op r w
    refine ⟨fun rid rep ho hok => ?_, .inr (.inr fun ht => ⟨List.prefix_rfl, fun hl => ?_⟩)⟩
    · show ((w.resume s.task s.op r).rpc.futures rid).done = true
      rw [he]
      subst hok
      rw [ho] at hr
      change World.ready w s.task (.future rid) (.ok rep) = true at hr
      cases rep <;> simp_all [World.ready, World.mayEnd]
    · change LeavesTerminal (w.resume s.task s.op r) s r at hl
      change (w.resume s.task s.op r).conn.state.terminal = true at ht
      rw [he] at hl ht
      exact ha ht (hl.of_eq rfl rfl rfl rfl (.inl rfl) fun _ _ _ _ => rfl)
  start := by
    rintro t q w o - - - - - y ⟨rfl⟩
    trivial
  finish := fun _ _ _ _ _ h => nomatch h
  env := fun _ _ _ _ _ _ h => nomatch h

/-- A step that respects the terminal states. -/
structure Absorbs (a : Action Karo EnvStep) (w w' : World) : Prop where
  shutdown : w.conn.state = .shutdown →
    w'.conn.state = .shutdown ∧ attempts w'.log = attempts w.log
  fatal : w.conn.state = .fatal → w'.conn.state = .fatal ∨
    w'.conn.state = .shutdown ∧ ∃ t, a.actor = some t ∧ w.tasks.procOf t = some (.api .close)

theorem Calm.absorbs {a : Action Karo EnvStep} (h : w.conn.state.terminal = true → Calm w w') :
    Absorbs a w w' where
  shutdown := fun hs => by
    have hc := h (by rw [hs]; rfl)
    exact ⟨hc.state.trans hs, hc.attempts⟩
  fatal := fun hs => .inl ((h (by rw [hs]; rfl)).state.trans hs)

theorem terminal_guaranteed : Guarantees (outline σ) (StaysTerminal σ) Rests Absorbs where
  refl := fun _ _ => Calm.absorbs fun _ => .refl
  step := by
    intro x q w w' o hi _ hs
    by_cases ht : w.conn.state.terminal = true
    · rcases step_calm hs (hi x rfl) ht with h | h
      · exact Calm.absorbs fun _ => h
      · exact ⟨fun hd => absurd hd h.before, fun _ => .inr ⟨h.after, x.task, rfl, h.proc⟩⟩
    · exact Calm.absorbs fun h => absurd h ht
  enter := fun _ _ he => Calm.absorbs fun ht => he.calm ht
  start := fun _ => Calm.absorbs fun _ => ⟨rfl, rfl⟩
  resume := Calm.absorbs fun _ => resume_calm
  finish := fun _ _ => Calm.absorbs fun _ => finish_calm
  env := fun he => Calm.absorbs fun _ => env_calm he

/-- What a run does to the terminal states. -/
structure Absorbed (w w' : World) : Prop where
  shutdown : w.conn.state = .shutdown →
    w'.conn.state = .shutdown ∧ attempts w'.log = attempts w.log
  fatal : w.conn.state = .fatal → w'.conn.state = .fatal ∨ w'.conn.state = .shutdown

theorem Absorbed.refl (w : World) : Absorbed w w := ⟨fun h => ⟨h, rfl⟩, .inl⟩

theorem Absorbed.trans {w₁ w₂ w₃ : World} (h : Absorbed w₁ w₂) (h' : Absorbed w₂ w₃) :
    Absorbed w₁ w₃ where
  shutdown := fun hs => by
    obtain ⟨h₁, h₂⟩ := h.shutdown hs
    obtain ⟨h₃, h₄⟩ := h'.shutdown h₁
    exact ⟨h₃, h₄.trans h₂⟩
  fatal := fun hs => by
    rcases h.fatal hs with h₁ | h₁
    · exact h'.fatal h₁
    · exact .inr (h'.shutdown h₁).1

theorem Absorbs.absorbed {a : Action Karo EnvStep} (h : Absorbs a w w') : Absorbed w w' :=
  ⟨h.shutdown, fun hs => (h.fatal hs).imp_right And.left⟩

/-- **The terminal states are absorbing**, in every run in which no suspended
task goes on with a connection that has come to its end. -/
theorem terminal_absorbing {clock : Clock} {c d : Config Karo}
    (hc : Run (robot σ) (StaysTerminal σ) (initial clock) c)
    (hd : Run (robot σ) (StaysTerminal σ) c d) :
    (c.world.conn.state = .shutdown →
      d.world.conn.state = .shutdown ∧ attempts d.world.log = attempts c.world.log) ∧
    (c.world.conn.state = .fatal →
      d.world.conn.state = .fatal ∨ d.world.conn.state = .shutdown) ∧
    ∀ a e, Step (robot σ) d a e → StaysTerminal σ d.world d.sites a →
      d.world.conn.state = .fatal → e.world.conn.state ≠ .fatal →
      e.world.conn.state = .shutdown ∧
        ∃ t, a.actor = some t ∧ d.world.tasks.procOf t = some (.api .close) := by
  have hc := outlined.traced_run rests_kept (.initial fun _ h => nomatch h) hc
  have hrel : Absorbed c.world d.world :=
    terminal_guaranteed.along outlined rests_kept Absorbed.refl Absorbed.trans
      Absorbs.absorbed hc hd
  refine ⟨hrel.shutdown, hrel.fatal, fun a e hs ha hf hne => ?_⟩
  have hstep := terminal_guaranteed.holds (outlined.traced_run rests_kept hc hd) hs ha
  exact (hstep.fatal hf).resolve_left hne

/-- `connect()`, and `close()` while `_establish` waits for the connection. -/
def closedWhileDialing : List (Cmd (robot .plain)) :=
  [.env (.call .connect), .start 0, .start 1, .env (.call .close), .start 2]

theorem terminal_absorbing_closed : ∃ c d : Config Karo,
    Run (robot .plain) (StaysTerminal .plain) (initial ⟨0, 0⟩) c ∧
    Run (robot .plain) (StaysTerminal .plain) c d ∧
    c.world.conn.state = .shutdown ∧ d.world.conn.state = .shutdown := by
  let ok : Check (robot .plain) :=
    .of (fun w _ _ => !w.conn.state.terminal) fun _ l => l ≠ .abortToFatal
  have hok : ∀ w o a, ok.allows w o a → StaysTerminal .plain w o a := by
    intro w o a h
    cases a with
    | resume s r =>
      have : w.conn.state.terminal = false := by simpa [ok] using h
      simp [StaysTerminal, this]
    | enter t q l => cases l <;> simp_all [ok, StaysTerminal]
    | _ => trivial
  have hplay : (Sys.playChecked ok 4 closedWhileDialing (initial ⟨0, 0⟩)).any (fun c =>
      c.world.conn.state = .shutdown && (Sys.playChecked ok 4 [.env (.tick 1 1000)] c).isSome)
      = true := by decide +kernel
  obtain ⟨c, hc, hs⟩ := (Option.any_eq_true _ _).mp hplay
  simp only [Bool.and_eq_true, decide_eq_true_eq, Option.isSome_iff_exists] at hs
  obtain ⟨hs, d, hd⟩ := hs
  have hc := (playChecked_run ok hc).mono hok
  have hd := (playChecked_run ok hd).mono hok
  exact ⟨c, d, hc, hd, hs, ((terminal_absorbing hc hd).1 hs).1⟩

/-- A handshake response that arrives after `close()`. -/
def lateHandshake : List (Cmd (robot .plain)) :=
  [.resume 1 (.ok .done), .resume 1 (.ok .done), .start 3,
    .resume 3 (.ok (.inbound (.frame 0
      (some { requestId := 1, success := true, hasHandshake := true }) none))),
    .resume 1 (.ok .done)]

theorem shutdown_left : ∃ c d : Config Karo, Reaches (robot .plain) (initial ⟨0, 0⟩) c ∧
    Reaches (robot .plain) c d ∧ c.world.conn.state = .shutdown ∧ d.world.conn.state = .ready := by
  have hplay : ((robot .plain).play 4 closedWhileDialing (initial ⟨0, 0⟩)).any (fun c =>
      c.world.conn.state = .shutdown && ((robot .plain).play 4 lateHandshake c).any fun d =>
        d.world.conn.state = .ready) = true := by decide +kernel
  obtain ⟨c, hc, hs⟩ := (Option.any_eq_true _ _).mp hplay
  simp only [Bool.and_eq_true, decide_eq_true_eq, Option.any_eq_true] at hs
  obtain ⟨hs, d, hd, hr⟩ := hs
  exact ⟨c, d, play_run hc, play_run hd, hs, hr⟩

end KaroX2
