/-
KaroX2/Walk/Tasks.lean

The tasks of the client follow the outline.
-/
import KaroX2.Walk.Session

namespace KaroX2

open Coop Coro

variable {σ : Setup} {t : TaskId} {p : List Label} {a : Since Karo} {w w' : World}

/-! ### Where bodies are entered -/

/-- The job is a loop that is entered again from its end. -/
def Job.loops : Job → Bool
  | .subWorker _ | .api (.waitUntilReady _) => true
  | _ => false

/-- What holds where a body is entered. -/
def Pre : Proc → Running Karo → World → Prop
  | .run j, x, w => w.tasks.procOf x.task = some j ∧ x.path = [] ∧ (x.since = .begun ∨ j.loops = true)
  | .readLoop c, x, w => w.tasks.procOf x.task = some (.reader c) ∧ x.path = []
  | .drain c s _ phase ep, x, w => w.tasks.procOf x.task = some (.reader c) ∧
      x.path = [.handleSubscribeAck s phase ep] ∧ Draining x.task s phase ep x.since w
  | .heartbeatRound, x, w | .pingRound _, x, w =>
      w.tasks.procOf x.task = some .heartbeat ∧ x.path = [.heartbeat]
  | .neverRun, x, _ => x.path = []

/-- What a body ends with. -/
abbrev Exit (σ : Setup) : Post Karo (Flow Karo) := exitPost (outline σ) Pre

theorem resume_proc {u : TaskId} {op : Op} {r : Except Exn Reply} {j : Job}
    (h : w.tasks.procOf t = some j) : (w.resume u op r).tasks.procOf t = some j :=
  resume_later.proc _ _ h

theorem exit_error {e : Exn} {b : Since Karo} : Exit σ (.error e) ⟨t, [], b⟩ w := .ended rfl

theorem exit_done {b : Since Karo} : Exit σ (.ok .done) ⟨t, [], b⟩ w := .ended rfl

/-! ### The reader -/

section

variable {c : WsId}

theorem onInboundMessage_follows {rep : Reply} {response : Option DecodedResponse}
    {push : Option DecodedTopicPush} {Q : Post Karo AckNext}
    (ht : w.tasks.procOf t = some (.reader c)) (ha : a = .answered ⟨t, [], .recv c⟩ (.ok rep))
    (finished : ∀ b w', Later w w' → Q (.ok none) ⟨t, [], b⟩ w')
    (drain : ∀ s K phase ep w', Later w w' → ep = epoch w'.log →
      (phase = true ↔ w'.conn.state = .reconnecting) → (w'.subs.slots s).state = .active →
      Q (.ok (some (s, K, phase, ep))) ⟨t, [.handleSubscribeAck s phase ep], .called⟩ w')
    (raised : ∀ e b w', Later w w' → Q (.error e) ⟨t, [], b⟩ w') :
    (onInboundMessage σ t response push).Follows (outline σ) [] ⟨t, [], a⟩ Q w := by
  have hreset : Quiet w w.resetLiveness := .of_eq rfl rfl rfl rfl rfl rfl le_rfl rfl rfl
  have hl := hreset.later
  rw [onInboundMessage]
  refine follows_quiet_then hreset ?_
  split
  · rename_i resp _
    rw [handleSdkResponse]
    split
    -- an acknowledgement may hand over to the drain; every other response ends here
    · refine handleSubscribeAck_follows ht ha ?_ ?_ ?_
      · exact fun b w' hl' => finished b w' (hl.trans hl')
      · exact fun s K phase ep w' hl' => drain s K phase ep w' (hl.trans hl')
      · exact fun e b w' hl' => raised e b w' (hl.trans hl')
    · have hresp : Quiet w.resetLiveness (w.resetLiveness.handleRpcResponse resp) :=
        .handleRpcResponse
      exact follows_quiet_then hresp (finished _ _ (hl.trans hresp.later))
  · rw [follows_bind]
    refine handleSdkTopicPush_follows ?_
    rintro (e | -) b w' hl'
    · exact raised e b w' (hl.trans hl')
    · exact finished b w' (hl.trans hl')
  · exact follows_quiet_then (.push rfl rfl) (finished _ _ (hl.trans Later.push))

theorem fireClose_follows {e : Exn} {reason : ErrorCode} {msg : String} {Q : Post Karo Unit}
    (ht : w.tasks.procOf t = some (.reader c)) (ha : a = .answered ⟨t, [], .recv c⟩ (.error e))
    (hQ : ∀ r b w', Q r ⟨t, [], b⟩ w') :
    (fireClose σ t c reason msg).Follows (outline σ) [] ⟨t, [], a⟩ Q w := by
  rw [fireClose, follows_read_then, follows_when]
  refine ⟨fun hc => ?_, fun _ => hQ _ _ _⟩
  refine follows_move_then (.latched c e rfl ht ha hc) ?_
  rw [follows_when]
  refine ⟨fun hh => ?_, fun _ => hQ _ _ _⟩
  have hh' : ((w.setClient c fun k => { k with closed := true }).clients c).handlers = true := by
    simpa [World.setClient] using hh
  refine follows_move_then (.closeFired c e rfl ht ha hh') ?_
  rw [swallow, follows_attempt_then]
  refine onTransportClose_follows (.reader c rfl ht) ?_ ?_
  · exact fun b w' _ _ => hQ _ b w'
  · intro s r e w' _ _
    cases e <;> exact hQ _ _ _

theorem readMessage_follows {rep : Reply} {m : Inbound} (ht : w.tasks.procOf t = some (.reader c))
    (ha : a = .answered ⟨t, [], .recv c⟩ (.ok rep)) :
    (readMessage σ t c m).Follows (outline σ) [] ⟨t, [], a⟩ (Exit σ) w := by
  cases m with
  | text => exact ⟨ht, rfl⟩
  | frame len response push =>
    show (Coro.read >>= _ : M (Flow Karo)).Follows _ _ _ _ _
    rw [follows_read_then]
    split
    · rw [follows_attempt_then]
      refine onInboundMessage_follows ht ha ?_ ?_ ?_
      · exact fun b w' hl => ⟨hl.proc _ _ ht, rfl⟩
      · intro s K phase ep w' hl hep hph hs
        exact ⟨hl.proc _ _ ht, rfl, .inl ⟨rfl, hep, hph, hs⟩⟩
      · intro e b w' hl
        cases e with
        | cancelled => exact exit_error
        | _ => exact ⟨hl.proc _ _ ht, rfl⟩
    · exact ⟨ht, rfl⟩

theorem streamEnds_follows {r : Except Exn Reply} {o : Option Exn}
    (ht : w.tasks.procOf t = some (.reader c)) (ha : a = .answered ⟨t, [], .recv c⟩ r)
    (ho : (∃ rep, r = .ok rep ∧ o = none) ∨ ∃ e, r = .error e ∧ o = some e) :
    (streamEnds σ t c o).Follows (outline σ) [] ⟨t, [], a⟩ (Exit σ) w := by
  have hend : r ≠ .error .cancelled → Move σ ⟨t, [], a⟩ w (w.push (.streamEnded c (.of r))) :=
    .streamEnded c r rfl ht ha
  have hfire : ∀ e o reason msg, r = .error e → (fireClose σ t c reason msg >>=
      fun _ => pure .done : M (Flow Karo)).Follows (outline σ) [] ⟨t, [], a⟩ (Exit σ)
      (w.push o) := by
    intro e o reason msg hr
    rw [follows_bind]
    refine fireClose_follows (e := e) ht (hr ▸ ha) ?_
    rintro (e | -) b w'
    · exact exit_error
    · exact exit_done
  rcases ho with ⟨rep, rfl, rfl⟩ | ⟨e, rfl, rfl⟩
  · exact follows_move_then (hend nofun) exit_done
  · cases e with
    | cancelled => exact exit_error
    | connectionClosed code text => exact follows_move_then (hend nofun) (hfire _ _ _ _ rfl)
    | _ => exact follows_move_then (hend nofun) (hfire _ _ _ _ rfl)

theorem readRound_follows (ht : w.tasks.procOf t = some (.reader c)) :
    (readRound σ t c).Follows (outline σ) [] ⟨t, [], a⟩ (Exit σ) w := by
  rw [readRound, follows_attempt_then]
  refine follows_suspend (.recv c rfl ht) fun r w₁ hl₁ _ => ?_
  have ht' : (w₁.resume t (.recv c) r).tasks.procOf t = some (.reader c) :=
    resume_proc (hl₁.proc _ _ ht)
  rcases r with e | (- | m | -)
  · exact streamEnds_follows ht' rfl (.inr ⟨e, rfl, rfl⟩)
  · exact streamEnds_follows ht' rfl (.inl ⟨_, rfl, rfl⟩)
  · exact readMessage_follows ht' rfl
  · exact streamEnds_follows ht' rfl (.inl ⟨_, rfl, rfl⟩)

end

/-! ### The heartbeat -/

section

/-- The heartbeat goes on, stops, or is interrupted. -/
structure HeartbeatPost (t : TaskId) (Q : Post Karo (Flow Karo)) : Prop where
  round : ∀ b w, w.tasks.procOf t = some .heartbeat →
    Q (.ok (.next .heartbeatRound)) ⟨t, [.heartbeat], b⟩ w
  ping : ∀ n b w, w.tasks.procOf t = some .heartbeat →
    Q (.ok (.next (.pingRound n))) ⟨t, [.heartbeat], b⟩ w
  done : ∀ b w, w.tasks.procOf t = some .heartbeat → Stops ⟨t, [.heartbeat], b⟩ w →
    Q (.ok .done) ⟨t, [.heartbeat], b⟩ w
  raised : ∀ e b w, w.tasks.procOf t = some .heartbeat → Stops ⟨t, [.heartbeat], b⟩ w →
    Q (.error e) ⟨t, [.heartbeat], b⟩ w

theorem untilCancelled_follows {c : M (Flow Karo)}
    (hc : ∀ Q, HeartbeatPost t Q →
      c.Follows (outline σ) [.heartbeat] ⟨t, [.heartbeat], a⟩ Q w) :
    (untilCancelled c).Follows (outline σ) [] ⟨t, [.heartbeat], a⟩ (Exit σ) w := by
  rw [untilCancelled]
  refine follows_within_then.mpr (hc _ ⟨?_, ?_, ?_, ?_⟩)
  · exact fun b w ht => ⟨ht, rfl⟩
  · exact fun n b w ht => ⟨ht, rfl⟩
  · exact fun b w ht hs => .heartbeat rfl ht hs
  · intro e b w ht hs
    have : Ends ⟨t, [.heartbeat], b⟩ w (.error e) := .heartbeat rfl ht hs
    cases e with
    | cancelled => exact .heartbeat rfl ht hs
    | _ => exact this

variable {Q : Post Karo (Flow Karo)}

/-- The heartbeat declares the connection dead, and goes on. -/
theorem declareDead_follows {msg : String} (hQ : HeartbeatPost t Q)
    (ht : w.tasks.procOf t = some .heartbeat) :
    (onTransportClose σ t .transportFailure msg >>= fun _ => pure (.next .heartbeatRound) :
      M (Flow Karo)).Follows (outline σ) [.heartbeat] ⟨t, [.heartbeat], a⟩ Q w := by
  rw [follows_bind]
  refine onTransportClose_follows (.heartbeat rfl) ?_ ?_
  · exact fun b w' hl _ => hQ.round b w' (hl.proc _ _ ht)
  · exact fun s r e w' hl hs => hQ.raised e _ w' (hl.proc _ _ ht) (.raised s r rfl hs)

theorem heartbeatRound_follows (ht : w.tasks.procOf t = some .heartbeat) :
    (heartbeatRound σ).Follows (outline σ) [] ⟨t, [.heartbeat], a⟩ (Exit σ) w := by
  refine untilCancelled_follows fun Q hQ => ?_
  rw [follows_read_then]
  dsimp only
  -- not ready, not idle yet, no client, a client that is not open
  split
  · rename_i hs
    exact hQ.done _ _ ht (.notReady hs)
  split
  · rw [follows_attempt_then]
    refine follows_suspend (.beating rfl (.inl ⟨_, rfl⟩)) fun r w₁ hl₁ hr => ?_
    have ht' := hl₁.proc _ _ ht
    rcases r with e | rep
    · cases e with
      | timeout => exact hQ.round _ _ (resume_proc ht')
      | cancelled => exact hQ.raised _ _ _ (resume_proc ht') (.interrupted _ rfl)
      | _ => simp [World.ready, World.mayEnd] at hr
    · exact follows_quiet_then (.of_eq rfl rfl rfl rfl rfl rfl le_rfl rfl rfl)
        (hQ.round _ _ (resume_proc ht'))
  split
  · rename_i hw
    refine hQ.done _ _ ht (.unconnected fun c hc => ?_)
    rw [hw] at hc
    cases hc
  · rename_i c hw
    split
    · exact hQ.ping _ _ _ ht
    · rename_i ho
      refine hQ.done _ _ ht (.unconnected fun d hd => ?_)
      obtain rfl : c = d := Option.some.inj (hw.symm.trans hd)
      exact Bool.eq_false_iff.mpr ho

theorem pingMissed_follows {rid left : Nat} (hQ : HeartbeatPost t Q)
    (ht : w.tasks.procOf t = some .heartbeat) :
    (pingMissed σ t rid left).Follows (outline σ) [.heartbeat] ⟨t, [.heartbeat], a⟩ Q w := by
  have hmiss : Quiet w (w.countMiss rid) := .of_eq rfl rfl rfl rfl rfl rfl le_rfl rfl rfl
  rw [pingMissed]
  refine follows_quiet_then hmiss ?_
  rw [follows_read_then]
  split
  -- too many misses, or one more ping
  · exact follows_quiet_then (.push rfl rfl) (declareDead_follows hQ ht)
  · exact hQ.ping _ _ _ ht

theorem sendPing_follows {c : WsId} {left : Nat} (hQ : HeartbeatPost t Q)
    (ht : w.tasks.procOf t = some .heartbeat) (hw : w.conn.ws = some c) :
    (sendPing σ t c left).Follows (outline σ) [.heartbeat] ⟨t, [.heartbeat], a⟩ Q w := by
  rw [sendPing, nextRid]
  refine follows_update_then .bumpRid ?_
  rw [follows_read_then]
  refine follows_quiet_then (.of_eq rfl rfl rfl rfl rfl rfl le_rfl rfl rfl) ?_
  have hdead : ∀ b v, v.tasks.procOf t = some .heartbeat →
      (Coro.modify (World.unregister w.rpc.nextRequestId) >>= fun _ =>
        onTransportClose σ t .transportFailure "heartbeat send failed" >>= fun _ =>
          pure (.next .heartbeatRound) : M (Flow Karo)).Follows (outline σ) [.heartbeat]
        ⟨t, [.heartbeat], b⟩ Q v :=
    fun b v hv => follows_quiet_then .unregister (declareDead_follows hQ hv)
  rw [follows_bind]
  refine wsSend_follows hw (.inr (.inr (.inl rfl))) ?_ ?_ ?_ ?_
  · intro rep w₁ hl₁
    have ht₁ := hl₁.proc _ _ ht
    show (Coro.attempt _ >>= _ : M (Flow Karo)).Follows _ _ _ _ _
    rw [follows_attempt_then]
    refine follows_suspend (.beating rfl (.inr ⟨_, rfl⟩)) fun r w₂ hl₂ hr => ?_
    have ht₂ := hl₂.proc _ _ ht₁
    rcases r with e | rep
    · cases e with
      | timeout => exact pingMissed_follows hQ (resume_proc ht₂)
      | cancelled => exact hQ.raised _ _ _ (resume_proc ht₂) (.interrupted _ rfl)
      | _ => simp [World.ready, World.mayEnd] at hr
    · exact follows_quiet_then (.of_eq rfl rfl rfl rfl rfl rfl le_rfl rfl rfl)
        (hQ.round _ _ (resume_proc ht₂))
  · exact fun e w₁ hl₁ _ => hdead _ _ (hl₁.proc _ _ ht)
  · exact fun w₁ hl₁ => hQ.raised _ _ _ (hl₁.proc _ _ ht) (.interrupted _ rfl)
  · exact fun _ => hdead _ _ ht

theorem pingRound_follows {n : Nat} (ht : w.tasks.procOf t = some .heartbeat) :
    (pingRound σ t n).Follows (outline σ) [] ⟨t, [.heartbeat], a⟩ (Exit σ) w := by
  cases n with
  | zero => exact ⟨ht, rfl⟩
  | succ left =>
    refine untilCancelled_follows fun Q hQ => ?_
    rw [follows_read_then]
    split
    · exact hQ.round _ _ ht
    · rename_i c hw
      split
      · exact sendPing_follows hQ ht hw
      · exact hQ.round _ _ ht

end

/-! ### Commands -/

section

/-- Outside of `READY`, and after the reply, a command only counts. -/
theorem stat_follows {f : World → World} {α : Type} {v : α} {Q : Post Karo α}
    (hf : Quiet w (f w)) (hQ : ∀ r b w', Later w w' → Q r ⟨t, p, b⟩ w') :
    (Coro.modify f >>= fun _ => pure v : M α).Follows (outline σ) p ⟨t, p, a⟩ Q w :=
  follows_quiet_then hf (hQ _ _ _ hf.later)

/-- A request whose outcome is turned into a value, whatever it is. -/
theorem request_follows {α : Type} {rid : Nat} {method : String} {cmd : SdkCommand}
    {k : Except Exn DecodedResponse → M α} {Q : Post Karo α}
    (hp : Requesting ⟨t, p, a⟩) (hr : rid + 1 = w.rpc.nextRequestId) (hc : cmd.requestId = rid)
    (hk : ∀ r b w', Later w w' → (k r).Follows (outline σ) p ⟨t, p, b⟩ Q w') :
    ((sendRpcAndWait rid method cmd).attempt >>= k).Follows (outline σ) p ⟨t, p, a⟩ Q w := by
  rw [follows_attempt_then]
  refine sendRpcAndWait_follows hp hr hc ?_ ?_ ?_ ?_
  · exact fun b _ resp w' hl _ _ => hk _ b w' hl
  · exact fun b e w' hl _ => hk _ b w' hl
  · exact fun s r w' hl => hk _ _ w' hl
  · exact fun w' hl _ _ => ⟨hk _ _ w' hl, hk _ _ w' hl⟩

theorem cmdVel_follows {vx vy wz : PyFloat} {Q : Post Karo CmdVelResult}
    (hQ : ∀ r b w', Later w w' → Q r ⟨t, [], b⟩ w') :
    (cmdVel vx vy wz).Follows (outline σ) [] ⟨t, [], a⟩ Q w := by
  have hstat : ∀ (v : World) f, Quiet v (v.cmdVelStat f) :=
    fun v f => .of_eq rfl rfl rfl rfl rfl rfl le_rfl rfl rfl
  have hacq : Quiet w w.acquire.2 := .of_eq rfl rfl rfl rfl rfl rfl le_rfl rfl rfl
  have hfail : ∀ code message b v, Later w v →
      (cmdVelFailed code message).Follows (outline σ) [.cmdVel] ⟨t, [.cmdVel], b⟩
        (fun r x w => x.path = [] ++ [.cmdVel] ∧ Q r { x with path := [] } w) v :=
    fun code message b v hv =>
      stat_follows (hstat v _) fun r b w' hl => ⟨rfl, hQ r b w' (hv.trans hl)⟩
  rw [cmdVel]
  refine follows_call_idle (.cmdVel rfl) .cmdVel ?_
  rw [follows_read_then]
  split
  -- not ready: nothing is taken from the bucket
  · exact hfail _ _ _ _ (.refl w)
  refine follows_update_then hacq ?_
  split
  · exact hfail _ _ _ _ hacq.later
  refine follows_quiet_then (hstat _ _) ?_
  have h₁ : Quiet w (w.acquire.2.cmdVelStat RpcStat.counted) := hacq.trans (hstat _ _)
  generalize w.acquire.2.cmdVelStat RpcStat.counted = w₁ at h₁ ⊢
  rw [nextRid]
  refine follows_update_then .bumpRid ?_
  have hseq : Quiet w₁.bumpRid w₁.bumpRid.nextSeq.2 :=
    .of_eq rfl rfl rfl rfl rfl rfl le_rfl rfl rfl
  refine follows_update_then hseq ?_
  rw [follows_read_then]
  refine request_follows (.cmdVel rfl) rfl rfl fun r b w' hl => ?_
  have hl' : Later w w' := (h₁.later.trans (Quiet.bumpRid.trans hseq).later).trans hl
  rcases r with e | resp
  · cases e with
    | timeout | sdk => exact hfail _ _ _ _ hl'
    | _ => exact ⟨rfl, hQ _ _ _ hl'⟩
  · dsimp only
    rw [cmdVelAnswered, follows_read_then]
    dsimp only
    split
    · exact stat_follows (hstat _ _) fun r b v hv => ⟨rfl, hQ r b v (hl'.trans hv)⟩
    · exact ⟨rfl, hQ _ _ _ hl'⟩

theorem ping_follows {Q : Post Karo ℚ} (hQ : ∀ r b w', Later w w' → Q r ⟨t, [], b⟩ w') :
    ping.Follows (outline σ) [] ⟨t, [], a⟩ Q w := by
  have hstat : ∀ (v : World) f, Quiet v (v.pingStat f) :=
    fun v f => .of_eq rfl rfl rfl rfl rfl rfl le_rfl rfl rfl
  rw [ping]
  refine follows_call_idle (.ping rfl) .ping ?_
  rw [follows_read_then]
  split
  · exact ⟨rfl, hQ _ _ _ (.refl w)⟩
  refine follows_quiet_then (hstat _ _) ?_
  rw [nextRid]
  refine follows_update_then .bumpRid ?_
  rw [follows_read_then]
  refine request_follows (.ping rfl) rfl rfl fun r b w' hl => ?_
  have hl' : Later w w' := ((hstat w _).later.trans Quiet.bumpRid.later).trans hl
  rcases r with e | resp
  · cases e with
    | timeout | sdk =>
      exact stat_follows (hstat _ _) fun r b v hv => ⟨rfl, hQ r b v (hl'.trans hv)⟩
    | _ => exact ⟨rfl, hQ _ _ _ hl'⟩
  · exact ⟨rfl, hQ _ _ _ hl'⟩

theorem createNavTask_follows {encode : Nat → Except Exn SdkCommand} {Q : Post Karo CreateTaskResult}
    (hrid : ∀ rid cmd, encode rid = .ok cmd → cmd.requestId = rid)
    (hQ : ∀ r b w', Later w w' → Q r ⟨t, [], b⟩ w') :
    (createNavTask encode).Follows (outline σ) [] ⟨t, [], a⟩ Q w := by
  rw [createNavTask, follows_read_then]
  split
  · exact hQ _ _ _ (.refl w)
  rw [nextRid]
  refine follows_update_then .bumpRid ?_
  have hbump : Later w w.bumpRid := Quiet.bumpRid.later
  dsimp only
  split
  · exact hQ _ _ _ hbump
  · rename_i cmd hcmd
    refine request_follows (.task rfl) rfl (hrid _ _ hcmd) fun r b w' hl => ?_
    have hl' := hbump.trans hl
    rcases r with e | resp
    · cases e <;> exact hQ _ _ _ hl'
    · exact hQ _ _ _ hl'

theorem taskCommand_follows {method : String} {encoder : Nat → PyStr → Except Exn SdkCommand}
    {taskId : PyStr} {Q : Post Karo CommandResult}
    (hrid : ∀ rid cmd, encoder rid taskId = .ok cmd → cmd.requestId = rid)
    (hQ : ∀ r b w', Later w w' → Q r ⟨t, [], b⟩ w') :
    (taskCommand method encoder taskId).Follows (outline σ) [] ⟨t, [], a⟩ Q w := by
  rw [taskCommand, follows_read_then]
  split
  · exact hQ _ _ _ (.refl w)
  rw [nextRid]
  refine follows_update_then .bumpRid ?_
  have hbump : Later w w.bumpRid := Quiet.bumpRid.later
  dsimp only
  split
  · exact hQ _ _ _ hbump
  · rename_i cmd hcmd
    refine request_follows (.task rfl) rfl (hrid _ _ hcmd) fun r b w' hl => ?_
    have hl' := hbump.trans hl
    rcases r with e | resp
    · cases e <;> exact hQ _ _ _ hl'
    · exact hQ _ _ _ hl'

theorem encodeTaskCommand_requestId {method : String} {rid : Nat} {taskId : PyStr} {cmd : SdkCommand}
    (h : encodeTaskCommand method rid taskId = .ok cmd) : cmd.requestId = rid := by
  simp only [encodeTaskCommand, utf8] at h
  split at h <;> simp_all [bind, Except.bind, pure, Except.pure]
  rw [← h]
  rfl

theorem encodeCreateNavTaskMarker_requestId {rid : Nat} {m : PyStr} {cmd : SdkCommand}
    (h : encodeCreateNavTaskMarker rid m = .ok cmd) : cmd.requestId = rid := by
  simp only [encodeCreateNavTaskMarker, utf8] at h
  split at h <;> simp_all [bind, Except.bind, pure, Except.pure]
  rw [← h]
  rfl

theorem encodeCreateNavTaskPose_requestId {rid : Nat} {x y theta : PyFloat} {cmd : SdkCommand}
    (h : encodeCreateNavTaskPose rid x y theta = .ok cmd) : cmd.requestId = rid := by
  simp only [encodeCreateNavTaskPose, pure, Except.pure, Except.ok.injEq] at h
  rw [← h]
  rfl

theorem DecodedResponse.rpcOk_of_requireOk {resp : DecodedResponse} (h : resp.requireOk = none) :
    resp.rpcOk = true := by
  unfold DecodedResponse.requireOk at h
  unfold DecodedResponse.rpcOk
  split at h
  · cases h
  · split at h
    · cases h
    · split at h
      · cases h
      · simp_all

theorem emergencyStop_follows {engage : Bool} {reason : PyStr} {Q : Post Karo CommandResult}
    (hQ : ∀ r b w', Later w w' → Q r ⟨t, [], b⟩ w') :
    (emergencyStop engage reason).Follows (outline σ) [] ⟨t, [], a⟩ Q w := by
  have hstat : ∀ (v : World) f, Quiet v (v.emergencyStopStat f) :=
    fun v f => .of_eq rfl rfl rfl rfl rfl rfl le_rfl rfl rfl
  have hidle : ∀ b v, (outline σ).step ⟨t, [.emergencyStop engage], b⟩ [] v v :=
    fun b v => .inr (.inl ⟨_, rfl, .idle (.emergencyStop engage)⟩)
  have hfail : ∀ code message b v, Later w v →
      (emergencyStopFailed code message >>= fun r => pure (r, id) :
        M (CommandResult × (World → World))).Follows (outline σ) [.emergencyStop engage]
        ⟨t, [.emergencyStop engage], b⟩
        (Post.leaving (outline σ) [] (.emergencyStop engage) Q) v := by
    intro code message b v hv
    rw [follows_bind]
    refine stat_follows (hstat v _) fun r b' w' hl => ?_
    cases r with
    | error e => exact ⟨rfl, hidle _ _, hQ _ _ _ (hv.trans hl)⟩
    | ok r => exact ⟨rfl, hidle _ _, hQ _ _ _ (hv.trans hl)⟩
  rw [emergencyStop]
  refine follows_scope (.emergencyStop engage rfl) ?_
  rw [follows_read_then]
  split
  · exact ⟨rfl, hidle _ _, hQ _ _ _ (.refl w)⟩
  refine follows_quiet_then (hstat _ _) ?_
  rw [nextRid]
  refine follows_update_then .bumpRid ?_
  have hbump : Later w (w.emergencyStopStat RpcStat.counted).bumpRid :=
    ((hstat w _).trans .bumpRid).later
  dsimp only
  split
  · exact ⟨rfl, hidle _ _, hQ _ _ _ hbump⟩
  · rename_i cmd hcmd
    obtain ⟨hrid, henc⟩ := encodeEmergencyStop_ok hcmd
    rw [follows_attempt_then]
    refine sendRpcAndWait_follows (.emergencyStop engage rfl) rfl hrid ?_ ?_ ?_ ?_
    · intro b c resp w' hl _ htook
      have hl' := hbump.trans hl
      dsimp only
      rw [emergencyStopAnswered]
      split
      · exact hfail _ _ b w' hl'
      · rename_i hok
        -- only a stop that the robot has confirmed is recorded as intended
        have hleave : Leaves σ ⟨t, [.emergencyStop engage], b⟩ [] w' (.emergencyStop engage)
            (w'.recordIntent engage reason) :=
          .intended engage reason _ c cmd resp rfl htook (DecodedResponse.rpcOk_of_requireOk hok) hrid henc
        exact ⟨rfl, .inr (.inl ⟨_, rfl, hleave⟩), hQ _ _ _ (hl'.trans hleave.later)⟩
    · intro b e w' hl _
      have hl' := hbump.trans hl
      cases e with
      | timeout | sdk => exact hfail _ _ b w' hl'
      | _ => exact ⟨rfl, hidle _ _, hQ _ _ _ hl'⟩
    · exact fun s r w' hl => ⟨rfl, hidle _ _, hQ _ _ _ (hbump.trans hl)⟩
    · intro w' hl _ _
      exact ⟨hfail _ _ _ w' (hbump.trans hl), hfail _ _ _ w' (hbump.trans hl)⟩

theorem waitRound_follows {timeout : Option ℚ} {Q : Post Karo (Option Bool)}
    (hQ : ∀ r b w', Later w w' → Q r ⟨t, [], b⟩ w') :
    (waitRound t timeout).Follows (outline σ) [] ⟨t, [], a⟩ Q w := by
  have hevt : ∀ (v : World) evt, Quiet v { v with stateEvt := evt } :=
    fun v evt => .of_eq rfl rfl rfl rfl rfl rfl le_rfl rfl rfl
  rw [waitRound]
  refine follows_quiet_then (hevt w _) ?_
  have hl := (hevt w { w.stateEvt with flag := false }).later
  rw [follows_read_then]
  split
  · exact hQ _ _ _ hl
  split
  · exact hQ _ _ _ hl
  refine follows_quiet_then (hevt _ _) ?_
  rw [follows_bind]
  refine follows_suspend (.idling rfl (.inl ⟨timeout, rfl⟩)) fun r w₁ hl₁ _ => ?_
  have hlast : Later w₁ (w₁.resume t (.stateChanged timeout) r) := resume_later
  have hl' := ((hl.trans (hevt _ _).later).trans hl₁).trans hlast
  rcases r with e | rep
  · exact hQ _ _ _ hl'
  · exact hQ _ _ _ hl'

end

/-! ### All tasks -/

theorem andDone_follows {c : M Unit}
    (hc : ∀ Q : Post Karo Unit, (∀ r b w', Q r ⟨t, [], b⟩ w') →
      c.Follows (outline σ) [] ⟨t, [], a⟩ Q w) :
    (andDone c).Follows (outline σ) [] ⟨t, [], a⟩ (Exit σ) w := by
  rw [andDone, follows_bind]
  refine hc _ ?_
  rintro (e | -) b w'
  · exact exit_error
  · exact exit_done

theorem returning_follows {c : M ApiResult}
    (hc : ∀ Q : Post Karo ApiResult, (∀ r b w', Q r ⟨t, [], b⟩ w') →
      c.Follows (outline σ) [] ⟨t, [], a⟩ Q w) :
    (returning t c).Follows (outline σ) [] ⟨t, [], a⟩ (Exit σ) w := by
  rw [returning, follows_bind]
  refine hc _ ?_
  rintro (e | r) b w'
  · exact exit_error
  · exact follows_quiet_then (.push rfl rfl) exit_done

/-- The result of a call is put into an `ApiResult`. -/
theorem returning_map_follows {α : Type} {f : α → ApiResult} {c : M α}
    (hc : ∀ Q : Post Karo α, (∀ r b w', Later w w' → Q r ⟨t, [], b⟩ w') →
      c.Follows (outline σ) [] ⟨t, [], a⟩ Q w) :
    (returning t (f <$> c)).Follows (outline σ) [] ⟨t, [], a⟩ (Exit σ) w := by
  refine returning_follows fun Q hQ => ?_
  show (c >>= fun v => pure (f v)).Follows _ _ _ _ _
  rw [follows_bind]
  refine hc _ ?_
  rintro (e | v) b w' -
  · exact hQ _ _ _
  · exact hQ _ _ _

theorem apiBody_follows {call : ApiCall} (ht : w.tasks.procOf t = some (.api call)) :
    (apiBody σ t call).Follows (outline σ) [] ⟨t, [], a⟩ (Exit σ) w := by
  cases call with
  | connect =>
    exact returning_follows fun Q hQ => follows_move_then (.connected rfl) (hQ _ _ _)
  | close =>
    refine returning_follows fun Q hQ => ?_
    rw [follows_bind]
    refine close_follows ht ?_
    rintro (e | -) b w' -
    · exact hQ _ _ _
    · exact hQ _ _ _
  | waitUntilReady timeout =>
    show (waitRound t timeout >>= _).Follows _ _ _ _ _
    rw [follows_bind]
    refine waitRound_follows ?_
    rintro (e | - | b) b' w' hl
    · exact exit_error
    · exact ⟨hl.proc _ _ ht, rfl, .inr rfl⟩
    · exact returning_follows fun Q hQ => hQ _ _ _
  | subscribe topic hz => exact returning_map_follows fun Q hQ => subscribeInternal_follows hQ
  | unsubscribe h => exact returning_map_follows fun Q hQ => unsubscribe_follows hQ
  | cmdVel vx vy wz => exact returning_map_follows fun Q hQ => cmdVel_follows hQ
  | emergencyStop engage reason => exact returning_map_follows fun Q hQ => emergencyStop_follows hQ
  | createNavTaskMarker m =>
    exact returning_map_follows fun Q hQ =>
      createNavTask_follows (fun _ _ => encodeCreateNavTaskMarker_requestId) hQ
  | createNavTaskPose x y theta =>
    exact returning_map_follows fun Q hQ =>
      createNavTask_follows (fun _ _ => encodeCreateNavTaskPose_requestId) hQ
  | cancelTask i | pauseTask i | resumeTask i =>
    exact returning_map_follows fun Q hQ =>
      taskCommand_follows (fun _ _ => encodeTaskCommand_requestId) hQ
  | ping => exact returning_map_follows fun Q hQ => ping_follows hQ

theorem jobBody_follows {j : Job} (ht : w.tasks.procOf t = some j)
    (ha : a = .begun ∨ j.loops = true) :
    (jobBody σ t j).Follows (outline σ) [] ⟨t, [], a⟩ (Exit σ) w := by
  cases j with
  | establishInitial =>
    obtain rfl : a = .begun := ha.resolve_right nofun
    exact andDone_follows fun Q hQ => establish_follows ht fun r b w' _ => hQ r b w'
  | reader c =>
    show (readStart c).Follows _ _ _ _ _
    rw [readStart, follows_read_then]
    split
    · exact ⟨ht, rfl⟩
    · exact exit_done
  | heartbeat =>
    obtain rfl : a = .begun := ha.resolve_right nofun
    exact follows_enter_then (.heartbeat rfl rfl ht) ⟨ht, rfl⟩
  | subWorker s =>
    show (subWorkerRound s >>= _).Follows _ _ _ _ _
    rw [follows_bind]
    refine subWorkerRound_follows ?_
    rintro (e | - | -) b w' hl
    · exact exit_error
    · exact exit_done
    · exact ⟨hl.proc _ _ ht, rfl, .inr rfl⟩
  | doReconnect n ms =>
    obtain rfl : a = .begun := ha.resolve_right nofun
    exact andDone_follows fun Q hQ => doReconnect_follows ht fun r b w' _ => hQ r b w'
  | estopReplay =>
    obtain rfl : a = .begun := ha.resolve_right nofun
    exact andDone_follows fun Q hQ => estopReplay_follows ht fun r b w' _ => hQ r b w'
  | subscribeAckTimeout rid topic =>
    exact andDone_follows fun Q hQ =>
      handleSubscribeAckTimeout_follows ht fun r b w' _ => hQ r b w'
  | abortToFatal code message =>
    exact andDone_follows fun Q hQ =>
      abortToFatal_follows (.task rfl) (fun b w' _ _ => hQ _ b w') fun s r e w' _ => hQ _ _ w'
  | unsubscribeDropped h =>
    refine andDone_follows fun Q hQ => ?_
    rw [follows_bind]
    refine unsubscribeRequest_follows ?_
    rintro (e | -) b w' -
    · exact hQ _ _ _
    · exact hQ _ _ _
  | api call => exact apiBody_follows ht

theorem body_follows {q : Proc} {x : Running Karo} (h : Pre q x w) :
    (body σ x.task q).Follows (outline σ) [] x (Exit σ) w := by
  obtain ⟨t, p, a⟩ := x
  cases q with
  | run j =>
    obtain ⟨ht, rfl, ha⟩ := h
    exact jobBody_follows ht ha
  | readLoop c =>
    obtain ⟨ht, rfl⟩ := h
    exact readRound_follows ht
  | drain c s K phase ep =>
    obtain ⟨ht, rfl, hd⟩ := h
    refine drainRound_follows hd ?_ ?_ ?_
    · exact fun b w' hl => ⟨hl.proc _ _ ht, rfl⟩
    · exact fun b w' hl hd' => ⟨hl.proc _ _ ht, rfl, hd'⟩
    · exact fun e b w' _ => exit_error
  | heartbeatRound =>
    obtain ⟨ht, rfl⟩ := h
    exact heartbeatRound_follows ht
  | pingRound n =>
    obtain ⟨ht, rfl⟩ := h
    exact pingRound_follows ht
  | neverRun =>
    obtain rfl := h
    exact exit_error

theorem createdProc_some {q : Proc} (h : w.createdProc t = some q) :
    q = .neverRun ∨ ∃ y, w.tasks.get? t = some y ∧ y.status = .created ∧ y.cancelled = false ∧
      q = .run y.proc := by
  unfold World.createdProc at h
  split at h
  · rename_i y hy
    split at h
    · rename_i hs
      obtain rfl := Option.some.inj h
      cases hc : y.cancelled
      · exact .inr ⟨y, hy, hs, hc, by simp⟩
      · exact .inl (by simp)
    · cases h
  · cases h

/-- **The client follows its outline.** -/
theorem outlined : Outlined (outline σ) Pre where
  start := by
    intro t q w h
    rcases createdProc_some h with rfl | ⟨y, hy, -, -, rfl⟩
    · exact rfl
    · have ht : w.tasks.procOf t = some y.proc := by rw [Tasks.procOf, hy, Option.map_some]
      exact ⟨Tasks.procOf_begin.trans ht, rfl, .inl rfl⟩
  body := body_follows
  refl := Later.refl
  trans := Later.trans
  step := outline_step_later
  enter := Enters.later
  begun := begin_later
  resume := resume_later
  finish := finish_later
  env := env_later

end KaroX2
