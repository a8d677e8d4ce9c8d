/-
KaroX2/Ambient.lean

The code under a protocol that is not about it.

A protocol is `Ambient` at a stage if it allows all updates that only drift, the
installation of a client, and all suspensions but two: the wait for the connection, and
the send of a velocity command.  Under such a protocol the code stays in the stage.  What
the public calls that count, wait or return do besides, and the readers at the end of a
stream (`HangsUp`), is an argument of the lemmas about them.
-/
import KaroX2.Drift
import KaroX2.Closing

namespace KaroX2

open Coop

/-! ### Ambient protocols -/

/-- The sequence number of a velocity command. -/
def SdkCommand.velocity? (cmd : SdkCommand) : Option Nat :=
  match cmd.payload with
  | .rpc _ _ (.cmdVel _ _ _ sequence _) => some sequence
  | _ => none

/-- The sequence number of the velocity command that is sent. -/
def Op.velocity? : Op → Option Nat
  | .wsSend _ cmd => cmd.velocity?
  | _ => none

/-- The operation is the wait of `wait_until_ready`. -/
def Op.watches : Op → Bool
  | .stateChanged _ => true
  | _ => false

variable {γ : Type}

/-- The protocol allows at the stage what nearly all code does. -/
structure Ambient (P : Protocol Karo γ) (g : γ) : Prop where
  drift : ∀ {w w'}, Drift w w' → P.update g w w' g
  install : ∀ w, P.update g w (World.install w) g
  wait : ∀ {op : Op} {w}, op.velocity? = none → op.watches = false → P.wait g op w g

/-- The protocol allows what the reader of the client does at the end of the stream. -/
structure HangsUp (P : Protocol Karo γ) (g : γ) (c : WsId) : Prop where
  ended : ∀ how w, P.update g w (World.push (.streamEnded c how) w) g
  latched : ∀ w, P.update g w (World.setClient c (fun k => { k with closed := true }) w) g
  fired : ∀ w, P.update g w (World.push (.onClose c) w) g

/-- The task goes on with no public call. -/
def Flow.ambient : Flow Karo → Prop
  | .next (.run (.api _)) => False
  | _ => True

/-- The client whose reader the task is. -/
def Proc.hears : Proc → Option WsId
  | .run (.reader c) | .readLoop c | .drain c _ _ _ _ => some c
  | _ => none

/-- The task goes on with no public call, and as the reader of the same client. -/
def Flow.stays (o : Option WsId) : Flow Karo → Prop
  | .next p => Flow.ambient (.next p) ∧ p.hears = o
  | _ => True

theorem Flow.ambient_of_stays {o : Option WsId} {f : Flow Karo} (h : Flow.stays o f) : Flow.ambient f := by
  unfold Flow.stays at h
  split at h
  · exact h.1
  · unfold Flow.ambient
    split
    · rename_i hne
      exact hne _ rfl
    · trivial

theorem Flow.call_of_not_ambient {p : Proc} (h : ¬Flow.ambient (.next p)) :
    ∃ call, p = .run (.api call) := by
  unfold Flow.ambient at h
  split at h
  · rename_i call heq
    exact ⟨call, by simpa using heq⟩
  · exact absurd trivial h

/-- The call neither counts nor waits for the connection. -/
def ApiCall.plain : ApiCall → Bool
  | .waitUntilReady _ | .cmdVel _ _ _ | .emergencyStop _ _ | .ping => false
  | _ => true

/-- What `wait_until_ready` has returned. -/
def ApiResult.readiness? : ApiResult → Option Bool
  | .ready b => some b
  | _ => none

/-! ### Commands that are not about the velocity -/

section Commands

variable {σ : Setup} {rid : Nat} {cmd : SdkCommand}

theorem encodeSubscribe_velocity {topic : String} {hz : PyFloat} {since : Nat} {limit : Int}
    (h : encodeSubscribe rid topic hz since limit = .ok cmd) : cmd.velocity? = none := by
  unfold encodeSubscribe at h
  split at h
  · split at h
    · cases h
      rfl
    · cases h
  · cases h

theorem handshakeCommand_velocity (h : handshakeCommand σ rid = .ok cmd) :
    cmd.velocity? = none := by
  have hcert : ∀ v i der, encodeHandshakeCert rid v i der = .ok cmd → cmd.velocity? = none := by
    intro v i der h
    simp only [encodeHandshakeCert, utf8] at h
    split at h <;> split at h <;> first | cases h; rfl | cases h
  have htoken : ∀ v i tok, encodeHandshakeToken rid v i tok = .ok cmd → cmd.velocity? = none := by
    intro v i tok h
    simp only [encodeHandshakeToken, utf8] at h
    split at h <;> split at h <;> first | cases h; rfl | cases h
  unfold handshakeCommand at h
  dsimp only at h
  generalize (if σ.opts.sdkVersion.truthy then σ.opts.sdkVersion else defaultSdkVersion) = v at h
  split at h
  · split at h
    · exact hcert _ _ _ h
    · cases h
  · exact htoken _ _ _ h

theorem encodeEmergencyStop_velocity {engage : Bool} {reason : PyStr}
    (h : encodeEmergencyStop rid engage reason = .ok cmd) : cmd.velocity? = none := by
  simp only [encodeEmergencyStop, utf8] at h
  split at h
  · split at h
    · cases h
      rfl
    · cases h
  · cases h
    rfl

theorem encodeTaskCommand_velocity {method : String} {taskId : PyStr}
    (h : encodeTaskCommand method rid taskId = .ok cmd) : cmd.velocity? = none := by
  simp only [encodeTaskCommand, utf8] at h
  split at h
  · cases h
    rfl
  · cases h

theorem encodeCreateNavTaskMarker_velocity {m : PyStr}
    (h : encodeCreateNavTaskMarker rid m = .ok cmd) : cmd.velocity? = none := by
  simp only [encodeCreateNavTaskMarker, utf8] at h
  split at h
  · cases h
    rfl
  · cases h

end Commands

/-! ### Results that carry an update -/

/-- How `settleAck` goes on only drifts. -/
def AckEnd.Drifts : AckEnd → Prop
  | .finished last => ∀ w, Drift w (last w)
  | .drain _ => True

/-- A phase of `_establish` ends with an update that only drifts. -/
def Attempt.Drifts {α : Type} : Attempt α → Prop
  | .ended last => ∀ w, Drift w (last w)
  | .goesOn _ => True

/-- The result of a call with its last update. -/
abbrev Drifting {β : Type} (x : β × (World → World)) : Prop := ∀ w, Drift w (x.2 w)

/-! ### Pieces of code that any protocol allows -/

section Steady

variable {P : Protocol Karo γ} {g : γ} {c : WsId} {me : TaskId}

theorem readStart_steady : Coro.Steady P g (Flow.stays (some c)) (readStart c) := by
  refine .read fun w => .pure ?_
  split
  · exact ⟨trivial, rfl⟩
  · trivial

theorem untilCancelled_steady {d : M (Flow Karo)} {o : Option WsId}
    (hd : Coro.Steady P g (Flow.stays o) d) :
    Coro.Steady P g (Flow.stays o) (untilCancelled d) := by
  refine hd.within.bind fun r hr => ?_
  split
  · exact .pure (hr _ rfl)
  · exact .pure trivial
  · exact .raise

theorem andDone_steady {d : M Unit} {o : Option WsId} (hd : Coro.Steady P g (fun _ => True) d) :
    Coro.Steady P g (Flow.stays o) (andDone d) := hd.andThen fun _ => .pure trivial

/-- A round of `wait_until_ready`, under a protocol that does not look at the event. -/
theorem waitRound_steady {timeout : Option ℚ} (hevent : ∀ e w, P.update g w { w with stateEvt := e } g)
    (hwait : ∀ w, P.wait g (.stateChanged timeout) w g) :
    Coro.Steady P g (fun _ => True) (waitRound me timeout) := by
  refine (Coro.Steady.modify fun w => hevent _ w).andThen fun _ => .read fun w => ?_
  split
  · exact .pure trivial
  · split
    · exact .pure trivial
    · refine (Coro.Steady.modify fun w => hevent _ w).andThen fun _ => ?_
      exact (Coro.Steady.wait hwait).andThen fun _ => .pure trivial

end Steady

namespace Ambient

variable {P : Protocol Karo γ} {g : γ} {σ : Setup} {me : TaskId} {α β : Type} {c : WsId}
  {rid : Nat} {s : SlotId} {cmd : SdkCommand} (A : Ambient P g)

include A

/-! ### Transport -/

theorem refl (w : World) : P.update g w w g := A.drift (.refl w)

theorem modify {f : World → World} (h : ∀ w, Drift w (f w)) :
    Coro.Steady P g (fun _ => True) (Coro.modify (S := Karo) f) := .modify fun w => A.drift (h w)

theorem update {f : World → α × World} (h : ∀ w, Drift w (f w).2) :
    Coro.Steady P g (fun _ => True) (Coro.update (S := Karo) f) := .update fun w => A.drift (h w)

theorem modify_then {Q : α → Prop} {f : World → World} {k : M α}
    (h : ∀ w, Drift w (f w)) (hk : Coro.Steady P g Q k) :
    Coro.Steady P g Q (Coro.modify (S := Karo) f >>= fun _ => k) := (A.modify h).andThen fun _ => hk

theorem update_then {Q : β → Prop} {f : World → α × World} {k : α → M β}
    (h : ∀ w, Drift w (f w).2) (hk : ∀ a, Coro.Steady P g Q (k a)) :
    Coro.Steady P g Q (Coro.update (S := Karo) f >>= k) := (A.update h).andThen hk

theorem suspend {op : Op} (h : op.velocity? = none) (hw : op.watches = false) :
    Coro.Steady P g (fun _ => True) (suspend op) := .wait fun _ => A.wait h hw

theorem suspend_then {Q : α → Prop} {op : Op} {k : Except Exn Reply → M α}
    (h : op.velocity? = none) (hw : op.watches = false) (hk : ∀ r, Coro.Steady P g Q (k r)) :
    Coro.Steady P g Q ((KaroX2.suspend op).attempt >>= k) :=
  (A.suspend h hw).attempt.bind fun r _ => hk r

/-- A command that is none about the velocity may be sent. -/
theorem sends (h : cmd.velocity? = none) : ∀ c w, P.wait g (.wsSend c cmd) w g :=
  fun _ _ => A.wait h rfl

theorem wsSend (h : ∀ c w, P.wait g (.wsSend c cmd) w g) :
    Coro.Steady P g (fun _ => True) (wsSend c cmd) := by
  refine .read fun w => ?_
  split
  · refine (Coro.Steady.wait (h c)).attempt.bind fun r _ => ?_
    split
    -- sent, cancelled, or failed
    · exact A.modify_then (fun _ => .same rfl) <| .pure trivial
    · exact .raise
    · exact .pure trivial
  · exact .pure trivial

theorem closable : Closable P g where
  refl := A.refl
  detach _ _ := A.drift (.client fun _ => ⟨rfl, rfl⟩)
  shut _ _ := A.drift (.client fun _ => ⟨rfl, rfl⟩)
  cancel _ _ := A.drift .cancel
  close _ _ := A.wait rfl rfl
  join _ _ := A.wait rfl rfl
  joined _ _ := A.wait rfl rfl

theorem closeWs {last : World → World} (h : ∀ w, Drift w (last w)) :
    Coro.Steady P g (fun _ => True) (closeWs me last) :=
  A.closable.closeWs (fun w => A.drift (h w)) fun _ => A.drift ((h _).after rfl)

theorem nextRid : Coro.Steady P g (fun _ => True) nextRid := A.update fun _ => .same rfl

theorem awaitResponse : Coro.Steady P g (fun _ => True) (awaitResponse c rid cmd) := by
  refine A.suspend_then rfl rfl fun r => ?_
  split
  · exact A.modify_then (fun _ => .resolve rfl) <| .raise
  · refine .read fun w => ?_
    split
    · exact A.modify_then (fun _ => .same rfl) <| .pure trivial
    · exact .raise
    · exact .raise

theorem sendRpcAndWait {method : String}
    (h : ∀ c w, P.wait g (.wsSend c cmd) w g) :
    Coro.Steady P g (fun _ => True) (sendRpcAndWait rid method cmd) := by
  refine .read fun w => .call A.refl ?_
  split
  -- there is no client: nothing is registered
  · exact .raise
  · refine A.modify_then (fun _ => .same rfl) <| (A.wsSend h).andThen fun ok => ?_
    split
    -- the command went out, or the request is withdrawn
    · exact A.awaitResponse
    · exact A.modify_then (fun _ => .same rfl) <| .raise

/-! ### The end of a connection -/

theorem onTransportCloseAfter {first : World → World} {reason : ErrorCode} {msg : String}
    (h : ∀ w, Drift w (first w)) :
    Coro.Steady P g (fun _ => True) (onTransportCloseAfter σ first me reason msg) := by
  refine .scope A.refl (fun w => A.drift (h w)) (.read fun w => ?_)
  split
  -- a terminal state is left as it is
  · exact .pure ⟨trivial, A.refl⟩
  · refine A.modify_then (fun _ => .loseTransport) ?_
    refine (A.closeWs fun _ => .same rfl).andThen fun _ => .pure ⟨trivial, fun _ => ?_⟩
    exact A.drift .retry

theorem onTransportClose {reason : ErrorCode} {msg : String} :
    Coro.Steady P g (fun _ => True) (onTransportClose σ me reason msg) :=
  A.onTransportCloseAfter fun _ => .same rfl

theorem abortToFatal {code : ErrorCode} {message : String} :
    Coro.Steady P g (fun _ => True) (abortToFatal me code message) := by
  refine .scope A.refl (fun _ => A.drift .abandon) ?_
  exact (A.closeWs fun _ => .transition).andThen fun _ => .pure ⟨trivial, A.refl⟩

theorem close : Coro.Steady P g (fun _ => True) (close me) := by
  refine .scope A.refl A.refl (.read fun w => ?_)
  split
  · exact .pure ⟨trivial, A.refl⟩
  · refine A.modify_then (fun _ => .shutDown) ?_
    exact (A.closeWs fun _ => .same rfl).andThen fun _ => .pure ⟨trivial, A.refl⟩

/-! ### Subscriptions -/

theorem sendSubscribe {since : Nat} :
    Coro.Steady P g (fun _ => True) (sendSubscribe σ me s since) := by
  refine .call A.refl (A.nextRid.andThen fun rid => .read fun w => ?_)
  dsimp only
  split
  -- the rate or the limit does not fit the message: the slot is closed
  · exact .scope A.refl (fun _ => A.drift .closeSlot) (.pure ⟨trivial, A.refl⟩)
  · rename_i cmd hcmd
    refine .andThen (.scope A.refl (fun _ => A.drift (.same rfl)) ?_) fun ok =>
      .when (A.onTransportCloseAfter fun _ => .same rfl)
    refine .andThen (.read fun w => ?_) fun ok => .pure ⟨trivial, A.refl⟩
    split
    · exact .pure trivial
    · exact A.wsSend (A.sends (encodeSubscribe_velocity hcmd))

theorem handleSubscribeAckTimeout {topic : String} :
    Coro.Steady P g (fun _ => True) (handleSubscribeAckTimeout σ me rid topic) :=
  .read fun _ => .when (A.modify_then (fun _ => .same rfl) <| A.onTransportClose)

theorem subscribeInternal {topic : String} {hz : PyFloat} :
    Coro.Steady P g (fun _ => True) (subscribeInternal σ me topic hz) := by
  refine .read fun w => .scope A.refl (fun _ => A.drift .beginSubscribe) ?_
  exact (Coro.Steady.when A.sendSubscribe).andThen fun _ =>
    .pure ⟨trivial, fun _ => A.drift (.same rfl)⟩

theorem dispatchFrame {push : DecodedTopicPush} :
    Coro.Steady P g (fun _ => True) (dispatchFrame s push) :=
  swallow_steady ((A.suspend rfl rfl).andThen fun _ => .pure trivial)

theorem handleSdkTopicPush {push : DecodedTopicPush} :
    Coro.Steady P g (fun _ => True) (handleSdkTopicPush push) := by
  refine .read fun w => ?_
  split
  · exact A.modify fun _ => .same rfl
  · split
    · exact .pure trivial
    · exact A.modify fun _ => .same rfl
    · exact A.modify fun _ => .same rfl
    · exact A.update_then (fun _ => .acceptPush) fun _ => .when A.dispatchFrame

theorem subWorkerRound : Coro.Steady P g (fun _ => True) (subWorkerRound s) := by
  refine .read fun w => ?_
  split
  · exact .pure trivial
  · refine A.suspend_then rfl rfl fun r => ?_
    split
    · exact .pure trivial
    · refine A.update_then (fun _ => .popDispatch) fun push => .read fun w => ?_
      split
      · exact .pure trivial
      · split
        · exact .pure trivial
        · refine A.modify_then (fun _ => .same rfl) <| A.dispatchFrame.attempt.bind ?_
          intro r _
          split <;> exact .pure trivial

theorem ackFailed {topic : String} {phase : Bool} {resp : DecodedResponse} :
    Coro.Steady P g AckEnd.Drifts (ackFailed σ me topic s phase resp) := by
  unfold KaroX2.ackFailed
  split
  · exact A.abortToFatal.andThen fun _ => .pure fun _ => .same rfl
  · split
    · exact A.onTransportClose.andThen fun _ => .pure fun _ => .same rfl
    · exact .pure fun _ => .closeSlot
  · exact .pure fun _ => Drift.closeSlot.trans .maybeFinishReconnect

theorem settleAck {topic : String} {phase : Bool} {resp : DecodedResponse} :
    Coro.Steady P g AckEnd.Drifts (settleAck σ me topic s phase resp) := by
  have hclose : ∀ code reason w,
      Drift w (World.closeAndFinish me topic s code reason phase w) :=
    fun _ _ _ => Drift.closeSlot.trans .maybeFinishReconnect
  refine .read fun w => ?_
  split
  -- a failed response, telemetry, events
  · exact A.ackFailed
  · split
    · split
      · exact .pure (hclose _ _)
      · exact A.modify_then (fun _ => .same rfl) <| .pure trivial
    · split
      -- a rejected event stream subscribes again from the beginning, but once only
      · split
        · split
          · exact .pure (hclose _ _)
          · refine A.modify_then (fun _ => .same rfl) ?_
            exact A.sendSubscribe.andThen fun _ => .pure fun _ => .same rfl
        · exact .pure (hclose _ _)
      · exact A.modify_then (fun _ => .same rfl) <| .pure trivial

theorem handleSubscribeAck {resp : DecodedResponse} :
    Coro.Steady P g (fun _ => True) (handleSubscribeAck σ me resp) := by
  refine .read fun w => ?_
  split
  -- the acknowledgement of an unknown request, and one that its slot does not wait for
  · exact A.modify_then (fun _ => .same rfl) <| .pure trivial
  · split
    · exact A.modify_then (fun _ => .takeAck) <| .pure trivial
    · split
      · exact A.modify_then (fun _ => .takeAck) <| .pure trivial
      -- the slot takes the answer, and its phase is left whatever `settleAck` does
      · have htaken : ∀ s w, Drift w (World.beginAck s resp w) :=
          fun _ _ => Drift.takeAck.trans (.same rfl)
        refine (Coro.Steady.enterBy fun w => A.drift (htaken _ w)).andThen fun _ =>
          A.settleAck.within.bind fun r hr => ?_
        · split
          · rename_i f
            refine (Coro.Steady.leaveBy fun w => ?_).andThen fun _ => .pure trivial
            exact A.drift (hr _ rfl w)
          · exact .pure trivial
          · exact (Coro.Steady.leaveBy A.refl).andThen fun _ => .raise

/-! ### Acknowledgements and unsubscribing -/

theorem drainRound {K ep : Nat} {phase : Bool} :
    Coro.Steady P g (Flow.stays (some c)) (drainRound c s K phase ep) := by
  refine .read fun w => ?_
  split
  · refine (Coro.Steady.leaveBy fun w => A.drift ?_).andThen fun _ => .pure ⟨trivial, rfl⟩
    exact Drift.maybeFinishReconnect.after rfl
  · refine .bind (.within (A.update_then (fun _ => .drainFront) fun _ =>
      .when A.dispatchFrame)) fun r _ => ?_
    split
    · exact .pure ⟨trivial, rfl⟩
    · exact (Coro.Steady.leaveBy A.refl).andThen fun _ => .raise

theorem scope {l : Label} {d : M (α × (World → World))} (hd : Coro.Steady P g Drifting d) :
    Coro.Steady P g (fun _ => True) (Coro.scope l id d) :=
  .scope A.refl A.refl (hd.mono fun _ hx => ⟨trivial, fun w => A.drift (hx w)⟩)

theorem unsubscribeSlot {topic : String} {syncWait : Bool} :
    Coro.Steady P g Drifting (unsubscribeSlot me topic s syncWait) := by
  have hgone : Coro.Steady P g Drifting (pure (KaroX2.unsubscribeSlot.disconnected me topic s syncWait)) :=
    .pure fun _ => .closeSlot
  have hdropped (w : World) : Drift w (World.warnDropped topic
      (w.closeSlot me topic s .ok "Unsubscribe()")) := Drift.closeSlot.trans (.same rfl)
  refine .read fun w => ?_
  split
  · exact hgone
  · split
    · refine A.nextRid.andThen fun rid => ?_
      split
      · refine (A.sendRpcAndWait (A.sends rfl)).attempt.bind fun r _ => ?_
        split
        · exact A.modify_then (fun _ => .same rfl) (.pure fun _ => .closeSlot)
        · exact .pure fun _ => .closeSlot
        · exact .pure fun _ => .closeSlot
        · exact .raise
      · refine (A.wsSend (A.sends rfl)).andThen fun ok => ?_
        dsimp only
        split
        · exact A.modify_then (fun _ => .same rfl) (.pure hdropped)
        · exact .pure hdropped
    · exact hgone

theorem unsubscribeRequest {h : SlotId} {syncWait : Bool} :
    Coro.Steady P g (fun _ => True) (unsubscribeRequest me h syncWait) := by
  refine .call A.refl (.read fun w => ?_)
  dsimp only
  split
  · exact .pure trivial
  · exact A.scope A.unsubscribeSlot

theorem unsubscribe {h : SlotId} : Coro.Steady P g (fun _ => True) (unsubscribe me h) :=
  A.modify_then (fun _ => .same rfl) A.unsubscribeRequest

/-! ### Sessions -/

theorem become_then {l m : Label} {f : World → World} {Q : α → Prop} {k : M α}
    (h : ∀ w, Drift w (f w)) (hk : Coro.Steady P g Q k) :
    Coro.Steady P g Q (Coro.become (S := Karo) l m f >>= fun _ => k) :=
  (Coro.Steady.become fun w => A.drift (h w)).andThen fun _ => hk

theorem wsConnect : Coro.Steady P g (fun _ => True) (wsConnect σ) := by
  unfold KaroX2.wsConnect
  split
  · exact .raise
  · refine A.suspend_then rfl rfl fun r => ?_
    split
    · exact .pure trivial
    all_goals exact .raise

theorem dial : Coro.Steady P g Attempt.Drifts (dial σ me) := by
  refine A.wsConnect.attempt.bind fun r _ => ?_
  unfold dialed
  split
  · exact .pure trivial
  · split
    · exact A.abortToFatal.andThen fun _ => .pure fun _ => .same rfl
    · exact .pure fun _ => Drift.transientFailure.trans .retry
  · exact .raise

theorem retryLater {reason message : String} {code : ErrorCode} :
    Coro.Steady P g Attempt.Drifts (retryLater σ me reason code message) := by
  refine A.modify_then (fun _ => .transientFailure) ?_
  exact (A.closeWs fun _ => .same rfl).andThen fun _ => .pure fun _ => .retry

theorem handshake : Coro.Steady P g Attempt.Drifts (handshake σ me) := by
  refine A.nextRid.andThen fun rid => ?_
  split
  · exact A.abortToFatal.andThen fun _ => .pure fun _ => .same rfl
  · exact .raise
  · rename_i cmd hcmd
    refine (A.sendRpcAndWait (A.sends (handshakeCommand_velocity hcmd))).attempt.bind fun r _ => ?_
    split
    · unfold handshakeAnswered
      split
      · exact .pure trivial
      · split
        · exact A.abortToFatal.andThen fun _ => .pure fun _ => .same rfl
        · exact A.retryLater
    · exact A.retryLater
    · split
      · exact A.abortToFatal.andThen fun _ => .pure fun _ => .same rfl
      · exact A.retryLater
    · exact .raise

theorem restoreSlot {isR : Bool} : Coro.Steady P g (fun _ => True) (restoreSlot σ me isR s) := by
  unfold KaroX2.restoreSlot
  split
  · exact A.modify_then (fun _ => .same rfl) (.read fun w => A.sendSubscribe)
  · exact .read fun w => .when A.sendSubscribe

theorem attempt {isR : Bool} {ep : Nat} : Coro.Steady P g (fun _ => True) (attempt σ me isR ep) := by
  -- each phase raises, ends the attempt, or goes on to the next one
  refine A.dial.within.bind fun r hr => ?_
  split
  · exact (Coro.Steady.leaveBy A.refl).andThen fun _ => .raise
  · exact .leaveBy fun w => A.drift (hr _ rfl w)
  · refine .read fun w => ?_
    refine (Coro.Steady.become A.install).andThen fun _ => A.handshake.within.bind fun r hr => ?_
    split
    · exact (Coro.Steady.leaveBy A.refl).andThen fun _ => .raise
    · exact .leaveBy fun w => A.drift (hr _ rfl w)
    · refine .read fun w => A.become_then (fun _ => .beginSession) ?_
      -- the restoring loop has one round for each slot, and the replay of the stop at its end
      exact .rounds A.refl (fun w => A.drift .restored) (fun _ => A.restoreSlot) _

theorem establish : Coro.Steady P g (fun _ => True) (establish σ me) :=
  .read fun _ => .when <| (Coro.Steady.enterBy fun _ => A.drift .transition).andThen
    fun _ => A.attempt

theorem doReconnect {n ms : Nat} : Coro.Steady P g (fun _ => True) (doReconnect σ me n ms) := by
  refine (Coro.Steady.enterBy A.refl).andThen fun _ => (A.suspend rfl rfl).within.bind fun r _ => ?_
  split
  · exact .leaveBy A.refl
  · refine .read fun w => ?_
    split
    · exact A.become_then (fun _ => Drift.transition.after rfl) A.attempt
    · exact .leaveBy A.refl

theorem estopReplay : Coro.Steady P g (fun _ => True) (estopReplay σ me) := by
  have hfail : ∀ code msg, Coro.Steady P g Drifting
      (KaroX2.onTransportCloseAfter σ World.clearEstopPending me code msg >>= fun _ =>
        pure ((), id)) :=
    fun _ _ => .andThen (A.onTransportCloseAfter fun _ => .same rfl) fun _ => .pure fun _ => .same rfl
  refine .read fun w => A.scope (A.nextRid.andThen fun rid => ?_)
  split
  · exact .raise
  · rename_i cmd hcmd
    refine (A.sendRpcAndWait (A.sends (encodeEmergencyStop_velocity hcmd))).attempt.bind fun r _ => ?_
    split
    -- answered well or not, timed out, failed, cancelled
    · split
      · exact .pure fun w => .estopReplayed
      · exact hfail _ _
    · exact hfail _ _
    · exact hfail _ _
    · exact .raise

/-! ### The reader -/

theorem onInboundMessage {response : Option DecodedResponse}
    {push : Option DecodedTopicPush} :
    Coro.Steady P g (fun _ => True) (onInboundMessage σ me response push) := by
  refine A.modify_then (fun _ => .same rfl) ?_
  split
  -- a response acknowledges a subscription or answers a request
  · unfold handleSdkResponse
    split
    · exact A.handleSubscribeAck
    · exact A.modify_then (fun _ => .handleRpcResponse) (.pure trivial)
  · exact A.handleSdkTopicPush.andThen fun _ => .pure trivial
  · exact A.modify_then (fun _ => .same rfl) (.pure trivial)

theorem fireClose (h : HangsUp P g c) {reason : ErrorCode} {msg : String} :
    Coro.Steady P g (fun _ => True) (fireClose σ me c reason msg) := by
  refine .read fun _ => .when ((Coro.Steady.modify h.latched).andThen fun _ => .when ?_)
  exact (Coro.Steady.modify h.fired).andThen fun _ => swallow_steady A.onTransportClose

theorem readMessage {m : Inbound} : Coro.Steady P g (Flow.stays (some c)) (readMessage σ me c m) := by
  unfold KaroX2.readMessage
  split
  · exact .pure ⟨trivial, rfl⟩
  · refine .read fun w => ?_
    split
    · refine A.onInboundMessage.attempt.bind fun r _ => ?_
      split
      · exact .pure ⟨trivial, rfl⟩
      · exact .raise
      · exact .pure ⟨trivial, rfl⟩
    · exact .pure ⟨trivial, rfl⟩

theorem readRound (h : HangsUp P g c) : Coro.Steady P g (Flow.stays (some c)) (readRound σ me c) := by
  have hends : ∀ e, Coro.Steady P g (Flow.stays (some c)) (streamEnds σ me c e) := by
    intro e
    have hfire {reason : ErrorCode} {msg : String} : Coro.Steady P g (Flow.stays (some c))
        (KaroX2.fireClose σ me c reason msg >>= fun _ => pure .done) :=
      (A.fireClose h).andThen fun _ => .pure trivial
    unfold streamEnds
    split
    · exact (Coro.Steady.modify (h.ended _)).andThen fun _ => .pure trivial
    · exact .raise
    · exact (Coro.Steady.modify (h.ended _)).andThen fun _ => hfire
    · exact (Coro.Steady.modify (h.ended _)).andThen fun _ => hfire
  refine A.suspend_then rfl rfl fun r => ?_
  split
  -- a message, a clean end of the stream, or an exception
  · exact A.readMessage
  · exact hends none
  · exact hends _

/-! ### The heartbeat -/

theorem heartbeatRound : Coro.Steady P g (Flow.stays none) (heartbeatRound σ) := by
  refine untilCancelled_steady (.read fun w => ?_)
  dsimp only
  split
  · exact .pure trivial
  · split
    · refine A.suspend_then rfl rfl fun r => ?_
      split
      · exact A.modify_then (fun _ => .same rfl) (.pure ⟨trivial, rfl⟩)
      · exact .pure ⟨trivial, rfl⟩
      · exact .raise
    · split
      · exact .pure trivial
      · split
        · exact .pure ⟨trivial, rfl⟩
        · exact .pure trivial

theorem sendPing {left : Nat} : Coro.Steady P g (Flow.stays none) (sendPing σ me c left) := by
  refine A.nextRid.andThen fun rid => .read fun w => A.modify_then (fun _ => .same rfl) ?_
  refine (A.wsSend (A.sends rfl)).andThen fun ok => ?_
  split
  · refine A.suspend_then rfl rfl fun r => ?_
    split
    · exact A.modify_then (fun _ => .same rfl) (.pure ⟨trivial, rfl⟩)
    · refine A.modify_then (fun _ => .same rfl) (.read fun w => ?_)
      split
      · exact A.modify_then (fun _ => .same rfl) (A.onTransportClose.andThen fun _ => .pure ⟨trivial, rfl⟩)
      · exact .pure ⟨trivial, rfl⟩
    · exact .raise
  · exact A.modify_then (fun _ => .same rfl) (A.onTransportClose.andThen fun _ => .pure ⟨trivial, rfl⟩)

theorem pingRound {left : Nat} : Coro.Steady P g (Flow.stays none) (pingRound σ me left) := by
  cases left with
  | zero => exact .pure ⟨trivial, rfl⟩
  | succ left =>
    refine untilCancelled_steady (.read fun w => ?_)
    split
    · exact .pure ⟨trivial, rfl⟩
    · split
      · exact A.sendPing
      · exact .pure ⟨trivial, rfl⟩

/-! ### Calls -/

theorem taskCommand {method : String} {taskId : PyStr} : Coro.Steady P g (fun _ => True)
    (taskCommand method (encodeTaskCommand method) taskId) := by
  refine .read fun w => ?_
  split
  · exact .pure trivial
  · refine A.nextRid.andThen fun rid => ?_
    split
    · exact .raise
    · rename_i cmd hcmd
      have hsends := A.sends (encodeTaskCommand_velocity hcmd)
      refine (A.sendRpcAndWait hsends).attempt.bind fun r _ => ?_
      split
      · exact .pure trivial
      · exact .pure trivial
      · exact .pure trivial
      · exact .raise

theorem createNavTask {encode : Nat → Except Exn SdkCommand}
    (h : ∀ rid cmd, encode rid = .ok cmd → cmd.velocity? = none) :
    Coro.Steady P g (fun _ => True) (createNavTask encode) := by
  refine .read fun w => ?_
  split
  · exact .pure trivial
  · refine A.nextRid.andThen fun rid => ?_
    split
    · exact .raise
    · rename_i cmd hcmd
      refine (A.sendRpcAndWait (A.sends (h rid cmd hcmd))).attempt.bind fun r _ => ?_
      split
      · exact .pure trivial
      · exact .pure trivial
      · exact .pure trivial
      · exact .raise

/-- `cmd_vel`, under a protocol that allows its updates and its frame as well. -/
theorem cmdVel (hstat : ∀ f w, P.update g w (World.cmdVelStat f w) g)
    (hacquire : ∀ w, P.update g w (World.acquire w).2 g)
    (hseq : ∀ w, P.update g w (World.nextSeq w).2 g)
    (hsend : ∀ c cmd w, P.wait g (.wsSend c cmd) w g) {vx vy wz : PyFloat} :
    Coro.Steady P g (fun _ => True) (cmdVel vx vy wz) := by
  have hfail : ∀ code msg, Coro.Steady P g (fun _ => True) (cmdVelFailed code msg) :=
    fun _ _ => (Coro.Steady.modify (hstat _)).andThen fun _ => .pure trivial
  refine .call A.refl (.read fun w => ?_)
  split
  -- refused outside `READY`, and by the rate limit
  · exact hfail _ _
  · refine (Coro.Steady.update hacquire).andThen fun granted => ?_
    split
    · exact hfail _ _
    · refine (Coro.Steady.modify (hstat _)).andThen fun _ => A.nextRid.andThen fun rid => ?_
      refine (Coro.Steady.update hseq).andThen fun seq => .read fun w => ?_
      refine (A.sendRpcAndWait fun c w => hsend c _ w).attempt.bind fun r _ => ?_
      split
      · refine .read fun w => ?_
        dsimp only
        split
        · exact (Coro.Steady.modify (hstat _)).andThen fun _ => .pure trivial
        · exact .pure trivial
      · exact hfail _ _
      · exact hfail _ _
      · exact .raise

/-- `emergency_stop_rpc`, under a protocol that allows its statistics as well. -/
theorem emergencyStop (hstat : ∀ f w, P.update g w (World.emergencyStopStat f w) g)
    {engage : Bool} {reason : PyStr} :
    Coro.Steady P g (fun _ => True) (emergencyStop engage reason) := by
  have hfail : ∀ code msg, Coro.Steady P g (fun _ => True) (emergencyStopFailed code msg) :=
    fun _ _ => (Coro.Steady.modify (hstat _)).andThen fun _ => .pure trivial
  refine A.scope (.read fun w => ?_)
  split
  · exact .pure fun w => .refl w
  · refine (Coro.Steady.modify (hstat _)).andThen fun _ => A.nextRid.andThen fun rid => ?_
    split
    · exact .raise
    · rename_i cmd hcmd
      have hsends := A.sends (encodeEmergencyStop_velocity hcmd)
      refine (A.sendRpcAndWait hsends).attempt.bind fun r _ => ?_
      split
      · unfold emergencyStopAnswered
        split
        · exact (hfail _ _).andThen fun _ => .pure fun w => .refl w
        · exact .pure fun _ => .same rfl
      · exact (hfail _ _).andThen fun _ => .pure fun w => .refl w
      · exact (hfail _ _).andThen fun _ => .pure fun w => .refl w
      · exact .raise

/-- `ping`, under a protocol that allows its statistics as well. -/
theorem ping (hstat : ∀ f w, P.update g w (World.pingStat f w) g) :
    Coro.Steady P g (fun _ => True) ping := by
  refine .call A.refl (.read fun w => ?_)
  split
  · exact .pure trivial
  · refine (Coro.Steady.modify (hstat _)).andThen fun _ => A.nextRid.andThen fun rid => ?_
    refine .read fun w => (A.sendRpcAndWait (A.sends rfl)).attempt.bind fun r _ => ?_
    split
    · exact .read fun w => .pure trivial
    · exact (Coro.Steady.modify (hstat _)).andThen fun _ => .pure trivial
    · exact (Coro.Steady.modify (hstat _)).andThen fun _ => .pure trivial
    · exact .raise

/-! ### Bodies -/

/-- The tasks that are none of public calls. -/
theorem body {p : Proc} (h : Flow.ambient (.next p))
    (hread : ∀ c, p = .readLoop c → HangsUp P g c) :
    Coro.Steady P g (Flow.stays p.hears) (body σ me p) := by
  cases p with
  | run job =>
    cases job with
    | establishInitial => exact andDone_steady A.establish
    | reader c => exact readStart_steady
    | heartbeat => exact (Coro.Steady.enterBy A.refl).andThen fun _ => .pure ⟨trivial, rfl⟩
    | subWorker s =>
      refine A.subWorkerRound.andThen fun go => ?_
      split
      · exact .pure ⟨trivial, rfl⟩
      · exact .pure trivial
    | doReconnect n ms => exact andDone_steady A.doReconnect
    | estopReplay => exact andDone_steady A.estopReplay
    | subscribeAckTimeout rid topic => exact andDone_steady A.handleSubscribeAckTimeout
    | abortToFatal code message => exact andDone_steady A.abortToFatal
    | unsubscribeDropped u => exact andDone_steady (A.unsubscribeRequest.andThen fun _ => .pure trivial)
    | api call => exact absurd h id
  | readLoop c => exact A.readRound (hread c rfl)
  | drain c s K phase ep => exact A.drainRound
  | heartbeatRound => exact A.heartbeatRound
  | pingRound left => exact A.pingRound
  -- a task that was cancelled before its first step
  | neverRun => exact .raise

/-- The other calls, with a rule for how a call returns. -/
theorem apiBody {Q : Flow Karo → Prop} {call : ApiCall} (h : call.plain = true)
    (hreturn : ∀ d : M ApiResult, Coro.Steady P g (fun r => r.readiness? = none) d →
      Coro.Steady P g Q (returning me d)) : Coro.Steady P g Q (apiBody σ me call) := by
  have hmap {β : Type} {f : β → ApiResult} {d : M β} (hf : ∀ b, (f b).readiness? = none)
      (hd : Coro.Steady P g (fun _ => True) d) :
      Coro.Steady P g (fun r => r.readiness? = none) (f <$> d) :=
    (hd.mono fun b _ => hf b).map
  cases call with
  | connect =>
    refine hreturn _ (A.modify_then (fun w => ?_) (.pure rfl))
    unfold World.connect
    split
    · exact .refl w
    · exact (Drift.spawn (j := .establishInitial) (by simp)).trans (.same rfl)
  | close => exact hreturn _ (A.close.andThen fun _ => .pure rfl)
  | subscribe topic hz => exact hreturn _ (hmap (fun _ => rfl) A.subscribeInternal)
  | unsubscribe h => exact hreturn _ (hmap (fun _ => rfl) A.unsubscribe)
  | createNavTaskMarker m =>
    refine hreturn _ (hmap (fun _ => rfl) (A.createNavTask fun rid cmd hcmd => ?_))
    exact encodeCreateNavTaskMarker_velocity hcmd
  | createNavTaskPose x y theta =>
    refine hreturn _ (hmap (fun _ => rfl) (A.createNavTask fun rid cmd hcmd => ?_))
    cases hcmd
    rfl
  | cancelTask i | pauseTask i | resumeTask i =>
    exact hreturn _ (hmap (fun _ => rfl) A.taskCommand)
  | waitUntilReady | cmdVel | emergencyStop | ping => cases h

end Ambient

end KaroX2
