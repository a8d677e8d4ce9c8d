/-
KaroX2/Walk/Errands.lean

Every coroutine does the errand of its task.

The lemmas follow the modules of the client.  What a coroutine sends is an argument of
its lemma where the table of commands has to allow it; a coroutine without such an
argument sends nothing and invokes no callback.
-/
import KaroX2.Errands
import KaroX2.Ambient

namespace KaroX2

open Coop

namespace Errands

variable {σ : Setup} {w : World} {me : TaskId} {j : Job} {α β : Type} {c : WsId} {rid : Nat}
  {s : SlotId} {cmd : SdkCommand}

/-! ### Rules -/

theorem moded {g : Errand} {w w' : World} (h : Moded σ w w') : (errands σ).update g w w' g :=
  .inl ⟨rfl, h⟩

theorem refl {g : Errand} (w : World) : (errands σ).update g w w g := moded (.refl w)

theorem modify {f : World → World} (h : ∀ w, Moded σ w (f w)) :
    Coro.Steady (errands σ) ⟨j, none⟩ (fun _ => True) (Coro.modify (S := Karo) f) :=
  .modify fun w => moded (h w)

theorem update {f : World → α × World} (h : ∀ w, Moded σ w (f w).2) :
    Coro.Steady (errands σ) ⟨j, none⟩ (fun _ => True) (Coro.update (S := Karo) f) :=
  .update fun w => moded (h w)

theorem modify_then {Q : α → Prop} {f : World → World} {k : M α} (h : ∀ w, Moded σ w (f w))
    (hk : Coro.Steady (errands σ) ⟨j, none⟩ Q k) :
    Coro.Steady (errands σ) ⟨j, none⟩ Q (Coro.modify (S := Karo) f >>= fun _ => k) :=
  (modify h).andThen fun _ => hk

theorem update_then {Q : β → Prop} {f : World → α × World} {k : α → M β}
    (h : ∀ w, Moded σ w (f w).2) (hk : ∀ a, Coro.Steady (errands σ) ⟨j, none⟩ Q (k a)) :
    Coro.Steady (errands σ) ⟨j, none⟩ Q (Coro.update (S := Karo) f >>= k) := (update h).andThen hk

theorem suspend {op : Op} (h : ∀ w, j.may op w) :
    Coro.Steady (errands σ) ⟨j, none⟩ (fun _ => True) (suspend op) :=
  .wait fun w => ⟨rfl, rfl, h w⟩

theorem suspend_then {Q : α → Prop} {op : Op} {k : Except Exn Reply → M α} (h : ∀ w, j.may op w)
    (hk : ∀ r, Coro.Steady (errands σ) ⟨j, none⟩ Q (k r)) :
    Coro.Steady (errands σ) ⟨j, none⟩ Q ((KaroX2.suspend op).attempt >>= k) :=
  (suspend h).attempt.bind fun r _ => hk r

theorem become_then {l m : Label} {f : World → World} {Q : α → Prop} {k : M α}
    (h : ∀ w, Moded σ w (f w)) (hk : Coro.Steady (errands σ) ⟨j, none⟩ Q k) :
    Coro.Steady (errands σ) ⟨j, none⟩ Q (Coro.become (S := Karo) l m f >>= fun _ => k) :=
  (Coro.Steady.become fun w => moded (h w)).andThen fun _ => hk

/-- The result of a call with its last update. -/
abbrev Modes (σ : Setup) {β : Type} (x : β × (World → World)) : Prop := ∀ w, Moded σ w (x.2 w)

theorem scope {l : Label} {d : M (α × (World → World))}
    (hd : Coro.Steady (errands σ) ⟨j, none⟩ (Modes σ) d) :
    Coro.Steady (errands σ) ⟨j, none⟩ (fun _ => True) (Coro.scope l id d) :=
  .scope refl refl (hd.mono fun _ hx => ⟨trivial, fun w => moded (hx w)⟩)

/-! ### Transport -/

theorem wsSend (h : j.Encodes cmd) :
    Coro.Steady (errands σ) ⟨j, none⟩ (fun _ => True) (wsSend c cmd) := by
  have hmay : ∀ c w, j.may (.wsSend c cmd) w := fun _ _ => h
  refine .read fun w => ?_
  split
  · refine (suspend (hmay _)).attempt.bind fun r _ => ?_
    split
    -- sent, cancelled, or failed
    · exact modify_then (fun _ => .same rfl) (.pure trivial)
    · exact .raise
    · exact .pure trivial
  · exact .pure trivial

theorem closable : Closable (errands σ) ⟨j, none⟩ where
  refl := refl
  detach _ _ := moded (.same rfl)
  shut _ _ := moded (.same rfl)
  cancel _ _ := moded (.same rfl)
  close _ _ := ⟨rfl, rfl, trivial⟩
  join _ _ := ⟨rfl, rfl, trivial⟩
  joined _ _ := ⟨rfl, rfl, trivial⟩

theorem closeWs {last : World → World} (h : ∀ w, Moded σ w (last w)) :
    Coro.Steady (errands σ) ⟨j, none⟩ (fun _ => True) (closeWs me last) := by
  have hclear : ∀ w, Moded σ w (last w.clearWs) := by
    intro w
    have hfirst : Moded σ w w.clearWs := .same rfl
    exact hfirst.trans (h _)
  exact closable.closeWs (fun w => moded (h w)) fun w => moded (hclear w)

theorem nextRid : Coro.Steady (errands σ) ⟨j, none⟩ (fun _ => True) nextRid := update fun _ => .same rfl

/-- A response was taken, and its job has to record what it intends; or there is none. -/
def Taken (j : Job) (g : Errand) : Except Exn DecodedResponse → World → Prop
  | .ok resp, _ => g = ⟨j, j.intends resp⟩
  | .error _, _ => g = ⟨j, none⟩

theorem awaitResponse (h : j.Encodes cmd) :
    (awaitResponse c rid cmd).Abides (errands σ) (Taken j) ⟨j, none⟩ w := by
  refine Coro.abides_attempt_then.mpr ⟨⟨j, none⟩, ⟨rfl, rfl, trivial⟩, fun r v _ => ?_⟩
  rcases r with e | rep
  · exact ⟨⟨j, none⟩, moded .resolve, rfl⟩
  · refine Coro.abides_read_then.mpr ?_
    split
    · exact ⟨_, .inr (.inl ⟨c, cmd, _, rfl, h.sends, rfl, rfl⟩), rfl⟩
    · exact rfl
    · exact rfl

theorem sendRpcAndWait_taken {method : String} (h : j.Encodes cmd) :
    (sendRpcAndWait rid method cmd).Abides (errands σ) (Taken j) ⟨j, none⟩ w := by
  refine Coro.abides_read_then.mpr (Coro.abides_call (fun _ => refl) ?_)
  split
  -- there is no client: nothing is registered
  · exact rfl
  · refine Coro.abides_modify_then (moded (.same rfl)) ?_
    refine Coro.abides_bind.mpr (Coro.abides_mono ?_ (wsSend h _))
    rintro g (e | ok) v ⟨rfl, -⟩
    · exact rfl
    · cases ok with
      | true => exact awaitResponse h
      | false => exact ⟨⟨j, none⟩, moded (.same rfl), rfl⟩

/-- A request that is not about the emergency stop leaves nothing to record. -/
theorem sendRpcAndWait {method : String} (h : j.Encodes cmd)
    (hn : ∀ resp, j.intends resp = none) :
    Coro.Steady (errands σ) ⟨j, none⟩ (fun _ => True) (sendRpcAndWait rid method cmd) := by
  intro w
  refine Coro.abides_mono ?_ (sendRpcAndWait_taken h)
  rintro g (e | resp) v hg
  · exact ⟨hg, fun _ _ => trivial⟩
  · refine ⟨?_, fun _ _ => trivial⟩
    rw [← hn resp]
    exact hg

/-! ### The end of a connection -/

theorem onTransportCloseAfter {first : World → World} {reason : ErrorCode} {msg : String}
    (h : ∀ w, Moded σ w (first w)) :
    Coro.Steady (errands σ) ⟨j, none⟩ (fun _ => True) (onTransportCloseAfter σ first me reason msg) := by
  refine .scope refl (fun w => moded (h w)) (.read fun w => ?_)
  split
  -- a terminal state is left as it is
  · exact .pure ⟨trivial, refl⟩
  · refine modify_then (fun _ => .loseTransport) ?_
    refine (closeWs fun w => .refl w).andThen fun _ => .pure ⟨trivial, fun _ => ?_⟩
    exact moded .retry

theorem onTransportClose {reason : ErrorCode} {msg : String} :
    Coro.Steady (errands σ) ⟨j, none⟩ (fun _ => True) (onTransportClose σ me reason msg) :=
  onTransportCloseAfter fun w => .refl w

theorem abortToFatal {code : ErrorCode} {message : String} :
    Coro.Steady (errands σ) ⟨j, none⟩ (fun _ => True) (abortToFatal me code message) := by
  refine .scope refl (fun _ => moded .abandon) ?_
  exact (closeWs fun _ => .transition).andThen fun _ => .pure ⟨trivial, refl⟩

theorem close : Coro.Steady (errands σ) ⟨j, none⟩ (fun _ => True) (close me) := by
  refine .scope refl refl (.read fun w => ?_)
  split
  · exact .pure ⟨trivial, refl⟩
  · refine modify_then (fun _ => .shutDown) ?_
    exact (closeWs fun w => .refl w).andThen fun _ => .pure ⟨trivial, refl⟩

/-! ### Subscriptions -/

theorem encodeSubscribe_subscribes {topic : String} {hz : PyFloat} {since : Nat} {limit : Int}
    (h : encodeSubscribe rid topic hz since limit = .ok cmd) : cmd.payload.subscribes := by
  unfold encodeSubscribe at h
  split at h
  · split at h
    · cases h
      exact ⟨_, _, _, _, rfl⟩
    · cases h
  · cases h

/-- The job may subscribe. -/
abbrev Subscribing (j : Job) : Prop := ∀ p : Payload, p.subscribes → j.sends p

theorem sendSubscribe {since : Nat} (hj : Subscribing j) :
    Coro.Steady (errands σ) ⟨j, none⟩ (fun _ => True) (sendSubscribe σ me s since) := by
  refine .call refl (nextRid.andThen fun rid => .read fun w => ?_)
  dsimp only
  split
  -- the rate or the limit does not fit the message: the slot is closed
  · exact .scope refl (fun _ => moded .closeSlot) (.pure ⟨trivial, refl⟩)
  · rename_i cmd hcmd
    refine .andThen (.scope refl (fun _ => moded .registerSubscribe) ?_) fun ok =>
      .when (onTransportCloseAfter fun _ => .unregisterSubscribe)
    refine .andThen (.read fun w => ?_) fun ok => .pure ⟨trivial, refl⟩
    split
    · exact .pure trivial
    · exact wsSend ⟨hj _ (encodeSubscribe_subscribes hcmd), .subscribe hcmd⟩

theorem handleSubscribeAckTimeout {topic : String} :
    Coro.Steady (errands σ) ⟨j, none⟩ (fun _ => True) (handleSubscribeAckTimeout σ me rid topic) :=
  .read fun _ => .when (modify_then (fun _ => .same rfl) onTransportClose)

theorem subscribeInternal {topic : String} {hz : PyFloat} (hj : Subscribing j) :
    Coro.Steady (errands σ) ⟨j, none⟩ (fun _ => True) (subscribeInternal σ me topic hz) := by
  refine .read fun w => .scope refl (fun _ => moded .beginSubscribe) ?_
  exact (Coro.Steady.when (sendSubscribe hj)).andThen fun _ =>
    .pure ⟨trivial, fun _ => moded (.setting rfl rfl)⟩

/-- The callback of the slot, invoked in this world. -/
theorem dispatchFrame {push : DecodedTopicPush} (h : j.invokes w s) :
    (dispatchFrame s push).Abides (errands σ)
      (fun g r _ => g = ⟨j, none⟩ ∧ ∀ a, r = .ok a → True) ⟨j, none⟩ w := by
  have hcall : (do let _ ← KaroX2.suspend (.callback s push); pure () : M Unit).Abides (errands σ)
      (fun g _ _ => g = ⟨j, none⟩) ⟨j, none⟩ w :=
    ⟨⟨j, none⟩, ⟨rfl, rfl, h⟩, fun r _ _ => by cases r <;> rfl⟩
  refine Coro.abides_attempt_then.mpr (Coro.abides_mono ?_ hcall)
  rintro _ r v rfl
  split <;> exact ⟨rfl, fun _ _ => trivial⟩

/-- A push that is not put into the queue is accepted in the mode INLINE. -/
theorem acceptPush_inline {push : DecodedTopicPush} (h : (w.acceptPush s push).1 = true) :
    ((w.acceptPush s push).2.subs.slots s).callbackMode = .inline := by
  have hover : ∀ v : World, (v.handOver s push).1 = true →
      ((v.handOver s push).2.subs.slots s).callbackMode = .inline := by
    intro v hv
    unfold World.handOver at hv ⊢
    split
    · rename_i hm
      exact hm
    · rename_i hm
      rw [hm] at hv
      cases hv
  unfold World.acceptPush at h ⊢
  split
  · rename_i hc
    rw [hc] at h
    cases h
  · rename_i hc
    rw [hc] at h
    cases h
  · rename_i hc
    rw [hc] at h
    exact hover _ h

theorem deliverPushToSub {push : DecodedTopicPush} :
    Coro.Steady (errands σ) ⟨.reader c, none⟩ (fun _ => True) (deliverPushToSub s push) := by
  intro w
  refine Coro.abides_update_then (moded .acceptPush) ?_
  unfold Coro.when
  split
  · rename_i hgo
    exact dispatchFrame (acceptPush_inline hgo)
  · exact ⟨rfl, fun _ _ => trivial⟩

theorem handleSdkTopicPush {push : DecodedTopicPush} :
    Coro.Steady (errands σ) ⟨.reader c, none⟩ (fun _ => True) (handleSdkTopicPush push) := by
  refine .read fun w => ?_
  split
  · exact modify fun _ => .same rfl
  · split
    · exact .pure trivial
    · exact modify fun _ => .setSlot fun _ => by rfl
    · exact modify fun _ => .setSlot fun _ => by rfl
    · exact deliverPushToSub

theorem subWorkerRound :
    Coro.Steady (errands σ) ⟨.subWorker s, none⟩ (fun _ => True) (subWorkerRound s) := by
  refine .read fun w => ?_
  split
  · exact .pure trivial
  · refine suspend_then (fun _ => trivial) fun r => ?_
    split
    · exact .pure trivial
    · refine update_then (fun _ => .popDispatch) fun push => .read fun w => ?_
      split
      · exact .pure trivial
      · split
        · exact .pure trivial
        · have hframe : ∀ push, Coro.Steady (errands σ) ⟨.subWorker s, none⟩ (fun _ => True)
              (KaroX2.dispatchFrame s push) := fun _ _ => dispatchFrame rfl
          refine modify_then (fun _ => .same rfl) ((hframe _).attempt.bind ?_)
          intro r _
          split <;> exact .pure trivial

/-! ### Acknowledgements and unsubscribing -/

/-- How `settleAck` goes on leaves the callback modes alone. -/
def Settled (σ : Setup) : AckEnd → Prop
  | .finished last => ∀ w, Moded σ w (last w)
  | .drain _ => True

theorem ackFailed {topic : String} {phase : Bool} {resp : DecodedResponse} :
    Coro.Steady (errands σ) ⟨j, none⟩ (Settled σ) (ackFailed σ me topic s phase resp) := by
  unfold KaroX2.ackFailed
  split
  · exact abortToFatal.andThen fun _ => .pure fun w => .refl w
  · split
    · exact onTransportClose.andThen fun _ => .pure fun w => .refl w
    · exact .pure fun _ => .closeSlot
  · exact .pure fun _ => Moded.closeSlot.trans .maybeFinishReconnect

theorem settleAck {topic : String} {phase : Bool} {resp : DecodedResponse} (hj : Subscribing j) :
    Coro.Steady (errands σ) ⟨j, none⟩ (Settled σ) (settleAck σ me topic s phase resp) := by
  have hclose : ∀ code reason w,
      Moded σ w (World.closeAndFinish me topic s code reason phase w) :=
    fun _ _ _ => Moded.closeSlot.trans .maybeFinishReconnect
  refine .read fun w => ?_
  split
  -- a failed response, telemetry, events
  · exact ackFailed
  · split
    · split
      · exact .pure (hclose _ _)
      · exact modify_then (fun _ => .setting rfl rfl) (.pure trivial)
    · split
      -- a rejected event stream subscribes again from the beginning, but once only
      · split
        · split
          · exact .pure (hclose _ _)
          · refine modify_then (fun _ => .setSlot fun _ => by rfl) ?_
            exact (sendSubscribe hj).andThen fun _ => .pure fun w => .refl w
        · exact .pure (hclose _ _)
      · exact modify_then (fun _ => .setting rfl rfl) (.pure trivial)

theorem handleSubscribeAck {resp : DecodedResponse} (hj : Subscribing j) :
    Coro.Steady (errands σ) ⟨j, none⟩ (fun _ => True) (handleSubscribeAck σ me resp) := by
  refine .read fun w => ?_
  split
  -- the acknowledgement of an unknown request, and one that its slot does not wait for
  · exact modify_then (fun _ => .same rfl) (.pure trivial)
  · split
    · exact modify_then (fun _ => .takeAck) (.pure trivial)
    · split
      · exact modify_then (fun _ => .takeAck) (.pure trivial)
      · refine (Coro.Steady.enterBy fun w => moded .beginAck).andThen fun _ =>
          (settleAck hj).within.bind fun r hr => ?_
        split
        · refine (Coro.Steady.leaveBy fun w => ?_).andThen fun _ => .pure trivial
          exact moded (hr _ rfl w)
        · exact .pure trivial
        · exact (Coro.Steady.leaveBy refl).andThen fun _ => .raise

theorem ackDone {phase : Bool} (w : World) : Moded σ w (w.ackDone s phase) := by
  have hset : Moded σ w (w.setSlot s fun x =>
      { x with everActive := true, isReconnectResume := false }) := .setSlot fun _ => by rfl
  exact hset.trans .maybeFinishReconnect

theorem drainRound {K ep : Nat} {phase : Bool} :
    Coro.Steady (errands σ) ⟨.reader c, none⟩ (Flow.serves (.reader c))
      (drainRound c s K phase ep) := by
  refine .read fun w => ?_
  split
  · refine (Coro.Steady.leaveBy fun w => moded ?_).andThen fun _ => .pure rfl
    exact ackDone w
  · rename_i front rest _
    have hround : Coro.Steady (errands σ) ⟨.reader c, none⟩ (fun _ => True) (do
        let go ← Coro.update (World.drainFront s K front rest)
        Coro.when (go = true) (KaroX2.dispatchFrame s front)) := by
      intro v
      refine Coro.abides_update_then (moded .drainFront) ?_
      unfold Coro.when
      split
      · rename_i hgo
        refine dispatchFrame ?_
        -- a stale push is dropped, and all others are accepted
        unfold World.drainFront at hgo ⊢
        split at hgo
        · cases hgo
        · rename_i hstale
          rw [if_neg hstale]
          exact acceptPush_inline hgo
      · exact ⟨rfl, fun _ _ => trivial⟩
    refine hround.within.bind fun r _ => ?_
    split
    · exact .pure rfl
    · exact (Coro.Steady.leaveBy refl).andThen fun _ => .raise

theorem unsubscribeSlot {topic : String} {syncWait : Bool}
    (hj : ∀ topic, j.sends (.unsubscribe topic)) :
    Coro.Steady (errands σ) ⟨j, none⟩ (Modes σ) (unsubscribeSlot me topic s syncWait) := by
  have hgone : Coro.Steady (errands σ) ⟨j, none⟩ (Modes σ)
      (pure (KaroX2.unsubscribeSlot.disconnected me topic s syncWait)) := .pure fun _ => .closeSlot
  have hdropped (w : World) : Moded σ w (World.warnDropped topic
      (w.closeSlot me topic s .ok "Unsubscribe()")) := Moded.closeSlot.trans (.same rfl)
  refine .read fun w => ?_
  split
  · exact hgone
  · split
    · refine nextRid.andThen fun rid => ?_
      split
      · refine (sendRpcAndWait ⟨hj _, .unsubscribe _ _⟩
          (Job.intends_none (hj topic) rfl)).attempt.bind fun r _ => ?_
        split
        · exact modify_then (fun _ => .setSlot fun _ => by rfl) (.pure fun _ => .closeSlot)
        · exact .pure fun _ => .closeSlot
        · exact .pure fun _ => .closeSlot
        · exact .raise
      · refine (wsSend ⟨hj _, .unsubscribe _ _⟩).andThen fun ok => ?_
        dsimp only
        split
        · exact modify_then (fun _ => .setSlot fun _ => by rfl) (.pure hdropped)
        · exact .pure hdropped
    · exact hgone

theorem unsubscribeRequest {h : SlotId} {syncWait : Bool}
    (hj : ∀ topic, j.sends (.unsubscribe topic)) :
    Coro.Steady (errands σ) ⟨j, none⟩ (fun _ => True) (unsubscribeRequest me h syncWait) := by
  refine .call refl (.read fun w => ?_)
  dsimp only
  split
  · exact .pure trivial
  · exact scope (unsubscribeSlot hj)

theorem unsubscribe {h : SlotId} (hj : ∀ topic, j.sends (.unsubscribe topic)) :
    Coro.Steady (errands σ) ⟨j, none⟩ (fun _ => True) (unsubscribe me h) :=
  modify_then (fun _ => .setSlot fun _ => by rfl) (unsubscribeRequest hj)

/-! ### Sessions -/

/-- A phase of `_establish` ends with an update that leaves the callback modes alone. -/
def Ending (σ : Setup) {α : Type} : Attempt α → Prop
  | .ended last => ∀ w, Moded σ w (last w)
  | .goesOn _ => True

theorem handshakeCommand_cases (h : handshakeCommand σ rid = .ok cmd) :
    (∃ v i der, encodeHandshakeCert rid v i der = .ok cmd) ∨
    ∃ v i token, encodeHandshakeToken rid v i token = .ok cmd := by
  unfold handshakeCommand at h
  dsimp only at h
  generalize (if σ.opts.sdkVersion.truthy then σ.opts.sdkVersion else defaultSdkVersion) = v at h
  split at h
  · split at h
    · exact .inl ⟨_, _, _, h⟩
    · cases h
  · exact .inr ⟨_, _, _, h⟩

theorem handshakeCommand_encoded (h : handshakeCommand σ rid = .ok cmd) : cmd.Encoded := by
  rcases handshakeCommand_cases h with ⟨v, i, der, h⟩ | ⟨v, i, token, h⟩
  · exact .handshakeCert h
  · exact .handshakeToken h

theorem handshakeCommand_handshakes (h : handshakeCommand σ rid = .ok cmd) :
    cmd.payload.handshakes := by
  rcases handshakeCommand_cases h with ⟨v, i, der, h⟩ | ⟨v, i, token, h⟩
  all_goals
    obtain ⟨-, h⟩ := utf8_then h
    obtain ⟨-, h⟩ := utf8_then h
    obtain rfl := Except.ok.inj h
  · exact .inl ⟨v, i, der, rfl⟩
  · exact .inr ⟨v, i, token, rfl⟩

theorem wsConnect : Coro.Steady (errands σ) ⟨j, none⟩ (fun _ => True) (wsConnect σ) := by
  unfold KaroX2.wsConnect
  split
  · exact .raise
  · refine suspend_then (fun _ => trivial) fun r => ?_
    split
    · exact .pure trivial
    all_goals exact .raise

theorem dial : Coro.Steady (errands σ) ⟨j, none⟩ (Ending σ) (dial σ me) := by
  refine wsConnect.attempt.bind fun r _ => ?_
  unfold dialed
  split
  · exact .pure trivial
  · split
    · exact abortToFatal.andThen fun _ => .pure fun w => .refl w
    · exact .pure fun _ => Moded.transientFailure.trans .retry
  · exact .raise

theorem retryLater {reason message : String} {code : ErrorCode} :
    Coro.Steady (errands σ) ⟨j, none⟩ (Ending σ) (retryLater σ me reason code message) := by
  refine modify_then (fun _ => .transientFailure) ?_
  exact (closeWs fun w => .refl w).andThen fun _ => .pure fun _ => .retry

theorem handshake (hj : ∀ p : Payload, p.handshakes → j.sends p) :
    Coro.Steady (errands σ) ⟨j, none⟩ (Ending σ) (handshake σ me) := by
  refine nextRid.andThen fun rid => ?_
  split
  · exact abortToFatal.andThen fun _ => .pure fun w => .refl w
  · exact .raise
  · rename_i cmd hcmd
    have hshake : cmd.payload.handshakes := handshakeCommand_handshakes hcmd
    have hnone := Job.intends_none (hj _ hshake) (Payload.stops_handshakes hshake)
    have hsends : j.Encodes cmd := ⟨hj _ hshake, handshakeCommand_encoded hcmd⟩
    refine (sendRpcAndWait hsends hnone).attempt.bind fun r _ => ?_
    split
    · unfold handshakeAnswered
      split
      · exact .pure trivial
      · split
        · exact abortToFatal.andThen fun _ => .pure fun w => .refl w
        · exact retryLater
    · exact retryLater
    · split
      · exact abortToFatal.andThen fun _ => .pure fun w => .refl w
      · exact retryLater
    · exact .raise

theorem restoreSlot {isR : Bool} (hj : Subscribing j) :
    Coro.Steady (errands σ) ⟨j, none⟩ (fun _ => True) (restoreSlot σ me isR s) := by
  unfold KaroX2.restoreSlot
  split
  · exact modify_then (fun _ => .setSlot fun _ => by rfl) (.read fun w => sendSubscribe hj)
  · exact .read fun w => .when (sendSubscribe hj)

/-- The job establishes connections. -/
abbrev Establishing (j : Job) : Prop := ∀ p : Payload, p.handshakes ∨ p.subscribes → j.sends p

theorem attempt {isR : Bool} {ep : Nat} (hj : Establishing j) :
    Coro.Steady (errands σ) ⟨j, none⟩ (fun _ => True) (attempt σ me isR ep) := by
  -- each phase raises, ends the attempt, or goes on to the next one
  refine dial.within.bind fun r hr => ?_
  split
  · exact (Coro.Steady.leaveBy refl).andThen fun _ => .raise
  · exact .leaveBy fun w => moded (hr _ rfl w)
  · refine .read fun w => become_then (fun _ => .same rfl)
      ((handshake fun p hp => hj p (.inl hp)).within.bind fun r hr => ?_)
    split
    · exact (Coro.Steady.leaveBy refl).andThen fun _ => .raise
    · exact .leaveBy fun w => moded (hr _ rfl w)
    · refine .read fun w => become_then (fun _ => .beginSession) ?_
      exact .rounds refl (fun w => moded .restored)
        (fun _ => restoreSlot fun p hp => hj p (.inr hp)) _

theorem establish (hj : Establishing j) :
    Coro.Steady (errands σ) ⟨j, none⟩ (fun _ => True) (establish σ me) :=
  .read fun _ => .when <| (Coro.Steady.enterBy fun _ => moded .transition).andThen
    fun _ => attempt hj

theorem doReconnect {n ms : Nat} (hj : Establishing j) :
    Coro.Steady (errands σ) ⟨j, none⟩ (fun _ => True) (doReconnect σ me n ms) := by
  have hbegin : ∀ w, Moded σ w (World.beginReconnect n w) := by
    intro w
    have hset : Moded σ w { w with conn.reconnectAttempt := n } := .same rfl
    exact hset.trans .transition
  have hsleep : ∀ w, j.may (.sleep ms) w := fun _ => trivial
  refine (Coro.Steady.enterBy refl).andThen fun _ => (suspend hsleep).within.bind fun r _ => ?_
  split
  · exact .leaveBy refl
  · refine .read fun w => ?_
    split
    · exact become_then hbegin (attempt hj)
    · exact .leaveBy refl

/-! ### The emergency stop -/

theorem encodeEmergencyStop_payload {engage : Bool} {reason : PyStr}
    (h : encodeEmergencyStop rid engage reason = .ok cmd) :
    cmd.payload = .rpc "safety.emergency_stop" 2000
      (.emergencyStop engage (if reason.truthy then some reason else none)) := by
  simp only [encodeEmergencyStop, utf8] at h
  split at h
  · rename_i ht
    rw [if_pos ht]
    split at h
    · cases h
      rfl
    · cases h
  · rename_i ht
    rw [if_neg ht]
    cases h
    rfl

theorem estopReplay : Coro.Steady (errands σ) ⟨.estopReplay, none⟩ (fun _ => True) (estopReplay σ me) := by
  have hfail : ∀ code msg, Coro.Steady (errands σ) ⟨.estopReplay, none⟩ (Modes σ)
      (KaroX2.onTransportCloseAfter σ World.clearEstopPending me code msg >>= fun _ =>
        pure ((), id)) := fun _ _ =>
    .andThen (onTransportCloseAfter fun _ => .same rfl) fun _ => .pure fun w => .refl w
  refine .read fun w => scope (nextRid.andThen fun rid => ?_)
  split
  · exact .raise
  · rename_i cmd hcmd
    have hsends : Job.estopReplay.Encodes cmd :=
      ⟨⟨_, encodeEmergencyStop_payload hcmd⟩, .emergencyStop hcmd⟩
    refine (sendRpcAndWait hsends fun _ => rfl).attempt.bind fun r _ => ?_
    split
    -- answered well or not, timed out, failed, cancelled
    · split
      · exact .pure fun w => .estopReplayed
      · exact hfail _ _
    · exact hfail _ _
    · exact hfail _ _
    · exact .raise

/-! ### The reader -/

theorem onInboundMessage {response : Option DecodedResponse} {push : Option DecodedTopicPush} :
    Coro.Steady (errands σ) ⟨.reader c, none⟩ (fun _ => True) (onInboundMessage σ me response push) := by
  refine modify_then (fun _ => .same rfl) ?_
  split
  · unfold handleSdkResponse
    split
    · exact handleSubscribeAck fun _ => id
    · exact modify_then (fun _ => .handleRpcResponse) (.pure trivial)
  · exact handleSdkTopicPush.andThen fun _ => .pure trivial
  · exact modify_then (fun _ => .same rfl) (.pure trivial)

theorem fireClose {reason : ErrorCode} {msg : String} :
    Coro.Steady (errands σ) ⟨j, none⟩ (fun _ => True) (fireClose σ me c reason msg) := by
  refine .read fun _ => .when (modify_then (fun _ => .same rfl) (.when ?_))
  exact modify_then (fun _ => .same rfl) (swallow_steady onTransportClose)

theorem readMessage {m : Inbound} :
    Coro.Steady (errands σ) ⟨.reader c, none⟩ (Flow.serves (.reader c)) (readMessage σ me c m) := by
  unfold KaroX2.readMessage
  split
  · exact .pure rfl
  · refine .read fun w => ?_
    split
    · refine onInboundMessage.attempt.bind fun r _ => ?_
      split
      · exact .pure rfl
      · exact .raise
      · exact .pure rfl
    · exact .pure rfl

theorem readRound :
    Coro.Steady (errands σ) ⟨.reader c, none⟩ (Flow.serves (.reader c)) (readRound σ me c) := by
  have hends : ∀ e, Coro.Steady (errands σ) ⟨.reader c, none⟩ (Flow.serves (.reader c))
      (streamEnds σ me c e) := by
    intro e
    unfold streamEnds
    split
    · exact modify_then (fun _ => .same rfl) (.pure trivial)
    · exact .raise
    · exact modify_then (fun _ => .same rfl) (fireClose.andThen fun _ => .pure trivial)
    · exact modify_then (fun _ => .same rfl) (fireClose.andThen fun _ => .pure trivial)
  refine suspend_then (fun _ => trivial) fun r => ?_
  split
  -- a message, a clean end of the stream, or an exception
  · exact readMessage
  · exact hends none
  · exact hends _

/-! ### The heartbeat -/

theorem untilCancelled {d : M (Flow Karo)} (hd : Coro.Steady (errands σ) ⟨j, none⟩ (Flow.serves j) d) :
    Coro.Steady (errands σ) ⟨j, none⟩ (Flow.serves j) (untilCancelled d) := by
  refine hd.within.bind fun r hr => ?_
  split
  · exact .pure (hr _ rfl)
  · exact .pure trivial
  · exact .raise

theorem heartbeatRound :
    Coro.Steady (errands σ) ⟨.heartbeat, none⟩ (Flow.serves .heartbeat) (heartbeatRound σ) := by
  refine untilCancelled (.read fun w => ?_)
  dsimp only
  split
  · exact .pure trivial
  · split
    · refine suspend_then (fun _ => trivial) fun r => ?_
      split
      · exact modify_then (fun _ => .same rfl) (.pure rfl)
      · exact .pure rfl
      · exact .raise
    · split
      · exact .pure trivial
      · split
        · exact .pure rfl
        · exact .pure trivial

theorem sendPing {left : Nat} :
    Coro.Steady (errands σ) ⟨.heartbeat, none⟩ (Flow.serves .heartbeat) (sendPing σ me c left) := by
  have hping : ∀ rid ms, Job.heartbeat.Encodes (encodePing rid ms) := fun _ _ =>
    ⟨⟨_, rfl⟩, .ping _ _⟩
  refine nextRid.andThen fun rid => .read fun w => modify_then (fun _ => .same rfl) ?_
  refine (wsSend (hping _ _)).andThen fun ok => ?_
  split
  · refine suspend_then (fun _ => trivial) fun r => ?_
    split
    · exact modify_then (fun _ => .same rfl) (.pure rfl)
    · refine modify_then (fun _ => .same rfl) (.read fun w => ?_)
      split
      · exact modify_then (fun _ => .same rfl) (onTransportClose.andThen fun _ => .pure rfl)
      · exact .pure rfl
    · exact .raise
  · exact modify_then (fun _ => .same rfl) (onTransportClose.andThen fun _ => .pure rfl)

theorem pingRound {left : Nat} :
    Coro.Steady (errands σ) ⟨.heartbeat, none⟩ (Flow.serves .heartbeat) (pingRound σ me left) := by
  cases left with
  | zero => exact .pure rfl
  | succ left =>
    refine untilCancelled (.read fun w => ?_)
    split
    · exact .pure rfl
    · split
      · exact sendPing
      · exact .pure rfl

/-! ### Calls -/

section Calls

variable {engage : Bool} {reason taskId : PyStr}

theorem cmdVel {vx vy wz : PyFloat} : Coro.Steady (errands σ) ⟨.api (.cmdVel vx vy wz), none⟩
    (fun _ => True) (cmdVel vx vy wz) := by
  have hsends : ∀ rid seq ms, (Job.api (.cmdVel vx vy wz)).Encodes
      (encodeCmdVel rid vx vy wz seq ms) := fun _ _ _ => ⟨⟨_, _, rfl⟩, .cmdVel ..⟩
  have hfail : ∀ code msg, Coro.Steady (errands σ) ⟨.api (.cmdVel vx vy wz), none⟩ (fun _ => True)
      (cmdVelFailed code msg) := fun _ _ => modify_then (fun _ => .same rfl) (.pure trivial)
  refine .call refl (.read fun w => ?_)
  split
  -- refused outside `READY`, and by the rate limit
  · exact hfail _ _
  · refine update_then (fun _ => .same rfl) fun granted => ?_
    split
    · exact hfail _ _
    · refine modify_then (fun _ => .same rfl) (nextRid.andThen fun rid => ?_)
      refine update_then (fun _ => .same rfl) fun seq => .read fun w => ?_
      refine (sendRpcAndWait (hsends _ _ _) fun _ => rfl).attempt.bind fun r _ => ?_
      split
      · refine .read fun w => ?_
        dsimp only
        split
        · exact modify_then (fun _ => .same rfl) (.pure trivial)
        · exact .pure trivial
      · exact hfail _ _
      · exact hfail _ _
      · exact .raise

/-- The call leaves nothing to record, when its last update is made. -/
def Recorded (σ : Setup) (j : Job) (g : Errand) :
    Except Exn (CommandResult × (World → World)) → World → Prop
  | .ok x, w => (errands σ).update g w (x.2 w) ⟨j, none⟩
  | .error _, _ => g = ⟨j, none⟩

theorem scope_recorded {l : Label} {d : M (CommandResult × (World → World))}
    (hd : ∀ w, d.Abides (errands σ) (Recorded σ j) ⟨j, none⟩ w) :
    Coro.Steady (errands σ) ⟨j, none⟩ (fun _ => True) (Coro.scope l id d) := by
  intro w
  refine Coro.abides_scope.mpr ⟨_, refl w, Coro.abides_mono ?_ (hd w)⟩
  rintro g (e | x) v hr
  · exact ⟨g, refl v, hr, fun _ _ => trivial⟩
  · exact ⟨_, hr, rfl, fun _ _ => trivial⟩

/-- A call records its intent if and only if the robot has acknowledged its command. -/
theorem emergencyStop : Coro.Steady (errands σ) ⟨.api (.emergencyStop engage reason), none⟩
    (fun _ => True) (emergencyStop engage reason) := by
  obtain ⟨j, hj⟩ : ∃ j, j = Job.api (.emergencyStop engage reason) := ⟨_, rfl⟩
  have hfail : ∀ code msg v, (do
      let r ← emergencyStopFailed code msg
      pure (r, id) : M (CommandResult × (World → World))).Abides (errands σ) (Recorded σ j)
        ⟨j, none⟩ v := fun _ _ _ => ⟨_, moded (.same rfl), refl _⟩
  rw [← hj]
  refine scope_recorded fun w => Coro.abides_read_then.mpr ?_
  split
  · exact refl w
  · refine Coro.abides_modify_then (moded (.same rfl)) ?_
    refine Coro.abides_update_then (moded (.same rfl)) ?_
    split
    · exact rfl
    · rename_i cmd hcmd
      have hsends : j.Encodes cmd := ⟨hj ▸ encodeEmergencyStop_payload hcmd, .emergencyStop hcmd⟩
      refine Coro.abides_attempt_then.mpr (Coro.abides_mono ?_ (sendRpcAndWait_taken hsends))
      rintro g (e | resp) v rfl
      · split
        · rename_i h
          cases h
        · exact hfail _ _ v
        · exact hfail _ _ v
        · exact rfl
      · show (emergencyStopAnswered engage reason resp).Abides _ _ _ v
        unfold emergencyStopAnswered
        split
        -- refused: there is nothing to record
        · rename_i h
          have hnone : j.intends resp = none := by
            rw [hj, Job.intends, if_neg (by simp [DecodedResponse.rpcOk_of_refused h])]
          rw [hnone]
          exact hfail _ _ v
        · rename_i h
          have hsome : j.intends resp = some (engage, reason) := by
            rw [hj, Job.intends, if_pos (DecodedResponse.rpcOk_of_requireOk h)]
          exact .inr (.inr ⟨engage, reason, hsome, rfl, rfl⟩)

theorem createNavTask {encode : Nat → Except Exn SdkCommand} (hn : ∀ resp, j.intends resp = none)
    (h : ∀ rid cmd, encode rid = .ok cmd → j.Encodes cmd) :
    Coro.Steady (errands σ) ⟨j, none⟩ (fun _ => True) (createNavTask encode) := by
  refine .read fun w => ?_
  split
  · exact .pure trivial
  · refine nextRid.andThen fun rid => ?_
    split
    · exact .raise
    · rename_i cmd hcmd
      refine (sendRpcAndWait (h rid cmd hcmd) hn).attempt.bind fun r _ => ?_
      split
      · exact .pure trivial
      · exact .pure trivial
      · exact .pure trivial
      · exact .raise

theorem taskCommand {method : String} (h : j.sends (.rpc method 2000 (.taskCommand taskId)))
    (hencoded : ∀ rid cmd, encodeTaskCommand method rid taskId = .ok cmd → cmd.Encoded) :
    Coro.Steady (errands σ) ⟨j, none⟩ (fun _ => True)
      (taskCommand method (encodeTaskCommand method) taskId) := by
  refine .read fun w => ?_
  split
  · exact .pure trivial
  · refine nextRid.andThen fun rid => ?_
    split
    · exact .raise
    · rename_i cmd hcmd
      have hsends : j.sends cmd.payload := by
        obtain ⟨-, hcmd⟩ := utf8_then hcmd
        obtain rfl := Except.ok.inj hcmd
        exact h
      refine (sendRpcAndWait ⟨hsends, hencoded rid cmd hcmd⟩
        (Job.intends_none h rfl)).attempt.bind fun r _ => ?_
      split
      · exact .pure trivial
      · exact .pure trivial
      · exact .pure trivial
      · exact .raise

theorem ping : Coro.Steady (errands σ) ⟨.api .ping, none⟩ (fun _ => True) ping := by
  have hsends : ∀ rid ms, (Job.api .ping).Encodes (encodePing rid ms) :=
    fun _ _ => ⟨⟨_, rfl⟩, .ping _ _⟩
  refine .call refl (.read fun w => ?_)
  split
  · exact .pure trivial
  · refine modify_then (fun _ => .same rfl) (nextRid.andThen fun rid => ?_)
    refine .read fun w => (sendRpcAndWait (hsends _ _) fun _ => rfl).attempt.bind fun r _ => ?_
    split
    · exact .read fun w => .pure trivial
    · exact modify_then (fun _ => .same rfl) (.pure trivial)
    · exact modify_then (fun _ => .same rfl) (.pure trivial)
    · exact .raise

end Calls

/-! ### Bodies -/

theorem returning {d : M ApiResult} (hd : Coro.Steady (errands σ) ⟨j, none⟩ (fun _ => True) d) :
    Coro.Steady (errands σ) ⟨j, none⟩ (Flow.serves j) (returning me d) :=
  hd.andThen fun _ => modify_then (fun _ => .same rfl) (.pure trivial)

theorem mapped {f : β → ApiResult} {d : M β} (hd : Coro.Steady (errands σ) ⟨j, none⟩ (fun _ => True) d) :
    Coro.Steady (errands σ) ⟨j, none⟩ (Flow.serves j) (KaroX2.returning me (f <$> d)) := returning hd.map

theorem apiBody {call : ApiCall} :
    Coro.Steady (errands σ) ⟨.api call, none⟩ (Flow.serves (.api call)) (apiBody σ me call) := by
  cases call with
  | connect => exact returning (modify_then (fun _ => .connect) (.pure trivial))
  | close => exact returning (close.andThen fun _ => .pure trivial)
  | waitUntilReady timeout =>
    have hround : Coro.Steady (errands σ) ⟨.api (.waitUntilReady timeout), none⟩ (fun _ => True)
        (waitRound me timeout) :=
      waitRound_steady (fun _ _ => moded (.same rfl)) fun _ => ⟨rfl, rfl, trivial⟩
    refine hround.andThen fun b => ?_
    split
    · exact returning (.pure trivial)
    · exact .pure rfl
  | subscribe topic hz => exact mapped (subscribeInternal fun _ => id)
  | unsubscribe h => exact mapped (unsubscribe fun _ => ⟨_, rfl⟩)
  | cmdVel vx vy wz => exact mapped cmdVel
  | emergencyStop engage reason => exact mapped emergencyStop
  | createNavTaskMarker m =>
    refine mapped (createNavTask (fun _ => rfl) fun rid cmd hcmd =>
      ⟨?_, .createNavTaskMarker hcmd⟩)
    obtain ⟨-, hcmd⟩ := utf8_then hcmd
    obtain rfl := Except.ok.inj hcmd
    rfl
  | createNavTaskPose x y theta =>
    refine mapped (createNavTask (fun _ => rfl) fun rid cmd hcmd => ⟨?_, .createNavTaskPose hcmd⟩)
    cases hcmd
    rfl
  | cancelTask i => exact mapped (taskCommand rfl fun _ _ => .cancelTask)
  | pauseTask i => exact mapped (taskCommand rfl fun _ _ => .pauseTask)
  | resumeTask i => exact mapped (taskCommand rfl fun _ _ => .resumeTask)
  | ping => exact mapped ping

theorem andDone {d : M Unit} (hd : Coro.Steady (errands σ) ⟨j, none⟩ (fun _ => True) d) :
    Coro.Steady (errands σ) ⟨j, none⟩ (Flow.serves j) (andDone d) := hd.andThen fun _ => .pure trivial

/-- **Every body does the errand of its job.** -/
theorem body {p : Proc} (h : p.serves j) :
    Coro.Steady (errands σ) ⟨j, none⟩ (Flow.serves j) (body σ me p) := by
  cases p with
  | run job =>
    obtain rfl : j = job := h
    cases j with
    | establishInitial => exact andDone (establish fun _ => id)
    | reader c =>
      refine .read fun w => .pure ?_
      split
      · exact rfl
      · trivial
    | heartbeat => exact (Coro.Steady.enterBy refl).andThen fun _ => .pure rfl
    | subWorker s =>
      refine subWorkerRound.andThen fun go => ?_
      split
      · exact .pure rfl
      · exact .pure trivial
    | doReconnect n ms => exact andDone (doReconnect fun _ => id)
    | estopReplay => exact andDone estopReplay
    | subscribeAckTimeout rid topic => exact andDone handleSubscribeAckTimeout
    | abortToFatal code message => exact andDone abortToFatal
    | unsubscribeDropped u =>
      have hsends : ∀ topic, (Job.unsubscribeDropped u).sends (.unsubscribe topic) :=
        fun _ => ⟨_, rfl⟩
      exact andDone ((unsubscribeRequest hsends).andThen fun _ => .pure trivial)
    | api call => exact apiBody
  | readLoop c =>
    obtain rfl : j = .reader c := h
    exact readRound
  | drain c s K phase ep =>
    obtain rfl : j = .reader c := h
    exact drainRound
  | heartbeatRound =>
    obtain rfl : j = .heartbeat := h
    exact heartbeatRound
  | pingRound left =>
    obtain rfl : j = .heartbeat := h
    exact pingRound
  -- a task that was cancelled before its first step
  | neverRun => exact .raise

end Errands

end KaroX2
