/-
KaroX2/Walk/Requests.lean

All code keeps to the protocol of the requests.

The coroutines in the order of the source modules.  Each lemma is the composition of the
lemmas about its parts; where a request is sent, `sent_booking` has its stages.
-/
import KaroX2.Booking
import KaroX2.Ambient

namespace KaroX2

open Coop Py

variable {σ : Setup} {w w' : World} {me : TaskId} {Q : DecodedResponse → Prop} {c : WsId}
  {rid : Nat} {s : SlotId} {cmd : SdkCommand} {g : Stake}

/-! ### The end of a connection -/

theorem ended_account {e : Exn} : (w.failInflight e).clearSubAcks.account = w.account := by
  have hfail : ∀ (l : List (Nat × InflightRpc)) (v : World),
      (l.foldl (World.failRequest e) v).account = v.account := by
    intro l
    induction l with
    | nil => exact fun _ => rfl
    | cons x l ih =>
      intro v
      refine (ih _).trans ?_
      unfold World.failRequest World.resolve
      split <;> split <;> rfl
  have hcancel : ∀ (l : List Nat) (v : World),
      (l.foldl (fun v h => World.cancelTimer h v) v).account = v.account := by
    intro l
    induction l with
    | nil => exact fun _ => rfl
    | cons x l ih => exact fun v => (ih _).trans rfl
  exact (hcancel _ (w.failInflight e)).trans (hfail _ w)

/-- All requests end, before and after other updates. -/
theorem ended_books {e : Exn} {v : World} (hg : g.owned = none) (h : Aside w v)
    (h' : Aside (v.failInflight e).clearSubAcks w') : Books Q g w w' .idle :=
  .settles hg ((h'.account.trans ended_account).trans h.account)
    (Ageing.aside h h' fun hv => Ageing.ended hv rfl)

theorem loseTransport_books {reason : ErrorCode} {msg : String} :
    Books Q .idle w (w.loseTransport σ me reason msg) .idle := by
  have hpush : Aside w ((w.push (.transportClose reason msg)).pauseSlots reason msg) :=
    (Aside.push rfl).trans .pauseSlots
  have hbeat : ∀ v : World,
      Aside v { v.cancelOther me v.conn.heartbeatTask with hb.missCount := 0 } := fun v =>
    Aside.cancelOther.trans rfl
  exact ended_books (e := .sdk reason msg) rfl hpush ((hbeat _).trans .transientFailure)

theorem abandon_books {code : ErrorCode} {message : String} (hg : g.owned = none) :
    Books Q g w (w.abandon me code message) .idle :=
  ended_books hg .closeAllSlots (Aside.cancelOther.trans .cancelOther)

theorem shutDown_books : Books Q .idle w (w.shutDown me) .idle :=
  ended_books rfl ((Aside.transition.trans .cancelOther).trans .cancelOther) .closeAllSlots

/-- `_on_transport_close` settles what its caller has left. -/
theorem onTransportCloseAfter_booking {first : World → World} {reason : ErrorCode} {msg : String}
    (h : ∀ w, Books Q g w (first w) .idle) : (onTransportCloseAfter σ first me reason msg).Abides
      (booking Q) (fun g _ _ => g = .idle) g w := by
  have hrest : Booked Q (fun x : Unit × (World → World) => ∀ w, Aside w (x.2 w))
      (Coro.read >>= fun w => if w.conn.state.terminal then pure ((), id) else do
        Coro.modify (S := Karo) (World.loseTransport σ me reason msg)
        closeWs me id
        pure ((), World.retry σ)) := by
    refine .read fun w => ?_
    split
    · exact .pure fun w => .refl w
    · refine (Coro.Steady.modify fun w => loseTransport_books).andThen fun _ => ?_
      exact (closeWs_booked fun w => .refl w).andThen fun _ => .pure fun _ => .retry
  refine Coro.abides_scope.mpr ⟨.idle, h w, Coro.abides_mono ?_ (hrest _)⟩
  rintro g (e | x) v ⟨rfl, hx⟩
  · exact ⟨.idle, same_books v, rfl⟩
  · exact ⟨.idle, .still (hx x rfl v), rfl⟩

theorem onTransportCloseAfter_booked {first : World → World} {reason : ErrorCode} {msg : String}
    (h : ∀ w, Aside w (first w)) :
    Booked Q (fun _ => True) (onTransportCloseAfter σ first me reason msg) := fun _ =>
  Coro.abides_mono (fun _ _ _ hg => ⟨hg, fun _ _ => trivial⟩)
    (onTransportCloseAfter_booking fun w => .still (h w))

theorem onTransportClose_booked {reason : ErrorCode} {msg : String} :
    Booked Q (fun _ => True) (onTransportClose σ me reason msg) :=
  onTransportCloseAfter_booked fun w => .refl w

theorem abortToFatal_booking {code : ErrorCode} {message : String} (hg : g.owned = none) :
    (abortToFatal me code message).Abides (booking Q) (fun g _ _ => g = .idle) g w := by
  have hrest : Booked Q (fun x : Unit × (World → World) => ∀ w, Aside w (x.2 w)) (do
      closeWs me (World.fail code message)
      pure ((), id)) :=
    (closeWs_booked fun _ => .transition).andThen fun _ => .pure fun w => .refl w
  refine Coro.abides_scope.mpr ⟨.idle, abandon_books hg, Coro.abides_mono ?_ (hrest _)⟩
  rintro g (e | x) v ⟨rfl, hx⟩
  · exact ⟨.idle, same_books v, rfl⟩
  · exact ⟨.idle, .still (hx x rfl v), rfl⟩

theorem abortToFatal_booked {code : ErrorCode} {message : String} :
    Booked Q (fun _ => True) (abortToFatal me code message) := fun _ =>
  Coro.abides_mono (fun _ _ _ hg => ⟨hg, fun _ _ => trivial⟩) (abortToFatal_booking rfl)

theorem close_booked : Booked Q (fun _ => True) (close me) := by
  refine scope_booked (fun w => .refl w) (.read fun w => ?_)
  split
  · exact .pure ⟨trivial, fun w => .refl w⟩
  · refine (Coro.Steady.modify fun w => shutDown_books).andThen fun _ => ?_
    exact (closeWs_booked fun w => .refl w).andThen fun _ => .pure ⟨trivial, fun w => .refl w⟩

/-! ### Subscriptions -/

theorem encodeSubscribe_requestId {topic : String} {hz : PyFloat} {since : Nat} {limit : Int}
    (h : encodeSubscribe rid topic hz since limit = .ok cmd) : cmd.requestId = rid := by
  unfold encodeSubscribe at h
  split at h
  · split at h
    · cases h
      rfl
    · cases h
  · cases h

theorem registerSubscribe_books {since : Nat} : Books Q (.drawn rid) w
    (w.registerSubscribe s rid since) (.opened .subscription rid) := by
  refine .opens rfl Writes.registerSubscribe fun hb => ?_
  rw [hb]
  exact ⟨.subscribes _ _ (.inr rfl), rfl⟩

theorem unregisterSubscribe_books (hg : g.owned = some (.subscription, rid)) :
    Books Q g w (w.unregisterSubscribe s rid) .idle := by
  refine .closes rfl hg Writes.unregisterSubscribe fun hp hf => ?_
  have hrequest : (w.page rid).request = none := hf
  generalize w.page rid = p at hp hrequest
  cases hp with
  | closed f hf => exact .closed f hf
  | calls | pings => cases hrequest
  | subscribes => exact Page.sound_blank

theorem transmit_booking (h : cmd.requestId = rid) : (transmit cmd).Abides (booking Q)
    (fun g _ _ => g.owned = some (.subscription, rid)) (.opened .subscription rid) w := by
  unfold transmit
  rw [Coro.abides_read_then]
  split
  · rfl
  · exact Coro.abides_mono (fun _ _ _ hg => hg.1) (wsSend_booking h)

theorem sendSubscribe_booked {since : Nat} :
    Booked Q (fun _ => True) (sendSubscribe σ me s since) := by
  intro w
  refine Coro.abides_mono (fun g _ _ hg => ⟨hg, fun _ _ => trivial⟩) (call_booking ?_)
  refine Coro.abides_update_then .draws ?_
  rw [Coro.abides_read_then]
  dsimp only
  split
  -- the rate or the limit does not fit the message: the slot is closed
  · refine Coro.abides_scope.mpr ⟨_, .gives .closeSlot, _, same_books _, trivial⟩
  · rename_i cmd hcmd
    rw [Coro.abides_bind]
    -- the request is left to the tables, unless the send failed
    have hsend : (Coro.scope (S := Karo) (.subscribing s w.rpc.nextRequestId)
        (World.registerSubscribe s w.rpc.nextRequestId
          (effectiveSince ((w.bumpRid).subs.slots s) since)) (do
          let ok ← transmit cmd
          pure (ok, id))).Abides (booking Q) (fun g r _ => (∀ ok, r = .ok ok →
            g.owned = some (.subscription, w.rpc.nextRequestId))) (.drawn w.rpc.nextRequestId)
        w.bumpRid := by
      refine Coro.abides_scope.mpr ⟨_, registerSubscribe_books, ?_⟩
      rw [Coro.abides_bind]
      refine Coro.abides_mono ?_ (transmit_booking (encodeSubscribe_requestId hcmd))
      rintro g (e | ok) v hg
      · exact ⟨_, same_books v, fun _ h => by cases h⟩
      · exact ⟨g, same_books v, fun _ _ => hg⟩
    refine Coro.abides_mono ?_ hsend
    rintro g (e | ok) v hg
    · trivial
    · dsimp only
      unfold Coro.when
      split
      · exact Coro.abides_mono (fun _ _ _ _ => trivial)
          (onTransportCloseAfter_booking fun _ => unregisterSubscribe_books (hg ok rfl))
      · trivial

theorem handleSubscribeAckTimeout_booked {topic : String} :
    Booked Q (fun _ => True) (handleSubscribeAckTimeout σ me rid topic) :=
  .read fun _ => .when <| modify_then_booked (fun _ => .push rfl) onTransportClose_booked

theorem subscribeInternal_booked {topic : String} {hz : PyFloat} :
    Booked Q (fun _ => True) (subscribeInternal σ me topic hz) := by
  refine .read fun w => scope_booked (fun _ => .beginSubscribe) ?_
  exact (Coro.Steady.when sendSubscribe_booked).andThen fun _ => .pure ⟨trivial, fun _ => rfl⟩

theorem dispatchFrame_booked {push : DecodedTopicPush} :
    Booked Q (fun _ => True) (dispatchFrame s push) :=
  swallow_booked ((suspend_booked rfl).andThen fun _ => .pure trivial)

theorem handleSdkTopicPush_booked {push : DecodedTopicPush} :
    Booked Q (fun _ => True) (handleSdkTopicPush push) := by
  refine .read fun w => ?_
  split
  · exact modify_booked fun _ => .push rfl
  · split
    · exact .pure trivial
    · exact modify_booked fun _ => rfl
    · exact modify_booked fun _ => rfl
    · exact (update_booked fun _ => .acceptPush).andThen fun _ => .when dispatchFrame_booked

theorem subWorkerRound_booked : Booked Q (fun _ => True) (subWorkerRound s) := by
  refine .read fun w => ?_
  split
  · exact .pure trivial
  · refine (suspend_booked rfl).attempt.bind fun r _ => ?_
    split
    · exact .pure trivial
    · refine (update_booked fun _ => .popDispatch).andThen fun push => .read fun w => ?_
      split
      · exact .pure trivial
      · split
        · exact .pure trivial
        · refine modify_then_booked (fun _ => .push rfl) (dispatchFrame_booked.attempt.bind ?_)
          intro r _
          split <;> exact .pure trivial

/-- How `settleAck` goes on leaves the requests alone. -/
def AckEnd.Aside : AckEnd → Prop
  | .finished last => ∀ w, KaroX2.Aside w (last w)
  | .drain _ => True

theorem ackFailed_booked {topic : String} {phase : Bool} {resp : DecodedResponse} :
    Booked Q AckEnd.Aside (ackFailed σ me topic s phase resp) := by
  unfold ackFailed
  split
  · exact abortToFatal_booked.andThen fun _ => .pure fun w => .refl w
  · split
    · exact onTransportClose_booked.andThen fun _ => .pure fun w => .refl w
    · exact .pure fun _ => .closeSlot
  · exact .pure fun _ => Aside.closeSlot.trans .maybeFinishReconnect

theorem settleAck_booked {topic : String} {phase : Bool} {resp : DecodedResponse} :
    Booked Q AckEnd.Aside (settleAck σ me topic s phase resp) := by
  have hclose : ∀ code reason w, Aside w (World.closeAndFinish me topic s code reason phase w) :=
    fun _ _ _ => Aside.closeSlot.trans .maybeFinishReconnect
  refine .read fun w => ?_
  split
  -- a failed response, telemetry, events
  · exact ackFailed_booked
  · split
    · split
      · exact .pure (hclose _ _)
      · exact modify_then_booked (fun _ => .push rfl) (.pure trivial)
    · split
      · split
        · split
          · exact .pure (hclose _ _)
          · refine modify_then_booked (fun _ => rfl) ?_
            exact sendSubscribe_booked.andThen fun _ => .pure fun w => .refl w
        · exact .pure (hclose _ _)
      · exact modify_then_booked (fun _ => .push rfl) (.pure trivial)

theorem takeAck_account : (w.takeAck rid).account = w.account := by
  unfold World.takeAck
  split <;> rfl

theorem takeAck_booked : Booked Q (fun _ => True) (Coro.modify (S := Karo) (World.takeAck rid)) :=
  settle_booked (fun _ => takeAck_account) fun _ => Ageing.takeAck

theorem handleSubscribeAck_booked {resp : DecodedResponse} :
    Booked Q (fun _ => True) (handleSubscribeAck σ me resp) := by
  refine .read fun w => ?_
  split
  · exact modify_then_booked (fun _ => .push rfl) (.pure trivial)
  · split
    · exact takeAck_booked.andThen fun _ => .pure trivial
    · split
      · exact takeAck_booked.andThen fun _ => .pure trivial
      · have htaken : ∀ s w, Books Q .idle w (World.beginAck s resp w) .idle := fun s w =>
          have hrest : Aside (w.takeAck resp.requestId) (w.beginAck s resp) := .push rfl
          .settles rfl (hrest.account.trans takeAck_account)
            (Ageing.aside (.refl w) hrest Ageing.takeAck)
        refine (Coro.Steady.enterBy (htaken _)).andThen fun _ =>
          settleAck_booked.within.bind fun r hr => ?_
        split
        · exact (leaveBy_booked (hr _ rfl)).andThen fun _ => .pure trivial
        · exact .pure trivial
        · exact (Coro.Steady.leaveBy same_books).andThen fun _ => .raise

theorem drainRound_booked {K ep : Nat} {phase : Bool} :
    Booked Q (fun _ => True) (drainRound c s K phase ep) := by
  refine .read fun w => ?_
  split
  · have hdone : ∀ w, Aside w (World.ackDone s phase w) :=
      fun _ => Aside.maybeFinishReconnect.after rfl
    exact (leaveBy_booked hdone).andThen fun _ => .pure trivial
  · refine .bind (.within ((update_booked fun _ => .drainFront).andThen fun _ =>
      .when dispatchFrame_booked)) fun r _ => ?_
    split
    · exact .pure trivial
    · exact (Coro.Steady.leaveBy same_books).andThen fun _ => .raise

/-! ### Requests of calls -/

/-- Code of a call whose last update leaves the requests alone. -/
abbrev StaysAside {β : Type} (x : β × (World → World)) : Prop := ∀ w, Aside w (x.2 w)

/-- An exception of the encoder is raised, inside a call that gives up the id. -/
theorem unsubscribeSlot_booking {topic : String} {syncWait : Bool} :
    (Coro.scope (S := Karo) (.unsubscribing topic s) id
      (unsubscribeSlot me topic s syncWait)).Abides (booking Q) (fun g _ _ => g = .idle) .idle w := by
  have hwarned (w : World) : Aside w (World.warnDropped topic
      (w.closeSlot me topic s .ok "Unsubscribe()")) := Aside.closeSlot.trans (.push rfl)
  have hslot : (unsubscribeSlot me topic s syncWait).Abides (booking Q)
      (fun _ r _ => ∀ x, r = .ok x → StaysAside x) .idle w := by
    have hpure : ∀ (x : ErrorCode × (World → World)) g v, StaysAside x →
        (pure x : M (ErrorCode × (World → World))).Abides (booking Q)
          (fun _ r _ => ∀ x, r = .ok x → StaysAside x) g v := by
      rintro x g v hx _ h
      cases h
      exact hx
    have hgone : ∀ v, (pure (unsubscribeSlot.disconnected me topic s syncWait) : M _).Abides
        (booking Q) (fun _ r _ => ∀ x, r = .ok x → StaysAside x) .idle v :=
      fun v => hpure _ _ v fun _ => .closeSlot
    unfold unsubscribeSlot
    rw [Coro.abides_read_then]
    split
    · exact hgone w
    · split
      · refine Coro.abides_update_then .draws ?_
        split
        · refine Coro.abides_attempt_then.mpr (Coro.abides_mono ?_ (sendRpcAndWait_booking rfl))
          rintro g r v rfl
          have hclosed : ∀ code reason, StaysAside (code, World.closeSlot me topic s code reason) :=
            fun _ _ _ => .closeSlot
          rcases r with e | resp
          · cases e with
            | timeout => exact hpure _ _ v (hclosed _ _)
            | sdk => exact hpure _ _ v (hclosed _ _)
            | _ => exact fun _ h => by cases h
          · exact ⟨_, .still rfl, hpure _ _ _ (hclosed _ _)⟩
        · rw [Coro.abides_bind]
          refine Coro.abides_mono ?_ (wsSend_plain rfl)
          rintro g (e | ok) v -
          · exact fun _ h => by cases h
          · cases ok with
            | true => exact ⟨_, .still rfl, hpure _ _ _ hwarned⟩
            | false => exact hpure _ _ _ hwarned
      · exact hgone w
  refine Coro.abides_scope.mpr ⟨_, same_books w, Coro.abides_mono ?_ hslot⟩
  rintro g (e | x) v hx
  · exact ⟨.idle, .gives (.refl v), rfl⟩
  · exact ⟨.idle, .gives (hx x rfl v), rfl⟩

theorem unsubscribeRequest_booked {h : SlotId} {syncWait : Bool} :
    Booked Q (fun _ => True) (unsubscribeRequest me h syncWait) := by
  refine call_booked (.read fun w => ?_)
  dsimp only
  split
  · exact .pure trivial
  · exact fun w => Coro.abides_mono (fun _ _ _ hg => ⟨hg, fun _ _ => trivial⟩)
      unsubscribeSlot_booking

theorem unsubscribe_booked {h : SlotId} : Booked Q (fun _ => True) (unsubscribe me h) :=
  modify_then_booked (fun _ => rfl) unsubscribeRequest_booked

/-! ### Sessions -/

/-- A phase of `_establish` ends with an update that leaves the requests alone. -/
def Attempt.Aside {α : Type} : Attempt α → Prop
  | .ended last => ∀ w, KaroX2.Aside w (last w)
  | .goesOn _ => True

theorem wsConnect_booked : Booked Q (fun _ => True) (wsConnect σ) := by
  unfold wsConnect
  split
  · exact .raise
  · refine (suspend_booked rfl).attempt.bind fun r _ => ?_
    split
    · exact .pure trivial
    all_goals exact .raise

theorem dial_booked : Booked Q Attempt.Aside (dial σ me) := by
  refine wsConnect_booked.attempt.bind fun r _ => ?_
  unfold dialed
  split
  · exact .pure trivial
  · split
    · exact abortToFatal_booked.andThen fun _ => .pure fun w => .refl w
    · exact .pure fun _ => .dialFailed
  · exact .raise

theorem retryLater_booked {reason message : String} {code : ErrorCode} :
    Booked Q Attempt.Aside (retryLater σ me reason code message) := by
  refine modify_then_booked (fun _ => .transientFailure) ?_
  exact (closeWs_booked fun w => .refl w).andThen fun _ => .pure fun _ => .retry

theorem handshakeAnswered_booked {resp : DecodedResponse} :
    Booked Q Attempt.Aside (handshakeAnswered σ me resp) := by
  unfold handshakeAnswered
  split
  · exact .pure trivial
  · split
    · exact abortToFatal_booked.andThen fun _ => .pure fun w => .refl w
    · exact retryLater_booked

/-- Where the handshake command is not encoded the id is not given up before the attempt
ends. -/
theorem handshake_booking : (handshake σ me).Abides (booking Q)
    (fun g r _ => ∀ x, r = .ok x → g = .idle ∧ Attempt.Aside x) .idle w := by
  have hsteady : ∀ {d : M (Attempt DecodedResponse)} {v : World}, Booked Q Attempt.Aside d →
      d.Abides (booking Q) (fun g r _ => ∀ x, r = .ok x → g = .idle ∧ Attempt.Aside x) .idle v :=
    fun hd => Coro.abides_mono (fun _ _ _ h x hx => ⟨h.1, h.2 x hx⟩) (hd _)
  have hended : Booked Q Attempt.Aside (pure (.ended id) : M (Attempt DecodedResponse)) :=
    .pure fun w => .refl w
  unfold handshake
  refine Coro.abides_update_then .draws ?_
  split
  · rw [Coro.abides_bind]
    refine Coro.abides_mono ?_ (abortToFatal_booking rfl)
    rintro g (e | _) v rfl
    · exact fun _ h => by cases h
    · exact hsteady hended
  · exact fun _ h => by cases h
  · rename_i cmd hcmd
    refine sent_booking (handshakeCommand_requestId hcmd) fun r v => hsteady ?_
    split
    · exact handshakeAnswered_booked
    · exact retryLater_booked
    · split
      · exact abortToFatal_booked.andThen fun _ => hended
      · exact retryLater_booked
    · exact .raise

theorem restoreSlot_booked {isR : Bool} : Booked Q (fun _ => True) (restoreSlot σ me isR s) := by
  unfold restoreSlot
  split
  · exact modify_then_booked (fun _ => rfl) (.read fun w => sendSubscribe_booked)
  · exact .read fun w => .when sendSubscribe_booked

theorem attempt_booked {isR : Bool} {ep : Nat} :
    Booked Q (fun _ => True) (attempt σ me isR ep) := by
  have hrest : ∀ c resp, Booked Q (fun _ => True) (Coro.read >>= fun w => do
      Coro.become (S := Karo) (.handshaking isR ep c) (.restoring isR ep c w.subs.subs.values)
        (World.beginSession σ isR c resp)
      Coro.rounds (.restoring isR ep c) (World.restored isR) (restoreSlot σ me isR)
        w.subs.subs.values) := fun c resp =>
    .read fun w => (become_booked fun _ => .beginSession).andThen fun _ =>
      .rounds same_books (fun _ => Books.still .restored) (fun _ => restoreSlot_booked) _
  refine dial_booked.within.bind fun r hr => ?_
  split
  · exact (Coro.Steady.leaveBy same_books).andThen fun _ => .raise
  · exact leaveBy_booked (hr _ rfl)
  · refine .read fun w => (become_booked (f := World.install) fun _ => rfl).andThen fun _ => ?_
    intro w
    rw [Coro.abides_bind, Coro.abides_within]
    refine Coro.abides_mono ?_ handshake_booking
    -- a failed handshake gives up its id on the way out
    rintro g (e | a | resp) v hg
    · exact ⟨.idle, .gives (.refl v), rfl, fun _ h => by cases h⟩
    · obtain ⟨rfl, hlast⟩ := hg _ rfl
      exact ⟨.idle, .still (hlast v), rfl, fun _ _ => trivial⟩
    · obtain ⟨rfl, -⟩ := hg _ rfl
      exact hrest _ resp v

theorem establish_booked : Booked Q (fun _ => True) (establish σ me) :=
  .read fun _ => .when <| (enterBy_booked fun _ => .transition).andThen fun _ => attempt_booked

theorem doReconnect_booked {n ms : Nat} : Booked Q (fun _ => True) (doReconnect σ me n ms) := by
  refine (Coro.Steady.enterBy same_books).andThen fun _ =>
    (suspend_booked rfl).within.bind fun r _ => ?_
  split
  · exact .leaveBy same_books
  · refine .read fun w => ?_
    split
    · have hbegin : ∀ w, Aside w (World.beginReconnect n w) := fun _ => Aside.transition.after rfl
      exact (become_booked hbegin).andThen fun _ => attempt_booked
    · exact .leaveBy same_books

/-- The code of a call that may end with an id in hand. -/
theorem scope_open {α : Type} {l : Label} {d : M (α × (World → World))}
    (hd : d.Abides (booking Q) (fun _ r _ => ∀ x, r = .ok x → StaysAside x) .idle w) :
    (Coro.scope l id d).Abides (booking Q) (fun g _ _ => g = .idle) .idle w := by
  refine Coro.abides_scope.mpr ⟨_, same_books w, Coro.abides_mono ?_ hd⟩
  rintro g (e | x) v hx
  · exact ⟨.idle, .gives (.refl v), rfl⟩
  · exact ⟨.idle, .gives (hx x rfl v), rfl⟩

theorem estopReplay_booked : Booked Q (fun _ => True) (estopReplay σ me) := by
  have hfail : ∀ code msg, Booked Q StaysAside
      (onTransportCloseAfter σ World.clearEstopPending me code msg >>= fun _ => pure ((), id)) :=
    fun code msg => by
      have hlose : Booked Q (fun _ => True)
          (onTransportCloseAfter σ World.clearEstopPending me code msg) :=
        onTransportCloseAfter_booked fun _ => rfl
      exact hlose.andThen fun _ => .pure fun w => .refl w
  refine .read fun w => fun w => ?_
  refine Coro.abides_mono (fun _ _ _ hg => ⟨hg, fun _ _ => trivial⟩) (scope_open ?_)
  refine Coro.abides_update_then .draws ?_
  split
  · exact fun _ h => by cases h
  · rename_i cmd hcmd
    refine sent_booking (encodeEmergencyStop_ok hcmd).1 fun r v => ?_
    refine Coro.abides_mono (fun _ _ _ h => h.2)
      (Coro.Steady.mono (Q := StaysAside) (fun _ => id) ?_ v)
    split
    · split
      · exact .pure fun w => .estopReplayed
      · exact hfail _ _
    · exact hfail _ _
    · exact hfail _ _
    · exact .raise

/-! ### The reader -/

theorem handleRpcResponse_account {resp : DecodedResponse} :
    (w.handleRpcResponse resp).account = w.account := by
  have hresolve : ∀ (v : World) x, (v.resolve resp.requestId x).account = v.account := by
    intro v x
    unfold World.resolve
    split <;> rfl
  unfold World.handleRpcResponse
  split
  · exact (Aside.push rfl).account
  · refine (hresolve _ _).trans ?_
    split <;> rfl

/-- A received response settles its request. -/
theorem onInboundMessage_booked {response : Option DecodedResponse} {push : Option DecodedTopicPush}
    (hq : ∀ resp, response = some resp → Q resp) :
    Booked Q (fun _ => True) (onInboundMessage σ me response push) := by
  refine modify_then_booked (fun _ => rfl) ?_
  split
  · rename_i resp hresp
    unfold handleSdkResponse
    split
    · exact handleSubscribeAck_booked
    · refine (settle_booked (fun _ => handleRpcResponse_account) fun w hw => ?_).andThen fun _ =>
        .pure trivial
      exact Ageing.handleRpcResponse hw (hq resp (Option.filter_eq_some_iff.mp hresp).1)
  · exact handleSdkTopicPush_booked.andThen fun _ => .pure trivial
  · exact modify_then_booked (fun _ => .push rfl) (.pure trivial)

theorem fireClose_booked {reason : ErrorCode} {msg : String} :
    Booked Q (fun _ => True) (fireClose σ me c reason msg) := by
  refine .read fun _ => .when (modify_then_booked (fun _ => rfl) (.when ?_))
  exact modify_then_booked (fun _ => .push rfl) (swallow_booked onTransportClose_booked)

theorem streamEnds_booked {e : Option Exn} :
    Booked Q (fun _ => True) (streamEnds σ me c e) := by
  unfold streamEnds
  split
  · exact modify_then_booked (fun _ => .push rfl) (.pure trivial)
  · exact .raise
  · exact modify_then_booked (fun _ => .push rfl) (fireClose_booked.andThen fun _ => .pure trivial)
  · exact modify_then_booked (fun _ => .push rfl) (fireClose_booked.andThen fun _ => .pure trivial)

theorem readMessage_booked {m : Inbound}
    (hq : ∀ len resp push, m = .frame len (some resp) push → Q resp) :
    Booked Q (fun _ => True) (readMessage σ me c m) := by
  unfold readMessage
  split
  · exact .pure trivial
  · rename_i len response push
    refine .read fun w => ?_
    split
    · have hresp : ∀ resp, response = some resp → Q resp := by
        rintro resp rfl
        exact hq _ _ _ rfl
      refine (onInboundMessage_booked hresp).attempt.bind fun r _ => ?_
      split
      · exact .pure trivial
      · exact .raise
      · exact .pure trivial
    · exact .pure trivial

/-- Only what was received is handled. -/
theorem readRound_booked : Booked Q (fun _ => True) (readRound σ me c) := by
  intro w
  refine Coro.abides_attempt_then.mpr ⟨.idle, .idles rfl, fun r v hr => ?_⟩
  rcases r with e | m | _ | _
  · exact streamEnds_booked v
  · exact streamEnds_booked v
  · exact readMessage_booked (fun len resp push h => hr c len resp push rfl (by rw [h])) v
  · exact streamEnds_booked v

/-! ### The heartbeat -/

/-- A body may end anyhow, and goes on between two requests. -/
def Freed (g : Stake) (r : Except Exn (Flow Karo)) (_ : World) : Prop :=
  ∀ p, r = .ok (.next p) → g = .idle

theorem Booked.freed {R : Flow Karo → Prop} {d : M (Flow Karo)} (h : Booked Q R d) :
    d.Abides (booking Q) Freed .idle w := Coro.abides_mono (fun _ _ _ hg _ _ => hg.1) (h w)

theorem untilCancelled_booking {d : M (Flow Karo)} (hd : d.Abides (booking Q) Freed .idle w) :
    (untilCancelled d).Abides (booking Q) Freed .idle w := by
  unfold untilCancelled
  rw [Coro.abides_bind, Coro.abides_within]
  refine Coro.abides_mono ?_ hd
  rintro g (e | f) v hg
  · cases e <;> exact fun _ h => by cases h
  · exact hg

theorem heartbeatRound_booking :
    (heartbeatRound σ).Abides (booking Q) Freed .idle w := by
  refine untilCancelled_booking (Booked.freed (R := fun _ => True) (.read fun w => ?_))
  dsimp only
  split
  · exact .pure trivial
  · split
    · refine (suspend_booked rfl).attempt.bind fun r _ => ?_
      split
      · exact modify_then_booked (fun _ => rfl) (.pure trivial)
      · exact .pure trivial
      · exact .raise
    · split
      · exact .pure trivial
      · split
        · exact .pure trivial
        · exact .pure trivial

theorem registerPing_books : Books Q (.drawn rid) w (w.registerPing rid) (.opened .ping rid) := by
  refine .opens rfl Writes.registerPing fun hb => ?_
  rw [hb]
  refine ⟨.pings "ping", rfl, fun x hx => ?_⟩
  cases hx
  rfl

/-- The page of a ping without its entry is closed. -/
theorem unregister_books {v : World} (hg : g.owned = some (.ping, rid))
    (h : Aside (w.unregister rid) v) : Books Q g w v .idle := by
  have hw : Writes w v rid { w.page rid with request := none } :=
    ⟨h.page ▸ Writes.unregister.self, fun r hr => h.page ▸ Writes.unregister.other r hr⟩
  refine .closes h.account hg hw fun hp hf => ?_
  obtain ⟨htopic, hhandle⟩ := hf
  generalize w.page rid = p at hp htopic hhandle
  cases hp with
  | closed f hf => exact .closed f hf
  | calls => cases hhandle _ rfl
  | pings => exact Page.sound_blank
  | subscribes => cases htopic

theorem sendPing_booking {left : Nat} :
    (sendPing σ me c left).Abides (booking Q) Freed .idle w := by
  have hclosed : ∀ {code msg v}, (onTransportClose σ me code msg >>= fun _ =>
      pure (.next .heartbeatRound) : M (Flow Karo)).Abides (booking Q) Freed .idle v :=
    Booked.freed (onTransportClose_booked.andThen fun _ => .pure (Q := fun _ => True) trivial)
  unfold sendPing
  refine Coro.abides_update_then .draws ?_
  rw [Coro.abides_read_then]
  refine Coro.abides_modify_then registerPing_books ?_
  refine Coro.abides_bind.mpr (Coro.abides_mono ?_ (wsSend_booking rfl))
  rintro g (e | ok) v ⟨hg, hsent⟩
  · exact fun _ h => by cases h
  · cases ok with
    | true =>
      obtain rfl := hsent rfl
      refine Coro.abides_attempt_then.mpr ⟨_, .pong rfl, fun r v _ => ?_⟩
      rcases r with e | rep
      · cases e with
        | timeout =>
          refine Coro.abides_modify_then (unregister_books rfl rfl) (Booked.freed
            (R := fun _ => True) (.read fun w => ?_))
          split
          · refine modify_then_booked (fun _ => .push rfl) ?_
            exact onTransportClose_booked.andThen fun _ => .pure trivial
          · exact .pure trivial
        | _ => exact fun _ h => by cases h
      · exact ⟨.idle, unregister_books rfl rfl, fun _ _ => rfl⟩
    | false => exact Coro.abides_modify_then (unregister_books hg rfl) hclosed

theorem pingRound_booking {n : Nat} : (pingRound σ me n).Abides (booking Q) Freed .idle w := by
  cases n with
  | zero => exact fun _ _ => rfl
  | succ left =>
    refine untilCancelled_booking ?_
    rw [Coro.abides_read_then]
    split
    · exact fun _ _ => rfl
    · split
      · exact sendPing_booking
      · exact fun _ _ => rfl

/-! ### Calls -/

/-- A call with a request, before its result is returned. -/
theorem taskCommand_booking {method : String} {taskId : PyStr} :
    (taskCommand method (encodeTaskCommand method) taskId).Abides (booking Q) Open .idle w := by
  unfold taskCommand
  rw [Coro.abides_read_then]
  split
  · trivial
  · refine Coro.abides_update_then .draws ?_
    split
    · trivial
    · rename_i cmd hcmd
      refine sent_booking (encodeTaskCommand_requestId hcmd) fun r v => ?_
      split <;> trivial

theorem createNavTask_booking {encode : Nat → Except Exn SdkCommand}
    (h : ∀ rid cmd, encode rid = .ok cmd → cmd.requestId = rid) :
    (createNavTask encode).Abides (booking Q) Open .idle w := by
  unfold createNavTask
  rw [Coro.abides_read_then]
  split
  · trivial
  · refine Coro.abides_update_then .draws ?_
    split
    · trivial
    · rename_i cmd hcmd
      refine sent_booking (h _ _ hcmd) fun r v => ?_
      split <;> trivial

theorem cmdVel_booking {vx vy wz : PyFloat} :
    (cmdVel vx vy wz).Abides (booking Q) Open .idle w := by
  have hfail : ∀ code msg, Booked Q (fun _ => True) (cmdVelFailed code msg) :=
    fun _ _ => modify_then_booked (fun _ => rfl) (.pure trivial)
  refine Coro.abides_mono (fun _ _ _ _ => trivial) (call_booking ?_)
  rw [Coro.abides_read_then]
  split
  · exact steady_open (hfail _ _)
  · refine Coro.abides_update_then (.still rfl) ?_
    split
    · exact steady_open (hfail _ _)
    · refine Coro.abides_modify_then (.still rfl) (Coro.abides_update_then .draws ?_)
      refine Coro.abides_update_then (.still rfl) ?_
      rw [Coro.abides_read_then]
      refine sent_booking rfl fun r v => steady_open (R := fun _ => True) ?_
      split
      · refine .read fun w => ?_
        dsimp only
        split
        · exact modify_then_booked (fun _ => rfl) (.pure trivial)
        · exact .pure trivial
      · exact hfail _ _
      · exact hfail _ _
      · exact .raise

theorem emergencyStop_booking {engage : Bool} {reason : PyStr} :
    (emergencyStop engage reason).Abides (booking Q) Open .idle w := by
  have hfail : ∀ code msg, Booked Q StaysAside (do
      let r ← emergencyStopFailed code msg
      pure (r, id)) := fun _ _ => by
    have hcount : ∀ w, Aside w (World.emergencyStopStat RpcStat.failed w) := fun _ => rfl
    exact (modify_then_booked (R := fun _ => True) hcount (.pure trivial)).andThen fun _ =>
      .pure fun w => .refl w
  refine Coro.abides_mono (fun _ _ _ _ => trivial) (scope_open ?_)
  rw [Coro.abides_read_then]
  split
  · exact fun _ h => by
      cases h
      exact fun w => .refl w
  · refine Coro.abides_modify_then (.still rfl) (Coro.abides_update_then .draws ?_)
    split
    · exact fun _ h => by cases h
    · rename_i cmd hcmd
      refine sent_booking (encodeEmergencyStop_ok hcmd).1 fun r v => ?_
      refine Coro.abides_mono (fun _ _ _ h => h.2)
        (Coro.Steady.mono (Q := StaysAside) (fun _ => id) ?_ v)
      split
      · unfold emergencyStopAnswered
        split
        · exact hfail _ _
        · exact .pure fun _ => rfl
      · exact hfail _ _
      · exact hfail _ _
      · exact .raise

theorem ping_booking : ping.Abides (booking Q) Open .idle w := by
  refine Coro.abides_mono (fun _ _ _ _ => trivial) (call_booking ?_)
  rw [Coro.abides_read_then]
  split
  · trivial
  · refine Coro.abides_modify_then (.still rfl) (Coro.abides_update_then .draws ?_)
    rw [Coro.abides_read_then]
    refine sent_booking rfl fun r v => steady_open (R := fun _ => True) ?_
    split
    · exact .read fun w => .pure trivial
    · exact modify_then_booked (fun _ => rfl) (.pure trivial)
    · exact modify_then_booked (fun _ => rfl) (.pure trivial)
    · exact .raise

/-! ### Bodies -/

theorem returning_booking {d : M ApiResult} (hd : d.Abides (booking Q) Open .idle w) :
    (returning me d).Abides (booking Q) Freed .idle w := by
  unfold returning
  rw [Coro.abides_bind]
  refine Coro.abides_mono ?_ hd
  rintro g (e | r) v -
  · exact fun _ h => by cases h
  · exact ⟨g, .still (.push rfl), fun _ h => by cases h⟩

theorem map_open {α β : Type} {f : α → β} {d : M α} (hd : d.Abides (booking Q) Open .idle w) :
    (f <$> d).Abides (booking Q) Open .idle w := by
  show (d >>= fun a => pure (f a)).Abides _ _ _ _
  rw [Coro.abides_bind]
  refine Coro.abides_mono ?_ hd
  rintro g (e | a) v -
  · trivial
  · trivial

theorem apiBody_booking {call : ApiCall} :
    (apiBody σ me call).Abides (booking Q) Freed .idle w := by
  cases call with
  | connect =>
    exact returning_booking (steady_open (modify_then_booked (R := fun _ => True)
      (fun _ => .connect) (.pure trivial)))
  | close =>
    exact returning_booking (steady_open (R := fun _ => True) (close_booked.andThen fun _ =>
      .pure trivial))
  | waitUntilReady timeout =>
    have hround : Booked Q (fun _ => True) (waitRound me timeout) :=
      waitRound_steady (fun _ _ => .still rfl) fun _ => .idles rfl
    refine Coro.abides_bind.mpr (Coro.abides_mono ?_ (hround w))
    rintro g (e | r) v ⟨rfl, -⟩
    · exact fun _ h => by cases h
    · cases r with
      | some b => exact returning_booking trivial
      | none => exact fun _ _ => rfl
  | subscribe topic hz => exact returning_booking (map_open (steady_open subscribeInternal_booked))
  | unsubscribe h => exact returning_booking (map_open (steady_open unsubscribe_booked))
  | cmdVel vx vy wz => exact returning_booking (map_open cmdVel_booking)
  | emergencyStop engage reason => exact returning_booking (map_open emergencyStop_booking)
  | createNavTaskMarker m =>
    refine returning_booking (map_open (createNavTask_booking fun _ _ => ?_))
    exact encodeCreateNavTaskMarker_requestId
  | createNavTaskPose x y theta =>
    refine returning_booking (map_open (createNavTask_booking fun _ _ => ?_))
    exact encodeCreateNavTaskPose_requestId
  | cancelTask i | pauseTask i | resumeTask i =>
    exact returning_booking (map_open taskCommand_booking)
  | ping => exact returning_booking (map_open ping_booking)

theorem andDone_freed {d : M Unit} (hd : Booked Q (fun _ => True) d) :
    (andDone d).Abides (booking Q) Freed .idle w :=
  Booked.freed (R := fun _ => True) (hd.andThen fun _ => .pure trivial)

/-- **All code keeps to the protocol of the requests**, and goes on between two of them. -/
theorem body_books {p : Proc} : (body σ me p).Abides (booking Q) Freed .idle w := by
  cases p with
  | run job =>
    cases job with
    | establishInitial => exact andDone_freed establish_booked
    | reader c =>
      refine Booked.freed (R := fun _ => True) (.read fun w => .pure trivial)
    | heartbeat =>
      exact Booked.freed (R := fun _ => True) ((Coro.Steady.enterBy same_books).andThen fun _ =>
        .pure trivial)
    | subWorker s =>
      refine Booked.freed (R := fun _ => True) (subWorkerRound_booked.andThen fun go => ?_)
      split
      · exact .pure trivial
      · exact .pure trivial
    | doReconnect n ms => exact andDone_freed doReconnect_booked
    | estopReplay => exact andDone_freed estopReplay_booked
    | subscribeAckTimeout rid topic => exact andDone_freed handleSubscribeAckTimeout_booked
    | abortToFatal code message => exact andDone_freed abortToFatal_booked
    | unsubscribeDropped u =>
      exact andDone_freed (unsubscribeRequest_booked.andThen fun _ => .pure trivial)
    | api call => exact apiBody_booking
  | readLoop c => exact readRound_booked.freed
  | drain c s K phase ep => exact drainRound_booked.freed
  | heartbeatRound => exact heartbeatRound_booking
  | pingRound left => exact pingRound_booking
  | neverRun => exact fun _ h => by cases h

end KaroX2
