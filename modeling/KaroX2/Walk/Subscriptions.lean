/-
KaroX2/Walk/Subscriptions.lean

Subscribing, acknowledgements, deliveries and unsubscribing follow the outline.
-/
import KaroX2.Walk.Calls

namespace KaroX2

open Coop Coro

variable {σ : Setup} {t : TaskId} {p : List Label} {a : Since Karo} {w w' : World}

/-! ### The subscribe request -/

theorem Subscribes.of_eq {s : SlotId} (h : Subscribes w s p) (hc : w'.conn = w.conn)
    (hl : w'.log = w.log) (hr : w'.subs.subs = w.subs.subs) : Subscribes w' s p := by
  cases h with
  | restoring isR ep c rest => exact .restoring isR ep c rest
  | retrying phase ep hep hs hreg => exact .retrying phase ep (hl ▸ hep) (hc ▸ hs) (hr ▸ hreg)
  | subscribing hs hreg => exact .subscribing (hc ▸ hs) (hr ▸ hreg)

theorem Subscribes.not_aborting {s : SlotId} (h : Subscribes w s p) : .abortToFatal ∉ p := by
  cases h <;> simp

theorem transmit_follows {q : List Label} {s : SlotId} {rid : Nat} {cmd : SdkCommand}
    {Q : Post Karo Bool} (hp : p = q ++ [.subscribing s rid])
    (sent : ∀ c rep w', Later w w' →
      Q (.ok true) ⟨t, p, .answered ⟨t, p, .wsSend c cmd⟩ (.ok rep)⟩ w')
    (failed : ∀ b w', Later w w' → Q (.ok false) ⟨t, p, b⟩ w')
    (raised : ∀ s r e w', Later w w' → Q (.error e) ⟨t, p, .answered s r⟩ w') :
    (transmit cmd).Follows (outline σ) p ⟨t, p, a⟩ Q w := by
  rw [transmit, follows_read_then]
  split
  · exact failed _ _ (.refl w)
  · rename_i c hw
    refine wsSend_follows hw (.inr (.inl ⟨q, s, rid, hp⟩)) (sent c) ?_ ?_ ?_
    · exact fun e w' hl _ => failed _ w' hl
    · exact fun w' hl => raised _ _ _ w' hl
    · exact fun _ => failed _ _ (.refl w)

/-- A subscribe request is sent, or the slot is closed, or the session is over. -/
theorem sendSubscribe_follows {s : SlotId} {since : Nat} {Q : Post Karo Unit}
    (h : Subscribes w s p) (hsince : since = 0 ∨ since = (w.subs.slots s).lastSeq + 1 ∧
      0 < (w.subs.slots s).lastSeq)
    (sent : ∀ rid c cmd rep w', Later w w' → Q (.ok ())
      ⟨t, p, .answered ⟨t, p ++ [.sendSubscribe s, .subscribing s rid], .wsSend c cmd⟩ (.ok rep)⟩ w')
    (unencodable : ∀ w', Later w w' → w'.conn = w.conn → epoch w'.log = epoch w.log →
      (w'.subs.slots s).state = .closed → Q (.ok ()) ⟨t, p, .called⟩ w')
    (ended : ∀ b w', Later w w' →
      epoch w.log < epoch w'.log ∨ w'.conn.state.terminal = true → Q (.ok ()) ⟨t, p, b⟩ w')
    (raised : ∀ s r e w', Later w w' → Q (.error e) ⟨t, p, .answered s r⟩ w') :
    (sendSubscribe σ t s since).Follows (outline σ) p ⟨t, p, a⟩ Q w := by
  have hleave : ∀ b v, (outline σ).step ⟨t, p ++ [.sendSubscribe s], b⟩ p v v :=
    fun b v => .inr (.inl ⟨_, rfl, .idle (.sendSubscribe s)⟩)
  refine follows_call (.sendSubscribe s h) ?_
  rw [nextRid]
  refine follows_update_then .bumpRid ?_
  have hbump : Later w w.bumpRid := Quiet.bumpRid.later
  rw [follows_read_then]
  dsimp only
  split
  · rename_i e _
    have hidle : ∀ b v, (outline σ).step ⟨t, p ++ [.sendSubscribe s] ++ [.unsendable s], b⟩
        (p ++ [.sendSubscribe s]) v v := fun b v => .inr (.inl ⟨_, rfl, .idle (.unsendable s)⟩)
    refine follows_scope (.unsendable p s e.text rfl rfl (h.of_eq rfl rfl rfl)) ?_
    refine ⟨rfl, hidle _ _, rfl, hleave _ _, ?_⟩
    have hclose : Silent (fun _ => False) w.bumpRid
        (w.bumpRid.closeSlot t (w.bumpRid.subs.slots s).topic s .internalError e.text) := .closeSlot
    refine unencodable _ (hbump.trans hclose.later) hclose.conn hclose.log.epoch_eq
      closeSlot_closed
  · rename_i cmd _
    have hreg : Later w.bumpRid (w.bumpRid.registerSubscribe s w.rpc.nextRequestId
        (effectiveSince (w.bumpRid.subs.slots s) since)) :=
      (Silent.registerSubscribe (q := fun _ => False)).later
    have hresumes : Resumes (w.bumpRid.subs.slots s)
        (effectiveSince (w.bumpRid.subs.slots s) since) := by
      unfold effectiveSince
      cases hsem : (w.bumpRid.subs.slots s).semantics with
      | telemetry => exact .inl rfl
      | event => exact hsince.imp_right fun h => ⟨h.1, h.2, hsem⟩
    have henter : Enters σ ⟨t, p ++ [.sendSubscribe s], .called⟩ w.bumpRid
        (.subscribing s w.rpc.nextRequestId) _ :=
      .subscribing p s _ (effectiveSince (w.bumpRid.subs.slots s) since) rfl rfl
        (h.of_eq rfl rfl rfl) rfl hresumes
    have hidle : ∀ b v, (outline σ).step
        ⟨t, p ++ [.sendSubscribe s] ++ [.subscribing s w.rpc.nextRequestId], b⟩
        (p ++ [.sendSubscribe s]) v v :=
      fun b v => .inr (.inl ⟨_, rfl, .idle (.subscribing s _)⟩)
    rw [follows_bind]
    refine follows_scope henter ?_
    rw [follows_bind]
    refine transmit_follows rfl ?_ ?_ ?_
    · intro c rep w₁ hl
      refine ⟨rfl, hidle _ _, ?_⟩
      rw [Post.andThen_ok, follows_when]
      refine ⟨nofun, fun _ => ⟨rfl, hleave _ _, ?_⟩⟩
      have hs := sent w.rpc.nextRequestId c cmd rep w₁ ((hbump.trans hreg).trans hl)
      simpa using hs
    · intro b w₁ hl
      refine ⟨rfl, hidle _ _, ?_⟩
      rw [Post.andThen_ok, follows_when]
      refine ⟨fun _ => ?_, fun hn => absurd rfl hn⟩
      have hl' : Later w w₁ := (hbump.trans hreg).trans hl
      refine onTransportCloseAfter_follows (.sendFailed p s _ rfl ⟨w, h⟩) ?_ ?_
      · intro b w' hl'' hep
        refine ⟨rfl, hleave _ _, ended b w' (hl'.trans hl'') ?_⟩
        exact hep.imp_left fun hlt => hl'.epoch_le.trans_lt hlt
      · intro s' r e w' hl'' _
        exact ⟨rfl, hleave _ _, raised s' r e w' (hl'.trans hl'')⟩
    · intro s' r e w₁ hl
      exact ⟨rfl, hidle _ _, rfl, hleave _ _, raised s' r e w₁ ((hbump.trans hreg).trans hl)⟩

theorem handleSubscribeAckTimeout_follows {rid : Nat} {topic : String} {Q : Post Karo Unit}
    (ht : w.tasks.procOf t = some (.subscribeAckTimeout rid topic))
    (hQ : ∀ r b w', Later w w' → Q r ⟨t, [], b⟩ w') :
    (handleSubscribeAckTimeout σ t rid topic).Follows (outline σ) [] ⟨t, [], a⟩ Q w := by
  rw [handleSubscribeAckTimeout, follows_read_then, follows_when]
  refine ⟨fun _ => ?_, fun _ => hQ _ _ _ (.refl w)⟩
  refine follows_quiet_then (.push rfl rfl) ?_
  refine onTransportClose_follows (.ackTimeout rid topic rfl ht) ?_ ?_
  · exact fun b w' hl _ => hQ _ b w' (Later.push.trans hl)
  · exact fun s r e w' hl _ => hQ _ _ w' (Later.push.trans hl)

theorem subscribeInternal_follows {topic : String} {hz : PyFloat} {Q : Post Karo SlotId}
    (hQ : ∀ r b w', Later w w' → Q r ⟨t, [], b⟩ w') :
    (subscribeInternal σ t topic hz).Follows (outline σ) [] ⟨t, [], a⟩ Q w := by
  obtain ⟨s, hs⟩ : ∃ s, s = w.subs.slotCount := ⟨_, rfl⟩
  have hbegin : Later w (w.beginSubscribe σ s topic hz) := hs ▸ .beginSubscribe
  have hraise : ∀ b v, (outline σ).step ⟨t, [.subscribe s], b⟩ [] v v :=
    fun b v => .inr (.inl ⟨_, rfl, .idle (.subscribe s)⟩)
  have hgive : ∀ b v, (outline σ).step ⟨t, [.subscribe s], b⟩ [] v (v.handOut s) :=
    fun b v => .inr (.inl ⟨_, rfl, .handedOut s⟩)
  have hout : ∀ v : World, Later v (v.handOut s) := fun v => Later.setSlot fun _ => by rfl
  rw [subscribeInternal, follows_read_then, ← hs]
  refine follows_scope (hs ▸ .subscribe topic hz rfl) ?_
  rw [follows_bind, follows_when]
  refine ⟨fun ⟨hfree, hready⟩ => ?_,
    fun _ => ⟨rfl, hgive _ _, hQ _ _ _ (hbegin.trans (hout _))⟩⟩
  have hv : Subscribes (w.beginSubscribe σ s topic hz) s [.subscribe s] :=
    .subscribing (by rw [beginSubscribe_conn, hready]) ⟨topic, beginSubscribe_get hfree⟩
  refine sendSubscribe_follows hv (.inl rfl) ?_ ?_ ?_ ?_
  · exact fun rid c cmd rep w' hl =>
      ⟨rfl, hgive _ _, hQ _ _ _ ((hbegin.trans hl).trans (hout _))⟩
  · exact fun w' hl _ _ _ => ⟨rfl, hgive _ _, hQ _ _ _ ((hbegin.trans hl).trans (hout _))⟩
  · exact fun b w' hl _ => ⟨rfl, hgive _ _, hQ _ _ _ ((hbegin.trans hl).trans (hout _))⟩
  · exact fun s r e w' hl => ⟨rfl, hraise _ _, hQ _ _ _ (hbegin.trans hl)⟩

/-! ### Delivery -/

theorem dispatchFrame_follows {s : SlotId} {push : DecodedTopicPush} {Q : Post Karo Unit}
    (hp : p = [] ∨ (∃ phase ep, p = [.handleSubscribeAck s phase ep]) ∧
      Running.Drains ⟨t, p, a⟩ w s)
    (ok : ∀ r w', Later w w' → r ≠ .error .cancelled →
      Q (.ok ()) ⟨t, p, .answered ⟨t, p, .callback s push⟩ r⟩ w')
    (cancelled : ∀ s r w', Later w w' → Q (.error .cancelled) ⟨t, p, .answered s r⟩ w') :
    (dispatchFrame s push).Follows (outline σ) p ⟨t, p, a⟩ Q w := by
  rw [dispatchFrame, swallow, follows_attempt_then, follows_bind]
  refine follows_suspend (.callback s push hp) fun r w₁ hl₁ _ => ?_
  have hl : Later w (w₁.resume t (.callback s push) r) := hl₁.trans resume_later
  -- what the callback raises is logged, unless the task is cancelled
  rcases r with e | rep
  · cases e with
    | cancelled => exact cancelled _ _ _ hl
    | _ => exact ok _ _ hl (by simp)
  · exact ok _ _ hl (by simp)

theorem deliverPushToSub_follows {s : SlotId} {push : DecodedTopicPush} {Q : Post Karo Unit}
    (hs : (w.subs.slots s).state = .active) (hQ : ∀ r b w', Later w w' → Q r ⟨t, [], b⟩ w') :
    (deliverPushToSub s push).Follows (outline σ) [] ⟨t, [], a⟩ Q w := by
  have hacc : Later w (w.acceptPush s push).2 := (Silent.acceptPush (q := fun _ => False)).later
  rw [deliverPushToSub]
  refine follows_update_by (.received s push rfl hs) ?_
  rw [follows_when]
  refine ⟨fun _ => ?_, fun _ => hQ _ _ _ hacc⟩
  refine dispatchFrame_follows (.inl rfl) ?_ ?_
  · exact fun r w' hl _ => hQ _ _ _ (hacc.trans hl)
  · exact fun s r w' hl => hQ _ _ _ (hacc.trans hl)

theorem handleSdkTopicPush_follows {push : DecodedTopicPush} {Q : Post Karo Unit}
    (hQ : ∀ r b w', Later w w' → Q r ⟨t, [], b⟩ w') :
    (handleSdkTopicPush push).Follows (outline σ) [] ⟨t, [], a⟩ Q w := by
  have quiet : ∀ {f : World → World}, Quiet w (f w) →
      (Coro.modify f : M Unit).Follows (outline σ) [] ⟨t, [], a⟩ Q w :=
    fun h => follows_move (.quiet h) (hQ _ _ _ h.later)
  rw [handleSdkTopicPush, follows_read_then]
  split
  · exact quiet (.push rfl rfl)
  · rename_i s _
    split
    -- closed, pending, paused, active
    · exact hQ _ _ _ (.refl w)
    · rename_i hs
      exact follows_move (.buffered s push rfl hs)
        (hQ _ _ _ (Silent.bufferPending (q := fun _ => False)).later)
    · exact quiet (.setSlot fun _ => rfl)
    · rename_i hs
      exact deliverPushToSub_follows hs hQ

theorem subWorkerRound_follows {s : SlotId} {Q : Post Karo Bool}
    (hQ : ∀ r b w', Later w w' → Q r ⟨t, [], b⟩ w') :
    (subWorkerRound s).Follows (outline σ) [] ⟨t, [], a⟩ Q w := by
  rw [subWorkerRound, follows_read_then]
  split
  · exact hQ _ _ _ (.refl w)
  · rw [follows_attempt_then]
    refine follows_suspend (.idling rfl (.inr ⟨s, rfl⟩)) fun r w₁ hl₁ _ => ?_
    have hl : Later w (w₁.resume t (.queueGet s) r) := hl₁.trans resume_later
    generalize w₁.resume t (.queueGet s) r = w₁ at hl ⊢
    rcases r with e | rep
    · exact hQ _ _ _ hl
    · have hpop : Quiet w₁ (w₁.popDispatch s).2 := .popDispatch
      refine follows_update_then hpop ?_
      have hl' : Later w (w₁.popDispatch s).2 := hl.trans hpop.later
      generalize w₁.popDispatch s = y at hl' ⊢
      obtain ⟨- | push, w₂⟩ := y
      · exact hQ _ _ _ hl'
      · rw [follows_read_then]
        dsimp only
        split
        -- the slot may have been closed while the worker waited
        · exact hQ _ _ _ hl'
        · rename_i hs
          refine follows_move_then (.dispatched s push rfl hs) ?_
          have hl' : Later w (w₂.push (.delivered s push)) := hl'.trans Later.push
          rw [follows_attempt_then]
          refine dispatchFrame_follows (.inl rfl) ?_ ?_
          · exact fun r w' h _ => hQ _ _ w' (hl'.trans h)
          · exact fun s r w' h => hQ _ _ w' (hl'.trans h)

/-! ### The acknowledgement -/

/-- What is known where an acknowledgement is handled without a suspension. -/
structure Acking (w : World) (topic : String) (s : SlotId) (phase : Bool) (ep : Nat) : Prop where
  epoch : ep = epoch w.log
  phase : phase = true ↔ w.conn.state = .reconnecting
  slot : w.subs.subs.get? topic = some s

theorem Acking.of_silent {topic : String} {s : SlotId} {phase : Bool} {ep : Nat}
    {q : TaskId → Prop} (h : Acking w topic s phase ep) (hw : Silent q w w')
    (hs : w'.subs.subs = w.subs.subs) : Acking w' topic s phase ep :=
  ⟨hw.log.epoch_eq ▸ h.epoch, hw.conn ▸ h.phase, hs ▸ h.slot⟩

section

variable {topic : String} {s : SlotId} {phase : Bool} {ep : Nat} {resp : DecodedResponse}

theorem ackFailed_follows {Q : Post Karo AckEnd} (h : Acking w topic s phase ep)
    (finished : ∀ f b w', Later w w' →
      Leaves σ ⟨t, [.handleSubscribeAck s phase ep], b⟩ [] w' (.handleSubscribeAck s phase ep) (f w') →
      Q (.ok (.finished f)) ⟨t, [.handleSubscribeAck s phase ep], b⟩ w')
    (raised : ∀ s' r e w', Later w w' →
      Q (.error e) ⟨t, [.handleSubscribeAck s phase ep], .answered s' r⟩ w') :
    (ackFailed σ t topic s phase resp).Follows (outline σ) [.handleSubscribeAck s phase ep]
      ⟨t, [.handleSubscribeAck s phase ep], .called⟩ Q w := by
  obtain ⟨rfl, hph, hs⟩ := h
  have hreject : ∀ code reason, Q (.ok (.finished (World.closeAndFinish t topic s code reason phase)))
      ⟨t, [.handleSubscribeAck s phase (epoch w.log)], .called⟩ w :=
    fun code reason => finished _ _ _ (.refl w) (.rejected s phase topic code reason rfl hph hs)
  rw [ackFailed]
  -- fatal, transient, and the rest, which closes the slot
  split
  · rw [follows_bind]
    refine abortToFatal_follows (.acking s phase _ rfl) ?_ raised
    intro b w' hl hfatal
    exact finished id b w' hl (.ackOver s phase _ (.inr (by rw [hfatal]; rfl)))
  · cases phase with
    | true =>
      rw [if_pos rfl, follows_bind]
      refine onTransportClose_follows (.acking s true _ rfl) ?_ ?_
      · intro b w' hl hep
        exact finished id b w' hl (.ackOver s true _ hep)
      · exact fun s' r e w' hl _ => raised s' r e w' hl
    | false =>
      refine finished _ _ _ (.refl w) (.dropped s topic resp.sdkCode resp.message rfl hs ?_)
      exact fun hr => nomatch hph.mpr hr
  · exact hreject _ _

theorem settleAck_follows {Q : Post Karo AckEnd} (h : Acking w topic s phase ep)
    (hlog : ∃ l, w.log = .acknowledged s resp :: l)
    (finished : ∀ f b w', Later w w' →
      Leaves σ ⟨t, [.handleSubscribeAck s phase ep], b⟩ [] w' (.handleSubscribeAck s phase ep) (f w') →
      Q (.ok (.finished f)) ⟨t, [.handleSubscribeAck s phase ep], b⟩ w')
    (drain : ∀ K w', Later w w' → Acking w' topic s phase ep → (w'.subs.slots s).state = .active →
      Q (.ok (.drain K)) ⟨t, [.handleSubscribeAck s phase ep], .called⟩ w')
    (raised : ∀ s' r e w', Later w w' →
      Q (.error e) ⟨t, [.handleSubscribeAck s phase ep], .answered s' r⟩ w') :
    (settleAck σ t topic s phase resp).Follows (outline σ) [.handleSubscribeAck s phase ep]
      ⟨t, [.handleSubscribeAck s phase ep], .called⟩ Q w := by
  have hreject : ∀ code reason, Q (.ok (.finished (World.closeAndFinish t topic s code reason phase)))
      ⟨t, [.handleSubscribeAck s phase ep], .called⟩ w := by
    obtain ⟨rfl, hph, hs⟩ := h
    exact fun code reason =>
      finished _ _ _ (.refl w) (.rejected s phase topic code reason rfl hph hs)
  have hactive : ∀ (f : World → World) (K : Nat), ¬resp.subAccepted = false →
      Silent (fun _ => False) w (f w) →
      (f w).subs.subs = w.subs.subs → ((f w).subs.slots s).state = .active →
      ((w.subs.slots s).semantics = .telemetry ∧ f w = w.activateTelemetry s ∨
        (w.subs.slots s).semantics = .event ∧ f w = w.activateEvent s resp.subNextSeq) →
      (Coro.modify f >>= fun _ => pure (.drain K) : M AckEnd).Follows (outline σ)
        [.handleSubscribeAck s phase ep] ⟨t, [.handleSubscribeAck s phase ep], .called⟩ Q w := by
    intro f K hacc hf hsubs hstate hact
    exact follows_move_then
      (.activated s phase ep resp rfl rfl ⟨topic, h.slot⟩ hlog (Bool.of_not_eq_false hacc) hact)
      (drain K _ hf.later (h.of_silent hf hsubs) hstate)
  rw [settleAck, follows_read_then]
  split
  -- a failed response; then telemetry, then events
  · exact ackFailed_follows h finished raised
  split
  · rename_i hsem
    split
    · exact hreject _ _
    · exact hactive _ 0 ‹_› .activateTelemetry rfl activateTelemetry_active (.inl ⟨hsem, rfl⟩)
  rename_i hsem
  have hsem : (w.subs.slots s).semantics = .event := by
    cases hs : (w.subs.slots s).semantics with
    | telemetry => exact absurd hs hsem
    | event => rfl
  split
  · split
    · split
      · exact hreject _ _
      · -- history cannot be replayed: subscribe afresh
        have hfresh : Silent (fun _ => False) w (w.startAfresh s) := .startAfresh
        refine follows_move_then (.startedAfresh s phase ep resp rfl rfl ⟨topic, h.slot⟩ hlog ‹_›) ?_
        have h' : Acking (w.startAfresh s) topic s phase ep := h.of_silent hfresh rfl
        have hl := hfresh.later
        generalize w.startAfresh s = w₁ at h' hl ⊢
        rw [follows_bind]
        refine sendSubscribe_follows (.retrying phase ep h'.epoch h'.phase ⟨topic, h'.slot⟩)
          (.inl rfl) ?_ ?_ ?_ ?_
        · intro rid c cmd rep w' hl'
          exact finished id _ w' (hl.trans hl') (.ackResent s phase ep rid c cmd rep rfl)
        · intro w' hl' hc hep hs
          obtain rfl : ep = epoch w'.log := h'.epoch.trans hep.symm
          exact finished id _ w' (hl.trans hl')
            (.ackUnencodable s phase rfl (hc ▸ h'.phase) hs)
        · intro b w' hl' hep
          refine finished id b w' (hl.trans hl') (.ackOver s phase ep ?_)
          exact hep.imp_left fun hlt => h'.epoch ▸ hlt
        · exact fun s' r e w' hl' => raised s' r e w' (hl.trans hl')
    · exact hreject _ _
  · exact hactive _ _ ‹_› .activateEvent rfl activateEvent_active (.inr ⟨hsem, rfl⟩)

end

/-- An acknowledgement is handled to the end, or up to the drain of the buffer. -/
theorem handleSubscribeAck_follows {c : WsId} {rep : Reply} {resp : DecodedResponse}
    {Q : Post Karo AckNext} (ht : w.tasks.procOf t = some (.reader c))
    (ha : a = .answered ⟨t, [], .recv c⟩ (.ok rep))
    (finished : ∀ b w', Later w w' → Q (.ok none) ⟨t, [], b⟩ w')
    (drain : ∀ s K phase ep w', Later w w' → ep = epoch w'.log →
      (phase = true ↔ w'.conn.state = .reconnecting) → (w'.subs.slots s).state = .active →
      Q (.ok (some (s, K, phase, ep))) ⟨t, [.handleSubscribeAck s phase ep], .called⟩ w')
    (raised : ∀ e b w', Later w w' → Q (.error e) ⟨t, [], b⟩ w') :
    (handleSubscribeAck σ t resp).Follows (outline σ) [] ⟨t, [], a⟩ Q w := by
  have htake : Later w (w.takeAck resp.requestId) := (Silent.takeAck (q := fun _ => False)).later
  rw [handleSubscribeAck, follows_read_then]
  split
  -- nobody waits for it
  · exact follows_quiet_then (.push rfl rfl) (finished _ _ Later.push)
  rename_i topic hi
  split
  -- the topic has no slot, or its slot waits for a later request
  · rename_i hn
    refine follows_move_then (.forgotten resp.requestId topic rfl hi ?_) (finished _ _ htake)
    intro s hs
    rw [hn] at hs
    cases hs
  rename_i s hs
  split
  · rename_i hr
    refine follows_move_then (.forgotten resp.requestId topic rfl hi ?_) (finished _ _ htake)
    intro s' hs'
    obtain rfl : s = s' := Option.some.inj (hs.symm.trans hs')
    exact hr
  rename_i hr
  have hr : (w.subs.slots s).inflightSubscribeRequestId = resp.requestId := not_not.mp hr
  have hbegin : Silent (fun _ => False) w (w.beginAck s resp) := .beginAck
  have hack : Acking (w.beginAck s resp) topic s (w.conn.state = .reconnecting)
      (epoch w.log) := by
    refine ⟨hbegin.log.epoch_eq.symm, ?_, ?_⟩
    · rw [hbegin.conn, decide_eq_true_iff]
    · rw [beginAck_subs]
      exact hs
  dsimp only
  refine follows_enter_then (.handleSubscribeAck c resp topic s rep rfl ht ha hi hs hr) ?_
  refine follows_within_then.mpr (settleAck_follows hack ⟨_, rfl⟩ ?_ ?_ ?_)
  · intro f b w' hl hleave
    exact follows_leave_then hleave (finished b _ ((hbegin.later.trans hl).trans hleave.later))
  · intro K w' hl h hs
    exact drain s K _ _ w' (hbegin.later.trans hl) h.epoch h.phase hs
  · intro s' r e w' hl
    exact follows_leave_then (.ackRaised s _ _ s' r rfl) (raised e _ w' (hbegin.later.trans hl))

/-- What is known of the reader between two rounds of the drain. -/
def Draining (t : TaskId) (s : SlotId) (phase : Bool) (ep : Nat) (a : Since Karo) (w : World) : Prop :=
  (a = .called ∧ ep = epoch w.log ∧ (phase = true ↔ w.conn.state = .reconnecting) ∧
      (w.subs.slots s).state = .active) ∨
    ∃ push r, a = .answered ⟨t, [.handleSubscribeAck s phase ep], .callback s push⟩ r ∧
      r ≠ .error .cancelled

theorem Draining.of_silent {s : SlotId} {phase : Bool} {ep : Nat} {q : TaskId → Prop}
    (h : Draining t s phase ep a w) (hw : Silent q w w')
    (hs : (w'.subs.slots s).state = (w.subs.slots s).state) : Draining t s phase ep a w' := by
  rcases h with ⟨ha, hep, hph, hact⟩ | h
  · exact .inl ⟨ha, hw.log.epoch_eq ▸ hep, hw.conn ▸ hph, hs.trans hact⟩
  · exact .inr h

theorem drainRound_follows {c : WsId} {s : SlotId} {K : Nat} {phase : Bool} {ep : Nat}
    {Q : Post Karo (Flow Karo)} (h : Draining t s phase ep a w)
    (ended : ∀ b w', Later w w' → Q (.ok (.next (.readLoop c))) ⟨t, [], b⟩ w')
    (again : ∀ b w', Later w w' → Draining t s phase ep b w' →
      Q (.ok (.next (.drain c s K phase ep))) ⟨t, [.handleSubscribeAck s phase ep], b⟩ w')
    (raised : ∀ e b w', Later w w' → Q (.error e) ⟨t, [], b⟩ w') :
    (drainRound c s K phase ep).Follows (outline σ) [] ⟨t, [.handleSubscribeAck s phase ep], a⟩ Q
      w := by
  rw [drainRound, follows_read_then]
  split
  · have hleave : Leaves σ ⟨t, [.handleSubscribeAck s phase ep], a⟩ [] w
        (.handleSubscribeAck s phase ep) (w.ackDone s phase) :=
      .acked s phase ep rfl h
    -- the buffer is empty, and the acknowledgement is done with
    exact follows_leave_then hleave (ended a _ hleave.later)
  · rename_i front rest hb
    have hfront : Silent (fun _ => False) w (w.drainFront s K front rest).2 := .drainFront
    have hmove : Move σ ⟨t, [.handleSubscribeAck s phase ep], a⟩ w (w.drainFront s K front rest).2 :=
      .drained s K front rest phase ep rfl hb (h.imp_left fun h => ⟨h.1, h.2.2.2⟩)
    refine follows_within_then.mpr (follows_update_by hmove ?_)
    rw [follows_when]
    refine ⟨fun _ => ?_, fun _ => again _ _ hfront.later (h.of_silent hfront Delivers.drainFront.state)⟩
    refine dispatchFrame_follows (.inr ⟨⟨phase, ep, rfl⟩, ?_⟩) ?_ ?_
    · exact h.imp_left fun h => ⟨h.1, Delivers.drainFront.state.trans h.2.2.2⟩
    · exact fun r w' hl hr => again _ _ (hfront.later.trans hl) (.inr ⟨front, r, rfl, hr⟩)
    · intro s' r w' hl
      exact follows_leave_then (.ackRaised s phase ep s' r rfl)
        (raised _ _ w' (hfront.later.trans hl))

/-! ### Unsubscribing -/

/-- The slot is closed when `unsubscribe_request` returns. -/
def ClosesSlot (t : TaskId) (topic : String) (s : SlotId) (f : World → World) : Prop :=
  ∃ code reason, f = World.closeSlot t topic s code reason ∨
    f = World.warnDropped topic ∘ World.closeSlot t topic s code reason

/-- What the task has been through when it closes the slot. -/
def ClosedAfter (p : List Label) (w : World) (a : Since Karo) : Prop :=
  a = .called ∨ ∃ site r, a = .answered site r ∧ p <+: site.path ∧ Unsubscribes w site r

theorem unsubscribeSlot_follows {h : SlotId} {topic : String} {s : SlotId} {syncWait : Bool}
    {Q : Post Karo (ErrorCode × (World → World))}
    (hp : p = [.unsubscribeRequest h syncWait, .unsubscribing topic s])
    (ok : ∀ code f b w', Later w w' → ClosesSlot t topic s f → ClosedAfter p w' b →
      Q (.ok (code, f)) ⟨t, p, b⟩ w')
    (raised : ∀ e b w', Later w w' → Q (.error e) ⟨t, p, b⟩ w') :
    (unsubscribeSlot t topic s syncWait).Follows (outline σ) p ⟨t, p, .called⟩ Q w := by
  have hclose : ∀ code reason, ClosesSlot t topic s (World.closeSlot t topic s code reason) :=
    fun code reason => ⟨code, reason, .inl rfl⟩
  have hgone : Q (.ok (unsubscribeSlot.disconnected t topic s syncWait)) ⟨t, p, .called⟩ w :=
    ok _ _ _ _ (.refl w) (hclose _ _) (.inl rfl)
  rw [unsubscribeSlot, follows_read_then]
  split
  · exact hgone
  rename_i c hw
  split
  swap
  · exact hgone
  rw [nextRid]
  refine follows_update_then .bumpRid ?_
  have hbump : Later w w.bumpRid := Quiet.bumpRid.later
  cases syncWait
  · -- the handle was dropped: the answer is not waited for
    rw [if_neg Bool.false_ne_true, follows_bind]
    have hwarn : ∀ b w', Later w w' → ClosedAfter p w' b → Q (.ok (.ok, World.warnDropped topic ∘
        World.closeSlot t topic s .ok "Unsubscribe()")) ⟨t, p, b⟩ w' :=
      fun b w' hl hb => ok _ _ b w' hl ⟨_, _, .inr rfl⟩ hb
    refine wsSend_follows hw (.inr (.inr (.inr ⟨h, topic, s, hp⟩))) ?_ ?_ ?_ ?_
    · intro rep w' hl
      have hmark : Quiet w' (w'.markUnsubscribed s) := .setSlot fun _ => rfl
      exact follows_quiet_then hmark (hwarn _ _ ((hbump.trans hl).trans hmark.later)
        (.inr ⟨_, _, rfl, List.prefix_rfl, h, topic, s, hp⟩))
    · exact fun e w' hl he => hwarn _ _ (hbump.trans hl) (.inr ⟨_, _, rfl, List.prefix_rfl, he⟩)
    · exact fun w' hl => raised _ _ _ (hbump.trans hl)
    · exact fun _ => hwarn _ _ hbump (.inl rfl)
  · rw [if_pos rfl, follows_attempt_then]
    refine sendRpcAndWait_follows (.unsubscribing h topic s hp rfl) rfl rfl ?_ ?_ ?_ ?_
    · intro b c' resp w' hl _ htook
      have hmark : Quiet w' (w'.markUnsubscribed s) := .setSlot fun _ => rfl
      obtain ⟨rep, hgot⟩ := htook.got
      have hf : w'.rpc.futures _ = .result resp := htook.future
      refine follows_quiet_then hmark
        (ok _ _ _ _ ((hbump.trans hl).trans hmark.later) (hclose _ _)
          (.inr ⟨_, _, hgot, List.prefix_append _ _, ?_⟩))
      show ((w'.markUnsubscribed s).rpc.futures _).settles = true
      rw [show (w'.markUnsubscribed s).rpc.futures _ = _ from hf]
      rfl
    · intro b e w' hl hlost
      have hl' := hbump.trans hl
      have hb : e.settles = true → ClosedAfter p w' b := by
        intro he
        cases hlost with
        | future c' rep _ hgot hf =>
          refine .inr ⟨_, _, hgot, List.prefix_append _ _, ?_⟩
          show (w'.rpc.futures _).settles = true
          rw [hf]
          exact he
        | send c' cmd e' hgot hne => exact .inr ⟨_, _, hgot, List.prefix_append _ _, hne⟩
      -- a time-out and an error of the SDK are the result of the call
      cases e with
      | timeout | sdk => exact ok _ _ _ _ hl' (hclose _ _) (hb rfl)
      | _ => exact raised _ _ _ hl'
    · exact fun s' r w' hl => raised _ _ _ (hbump.trans hl)
    · intro w' hl _ _
      exact ⟨ok _ _ _ _ (hbump.trans hl) (hclose _ _) (.inl rfl),
        ok _ _ _ _ (hbump.trans hl) (hclose _ _) (.inl rfl)⟩

theorem unsubscribeRequest_follows {h : SlotId} {syncWait : Bool} {Q : Post Karo ErrorCode}
    (hQ : ∀ r b w', Later w w' → Q r ⟨t, [], b⟩ w') :
    (unsubscribeRequest t h syncWait).Follows (outline σ) [] ⟨t, [], a⟩ Q w := by
  refine follows_call_idle (.unsubscribeRequest h syncWait rfl) (.unsubscribeRequest h syncWait) ?_
  rw [follows_read_then]
  dsimp only
  split
  · exact ⟨rfl, hQ _ _ _ (.refl w)⟩
  · rename_i s hs
    refine follows_scope (.unsubscribing h syncWait s rfl hs) ?_
    refine unsubscribeSlot_follows rfl ?_ ?_
    · rintro code f b w' hl ⟨code', reason, hf⟩ hb
      have hleave : Leaves σ ⟨t, [.unsubscribeRequest h syncWait,
          .unsubscribing (w.subs.slots h).topic s], b⟩ [.unsubscribeRequest h syncWait] w'
          (.unsubscribing (w.subs.slots h).topic s) (f w') := by
        refine .unsubscribed h syncWait _ s code' reason rfl hb ?_
        rcases hf with rfl | rfl
        · exact .inl rfl
        · exact .inr rfl
      exact ⟨rfl, .inr (.inl ⟨_, rfl, hleave⟩), rfl, hQ _ _ _ (hl.trans hleave.later)⟩
    · intro e b w' hl
      exact ⟨rfl, .inr (.inl ⟨_, rfl, .idle (.unsubscribing _ s)⟩), rfl, hQ _ _ _ hl⟩

theorem unsubscribe_follows {h : SlotId} {Q : Post Karo ErrorCode}
    (hQ : ∀ r b w', Later w w' → Q r ⟨t, [], b⟩ w') :
    (unsubscribe t h).Follows (outline σ) [] ⟨t, [], a⟩ Q w := by
  have hmark : Quiet w (w.markUserClosed h) := .setSlot fun _ => rfl
  rw [unsubscribe]
  refine follows_quiet_then hmark ?_
  exact unsubscribeRequest_follows fun r b w' hl => hQ r b w' (hmark.later.trans hl)

end KaroX2
