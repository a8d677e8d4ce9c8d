/-
KaroX2/Slots.lean

What the steps of the client do to the slots and to the registry `_subs`.

The life of a slot is told by its state, its error code and its place in the
registry.  `Alters` lists everything that a step can do to the three of them, and
from where: nothing, one slot closed, one slot opened, the registered slots
paused or closed, a new slot.
-/
import KaroX2.Progress

namespace KaroX2

open Coop Py

variable {σ : Setup} {w w' w₁ w₂ : World} {x : Running Karo} {me : TaskId}

/-! ### Effects -/

/-- Slots and registry are as before. -/
structure Same (w w' : World) : Prop where
  registry : w'.subs.subs = w.subs.subs
  slotCount : w'.subs.slotCount = w.subs.slotCount
  state : ∀ s, (w'.subs.slots s).state = (w.subs.slots s).state
  errorCode : ∀ s, (w'.subs.slots s).errorCode = (w.subs.slots s).errorCode

/-- The slot `s` is closed, and the topic is taken out of the registry. -/
structure Shut (topic : String) (s : SlotId) (w w' : World) : Prop where
  registry : w'.subs.subs = w.subs.subs.erase topic
  slotCount : w'.subs.slotCount = w.subs.slotCount
  closed : (w'.subs.slots s).state = .closed
  state : ∀ u, u ≠ s → (w'.subs.slots u).state = (w.subs.slots u).state
  errorCode : ∀ u, u ≠ s → (w'.subs.slots u).errorCode = (w.subs.slots u).errorCode

/-- The slot `s` waits for an acknowledgement, or is active. -/
structure Opened (s : SlotId) (w w' : World) : Prop where
  registry : w'.subs.subs = w.subs.subs
  slotCount : w'.subs.slotCount = w.subs.slotCount
  opened : (w'.subs.slots s).state ≠ .closed
  state : ∀ u, u ≠ s → (w'.subs.slots u).state = (w.subs.slots u).state

/-- Slots are paused, closed ones apart. -/
structure Paused (w w' : World) : Prop where
  registry : w'.subs.subs = w.subs.subs
  slotCount : w'.subs.slotCount = w.subs.slotCount
  state : ∀ s, (w'.subs.slots s).state = (w.subs.slots s).state ∨
    (w'.subs.slots s).state = .paused ∧ (w.subs.slots s).state ≠ .closed

/-- The registered slots are closed, and the registry is emptied. -/
structure Cleared (w w' : World) : Prop where
  registry : ∀ topic, w'.subs.subs.get? topic = none
  slotCount : w'.subs.slotCount = w.subs.slotCount
  closed : ∀ topic s, w.subs.subs.get? topic = some s → (w'.subs.slots s).state = .closed
  state : ∀ s, (w'.subs.slots s).state = .closed ∨
    (w'.subs.slots s).state = (w.subs.slots s).state

namespace Same

theorem refl : Same w w := ⟨rfl, rfl, fun _ => rfl, fun _ => rfl⟩

theorem trans {v : World} (h : Same w v) (h' : Same v w₂) : Same w w₂ :=
  ⟨h'.registry.trans h.registry, h'.slotCount.trans h.slotCount,
    fun s => (h'.state s).trans (h.state s), fun s => (h'.errorCode s).trans (h.errorCode s)⟩

theorem of_subs (h : w'.subs = w.subs) : Same w w' := by
  refine ⟨?_, ?_, fun s => ?_, fun s => ?_⟩ <;> rw [h]

theorem of_quiet (h : Quiet w w') : Same w w' :=
  ⟨h.registry, h.slotCount, fun s => congrArg SubSlot.Control.state (h.control s),
    fun s => congrArg SubSlot.Control.errorCode (h.control s)⟩

theorem setSlot {s : SlotId} {f : SubSlot → SubSlot} (hs : ∀ y, (f y).state = y.state)
    (he : ∀ y, (f y).errorCode = y.errorCode) : Same w (w.setSlot s f) where
  registry := rfl
  slotCount := rfl
  state := fun u => by
    rcases eq_or_ne u s with rfl | h
    · simp [World.setSlot, hs]
    · simp [World.setSlot, h]
  errorCode := fun u => by
    rcases eq_or_ne u s with rfl | h
    · simp [World.setSlot, he]
    · simp [World.setSlot, h]

theorem of_delivers {s : SlotId} (h : Delivers s w w') : Same w w' where
  registry := h.registry
  slotCount := h.slotCount
  state := fun u => by
    rcases eq_or_ne u s with rfl | hu
    · exact h.state
    · rw [h.other u hu]
  errorCode := fun u => by
    rcases eq_or_ne u s with rfl | hu
    · exact h.errorCode
    · rw [h.other u hu]

theorem foldl {α : Type} {f : World → α → World} (hf : ∀ v y, Same v (f v y)) (l : List α)
    (w : World) : Same w (l.foldl f w) := by
  induction l generalizing w with
  | nil => exact refl
  | cons y l ih => exact (hf w y).trans (ih _)

theorem cancelOther {u : Option TaskId} : Same w (w.cancelOther me u) := of_subs cancelOther_subs

theorem failInflight {e : Exn} : Same w (w.failInflight e) := by
  refine (foldl (f := World.failRequest e) (fun v y => ?_) w.rpc.inflight.items w).trans
    (of_subs rfl)
  apply of_subs
  unfold World.failRequest
  cases y.2.timeoutHandle with
  | none => exact Quiet.resolve_subs
  | some h => exact Quiet.resolve_subs

theorem clearSubAcks : Same w w.clearSubAcks := by
  have h := foldl (f := fun v h => v.cancelTimer h) (fun _ _ => of_subs rfl)
    w.subs.subAckTimers.values w
  exact ⟨h.registry, h.slotCount, h.state, h.errorCode⟩

theorem takeAck {rid : Nat} : Same w (w.takeAck rid) := by
  refine ⟨?_, ?_, fun s => ?_, fun s => ?_⟩ <;> rw [takeAck_subs]

theorem beginAck {s : SlotId} {resp : DecodedResponse} : Same w (w.beginAck s resp) := by
  have h : Same w ((w.takeAck resp.requestId).setSlot s fun y =>
      { y with inflightSubscribeRequestId := 0 }) :=
    takeAck.trans (setSlot (fun _ => rfl) fun _ => rfl)
  exact h.trans (of_subs rfl)

theorem unregisterSubscribe {s : SlotId} {rid : Nat} : Same w (w.unregisterSubscribe s rid) := by
  have h : Same w ((w.cancelTimer rid).setSlot s fun y =>
      { y with inflightSubscribeRequestId := 0 }) :=
    trans (v := w.cancelTimer rid) (of_subs rfl) (setSlot (fun _ => rfl) fun _ => rfl)
  exact ⟨h.registry, h.slotCount, h.state, h.errorCode⟩

theorem maybeFinishReconnect {phase : Bool} : Same w (w.maybeFinishReconnect phase) := by
  apply of_subs
  have h := maybeFinishReconnect_finishes w phase
  generalize w.maybeFinishReconnect phase = v at h ⊢
  cases h with
  | refused | counted => rfl
  | finished => exact transition_subs

theorem ackDone {s : SlotId} {phase : Bool} : Same w (w.ackDone s phase) := by
  have h : Same w (w.setSlot s fun y => { y with everActive := true, isReconnectResume := false }) :=
    setSlot (fun _ => rfl) fun _ => rfl
  exact h.trans maybeFinishReconnect

theorem retry : Same w (w.retry σ) := by
  apply of_subs
  have h := retry_retries (σ := σ) w
  generalize w.retry σ = v at h ⊢
  cases h <;> rfl

theorem fail {code : ErrorCode} {message : String} : Same w (w.fail code message) :=
  of_subs transition_subs

theorem resolveAllSemantics : Same w w.resolveAllSemantics :=
  foldl (fun _ _ => setSlot (fun _ => by rfl) fun _ => by rfl) w.subs.subs.values w

theorem beginSession {isR : Bool} {c : WsId} {resp : DecodedResponse} :
    Same w (w.beginSession σ isR c resp) := by
  obtain ⟨v, -, hv, hstart⟩ := startHeartbeat_eq (σ := σ) (w := w.setRobotInfo resp)
  have hstart : Same w ((w.setRobotInfo resp).startHeartbeat σ) := by
    apply of_subs
    rw [hstart]
    split <;> exact hv
  have harm : ∀ v : World, Same v v.armReconnect := by
    intro v
    apply of_subs
    unfold World.armReconnect World.reconnectOk
    dsimp only
    split
    · exact transition_subs
    · rfl
  unfold World.beginSession
  dsimp only
  refine (hstart.trans resolveAllSemantics).trans ?_
  split
  · exact trans (v := World.push _ _) (of_subs rfl) (harm _)
  · exact trans (v := World.push _ _) (of_subs rfl) (of_subs transition_subs)

end Same

theorem Shut.closeSlot {topic : String} {s : SlotId} {code : ErrorCode} {reason : String} :
    Shut topic s w (w.closeSlot me topic s code reason) := by
  refine ⟨?_, ?_, ?_, fun u hu => ?_, fun u hu => ?_⟩ <;> rw [closeSlot_subs]
  · rfl
  · simp [World.setSlot]
  · simp [World.setSlot, hu]
  · simp [World.setSlot, hu]

theorem Shut.andSame {topic : String} {s : SlotId} (h : Shut topic s w w₁) (h' : Same w₁ w₂) :
    Shut topic s w w₂ :=
  ⟨h'.registry.trans h.registry, h'.slotCount.trans h.slotCount, (h'.state s).trans h.closed,
    fun u hu => (h'.state u).trans (h.state u hu),
    fun u hu => (h'.errorCode u).trans (h.errorCode u hu)⟩

theorem Opened.activateTelemetry {s : SlotId} : Opened s w (w.activateTelemetry s) :=
  ⟨rfl, rfl, by simp [activateTelemetry_active], fun u hu => by
    simp [World.activateTelemetry, World.fireStatus, World.push, World.setSlot, hu]⟩

theorem Opened.activateEvent {s : SlotId} {K : Nat} : Opened s w (w.activateEvent s K) :=
  ⟨rfl, rfl, by simp [activateEvent_active], fun u hu => by
    simp [World.activateEvent, World.fireStatus, World.push, World.setSlot, hu]⟩

theorem Opened.registerSubscribe {s : SlotId} {rid since : Nat} :
    Opened s w (w.registerSubscribe s rid since) :=
  ⟨rfl, rfl, by simp [World.registerSubscribe, World.callLater, World.setSlot], fun u hu => by
    simp [World.registerSubscribe, World.callLater, World.setSlot, hu]⟩

namespace Paused

theorem of_same (h : Same w w') : Paused w w' := ⟨h.registry, h.slotCount, fun s => .inl (h.state s)⟩

theorem trans (h : Paused w w₁) (h' : Paused w₁ w₂) : Paused w w₂ := by
  refine ⟨h'.registry.trans h.registry, h'.slotCount.trans h.slotCount, fun s => ?_⟩
  rcases h'.state s with hs' | ⟨hs', hn'⟩
  · rw [hs']
    exact h.state s
  · rcases h.state s with hs | ⟨-, hn⟩
    · exact .inr ⟨hs', hs ▸ hn'⟩
    · exact .inr ⟨hs', hn⟩

theorem pauseSlot {reason : ErrorCode} {msg : String} {s : SlotId} :
    Paused w (w.pauseSlot reason msg s) := by
  have hlast : ∀ v : World, Paused v (v.setSlot s fun y =>
      { y with pendingBuffer := [], inflightSubscribeRequestId := 0 }) :=
    fun v => of_same (.setSlot (fun _ => rfl) fun _ => rfl)
  unfold World.pauseSlot
  dsimp only
  refine Paused.trans ?_ (hlast _)
  split
  · rename_i hs
    refine ⟨rfl, rfl, fun u => ?_⟩
    rcases eq_or_ne u s with rfl | hu
    · refine .inr ⟨by simp [World.fireStatus, World.push, World.setSlot], ?_⟩
      rcases hs with hs | hs <;> simp [hs]
    · exact .inl (by simp [World.fireStatus, World.push, World.setSlot, hu])
  · exact of_same .refl

theorem pauseSlots {reason : ErrorCode} {msg : String} : Paused w (w.pauseSlots reason msg) := by
  unfold World.pauseSlots
  generalize w.subs.subs.values = l
  induction l generalizing w with
  | nil => exact of_same .refl
  | cons s l ih => exact pauseSlot.trans ih

theorem loseTransport {reason : ErrorCode} {msg : String} :
    Paused w (w.loseTransport σ me reason msg) := by
  have hpush : Paused w (w.push (.transportClose reason msg)) := of_same (.of_subs rfl)
  have hpause : Paused w ((w.push (.transportClose reason msg)).pauseSlots reason msg) :=
    hpush.trans pauseSlots
  have hrest : ∀ v : World, Same v { (v.failInflight (.sdk reason msg)).clearSubAcks.cancelOther me
      (v.failInflight (.sdk reason msg)).clearSubAcks.conn.heartbeatTask with hb.missCount := 0 } :=
    fun v => ((Same.failInflight.trans .clearSubAcks).trans .cancelOther).trans (.of_subs rfl)
  exact (hpause.trans (of_same (hrest _))).trans (of_same (.of_subs transientFailure_subs))

end Paused

namespace Cleared

theorem closeSlotOnce_state (me : TaskId) (code : ErrorCode) (reason : String) (s : SlotId) :
    (w.closeSlotOnce me code reason s).subs.slotCount = w.subs.slotCount ∧
    ((w.closeSlotOnce me code reason s).subs.slots s).state = .closed ∧
    ∀ u, u ≠ s → ((w.closeSlotOnce me code reason s).subs.slots u).state = (w.subs.slots u).state := by
  unfold World.closeSlotOnce World.stopSubWorker
  dsimp only
  rw [cancelOther_subs]
  split
  · exact ⟨rfl, ‹_›, fun _ _ => rfl⟩
  · refine ⟨rfl, ?_, fun u hu => ?_⟩
    · simp [World.markClosed, World.fireStatus, World.push, World.setSlot]
    · simp [World.markClosed, World.fireStatus, World.push, World.setSlot, hu]

/-- The loop over the slots closes them one after the other. -/
theorem closeEach (me : TaskId) (code : ErrorCode) (reason : String) (l : List SlotId) (w : World) :
    (l.foldl (World.closeSlotOnce me code reason) w).subs.slotCount = w.subs.slotCount ∧
    ∀ u, ((l.foldl (World.closeSlotOnce me code reason) w).subs.slots u).state = .closed ∨
      u ∉ l ∧ ((l.foldl (World.closeSlotOnce me code reason) w).subs.slots u).state
        = (w.subs.slots u).state := by
  induction l generalizing w with
  | nil => exact ⟨rfl, fun u => .inr ⟨by simp, rfl⟩⟩
  | cons s l ih =>
    obtain ⟨hcount, hclosed, hother⟩ :=
      closeSlotOnce_state (w := w) me code reason s
    obtain ⟨hc, hu⟩ := ih (w.closeSlotOnce me code reason s)
    refine ⟨hc.trans hcount, fun u => ?_⟩
    rw [List.foldl_cons]
    rcases hu u with h | ⟨hn, h⟩
    · exact .inl h
    · rcases eq_or_ne u s with rfl | hne
      · exact .inl (h.trans hclosed)
      · exact .inr ⟨by simp [hne, hn], h.trans (hother u hne)⟩

theorem closeAllSlots {code : ErrorCode} {reason : String} :
    Cleared w (w.closeAllSlots me code reason) := by
  obtain ⟨hc, hu⟩ := closeEach me code reason w.subs.subs.values w
  refine ⟨fun _ => rfl, hc, fun topic s hs => ?_, fun s => (hu s).imp_right And.right⟩
  refine (hu s).resolve_right fun h => h.1 ?_
  exact Dict.mem_values_iff.mpr ⟨topic, hs⟩

theorem andSame (h : Cleared w w₁) (h' : Same w₁ w₂) : Cleared w w₂ where
  registry := fun topic => by rw [h'.registry, h.registry]
  slotCount := h'.slotCount.trans h.slotCount
  closed := fun topic s hs => (h'.state s).trans (h.closed topic s hs)
  state := fun s => by
    rw [h'.state s]
    exact h.state s

theorem of_same (h : Same w w₁) (h' : Cleared w₁ w₂) : Cleared w w₂ where
  registry := h'.registry
  slotCount := h'.slotCount.trans h.slotCount
  closed := fun topic s hs => h'.closed topic s (h.registry ▸ hs)
  state := fun s => by
    rw [← h.state s]
    exact h'.state s

theorem abandon {code : ErrorCode} {message : String} :
    Cleared w (w.abandon me code message) := by
  have hrest : ∀ v : World, Same v (((v.failInflight (.sdk code message)).clearSubAcks.cancelOther me
      (v.failInflight (.sdk code message)).clearSubAcks.conn.heartbeatTask).cancelOther me
      ((v.failInflight (.sdk code message)).clearSubAcks.cancelOther me
        (v.failInflight (.sdk code message)).clearSubAcks.conn.heartbeatTask).conn.reconnectTask) :=
    fun v => ((Same.failInflight.trans .clearSubAcks).trans .cancelOther).trans .cancelOther
  exact closeAllSlots.andSame (hrest _)

theorem shutDown : Cleared w (w.shutDown me) := by
  have h₁ : Same w (w.transition .shutdown
      { reason := "user close()", lastErrorCode := .cancelled }) := .of_subs transition_subs
  have h₂ : ∀ v : World, Cleared v (v.closeDown me) := by
    intro v
    refine of_same ?_ closeAllSlots
    exact ((Same.cancelOther.trans .cancelOther).trans .failInflight).trans .clearSubAcks
  exact of_same h₁ (h₂ _)

end Cleared

/-! ### What a step does -/

/-- Where a slot is closed by itself. -/
inductive Closing (x : Running Karo) (w : World) (topic : String) (s : SlotId) : Prop
  | acking (q : List Label) (phase : Bool) (ep : Nat)
      (hp : x.path = q ++ [.handleSubscribeAck s phase ep]) (hx : x.since = .called)
      (hs : w.subs.subs.get? topic = some s)
  | unsubscribed (h : SlotId) (syncWait : Bool)
      (hp : x.path = [.unsubscribeRequest h syncWait, .unsubscribing topic s])
      (hx : x.since = .called ∨
        ∃ site r, x.since = .answered site r ∧ x.path <+: site.path ∧ Unsubscribes w site r)

/-- What a step does to the slots and the registry. -/
inductive Alters (x : Running Karo) (w w' : World) : Prop
  | kept (h : Same w w')
  | closes (topic : String) (s : SlotId) (hx : Closing x w topic s) (h : Shut topic s w w')
  | activates (s : SlotId) (phase : Bool) (ep : Nat) (hp : x.path = [.handleSubscribeAck s phase ep])
      (hs : ∃ topic, w.subs.subs.get? topic = some s) (h : Opened s w w')
  | pauses (q : List Label) (hp : x.path = q ++ [.onTransportClose]) (h : Paused w w')
  | clears (hp : x.path = [.close]) (h : Cleared w w')

theorem Move.alters (h : Move σ x w w') : Alters x w w' := by
  cases h with
  | quiet h => exact .kept (.of_quiet h)
  | sent | answered | streamEnded | closeFired | dispatched | latched =>
    exact .kept (.of_subs rfl)
  | connected =>
    refine .kept (.of_subs ?_)
    unfold World.connect
    split <;> rfl
  | buffered | startedAfresh => exact .kept (.setSlot (fun _ => rfl) fun _ => rfl)
  | received => exact .kept (.of_delivers .acceptPush)
  | drained => exact .kept (.of_delivers .drainFront)
  | activated s phase ep resp hp hx hs hl ha h =>
    refine .activates s phase ep hp hs ?_
    rcases h with ⟨-, rfl⟩ | ⟨-, rfl⟩
    · exact .activateTelemetry
    · exact .activateEvent
  | forgotten => exact .kept .takeAck
  | lost q reason msg hp => exact .pauses q hp .loseTransport
  | shutDown hp => exact .clears hp .shutDown
  | aborted => exact .kept .fail
  | turnedDown => exact .kept (.of_subs transientFailure_subs)

theorem Leaves.alters {l : Label} {q : List Label} (hp : x.path = q ++ [l])
    (h : Leaves σ x q w l w') : Alters x w w' := by
  cases h with
  | idle | lossIgnored | lossRaised | ackOver | ackResent | ackUnencodable | ackRaised =>
    exact .kept .refl
  | dialFailed isR ep code message =>
    have h : Same w (w.transientFailure σ "ws connect failed" code message) :=
      .of_subs transientFailure_subs
    exact .kept (h.trans .retry)
  | retried | lossHandled => exact .kept .retry
  | restored isR =>
    refine .kept (.of_subs ?_)
    unfold World.restored World.startReplay
    split
    · split <;> rfl
    · rfl
  | closed p l c last hq hx hl =>
    refine .kept ?_
    rcases hl with ⟨-, rfl⟩ | ⟨-, code, message, rfl⟩
    · exact .of_subs rfl
    · exact Same.trans (v := w.clearWs) (.of_subs rfl) .fail
  | rejected s phase topic code reason hx hph hs =>
    exact .closes topic s (.acking q phase _ hp hx hs) (Shut.closeSlot.andSame .maybeFinishReconnect)
  | dropped s topic code reason hx hs =>
    exact .closes topic s (.acking q _ _ hp hx hs) .closeSlot
  | acked => exact .kept .ackDone
  | replayed =>
    refine .kept (.of_subs ?_)
    unfold World.estopReplayed World.replayOk
    dsimp only
    split
    · exact transition_subs
    · rfl
  | intended => exact .kept (.of_subs rfl)
  | unsubscribed h b topic s code reason hp' hx h =>
    refine .closes topic s (.unsubscribed _ _ hp' hx) ?_
    rcases h with rfl | rfl
    · exact .closeSlot
    · exact Shut.closeSlot.andSame (.of_subs rfl)
  | handedOut => exact .kept (.setSlot (fun _ => rfl) fun _ => rfl)

theorem Becomes.alters {q : List Label} (h : Becomes σ x w q w') : Alters x w w' := by
  cases h with
  | reconnects => exact .kept (.of_subs transition_subs)
  | installs => exact .kept (.of_subs rfl)
  | begins => exact .kept .beginSession
  | restores => exact .kept .refl

theorem step_alters {q : List Label} (h : (outline σ).step x q w w') : Alters x w w' := by
  rcases h with ⟨-, h⟩ | ⟨l, hp, h⟩ | h
  · exact h.alters
  · exact h.alters hp
  · exact h.alters

/-! ### What the begin of a call does -/

/-- A subscribe call takes the slot `s`. -/
structure Created (topic : String) (s : SlotId) (w w' : World) : Prop where
  registry : w'.subs.subs = if w.subs.subs.has topic then w.subs.subs
    else w.subs.subs.insert topic s
  slotCount : w'.subs.slotCount = s + 1
  closed : (w'.subs.slots s).state = .closed ↔ w.subs.subs.has topic = true
  named : (w'.subs.slots s).topic = topic
  other : ∀ u, u ≠ s → w'.subs.slots u = w.subs.slots u

theorem Created.beginSubscribe {s : SlotId} {topic : String} {hz : PyFloat} :
    Created topic s w (w.beginSubscribe σ s topic hz) := by
  unfold World.beginSubscribe
  split
  · rename_i h
    refine ⟨?_, rfl, ?_, ?_, fun u hu => ?_⟩ <;>
      simp_all [World.newSlot, World.markClosed, World.fireStatus, World.push, World.setSlot]
  · rename_i h
    -- the worker of the slot is no part of its life
    have hnew : Created topic s w { w.newSlot σ s topic hz with
        subs.subs := (w.newSlot σ s topic hz).subs.subs.insert topic s } := by
      refine ⟨?_, rfl, ?_, ?_, fun u hu => ?_⟩ <;> simp_all [World.newSlot, World.setSlot]
    unfold World.enlist
    generalize { w.newSlot σ s topic hz with
      subs.subs := (w.newSlot σ s topic hz).subs.subs.insert topic s } = v at hnew ⊢
    rcases startSubWorker_cases v s with ⟨f, hv, hf⟩ | ⟨q, hv⟩
    · have ht : ∀ y, (f y).topic = y.topic := fun y => congrArg SubSlot.Control.topic (hf y)
      have hs : ∀ y, (f y).state = y.state := fun y => congrArg SubSlot.Control.state (hf y)
      rw [hv]
      refine ⟨hnew.registry, hnew.slotCount, ?_, ?_, fun u hu => ?_⟩
      · simpa [World.setSlot, hs] using hnew.closed
      · simpa [World.setSlot, ht] using hnew.named
      · simpa [World.setSlot, hu] using hnew.other u hu
    · rw [hv]
      refine ⟨hnew.registry, hnew.slotCount, ?_, ?_, fun u hu => ?_⟩
      · simpa [World.setSlot, World.spawn] using hnew.closed
      · simpa [World.setSlot, World.spawn] using hnew.named
      · simpa [World.setSlot, World.spawn, hu] using hnew.other u hu

/-- What the begin of a call does to the slots and the registry. -/
inductive Begins (x : Running Karo) (w w' : World) : Label → Prop
  | kept {l : Label} (h : Same w w') : Begins x w w' l
  | closes (q : List Label) (s : SlotId) (hp : x.path = q ++ [.sendSubscribe s])
      (h : Shut (w.subs.slots s).topic s w w') : Begins x w w' (.unsendable s)
  | registers (q : List Label) (s : SlotId) (rid : Nat) (hp : x.path = q ++ [.sendSubscribe s])
      (h : Opened s w w') : Begins x w w' (.subscribing s rid)
  | clears (hp : Aborting x) (h : Cleared w w') : Begins x w w' .abortToFatal
  | subscribes (topic : String) (hp : x.path = []) (h : Created topic w.subs.slotCount w w') :
      Begins x w w' (.subscribe w.subs.slotCount)

theorem Enters.begins {l : Label} (h : Enters σ x w l w') : Begins x w w' l := by
  cases h with
  | establish => exact .kept (.of_subs transition_subs)
  | unsendable q s reason hp => exact .closes q s hp .closeSlot
  | subscribing q s rid since hp => exact .registers q s rid hp .registerSubscribe
  | sendFailed => exact .kept .unregisterSubscribe
  | replayFailed => exact .kept (.of_subs rfl)
  | abortToFatal code message hp => exact .clears hp .abandon
  | handleSubscribeAck => exact .kept .beginAck
  | subscribe topic hz hp => exact .subscribes topic hp .beginSubscribe
  | _ => exact .kept .refl

/-! ### Between the steps -/

theorem start_same {t : TaskId} : Same w ((robot σ).start t w) := .of_subs rfl

theorem resume_same {t : TaskId} {op : Op} {r : Except Exn Reply} :
    Same w ((robot σ).resume t op r w) := by
  obtain ⟨ts, evt, h, -⟩ := resume_eq t op r w
  exact .of_subs (by rw [show (robot σ).resume t op r w = _ from h])

theorem finish_same {t : TaskId} {r : Except Exn Unit} : Same w ((robot σ).finish t r w) := by
  obtain ⟨l, ts, h, -⟩ := finish_eq w t r
  exact .of_subs (by rw [show (robot σ).finish t r w = _ from h])

theorem env_same {e : EnvStep} (h : (robot σ).env e w = some w') : Same w w' := by
  cases env_env h with
  | quiet hq => exact .of_quiet hq
  | cancels | calls => exact .of_subs rfl
  | acks hq => exact (Same.of_quiet hq).trans (.of_subs rfl)
  | drops hq => exact (Same.of_quiet hq).trans (.of_subs rfl)

end KaroX2
