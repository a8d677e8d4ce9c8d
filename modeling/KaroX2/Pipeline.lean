/-
KaroX2/Pipeline.lean

The way of a push through a slot in the mode DISPATCHED: the pending buffer before the
acknowledgement, the queue of the dispatch worker behind it.

The two buffers of a slot are a `Queue.Pipe`.  What changes them are the arrival of a
push, the acknowledgement with its drain, and the dispatch worker; none of them is
suspended in between, so each is one step.  A step of the code is a run of the pipe,
and what a run of the pipe keeps is what becomes of the pushes.
-/
import KaroX2.Coop.Spin
import KaroX2.Queue.Pipe
import KaroX2.Resumption

namespace KaroX2

open Coop Queue

variable {σ : Setup} {w w' v : World} {s : SlotId} {me : TaskId}

/-! ### The buffers of a slot -/

/-- What of a slot its buffers depend on. -/
structure Piped where
  state : SubscriptionState
  callbackMode : CallbackMode
  dropPolicy : DropPolicy
  queueSize : Nat
  pendingBuffer : List DecodedTopicPush
  dispatchQueue : Option (List DecodedTopicPush)
  dropCount : Nat

def SubSlot.piped (x : SubSlot) : Piped :=
  ⟨x.state, x.callbackMode, x.dropPolicy, x.queueSize, x.pendingBuffer, x.dispatchQueue, x.dropCount⟩

def World.piped (w : World) (s : SlotId) : Piped := (w.subs.slots s).piped

/-- The buffers as a pipe. -/
def Piped.pipe (x : Piped) : Pipe DecodedTopicPush :=
  ⟨x.pendingBuffer, x.dispatchQueue.getD [], x.dropCount⟩

/-- A full buffer drops its oldest push. -/
def Piped.keepsNew (x : Piped) : Bool := x.dropPolicy = .dropOldest

/-- The slot dispatches; while it is active nothing is pending. -/
structure Piped.Ready (x : Piped) : Prop where
  mode : x.callbackMode = .dispatched
  queue : x.dispatchQueue.isSome = true
  gate : x.state = .active → x.pendingBuffer = []

/-- The rules of the slot are as before. -/
structure Piped.SameRules (x y : Piped) : Prop where
  mode : y.callbackMode = x.callbackMode
  policy : y.dropPolicy = x.dropPolicy
  size : y.queueSize = x.queueSize

theorem enqueue_eq_offer (x : SubSlot) (q : List DecodedTopicPush) (push : DecodedTopicPush) :
    x.enqueue q push = offer x.queueSize x.piped.keepsNew q push := by
  unfold SubSlot.enqueue offer
  split
  · cases h : x.dropPolicy with
    | dropOldest =>
      -- a full queue loses its oldest push or the new one, by the policy
      rw [if_pos (by simp [Piped.keepsNew, SubSlot.piped, h])]
    | dropNewest =>
      rw [if_neg (by simp [Piped.keepsNew, SubSlot.piped, h])]
  · rfl

/-- The push is in the queue, or the queue was full. -/
def Piped.queued (x : Piped) (push : DecodedTopicPush) : Piped :=
  let (q, n) := offer x.queueSize x.keepsNew (x.dispatchQueue.getD []) push
  { x with dispatchQueue := some q, dropCount := x.dropCount + n }

theorem bufferDispatch_piped {x : SubSlot} (h : x.piped.dispatchQueue.isSome = true)
    (push : DecodedTopicPush) : (x.bufferDispatch push).piped = x.piped.queued push := by
  obtain ⟨q, hq⟩ := Option.isSome_iff_exists.mp h
  have hq' : x.dispatchQueue = some q := hq
  unfold SubSlot.bufferDispatch Piped.queued
  rw [hq, hq']
  simp only [enqueue_eq_offer]
  rfl

theorem recordReceived_piped (x : SubSlot) (now : ℚ) (epochMs : Nat) :
    (x.recordReceived now epochMs).piped = x.piped := by
  unfold SubSlot.recordReceived SubSlot.slideHzBuckets
  dsimp only
  split
  · rfl
  · split <;> rfl

/-! ### An accepted push -/

/-- How many pushes the sequence check discards: this one, or none. -/
def SubSlot.discards (x : SubSlot) (push : DecodedTopicPush) : Nat :=
  match x.checkSeq push.seq with
  | .accept _ _ => 0
  | _ => 1

/-- Only events are discarded. -/
theorem discards_telemetry {x : SubSlot} (h : x.semantics = .telemetry) (push : DecodedTopicPush) :
    x.discards push = 0 := by
  unfold SubSlot.discards SubSlot.checkSeq
  rw [h]

theorem piped_setSlot {f : SubSlot → SubSlot} :
    (w.setSlot s f).piped s = (f (w.subs.slots s)).piped := by
  simp [World.piped, World.setSlot]

theorem handOver_piped (push : DecodedTopicPush) (hm : (w.piped s).callbackMode = .dispatched)
    (hq : (w.piped s).dispatchQueue.isSome = true) :
    (w.handOver s push).1 = false ∧ (w.handOver s push).2.piped s = (w.piped s).queued push := by
  have hm' : (w.subs.slots s).callbackMode = .dispatched := hm
  unfold World.handOver
  rw [hm']
  exact ⟨rfl, piped_setSlot.trans (bufferDispatch_piped hq push)⟩

/-- A push that is accepted goes to the queue, and nothing else happens to the buffers. -/
theorem acceptPush_piped (push : DecodedTopicPush) (hm : (w.piped s).callbackMode = .dispatched)
    (hq : (w.piped s).dispatchQueue.isSome = true) : (w.acceptPush s push).1 = false ∧
    ((w.subs.slots s).discards push = 0 ∧
        (w.acceptPush s push).2.piped s = (w.piped s).queued push ∨
      (w.subs.slots s).discards push = 1 ∧ (w.acceptPush s push).2.piped s = w.piped s) := by
  unfold World.acceptPush SubSlot.discards
  cases hc : (w.subs.slots s).checkSeq push.seq with
  -- a duplicate and a regression never reach the buffers
  | duplicate => exact ⟨rfl, .inr ⟨rfl, rfl⟩⟩
  | regression => exact ⟨rfl, .inr ⟨rfl, rfl⟩⟩
  | accept n gap =>
    -- up to the hand-over only the counters change
    have hsame : ∀ v : World, v.piped s = w.piped s →
        ((v.setSlot s fun x => x.recordReceived v.clock.steady v.clock.epochMs).push
          (.accepted s push)).piped s = w.piped s := by
      intro v hv
      show (v.setSlot s fun x => x.recordReceived v.clock.steady v.clock.epochMs).piped s = _
      rw [piped_setSlot, recordReceived_piped]
      exact hv
    have hseq : (w.setSlot s fun x => { x with lastSeq := n }).piped s = w.piped s := piped_setSlot
    cases gap with
    | none =>
      have hv := hsame _ hseq
      obtain ⟨hgo, hp⟩ := handOver_piped push (hv ▸ hm) (hv ▸ hq)
      exact ⟨hgo, .inl ⟨rfl, hp.trans (hv ▸ rfl)⟩⟩
    | some g =>
      have hv := hsame ((w.setSlot s fun x => { x with lastSeq := n }).fireStatus s
        { kind := .gap, gapCount := some g }) hseq
      obtain ⟨hgo, hp⟩ := handOver_piped push (hv ▸ hm) (hv ▸ hq)
      exact ⟨hgo, .inl ⟨rfl, hp.trans (hv ▸ rfl)⟩⟩

/-! ### The steps -/

/-- How many pushes the arrival of one discards. -/
def World.arrivalDiscards (w : World) (s : SlotId) (push : DecodedTopicPush) : Nat :=
  if (w.piped s).state = .active then (w.subs.slots s).discards push else 0

/-- How many pushes a round of the drain discards. -/
def World.drainDiscards (w : World) (s : SlotId) (nextSeq : Nat) : Nat :=
  match (w.subs.slots s).pendingBuffer with
  | [] => 0
  | front :: _ =>
    if (w.subs.slots s).stale nextSeq front then 0 else (w.subs.slots s).discards front

/-- `_drain_pending_buffer`, round by round to its end. -/
inductive Drained (s : SlotId) (K : Nat) : World → Traffic DecodedTopicPush → World → Prop
  | done {w w' : World} (c : WsId) (phase : Bool) (ep : Nat)
      (h : (drainRound c s K phase ep).segment w = (w', .ended (.ok (.next (.readLoop c))))) :
      Drained s K w {} w'
  | round {w v w' : World} {t : Traffic DecodedTopicPush} (c : WsId) (phase : Bool) (ep : Nat)
      (h : (drainRound c s K phase ep).segment w =
        (v, .ended (.ok (.next (.drain c s K phase ep)))))
      (hd : Drained s K v t w') :
      Drained s K w (Traffic.append { refused := w.drainDiscards s K } t) w'

/-- A step that a push may take part in, while the slot `s` is not closed. -/
inductive Piping (σ : Setup) (s : SlotId) : World → Traffic DecodedTopicPush → World → Prop
  /-- a push arrives -/
  | arrives {w w' : World} (push : DecodedTopicPush) (hs : (w.piped s).state ≠ .closed)
      (hr : w.subs.subs.get? push.topic = some s)
      (h : (handleSdkTopicPush push).segment w = (w', .ended (.ok ()))) :
      Piping σ s w { ins := [push], refused := w.arrivalDiscards s push } w'
  /-- the acknowledgement accepts the subscription, and the pending buffer is drained -/
  | acknowledged {w v w' : World} {t : Traffic DecodedTopicPush} (me : TaskId) (topic : String)
      (phase : Bool) (resp : DecodedResponse) (K : Nat) (hs : (w.piped s).state ≠ .closed)
      (h : (settleAck σ me topic s phase resp).segment w = (v, .ended (.ok (.drain K))))
      (hd : Drained s K v t w') : Piping σ s w t w'
  /-- the dispatch worker goes on and hands a push to the frame dispatcher -/
  | dispatched {v w w' : World} {k k' : Except Exn Reply → M Bool} (push : DecodedTopicPush)
      (hs : (w.piped s).state ≠ .closed)
      (hk : (subWorkerRound s).segment v = (v, .waits [] (.queueGet s) k))
      (h : (k (.ok .done)).segment w = (w', .waits [] (.callback s push) k')) :
      Piping σ s w { outs := [push] } w'
  /-- anything else -/
  | elsewhere {w w' : World} (h : w'.piped s = w.piped s) : Piping σ s w {} w'

/-- Some time between two transport closes, with the pushes that arrive and leave. -/
inductive Between (σ : Setup) (s : SlotId) : World → Traffic DecodedTopicPush → World → Prop
  | refl {w : World} : Between σ s w {} w
  | tail {w v w' : World} {t t' : Traffic DecodedTopicPush} (h : Between σ s w t v)
      (hs : Piping σ s v t' w') : Between σ s w (t.append t') w'

/-- The life of a slot that dispatches, up to its end: transport closes and new requests
come in between. -/
inductive Served (σ : Setup) (s : SlotId) : World → Prop
  | created {w : World} (topic : String) (hz : PyFloat) (hf : w.subs.subs.has topic = false)
      (hm : σ.opts.callbackMode = .dispatched) : Served σ s (w.beginSubscribe σ s topic hz)
  | piping {w w' : World} {t : Traffic DecodedTopicPush} (h : Served σ s w) (hs : Piping σ s w t w') :
      Served σ s w'
  | paused {w : World} (reason : ErrorCode) (msg : String) (h : Served σ s w) :
      Served σ s (w.pauseSlot reason msg s)
  | requested {w : World} (rid since : Nat) (h : Served σ s w) :
      Served σ s (w.registerSubscribe s rid since)

/-- From one state of the buffers to the next: a run of the pipe under the same rules. -/
structure Flows (x : Piped) (t : Traffic DecodedTopicPush) (y : Piped) : Prop where
  rules : x.SameRules y
  run : Pipe.Run x.queueSize x.keepsNew x.pipe t y.pipe

/-! ### A step of the code is a run of the pipe -/

namespace Flows

variable {x y z : Piped} {t t' : Traffic DecodedTopicPush}

theorem refl : Flows x {} x := ⟨⟨rfl, rfl, rfl⟩, .refl⟩

theorem single {p : Pipe DecodedTopicPush} (hr : x.SameRules y) (hp : y.pipe = p)
    (hs : Pipe.Step x.queueSize x.keepsNew x.pipe t p) : Flows x t y :=
  ⟨hr, .single (hp ▸ hs)⟩

theorem trans (h : Flows x t y) (h' : Flows y t' z) : Flows x (t.append t') z := by
  have hkeeps : y.keepsNew = x.keepsNew := by
    unfold Piped.keepsNew
    rw [h.rules.policy]
  refine ⟨⟨h'.rules.mode.trans h.rules.mode, h'.rules.policy.trans h.rules.policy,
    h'.rules.size.trans h.rules.size⟩, h.run.trans ?_⟩
  have hrun := h'.run
  rwa [h.rules.size, hkeeps] at hrun

end Flows

theorem arrives_flows {push : DecodedTopicPush} (h : (w.piped s).Ready)
    (hs : (w.piped s).state ≠ .closed) (hr : w.subs.subs.get? push.topic = some s)
    (hw : (handleSdkTopicPush push).segment w = (w', .ended (.ok ()))) :
    Flows (w.piped s) { ins := [push], refused := w.arrivalDiscards s push } (w'.piped s) ∧
      (w'.piped s).Ready := by
  unfold handleSdkTopicPush at hw
  rw [Coro.segment_read_then] at hw
  simp only [hr] at hw
  -- where the push goes is decided by the state of the slot
  cases hstate : (w.subs.slots s).state with
  | closed => exact absurd hstate hs
  | pending =>
    simp only [hstate] at hw
    obtain ⟨rfl, -⟩ := Prod.mk.inj hw
    have hnone : w.arrivalDiscards s push = 0 := if_neg (by simp [World.piped, SubSlot.piped, hstate])
    have hp : (w.setSlot s fun x => x.bufferPending push).piped s = { w.piped s with
        pendingBuffer := (offer (w.piped s).queueSize (w.piped s).keepsNew
          (w.piped s).pendingBuffer push).1
        dropCount := (w.piped s).dropCount + (offer (w.piped s).queueSize (w.piped s).keepsNew
          (w.piped s).pendingBuffer push).2 } := by
      rw [piped_setSlot]
      unfold SubSlot.bufferPending
      rw [enqueue_eq_offer]
      rfl
    rw [hp, hnone]
    -- it waits for the acknowledgement
    refine ⟨.single ⟨rfl, rfl, rfl⟩ rfl (.held push), h.mode, h.queue, fun ha => ?_⟩
    exact absurd (hstate.symm.trans ha) SubscriptionState.noConfusion
  | paused =>
    simp only [hstate] at hw
    obtain ⟨rfl, -⟩ := Prod.mk.inj hw
    have hnone : w.arrivalDiscards s push = 0 := if_neg (by simp [World.piped, SubSlot.piped, hstate])
    have hp : (w.countDrop s).piped s =
        { w.piped s with dropCount := (w.piped s).dropCount + 1 } := piped_setSlot
    rw [hp, hnone]
    -- a paused slot drops it and counts it
    exact ⟨.single ⟨rfl, rfl, rfl⟩ rfl (.lost push), h.mode, h.queue, h.gate⟩
  | active =>
    simp only [hstate] at hw
    have hsome : w.arrivalDiscards s push = (w.subs.slots s).discards push := if_pos hstate
    obtain ⟨hgo, hcases⟩ := acceptPush_piped push h.mode h.queue
    unfold deliverPushToSub at hw
    rw [Coro.segment_update_then, hgo] at hw
    obtain ⟨rfl, -⟩ := Prod.mk.inj hw
    -- an active slot has an empty pending buffer, so the push overtakes nothing
    rcases hcases with ⟨hd, hp⟩ | ⟨hd, hp⟩
    · rw [hp, hsome, hd]
      exact ⟨.single ⟨rfl, rfl, rfl⟩ rfl (.passed push (h.gate hstate)), h.mode, rfl, h.gate⟩
    · rw [hp, hsome, hd]
      exact ⟨.single ⟨rfl, rfl, rfl⟩ rfl (.refused push), h⟩

/-! ### The drain -/

theorem maybeFinishReconnect_piped {phase : Bool} :
    (w.maybeFinishReconnect phase).piped s = w.piped s := by
  unfold World.maybeFinishReconnect
  split
  · dsimp only
    split
    · unfold World.piped
      rw [transition_subs]
    · rfl
  · rfl

/-- A round of the drain drops a stale push, discards it, or puts it into the queue. -/
theorem drainFront_piped {K : Nat} {front : DecodedTopicPush} {rest : List DecodedTopicPush}
    (hm : (w.piped s).callbackMode = .dispatched) (hq : (w.piped s).dispatchQueue.isSome = true)
    (hb : (w.subs.slots s).pendingBuffer = front :: rest) :
    (w.drainFront s K front rest).1 = false ∧
    (w.drainDiscards s K = 0 ∧ (w.drainFront s K front rest).2.piped s =
        { w.piped s with pendingBuffer := rest, dropCount := (w.piped s).dropCount + 1 } ∨
      w.drainDiscards s K = 0 ∧ (w.drainFront s K front rest).2.piped s =
        { w.piped s with pendingBuffer := rest }.queued front ∨
      w.drainDiscards s K = 1 ∧ (w.drainFront s K front rest).2.piped s =
        { w.piped s with pendingBuffer := rest }) := by
  have hpop : (w.popPending s rest).piped s = { w.piped s with pendingBuffer := rest } := piped_setSlot
  have hdiscards : ((w.popPending s rest).subs.slots s).discards front
      = (w.subs.slots s).discards front := by
    simp [World.popPending, World.setSlot, SubSlot.discards, SubSlot.checkSeq]
  unfold World.drainFront World.drainDiscards
  simp only [hb]
  split
  · refine ⟨rfl, .inl ⟨rfl, ?_⟩⟩
    have hdrop : ((w.popPending s rest).countDrop s).piped s = { (w.popPending s rest).piped s with
        dropCount := ((w.popPending s rest).piped s).dropCount + 1 } := piped_setSlot
    rw [hdrop, hpop]
  · obtain ⟨hgo, hcases⟩ := acceptPush_piped (w := w.popPending s rest) (s := s) front
      (by rw [hpop]; exact hm) (by rw [hpop]; exact hq)
    refine ⟨hgo, .inr ?_⟩
    rw [hdiscards, hpop] at hcases
    exact hcases

theorem drainRound_segment {c : WsId} {K ep : Nat} {phase : Bool} {front : DecodedTopicPush}
    {rest : List DecodedTopicPush} (hm : (w.piped s).callbackMode = .dispatched)
    (hq : (w.piped s).dispatchQueue.isSome = true)
    (hb : (w.subs.slots s).pendingBuffer = front :: rest) :
    (drainRound c s K phase ep).segment w =
      ((w.drainFront s K front rest).2, .ended (.ok (.next (.drain c s K phase ep)))) := by
  have hround : (Coro.update (World.drainFront s K front rest) >>= fun go =>
      Coro.when (go = true) (dispatchFrame s front)).segment w
        = ((w.drainFront s K front rest).2, .ended (.ok ())) := by
    rw [Coro.segment_update_then, (drainFront_piped hm hq hb).1]
    rfl
  unfold drainRound
  rw [Coro.segment_read_then]
  simp only [hb]
  rw [Coro.segment_bind (Coro.segment_within hround)]
  rfl

theorem drained_flows {K : Nat} {t : Traffic DecodedTopicPush} (hd : Drained s K w t w')
    (hm : (w.piped s).callbackMode = .dispatched) (hq : (w.piped s).dispatchQueue.isSome = true) :
    Flows (w.piped s) t (w'.piped s) ∧ (w'.piped s).Ready := by
  -- the induction is on the rounds; the last one is where the buffer is empty
  induction hd with
  | @done w w' c phase ep h =>
    cases hb : (w.subs.slots s).pendingBuffer with
    | cons front rest =>
      rw [drainRound_segment hm hq hb] at h
      cases h
    | nil =>
      unfold drainRound at h
      rw [Coro.segment_read_then] at h
      simp only [hb] at h
      obtain ⟨rfl, -⟩ := Prod.mk.inj h
      have hp : (w.ackDone s phase).piped s = w.piped s := by
        show World.piped (World.maybeFinishReconnect phase _) s = _
        rw [maybeFinishReconnect_piped, piped_setSlot]
        rfl
      rw [hp]
      exact ⟨.refl, hm, hq, fun _ => hb⟩
  | @round w v w' t c phase ep h hd ih =>
    cases hb : (w.subs.slots s).pendingBuffer with
    | nil =>
      unfold drainRound at h
      rw [Coro.segment_read_then] at h
      simp only [hb] at h
      cases h
    | cons front rest =>
      rw [drainRound_segment hm hq hb] at h
      obtain ⟨rfl, -⟩ := Prod.mk.inj h
      obtain ⟨-, ⟨hn, hp⟩ | ⟨hn, hp⟩ | ⟨hn, hp⟩⟩ := drainFront_piped (K := K) hm hq hb
      -- the front is stale and counted, moved to the queue, or discarded by the sequence check
      · rw [hp] at ih
        obtain ⟨hflows, hready⟩ := ih hm hq
        rw [hn]
        refine ⟨Flows.trans ?_ hflows, hready⟩
        exact .single ⟨rfl, rfl, rfl⟩ rfl (.moveLost front rest hb)
      · rw [hp] at ih
        obtain ⟨hflows, hready⟩ := ih hm rfl
        rw [hn]
        refine ⟨Flows.trans ?_ hflows, hready⟩
        exact .single ⟨rfl, rfl, rfl⟩ rfl (.moved front rest hb)
      · rw [hp] at ih
        obtain ⟨hflows, hready⟩ := ih hm hq
        rw [hn]
        refine ⟨Flows.trans ?_ hflows, hready⟩
        exact .single ⟨rfl, rfl, rfl⟩ rfl (.moveRefused front rest hb)

/-! ### The other steps -/

theorem activate_piped {n : Nat} {st : StreamStatus} :
    ((w.setSlot s fun x => { x with lastSeq := n, state := .active }).fireStatus s st).piped s
      = { w.piped s with state := .active } := by
  show (w.setSlot s fun x => { x with lastSeq := n, state := .active }).piped s = _
  rw [piped_setSlot]
  rfl

theorem acknowledged_piped {topic : String} {phase : Bool} {resp : DecodedResponse} {K : Nat}
    (h : (settleAck σ me topic s phase resp).segment w = (v, .ended (.ok (.drain K)))) :
    v.piped s = { w.piped s with state := .active } := by
  have hended : ∀ {c : M Unit} {last : World → World},
      (c >>= fun _ => pure (AckEnd.finished last)).segment w ≠ (v, .ended (.ok (.drain K))) := by
    intro c last hc
    obtain ⟨u, -, -, hu⟩ := Coro.ended_of_bind hc
    cases hu
  unfold settleAck at h
  rw [Coro.segment_read_then] at h
  -- only the two branches that accept go on to the drain
  split at h
  · unfold ackFailed at h
    split at h
    · exact absurd h hended
    · split at h
      · exact absurd h hended
      · cases h
    · cases h
  · split at h
    · split at h
      · cases h
      · obtain ⟨rfl, -⟩ := Prod.mk.inj h
        exact activate_piped
    · split at h
      · split at h
        · split at h
          · cases h
          · rw [Coro.segment_modify_then] at h
            obtain ⟨u, -, -, hu⟩ := Coro.ended_of_bind h
            cases hu
        · cases h
      · obtain ⟨rfl, -⟩ := Prod.mk.inj h
        unfold World.activateEvent
        obtain ⟨n, kind, gap⟩ := (w.subs.slots s).resumeAt resp.subNextSeq
        exact activate_piped

theorem dispatched_flows {k k' : Except Exn Reply → M Bool} {push : DecodedTopicPush}
    (h : (w.piped s).Ready)
    (hk : (subWorkerRound s).segment v = (v, .waits [] (.queueGet s) k))
    (hw : (k (.ok .done)).segment w = (w', .waits [] (.callback s push) k')) :
    Flows (w.piped s) { outs := [push] } (w'.piped s) ∧ (w'.piped s).Ready := by
  unfold subWorkerRound at hk
  rw [Coro.segment_read_then] at hk
  -- a closed slot ends the worker; otherwise it waits for the queue
  split at hk
  · cases hk
  · cases hk
    simp only [Coro.attempt, Coro.bind] at hw
    rw [Coro.segment_update_then, Coro.segment_read_then] at hw
    unfold World.popDispatch at hw
    cases hq : (w.subs.slots s).dispatchQueue with
    | none =>
      simp only [hq] at hw
      cases hw
    | some q =>
      cases q with
      | nil =>
        simp only [hq] at hw
        cases hw
      | cons front rest =>
        simp only [hq] at hw
        split at hw
        · cases hw
        · cases hw
          have hpop : (w.setSlot s fun x => { x with dispatchQueue := some rest }).piped s
              = { w.piped s with dispatchQueue := some rest } := piped_setSlot
          have hp : ((w.setSlot s fun x => { x with dispatchQueue := some rest }).push
              (.delivered s push)).piped s = { w.piped s with dispatchQueue := some rest } := hpop
          rw [hp]
          have hback : (w.piped s).pipe.back = push :: rest := by
            show (w.subs.slots s).dispatchQueue.getD [] = _
            rw [hq]
            rfl
          exact ⟨.single ⟨rfl, rfl, rfl⟩ rfl (.taken push rest hback), h.mode, rfl, h.gate⟩

theorem piping_flows {t : Traffic DecodedTopicPush} (h : (w.piped s).Ready)
    (hs : Piping σ s w t w') : Flows (w.piped s) t (w'.piped s) ∧ (w'.piped s).Ready := by
  cases hs with
  | arrives push hs hr hw => exact arrives_flows h hs hr hw
  | @acknowledged _ v _ _ me topic phase resp K hs hack hd =>
    have hp := acknowledged_piped hack
    have hflows := drained_flows hd (by rw [hp]; exact h.mode) (by rw [hp]; exact h.queue)
    rw [hp] at hflows
    exact ⟨⟨⟨hflows.1.rules.mode, hflows.1.rules.policy, hflows.1.rules.size⟩, hflows.1.run⟩, hflows.2⟩
  | dispatched push hs hk hw => exact dispatched_flows h hk hw
  | elsewhere hp =>
    rw [hp]
    exact ⟨.refl, h⟩

theorem between_flows {t : Traffic DecodedTopicPush} (h : (w.piped s).Ready)
    (hb : Between σ s w t w') : Flows (w.piped s) t (w'.piped s) ∧ (w'.piped s).Ready := by
  induction hb with
  | refl => exact ⟨.refl, h⟩
  | tail hb hs ih =>
    obtain ⟨hflows, hready⟩ := ih
    obtain ⟨hflows', hready'⟩ := piping_flows hready hs
    exact ⟨hflows.trans hflows', hready'⟩

/-! ### The life of a slot -/

/-- The buffers of a slot that serves pushes. -/
structure Piped.Sound (x : Piped) : Prop where
  ready : x.Ready
  pos : 0 < x.queueSize
  bounded : x.pipe.Bounded x.queueSize

theorem Flows.sound {x y : Piped} {t : Traffic DecodedTopicPush} (h : Flows x t y) (hx : x.Sound)
    (hy : y.Ready) : y.Sound := by
  have hpos : 0 < y.queueSize := h.rules.size ▸ hx.pos
  refine ⟨hy, hpos, ?_⟩
  rw [h.rules.size]
  exact h.run.bounded hx.pos hx.bounded

theorem startSubWorker_piped (hm : (w.piped s).callbackMode = .dispatched) :
    (w.startSubWorker s).piped s =
      { w.piped s with dispatchQueue := some ((w.piped s).dispatchQueue.getD []) } := by
  have hm' : (w.subs.slots s).callbackMode ≠ .inline := fun h => by cases hm.symm.trans h
  have hset : (w.setSlot s fun x => { x with
      dispatchQueue := some ((w.subs.slots s).dispatchQueue.getD []) }).piped s =
      { w.piped s with dispatchQueue := some ((w.piped s).dispatchQueue.getD []) } := piped_setSlot
  have hspawn : (w.setSlot s fun x => { x with
      dispatchQueue := some ((w.subs.slots s).dispatchQueue.getD [])
      dispatchWorker := some w.tasks.next }).piped s =
      { w.piped s with dispatchQueue := some ((w.piped s).dispatchQueue.getD []) } := piped_setSlot
  unfold World.startSubWorker
  dsimp only
  rw [if_neg hm']
  split
  · split
    · exact hset
    · exact hspawn
  · exact hspawn

theorem queueSize_pos (σ : Setup) : 0 < σ.opts.subscriptionQueueSize.toNat := by
  have hv := σ.valid
  unfold validateOpts at hv
  split_ifs at hv
  any_goals cases hv
  omega

theorem created_sound {topic : String} {hz : PyFloat} (hf : w.subs.subs.has topic = false)
    (hm : σ.opts.callbackMode = .dispatched) : ((w.beginSubscribe σ s topic hz).piped s).Sound := by
  have hnew : (w.newSlot σ s topic hz).piped s = ⟨.pending, σ.opts.callbackMode, σ.opts.dropPolicy,
      σ.opts.subscriptionQueueSize.toNat, [], none, 0⟩ := by
    simp [World.newSlot, World.piped, World.setSlot, SubSlot.piped]
  have henlist : (w.beginSubscribe σ s topic hz).piped s = ⟨.pending, σ.opts.callbackMode,
      σ.opts.dropPolicy, σ.opts.subscriptionQueueSize.toNat, [], some [], 0⟩ := by
    have hin : World.piped { w.newSlot σ s topic hz with
        subs.subs := (w.newSlot σ s topic hz).subs.subs.insert topic s } s = _ := hnew
    unfold World.beginSubscribe
    rw [if_neg (by simp [hf])]
    unfold World.enlist
    rw [startSubWorker_piped (by rw [hin]; exact hm), hin]
    rfl
  rw [henlist]
  exact ⟨⟨hm, rfl, fun _ => rfl⟩, queueSize_pos σ, Nat.zero_le _, Nat.zero_le _⟩

theorem pauseSlot_piped {reason : ErrorCode} {msg : String} : ∃ state,
    (w.pauseSlot reason msg s).piped s = { w.piped s with state := state, pendingBuffer := [] } := by
  unfold World.pauseSlot
  dsimp only
  split
  · refine ⟨.paused, ?_⟩
    simp [World.piped, World.setSlot, World.fireStatus, World.push, SubSlot.piped]
  · exact ⟨_, piped_setSlot⟩

theorem registerSubscribe_piped {rid since : Nat} :
    (w.registerSubscribe s rid since).piped s = { w.piped s with state := .pending } := by
  simp [World.piped, World.setSlot, World.registerSubscribe, World.callLater, SubSlot.piped]

theorem served_sound (h : Served σ s w) : (w.piped s).Sound := by
  induction h with
  | created topic hz hf hm => exact created_sound hf hm
  | piping _ hs ih =>
    obtain ⟨hflows, hready⟩ := piping_flows ih.ready hs
    exact hflows.sound ih hready
  -- a transport close empties the pending buffer, and the queue stays
  | paused reason msg _ ih =>
    obtain ⟨state, hp⟩ := pauseSlot_piped
    rw [hp]
    exact ⟨⟨ih.ready.mode, ih.ready.queue, fun _ => rfl⟩, ih.pos, Nat.zero_le _, ih.bounded.back⟩
  -- a new request makes the slot wait for an acknowledgement again
  | requested rid since _ ih =>
    rw [registerSubscribe_piped]
    exact ⟨⟨ih.ready.mode, ih.ready.queue, SubscriptionState.noConfusion⟩, ih.pos, ih.bounded⟩

/-! ### Every push is accounted for -/

/-- A new subscription. -/
def World.subscribedOnce : World :=
  (World.init ⟨0, 0⟩).beginSubscribe .plain 0 "robot.events" ⟨1⟩

/-- Two pushes wait for the worker when the connection ends. -/
def lostWithBacklog : List (Cmd (robot .plain)) :=
  subscribedEvents ++ [responds 2 0 (accepting 2), pushes 2 0 2, pushes 2 0 3,
    .env (.peerClose 0), .resume 2 (.error (.connectionClosed 1006 ""))]

/-- The next session, up to the subscribe request; no push arrives. -/
def subscribedAgain : List (Cmd (robot .plain)) :=
  [.start 6, .resume 6 (.ok .done), .resume 6 (.ok .done), .resume 6 (.ok .done), .start 7,
    responds 7 1 (shaken 3), .resume 6 (.ok .done)]

end KaroX2
