/-
KaroX2/Evolution.lean

The life of a single slot, as an automaton.

`Life` is what of a slot its statuses and its sequence numbers depend on, and the
trail of a slot is what the history says about it.  `Evolves` lists what a step
can do to the two of them, and from where.  The statements about streams are
proved from this list; they do not look at the world again.
-/
import KaroX2.Slots

namespace KaroX2

open Coop Py

/-! ### Views of a slot -/

/-- What the stream of a slot depends on. -/
structure Life where
  semantics : DeliverySemantics
  state : SubscriptionState
  errorCode : ErrorCode
  lastSeq : Nat
  expectedResumeSeq : Nat
  everActive : Bool
  isReconnectResume : Bool
  pendingBuffer : List DecodedTopicPush

def SubSlot.Control.life (x : SubSlot.Control) : Life :=
  ⟨x.semantics, x.state, x.errorCode, x.lastSeq, x.expectedResumeSeq, x.everActive,
    x.isReconnectResume, x.pendingBuffer⟩

def World.life (w : World) (u : SlotId) : Life := (w.subs.slots u).control.life

/-- The entry is about the stream of the slot. -/
def Obs.about (u : SlotId) : Obs → Bool
  | .acknowledged s _ | .status s _ | .accepted s _ | .delivered s _ => s = u
  | _ => false

/-- What the history says about the slot, newest first. -/
def trail (u : SlotId) (log : List Obs) : List Obs := log.filter (Obs.about u)

/-- The sequence check of a slot, from its life. -/
def Life.checkSeq (v : Life) (seq : Nat) : SubSlot.SeqCheck :=
  match v.semantics with
  | .telemetry => .accept v.lastSeq none
  | .event =>
    if seq = 0 then .accept v.lastSeq none
    else if v.lastSeq = 0 then .accept seq none
    else if seq = v.lastSeq + 1 then .accept seq none
    else if seq > v.lastSeq + 1 then .accept seq (some (seq - v.lastSeq - 1))
    else if seq = v.lastSeq then .duplicate
    else .regression

/-- What an accepted acknowledgement makes of a slot, from its life. -/
def Life.resumeAt (v : Life) (K : Nat) : Nat × StreamStatusKind × Option Nat :=
  if v.expectedResumeSeq = 0 then
    (if K ≥ 1 then K - 1 else 0, if v.isReconnectResume then .resumed else .started, none)
  else if K = v.expectedResumeSeq then (v.lastSeq, .resumed, some 0)
  else if K > v.expectedResumeSeq then (K - 1, .resumed, some (K - v.expectedResumeSeq))
  else (if K ≥ 1 then K - 1 else 0, .resumed, none)

/-- The status of a gap. -/
def gapStatus (u : SlotId) : Option Nat → List Obs
  | some g => [.status u { kind := .gap, gapCount := some g }]
  | none => []

/-! ### The automaton -/

variable {σ : Setup} {w w' w₁ w₂ : World} {x : Running Karo} {me : TaskId} {u : SlotId}

/-- Where pushes of a slot are accepted: while it is active, or in the drain of its
buffer, which may have been suspended in a callback. -/
def Accepting (x : Running Karo) (w : World) (u : SlotId) (push : DecodedTopicPush) : Prop :=
  (w.life u).state = .active ∨
    ∃ phase ep, x.path = [.handleSubscribeAck u phase ep] ∧ push ∈ (w.life u).pendingBuffer ∧
      ∃ p r, x.Got x.path (.callback u p) r ∧ r ≠ .error .cancelled

/-- The slot is registered and not closed. -/
def World.Open (w : World) (u : SlotId) : Prop :=
  (∃ topic, w.subs.subs.get? topic = some u) ∧ (w.life u).state ≠ .closed

/-- Where a slot is closed: by itself, or with all registered ones. -/
def ShutBy (x : Running Karo) (w : World) (u : SlotId) : Prop :=
  (∃ topic, Closing x w topic u) ∨ x.path = [.close] ∧ w.Open u

/-- What a step does to the life of the slot `u`, and what it adds to its trail. -/
inductive Evolves (x : Running Karo) (w : World) (u : SlotId) : Life → List Obs → Prop
  | kept : Evolves x w u (w.life u) []
  | retyped (sem : DeliverySemantics) (hp : ∃ isR ep c, x.path = [.handshaking isR ep c]) :
      Evolves x w u { w.life u with semantics := sem } []
  | buffered (b : List DecodedTopicPush) (hs : (w.life u).state = .pending) :
      Evolves x w u { w.life u with pendingBuffer := b } []
  | skipped (b : List DecodedTopicPush) (hb : b ⊆ (w.life u).pendingBuffer) :
      Evolves x w u { w.life u with pendingBuffer := b } []
  | accepted (push : DecodedTopicPush) (n : Nat) (gap : Option Nat) (b : List DecodedTopicPush)
      (l : List Obs) (hx : Accepting x w u push) (hb : b ⊆ (w.life u).pendingBuffer)
      (hc : (w.life u).checkSeq push.seq = .accept n gap)
      (hl : l = [] ∨ l = [.delivered u push]) :
      Evolves x w u { w.life u with lastSeq := n, pendingBuffer := b }
        (l ++ .accepted u push :: gapStatus u gap)
  | dispatched (push : DecodedTopicPush) (hs : (w.life u).state ≠ .closed) :
      Evolves x w u (w.life u) [.delivered u push]
  | activated (n : Nat) (kind : StreamStatusKind) (gap : Option Nat) (resp : DecodedResponse)
      (hx : x.since = .called)
      (hlog : ∃ l, trail u w.log = .acknowledged u resp :: l) (ha : resp.subAccepted = true)
      (hr : ∃ topic, w.subs.subs.get? topic = some u)
      (h : ((w.life u).semantics = .telemetry → n = 0 ∧ gap = none ∧
          kind = if (w.life u).isReconnectResume then .resumed else .started) ∧
        ((w.life u).semantics = .event →
          (n, kind, gap) = (w.life u).resumeAt resp.subNextSeq)) :
      Evolves x w u { w.life u with lastSeq := n, state := .active }
        [.status u { kind := kind, gapCount := gap }]
  | startedAfresh (resp : DecodedResponse) (hx : x.since = .called)
      (hlog : ∃ l, trail u w.log = .acknowledged u resp :: l) (ha : resp.subAccepted = false) :
      Evolves x w u { w.life u with lastSeq := 0 } []
  | acked (hp : ∃ phase ep, x.path = [.handleSubscribeAck u phase ep]) (hx : x.Drains w u) :
      Evolves x w u { w.life u with everActive := true, isReconnectResume := false } []
  | paused (s : StreamStatus) (hk : s.kind = .paused)
      (hr : ∃ topic, w.subs.subs.get? topic = some u)
      (hs : (w.life u).state = .active ∨ (w.life u).state = .pending) :
      Evolves x w u { w.life u with state := .paused, pendingBuffer := [] } [.status u s]
  | closed (s : StreamStatus) (hk : s.kind = .closed) (hx : ShutBy x w u) :
      Evolves x w u { w.life u with state := .closed, errorCode := s.errorCode } [.status u s]

/-! ### Updates that leave a slot alone -/

/-- Life and trail of the slot are as before. -/
structure Unmoved (u : SlotId) (w w' : World) : Prop where
  life : w'.life u = w.life u
  trail : trail u w'.log = trail u w.log

namespace Unmoved

theorem refl : Unmoved u w w := ⟨rfl, rfl⟩

theorem trans {v : World} (h : Unmoved u w v) (h' : Unmoved u v w₂) : Unmoved u w w₂ :=
  ⟨h'.life.trans h.life, h'.trail.trans h.trail⟩

theorem of_quiet (h : Quiet w w') : Unmoved u w w' := by
  refine ⟨congrArg SubSlot.Control.life (h.control u), ?_⟩
  have hf : ∀ log, KaroX2.trail u log = KaroX2.trail u (streams log) := by
    intro log
    unfold KaroX2.trail streams
    rw [List.filter_filter]
    congr 1
    funext o
    cases o <;> simp [Obs.about, Obs.stream]
  rw [hf, h.stream, ← hf]

/-- An update elsewhere. -/
theorem of_eq (hs : w'.subs.slots = w.subs.slots) (hl : KaroX2.trail u w'.log = KaroX2.trail u w.log) :
    Unmoved u w w' := by
  refine ⟨?_, hl⟩
  unfold World.life
  rw [hs]

theorem push {o : Obs} (ho : o.about u = false) : Unmoved u w (w.push o) :=
  of_eq rfl (List.filter_cons_of_neg (by simp [ho]))

theorem setSlot {s : SlotId} {f : SubSlot → SubSlot}
    (hf : ∀ y : SubSlot, (f y).control.life = y.control.life) : Unmoved u w (w.setSlot s f) := by
  refine ⟨?_, rfl⟩
  unfold World.life
  rcases eq_or_ne u s with rfl | h
  · simp [World.setSlot, hf]
  · simp [World.setSlot, h]

theorem setOther {s : SlotId} {f : SubSlot → SubSlot} (h : u ≠ s) : Unmoved u w (w.setSlot s f) :=
  ⟨by simp [World.life, World.setSlot, h], rfl⟩

theorem foldl {α : Type} {f : World → α → World} (hf : ∀ v y, Unmoved u v (f v y)) (l : List α)
    (w : World) : Unmoved u w (l.foldl f w) := by
  induction l generalizing w with
  | nil => exact refl
  | cons y l ih => exact (hf w y).trans (ih _)

theorem cancelOther {q : Option TaskId} : Unmoved u w (w.cancelOther me q) := by
  unfold World.cancelOther
  split
  · split
    · exact refl
    · exact of_eq rfl rfl
  · exact refl

theorem failInflight {e : Exn} : Unmoved u w (w.failInflight e) := by
  refine (foldl (f := World.failRequest e) (fun v y => ?_) w.rpc.inflight.items w).trans
    (of_eq rfl rfl)
  unfold World.failRequest
  cases y.2.timeoutHandle with
  | none => exact of_quiet .resolve
  | some h => exact (of_quiet .cancelTimer).trans (of_quiet .resolve)

theorem clearSubAcks : Unmoved u w w.clearSubAcks := by
  have h : Unmoved u w (w.subs.subAckTimers.values.foldl (fun v h => v.cancelTimer h) w) :=
    foldl (fun _ _ => of_quiet .cancelTimer) _ _
  exact ⟨h.life, h.trail⟩

theorem takeAck {rid : Nat} : Unmoved u w (w.takeAck rid) := by
  unfold World.takeAck
  dsimp only
  split
  · exact of_eq rfl rfl
  · exact of_eq rfl rfl

theorem transition {new : ConnectionState} {info : StateChangeInfo} :
    Unmoved u w (w.transition new info) := by
  refine of_eq (by rw [transition_subs]) ?_
  rw [transition_log]
  split
  · rfl
  · exact List.filter_cons_of_neg (by simp [Obs.about])

theorem transientFailure {reason message : String} {code : ErrorCode} :
    Unmoved u w (w.transientFailure σ reason code message) := by
  obtain ⟨info, h⟩ := transientFailure_eq σ w reason code message
  rw [h]
  exact trans (v := { w with draws := w.draws + 1 }) (of_eq rfl rfl) transition

theorem retry : Unmoved u w (w.retry σ) := by
  have h := retry_retries (σ := σ) w
  generalize w.retry σ = v at h ⊢
  cases h with
  | refused => exact refl
  | exhausted => exact of_eq rfl rfl
  | scheduled => exact of_eq rfl (List.filter_cons_of_neg (by simp [Obs.about]))

theorem maybeFinishReconnect {phase : Bool} : Unmoved u w (w.maybeFinishReconnect phase) := by
  have h := maybeFinishReconnect_finishes w phase
  generalize w.maybeFinishReconnect phase = v at h ⊢
  cases h with
  | refused => exact refl
  | counted => exact of_eq rfl rfl
  | finished =>
    refine Unmoved.trans ?_ transition
    exact of_eq rfl rfl

theorem stopSubWorker {s : SlotId} : Unmoved u w (w.stopSubWorker me s) := cancelOther

end Unmoved

/-- A step from `w` to `w'`. -/
def Evolved (x : Running Karo) (u : SlotId) (w w' : World) : Prop :=
  ∃ l, trail u w'.log = l ++ trail u w.log ∧ Evolves x w u (w'.life u) l

theorem Unmoved.evolved (h : Unmoved u w w') : Evolved x u w w' := by
  refine ⟨[], h.trail, ?_⟩
  rw [h.life]
  exact .kept

theorem Evolved.unmoved (h : Evolved x u w w₁) (h' : Unmoved u w₁ w₂) : Evolved x u w w₂ := by
  obtain ⟨l, hl, he⟩ := h
  exact ⟨l, h'.trail.trans hl, h'.life ▸ he⟩

/-! ### Updates of one slot -/

theorem life_setSlot {f : SubSlot → SubSlot} :
    (w.setSlot u f).life u = (f (w.subs.slots u)).control.life := by
  simp [World.life, World.setSlot]

theorem trail_status {s : StreamStatus} : trail u (.status u s :: w.log) = .status u s :: trail u w.log :=
  List.filter_cons_of_pos (by simp [Obs.about])

/-- The update sets the slot and fires a status for it. -/
theorem Evolved.fire {f : SubSlot → SubSlot} {s : StreamStatus}
    (h : Evolves x w u (f (w.subs.slots u)).control.life [.status u s]) :
    Evolved x u w ((w.setSlot u f).fireStatus u s) := by
  refine ⟨[.status u s], trail_status, ?_⟩
  show Evolves x w u ((w.setSlot u f).life u) _
  rw [life_setSlot]
  exact h

theorem Evolved.set {f : SubSlot → SubSlot}
    (h : Evolves x w u (f (w.subs.slots u)).control.life []) : Evolved x u w (w.setSlot u f) := by
  refine ⟨[], rfl, ?_⟩
  rw [life_setSlot]
  exact h

theorem Unmoved.fire {s : SlotId} {f : SubSlot → SubSlot} {st : StreamStatus} (h : u ≠ s) :
    Unmoved u w ((w.setSlot s f).fireStatus s st) :=
  (setOther h).trans (push (by simp [Obs.about, h.symm]))

theorem Evolved.closeSlot {topic : String} {s : SlotId} {code : ErrorCode} {reason : String}
    (hx : Closing x w topic s) : Evolved x u w (w.closeSlot me topic s code reason) := by
  have hrest : ∀ v : World, Unmoved u v { v.stopSubWorker me s with
      subs.subs := (v.stopSubWorker me s).subs.subs.erase topic } :=
    fun v => Unmoved.stopSubWorker.trans (.of_eq rfl rfl)
  unfold World.closeSlot
  refine Evolved.unmoved ?_ (hrest _)
  rcases eq_or_ne u s with rfl | h
  · exact .fire (.closed { kind := .closed, errorCode := code, reason := reason } rfl
      (.inl ⟨topic, hx⟩))
  · exact (Unmoved.fire h).evolved

theorem trail_acknowledged {resp : DecodedResponse} {log : List Obs}
    (h : ∃ l, log = .acknowledged u resp :: l) : ∃ l, trail u log = .acknowledged u resp :: l := by
  obtain ⟨l, rfl⟩ := h
  exact ⟨trail u l, List.filter_cons_of_pos (by simp [Obs.about])⟩

theorem Evolved.activate {s : SlotId} {w' : World} {resp : DecodedResponse} (hx : x.since = .called)
    (hs : ∃ topic, w.subs.subs.get? topic = some s)
    (hlog : ∃ l, w.log = .acknowledged s resp :: l) (ha : resp.subAccepted = true)
    (h : (w.subs.slots s).semantics = .telemetry ∧ w' = w.activateTelemetry s ∨
      (w.subs.slots s).semantics = .event ∧ w' = w.activateEvent s resp.subNextSeq) :
    Evolved x u w w' := by
  rcases eq_or_ne u s with rfl | hne
  · have hlog := trail_acknowledged hlog
    rcases h with ⟨hsem, rfl⟩ | ⟨hsem, rfl⟩
    · have hlife : (w.life u).semantics = .telemetry := hsem
      refine .fire (.activated 0 _ none resp hx hlog ha hs ⟨fun _ => ⟨rfl, rfl, rfl⟩, fun he => ?_⟩)
      simp [hlife] at he
    · have hlife : (w.life u).semantics = .event := hsem
      refine .fire (.activated _ _ _ resp hx hlog ha hs ⟨fun he => ?_, fun _ => rfl⟩)
      simp [hlife] at he
  · rcases h with ⟨-, rfl⟩ | ⟨-, rfl⟩
    · exact (Unmoved.fire hne).evolved
    · exact (Unmoved.fire hne).evolved

/-- The end of an acknowledgement. -/
theorem Evolved.ackDone {s : SlotId} {phase : Bool}
    (hp : ∃ phase ep, x.path = [.handleSubscribeAck s phase ep]) (hx : x.Drains w s) :
    Evolved x u w (w.ackDone s phase) := by
  unfold World.ackDone
  refine Evolved.unmoved ?_ .maybeFinishReconnect
  rcases eq_or_ne u s with rfl | hne
  · exact .set (.acked hp hx)
  · exact (Unmoved.setOther hne).evolved

/-! ### Pushes -/

theorem handOver_life (s : SlotId) (push : DecodedTopicPush) :
    (w.handOver s push).2.life u = w.life u ∧ ∃ l, trail u (w.handOver s push).2.log = l ++ trail u w.log ∧
      (l = [] ∨ u = s ∧ l = [.delivered u push]) := by
  unfold World.handOver
  split
  · refine ⟨rfl, ?_⟩
    rcases eq_or_ne u s with rfl | hne
    · exact ⟨[.delivered u push], List.filter_cons_of_pos (by simp [Obs.about]), .inr ⟨rfl, rfl⟩⟩
    · exact ⟨[], List.filter_cons_of_neg (by simp [Obs.about, hne.symm]), .inl rfl⟩
  · have h : Unmoved u w (w.setSlot s fun y => y.bufferDispatch push) := .of_quiet .bufferDispatch
    exact ⟨h.life, [], h.trail, .inl rfl⟩

/-- What an accepted push does to its slot. -/
theorem acceptPush_life (push : DecodedTopicPush) :
    (w.acceptPush u push).2.life u = w.life u ∧ trail u (w.acceptPush u push).2.log = trail u w.log ∨
    ∃ n gap l, (w.life u).checkSeq push.seq = .accept n gap ∧
      (w.acceptPush u push).2.life u = { w.life u with lastSeq := n } ∧
      trail u (w.acceptPush u push).2.log
        = (l ++ .accepted u push :: gapStatus u gap) ++ trail u w.log ∧
      (l = [] ∨ l = [.delivered u push]) := by
  have hcheck : (w.subs.slots u).checkSeq push.seq = (w.life u).checkSeq push.seq := rfl
  -- once the sequence number and the gap are recorded
  have hrest : ∀ (v : World) (n : Nat) (gap : Option Nat), v.life u = { w.life u with lastSeq := n } →
      trail u v.log = gapStatus u gap ++ trail u w.log → ∃ l,
      ((((v.setSlot u fun y => y.recordReceived v.clock.steady v.clock.epochMs).push
        (.accepted u push)).handOver u push).2.life u = { w.life u with lastSeq := n }) ∧
      trail u (((v.setSlot u fun y => y.recordReceived v.clock.steady v.clock.epochMs).push
        (.accepted u push)).handOver u push).2.log
        = (l ++ .accepted u push :: gapStatus u gap) ++ trail u w.log ∧
      (l = [] ∨ l = [.delivered u push]) := by
    intro v n gap hlife htrail
    have hrec : Unmoved u v (v.setSlot u fun y => y.recordReceived v.clock.steady v.clock.epochMs) :=
      .of_quiet .recordReceived
    obtain ⟨hover, l, hl, hcases⟩ := handOver_life (u := u) u push
      (w := (v.setSlot u fun y => y.recordReceived v.clock.steady v.clock.epochMs).push
        (.accepted u push))
    refine ⟨l, (hover.trans hrec.life).trans hlife, ?_, hcases.imp_right And.right⟩
    have hpush : trail u ((v.setSlot u fun y =>
        y.recordReceived v.clock.steady v.clock.epochMs).push (.accepted u push)).log
        = .accepted u push :: trail u v.log :=
      List.filter_cons_of_pos (by simp [Obs.about])
    rw [hl, hpush, htrail]
    simp
  have hset : ∀ n, (w.setSlot u fun y => { y with lastSeq := n }).life u
      = { w.life u with lastSeq := n } := fun n => life_setSlot
  unfold World.acceptPush
  rcases hc : (w.subs.slots u).checkSeq push.seq with ⟨n, - | g⟩ | - | -
  · obtain ⟨l, hl, ht, hcases⟩ := hrest _ n none (hset n) rfl
    exact .inr ⟨n, none, l, hcheck.symm.trans hc, hl, ht, hcases⟩
  · obtain ⟨l, hl, ht, hcases⟩ := hrest ((w.setSlot u fun y => { y with lastSeq := n }).fireStatus u
      { kind := .gap, gapCount := some g }) n (some g) (hset n) (trail_status (w := w))
    exact .inr ⟨n, some g, l, hcheck.symm.trans hc, hl, ht, hcases⟩
  · have h : Unmoved u w (w.postLog .debug ("duplicate envelope seq, dropping: " ++
        (w.subs.slots u).topic)) := .push rfl
    exact .inl ⟨h.life, h.trail⟩
  · have h : Unmoved u w (w.postLog .warn ("envelope seq regression in-session: " ++
        (w.subs.slots u).topic)) := .push rfl
    exact .inl ⟨h.life, h.trail⟩

theorem Unmoved.acceptPush {s : SlotId} {push : DecodedTopicPush} (h : u ≠ s) :
    Unmoved u w (w.acceptPush s push).2 := by
  have hfire : ∀ (v : World) (st : StreamStatus), Unmoved u v (v.fireStatus s st) :=
    fun v st => .push (by simp [Obs.about, h.symm])
  have hover : ∀ v : World, Unmoved u v (((v.setSlot s fun y =>
      y.recordReceived v.clock.steady v.clock.epochMs).push (.accepted s push)).handOver s push).2 := by
    intro v
    have h₁ : Unmoved u v ((v.setSlot s fun y =>
        y.recordReceived v.clock.steady v.clock.epochMs).push (.accepted s push)) :=
      (of_quiet .recordReceived).trans (.push (by simp [Obs.about, h.symm]))
    obtain ⟨hlife, l, hl, hcases⟩ := handOver_life (u := u) s push
      (w := (v.setSlot s fun y => y.recordReceived v.clock.steady v.clock.epochMs).push
        (.accepted s push))
    obtain rfl : l = [] := hcases.resolve_right fun hc => h hc.1
    exact h₁.trans ⟨hlife, hl⟩
  unfold World.acceptPush
  rcases (w.subs.slots s).checkSeq push.seq with ⟨n, - | g⟩ | - | -
  · exact (setOther h).trans (hover _)
  · exact ((setOther h).trans (hfire _ _)).trans (hover _)
  · exact .push rfl
  · exact .push rfl

theorem Evolved.received {s : SlotId} {push : DecodedTopicPush}
    (hs : (w.subs.slots s).state = .active) : Evolved x u w (w.acceptPush s push).2 := by
  rcases eq_or_ne u s with rfl | hne
  · rcases acceptPush_life (w := w) (u := u) push with ⟨hl, ht⟩ | ⟨n, gap, l, hc, hl, ht, hcases⟩
    · exact Unmoved.evolved ⟨hl, ht⟩
    · refine ⟨_, ht, ?_⟩
      rw [hl]
      exact .accepted push n gap _ l (.inl hs) (List.Subset.refl _) hc hcases
  · exact (Unmoved.acceptPush hne).evolved

theorem Evolved.drained {s : SlotId} {K : Nat} {front : DecodedTopicPush}
    {rest : List DecodedTopicPush} (hb : (w.subs.slots s).pendingBuffer = front :: rest)
    (hx : Accepting x w s front) : Evolved x u w (w.drainFront s K front rest).2 := by
  rcases eq_or_ne u s with rfl | hne
  · have hsub : rest ⊆ (w.life u).pendingBuffer := by
      show rest ⊆ (w.subs.slots u).pendingBuffer
      rw [hb]
      exact List.subset_cons_self _ _
    have hpop : (w.popPending u rest).life u = { w.life u with pendingBuffer := rest } := life_setSlot
    unfold World.drainFront
    split
    · have hdrop : Unmoved u (w.popPending u rest) ((w.popPending u rest).countDrop u) :=
        .of_quiet .countDrop
      refine ⟨[], hdrop.trail, ?_⟩
      dsimp only
      rw [hdrop.life, hpop]
      exact .skipped rest hsub
    · rcases acceptPush_life (w := w.popPending u rest) (u := u) front with
        ⟨hl, ht⟩ | ⟨n, gap, l, hc, hl, ht, hcases⟩
      · refine ⟨[], ht, ?_⟩
        rw [hl, hpop]
        exact .skipped rest hsub
      · refine ⟨_, ht, ?_⟩
        rw [hl, hpop]
        rw [hpop] at hc
        exact .accepted front n gap rest l hx hsub hc hcases
  · have hpop : Unmoved u w (w.popPending s rest) := .setOther hne
    unfold World.drainFront
    split
    · exact (hpop.trans (.of_quiet .countDrop)).evolved
    · exact (hpop.trans (.acceptPush hne)).evolved

/-! ### Updates of all registered slots -/

/-- What the loop of `_on_transport_close` has done to the slot so far. -/
structure Pausing (u : SlotId) (w w' : World) (l : List Obs) : Prop where
  trail : trail u w'.log = l ++ trail u w.log
  life : l = [] ∧ (w'.life u = w.life u ∨ w'.life u = { w.life u with pendingBuffer := [] }) ∨
    ((w.life u).state = .active ∨ (w.life u).state = .pending) ∧
      (∃ s : StreamStatus, s.kind = .paused ∧ l = [.status u s]) ∧
      w'.life u = { w.life u with state := .paused, pendingBuffer := [] }

theorem Pausing.trans {l l' : List Obs} (h : Pausing u w w₁ l) (h' : Pausing u w₁ w₂ l') :
    Pausing u w w₂ (l' ++ l) := by
  refine ⟨by rw [h'.trail, h.trail, List.append_assoc], ?_⟩
  rcases h.life with ⟨rfl, h₁⟩ | ⟨hs, hl, h₁⟩
  · rcases h'.life with ⟨rfl, h₂⟩ | ⟨hs, hl, h₂⟩
    · refine .inl ⟨rfl, ?_⟩
      rcases h₁ with h₁ | h₁ <;> rcases h₂ with h₂ | h₂ <;> rw [h₁] at h₂
      · exact .inl h₂
      · exact .inr h₂
      · exact .inr h₂
      · exact .inr h₂
    · refine .inr ⟨?_, by simpa using hl, ?_⟩
      · rcases h₁ with h₁ | h₁ <;> rw [h₁] at hs <;> exact hs
      · rcases h₁ with h₁ | h₁ <;> rw [h₁] at h₂ <;> exact h₂
  · rcases h'.life with ⟨rfl, h₂⟩ | ⟨hs', -⟩
    · refine .inr ⟨hs, by simpa using hl, ?_⟩
      rcases h₂ with h₂ | h₂
      · exact h₂.trans h₁
      · rw [h₂, h₁]
    · rw [h₁] at hs'
      simp at hs'

theorem Pausing.unmoved (h : Unmoved u w w') : Pausing u w w' [] := ⟨h.trail, .inl ⟨rfl, .inl h.life⟩⟩

theorem pauseSlot_pausing (reason : ErrorCode) (msg : String) (s : SlotId) :
    ∃ l, Pausing u w (w.pauseSlot reason msg s) l ∧ (l ≠ [] → u = s) := by
  rcases eq_or_ne u s with rfl | hne
  · unfold World.pauseSlot
    dsimp only
    split
    · rename_i hs
      refine ⟨[.status u { kind := .paused, errorCode := reason, reason := msg }], ⟨trail_status,
        .inr ⟨hs, ⟨_, rfl, rfl⟩, ?_⟩⟩, fun _ => rfl⟩
      simp [World.life, World.setSlot, World.fireStatus, World.push, SubSlot.control,
        SubSlot.Control.life]
    · exact ⟨[], ⟨rfl, .inl ⟨rfl, .inr life_setSlot⟩⟩, fun _ => rfl⟩
  · refine ⟨[], .unmoved ?_, by simp⟩
    unfold World.pauseSlot
    dsimp only
    split
    · exact (Unmoved.fire hne).trans (.setOther hne)
    · exact .setOther hne

theorem pauseSlots_pausing (reason : ErrorCode) (msg : String) :
    ∃ l, Pausing u w (w.pauseSlots reason msg) l ∧ (l ≠ [] → u ∈ w.subs.subs.values) := by
  unfold World.pauseSlots
  generalize w.subs.subs.values = slots
  induction slots generalizing w with
  | nil => exact ⟨[], .unmoved .refl, by simp⟩
  | cons s slots ih =>
    obtain ⟨l, hl, hs⟩ := pauseSlot_pausing (u := u) (w := w) reason msg s
    obtain ⟨l', hl', hs'⟩ := ih (w := w.pauseSlot reason msg s)
    refine ⟨l' ++ l, hl.trans hl', fun hne => ?_⟩
    rcases eq_or_ne l [] with rfl | h
    · exact List.mem_cons_of_mem _ (hs' (by simpa using hne))
    · exact hs h ▸ List.mem_cons_self

theorem Evolved.loseTransport {reason : ErrorCode} {msg : String} :
    Evolved x u w (w.loseTransport σ me reason msg) := by
  have hpush : Unmoved u w (w.push (.transportClose reason msg)) := .push rfl
  obtain ⟨l, hpause, hr⟩ :=
    pauseSlots_pausing (u := u) (w := w.push (.transportClose reason msg)) reason msg
  have hl := (Pausing.unmoved hpush).trans hpause
  have hrest : ∀ v : World, Unmoved u v { (v.failInflight (.sdk reason msg)).clearSubAcks.cancelOther
      me (v.failInflight (.sdk reason msg)).clearSubAcks.conn.heartbeatTask with hb.missCount := 0 } :=
    fun v => ((Unmoved.failInflight.trans .clearSubAcks).trans .cancelOther).trans (.of_eq rfl rfl)
  refine Evolved.unmoved (Evolved.unmoved ?_ (hrest _)) .transientFailure
  refine ⟨l ++ [], hl.trail, ?_⟩
  rcases hl.life with ⟨he, h | h⟩ | ⟨hs, ⟨s, hk, he⟩, h⟩
  · rw [h, he]
    exact .kept
  · rw [h, he]
    exact .skipped [] (List.nil_subset _)
  · have hne : l ≠ [] := by
      rintro rfl
      cases he
    have hreg := Dict.mem_values_iff.mp (hr hne)
    rw [h, he]
    exact .paused s hk hreg hs

theorem closeSlotOnce_evolved (me : TaskId) (code : ErrorCode) (reason : String) (s : SlotId) :
    Unmoved u w (w.closeSlotOnce me code reason s) ∨
    u = s ∧ (w.life u).state ≠ .closed ∧
      (w.closeSlotOnce me code reason s).life u
        = { w.life u with state := .closed, errorCode := code } ∧
      trail u (w.closeSlotOnce me code reason s).log = [.status u
        { kind := .closed, errorCode := code, reason := reason }] ++ trail u w.log := by
  have hstop : ∀ v : World, Unmoved u v (v.stopSubWorker me s) := fun v => .stopSubWorker
  unfold World.closeSlotOnce
  dsimp only
  split
  · exact .inl (hstop w)
  · rename_i hs
    rcases eq_or_ne u s with rfl | hne
    · refine .inr ⟨rfl, hs, (hstop _).life.trans ?_, (hstop _).trail.trans trail_status⟩
      show (w.setSlot u fun y => { y with state := .closed, errorCode := code }).life u = _
      rw [life_setSlot]
      rfl
    · exact .inl ((Unmoved.fire hne).trans (hstop _))

theorem closeEach_evolved (me : TaskId) (code : ErrorCode) (reason : String) (slots : List SlotId) (w : World) :
    Unmoved u w (slots.foldl (World.closeSlotOnce me code reason) w) ∨
    u ∈ slots ∧ (w.life u).state ≠ .closed ∧
      (slots.foldl (World.closeSlotOnce me code reason) w).life u
        = { w.life u with state := .closed, errorCode := code } ∧
      trail u (slots.foldl (World.closeSlotOnce me code reason) w).log = [.status u
        { kind := .closed, errorCode := code, reason := reason }] ++ trail u w.log := by
  induction slots generalizing w with
  | nil => exact .inl .refl
  | cons s slots ih =>
    rw [List.foldl_cons]
    rcases closeSlotOnce_evolved (u := u) (w := w) me code reason s with h | ⟨rfl, hs, hl, ht⟩
    · rcases ih (w.closeSlotOnce me code reason s) with h' | ⟨hm, hs', hl', ht'⟩
      · exact .inl (h.trans h')
      · refine .inr ⟨List.mem_cons_of_mem _ hm, ?_, ?_, ?_⟩
        · rwa [h.life] at hs'
        · rw [hl', h.life]
        · rw [ht', h.trail]
    · rcases ih (w.closeSlotOnce me code reason u) with h' | ⟨-, hs', -⟩
      · exact .inr ⟨List.mem_cons_self, hs, h'.life.trans hl, h'.trail.trans ht⟩
      · rw [hl] at hs'
        exact absurd rfl hs'

/-- The slot is closed with all others, if it is registered. -/
def ClosedAll (u : SlotId) (w w' : World) : Prop :=
  Unmoved u w w' ∨ ∃ s : StreamStatus, s.kind = .closed ∧
    (∃ topic, w.subs.subs.get? topic = some u) ∧ (w.life u).state ≠ .closed ∧
    w'.life u = { w.life u with state := .closed, errorCode := s.errorCode } ∧
    trail u w'.log = [.status u s] ++ trail u w.log

theorem ClosedAll.evolved (hp : x.path = [.close]) (h : ClosedAll u w w') : Evolved x u w w' := by
  rcases h with h | ⟨s, hk, hr, hs, hl, ht⟩
  · exact h.evolved
  · exact ⟨_, ht, hl ▸ .closed s hk (.inr ⟨hp, hr, hs⟩)⟩

theorem ClosedAll.unmoved (h : ClosedAll u w w₁) (h' : Unmoved u w₁ w₂) : ClosedAll u w w₂ := by
  rcases h with h | ⟨s, hk, hr, hs, hl, ht⟩
  · exact .inl (h.trans h')
  · exact .inr ⟨s, hk, hr, hs, h'.life.trans hl, h'.trail.trans ht⟩

theorem ClosedAll.closeAllSlots {v : World} {code : ErrorCode} {reason : String}
    (hv : Unmoved u w v) (hr : v.subs.subs = w.subs.subs) :
    ClosedAll u w (v.closeAllSlots me code reason) := by
  have hlast : ∀ z : World, Unmoved u z { z with subs.subs := .empty } := fun z => .of_eq rfl rfl
  have hcases := closeEach_evolved (u := u) me code reason v.subs.subs.values v
  unfold World.closeAllSlots
  refine ClosedAll.unmoved ?_ (hlast _)
  rcases hcases with h | ⟨hm, hs, hl, ht⟩
  · exact .inl (hv.trans h)
  · rw [hv.life] at hs hl
    rw [hv.trail] at ht
    have hm := Dict.mem_values_iff.mp hm
    rw [hr] at hm
    exact .inr ⟨{ kind := .closed, errorCode := code, reason := reason }, rfl, hm, hs, hl, ht⟩

theorem ClosedAll.abandon {code : ErrorCode} {message : String} :
    ClosedAll u w (w.abandon me code message) := by
  have hrest : ∀ v : World, Unmoved u v (((v.failInflight (.sdk code message)).clearSubAcks.cancelOther
      me (v.failInflight (.sdk code message)).clearSubAcks.conn.heartbeatTask).cancelOther me
      ((v.failInflight (.sdk code message)).clearSubAcks.cancelOther me
        (v.failInflight (.sdk code message)).clearSubAcks.conn.heartbeatTask).conn.reconnectTask) :=
    fun v => ((Unmoved.failInflight.trans .clearSubAcks).trans .cancelOther).trans .cancelOther
  exact (closeAllSlots .refl rfl).unmoved (hrest _)

theorem ClosedAll.shutDown : ClosedAll u w (w.shutDown me) := by
  have hsame : ∀ v : World, Same v
      (((v.cancelOther me v.conn.reconnectTask).cancelOther me
        (v.cancelOther me v.conn.reconnectTask).conn.heartbeatTask).failInflight
        (.sdk .cancelled "Robot.close()")).clearSubAcks :=
    fun v => ((Same.cancelOther.trans .cancelOther).trans .failInflight).trans .clearSubAcks
  have hrest : ∀ v : World, Unmoved u v
      (((v.cancelOther me v.conn.reconnectTask).cancelOther me
        (v.cancelOther me v.conn.reconnectTask).conn.heartbeatTask).failInflight
        (.sdk .cancelled "Robot.close()")).clearSubAcks :=
    fun v => ((Unmoved.cancelOther.trans .cancelOther).trans .failInflight).trans .clearSubAcks
  refine closeAllSlots (Unmoved.transition.trans (hrest _)) ?_
  rw [(hsame _).registry, transition_subs]

/-- What `_resolve_semantics` for all slots does to one of them. -/
theorem resolveAll_life : (∃ sem, w.resolveAllSemantics.life u = { w.life u with semantics := sem }) ∧
    trail u w.resolveAllSemantics.log = trail u w.log := by
  unfold World.resolveAllSemantics
  generalize w.subs.subs.values = slots
  induction slots generalizing w with
  | nil => exact ⟨⟨(w.life u).semantics, rfl⟩, rfl⟩
  | cons s slots ih =>
    obtain ⟨⟨sem, hl⟩, ht⟩ := ih (w := w.setSlot s fun y =>
      { y with semantics := w.resolveSemantics y.topic })
    rcases eq_or_ne u s with rfl | hne
    · refine ⟨⟨sem, hl.trans ?_⟩, ht⟩
      rw [life_setSlot]
      rfl
    · refine ⟨⟨sem, hl.trans ?_⟩, ht⟩
      rw [(Unmoved.setOther hne).life]

theorem Evolved.beginSession {isR : Bool} {c : WsId} {resp : DecodedResponse}
    (hp : ∃ isR ep c, x.path = [.handshaking isR ep c]) : Evolved x u w (w.beginSession σ isR c resp) := by
  have hinfo : Unmoved u w (w.setRobotInfo resp) := .of_eq rfl rfl
  have hbeat : ∀ v : World, Unmoved u v (v.startHeartbeat σ) := by
    intro v
    have hr : Unmoved u v v.restartHeartbeat := by
      unfold World.restartHeartbeat
      dsimp only
      split
      · split <;> exact .of_eq rfl rfl
      · exact .of_eq rfl rfl
    unfold World.startHeartbeat
    dsimp only
    split
    · exact hr
    · exact hr.trans (.of_eq rfl rfl)
  have hstart := hinfo.trans (hbeat _)
  have harm : ∀ v : World, Unmoved u v v.armReconnect := by
    intro v
    unfold World.armReconnect World.reconnectOk
    dsimp only
    split
    · refine Unmoved.trans ?_ .transition
      exact .of_eq rfl rfl
    · exact .of_eq rfl rfl
  have hpush : ∀ (v : World) (b : Bool), Unmoved u v (v.push (.handshake c isR b)) :=
    fun v b => .push rfl
  obtain ⟨⟨sem, hl⟩, ht⟩ := resolveAll_life (u := u) (w := (w.setRobotInfo resp).startHeartbeat σ)
  have hretype : Evolved x u w ((w.setRobotInfo resp).startHeartbeat σ).resolveAllSemantics := by
    refine ⟨[], ht.trans hstart.trail, ?_⟩
    rw [hl, hstart.life]
    exact .retyped sem hp
  unfold World.beginSession
  dsimp only
  split
  · exact hretype.unmoved ((hpush _ _).trans (harm _))
  · exact hretype.unmoved ((hpush _ _).trans .transition)

/-! ### What a step does -/

theorem Move.evolved (h : Move σ x w w') : Evolved x u w w' := by
  cases h with
  | quiet h => exact (Unmoved.of_quiet h).evolved
  | sent | answered | streamEnded | closeFired => exact (Unmoved.push rfl).evolved
  | connected =>
    refine Unmoved.evolved ?_
    unfold World.connect
    split
    · exact .refl
    · exact .of_eq rfl rfl
  | latched =>
    apply Unmoved.evolved
    exact .of_eq rfl rfl
  | buffered s push hp hs =>
    rcases eq_or_ne u s with rfl | hne
    · exact .set (.buffered _ hs)
    · exact (Unmoved.setOther hne).evolved
  | received s push hp hs => exact .received hs
  | dispatched s push hp hs =>
    rcases eq_or_ne u s with rfl | hne
    · exact ⟨[.delivered u push], List.filter_cons_of_pos (by simp [Obs.about]), .dispatched push hs⟩
    · exact (Unmoved.push (by simp [Obs.about, hne.symm])).evolved
  | drained s K front rest phase ep hp hb hx =>
    refine .drained hb ?_
    rcases hx with ⟨-, hs⟩ | ⟨p, r, hg, hr⟩
    · exact .inl hs
    · refine .inr ⟨phase, ep, hp, ?_, p, r, hg, hr⟩
      show front ∈ (w.subs.slots s).pendingBuffer
      rw [hb]
      exact List.mem_cons_self
  | activated s phase ep resp hp hx hs hl ha h => exact .activate hx hs hl ha h
  | startedAfresh s phase ep resp hp hx hs hl ha =>
    rcases eq_or_ne u s with rfl | hne
    · exact .set (.startedAfresh resp hx (trail_acknowledged hl) ha)
    · exact (Unmoved.setOther hne).evolved
  | forgotten => exact Unmoved.takeAck.evolved
  | lost => exact .loseTransport
  | shutDown hp => exact ClosedAll.shutDown.evolved hp
  | aborted => exact Unmoved.transition.evolved
  | turnedDown => exact Unmoved.transientFailure.evolved

theorem Leaves.evolved {l : Label} {q : List Label} (hp : x.path = q ++ [l])
    (h : Leaves σ x q w l w') : Evolved x u w w' := by
  cases h with
  | idle | lossIgnored | lossRaised | ackOver | ackResent | ackUnencodable | ackRaised =>
    exact Unmoved.refl.evolved
  | dialFailed => exact (Unmoved.transientFailure.trans .retry).evolved
  | retried | lossHandled => exact Unmoved.retry.evolved
  | restored isR =>
    refine Unmoved.evolved ?_
    unfold World.restored World.startReplay
    split
    · split
      · exact .of_eq rfl rfl
      · exact .refl
    · exact .refl
  | closed p l c last hq hx hl =>
    refine Unmoved.evolved ?_
    have hclear : Unmoved u w w.clearWs := .of_eq rfl rfl
    rcases hl with ⟨-, rfl⟩ | ⟨-, code, message, rfl⟩
    · exact hclear
    · exact hclear.trans .transition
  | rejected s phase topic code reason hx hph hs =>
    exact (Evolved.closeSlot (.acking q phase _ hp hx hs)).unmoved .maybeFinishReconnect
  | dropped s topic code reason hx hs => exact .closeSlot (.acking q _ _ hp hx hs)
  | acked s phase ep hq h =>
    obtain rfl : q = [] := hq
    refine .ackDone ⟨phase, ep, hp⟩ (h.imp (fun h => ⟨h.1, h.2.2.2⟩) ?_)
    rintro ⟨push, r, hg, hr⟩
    exact ⟨push, r, by rw [hp]; exact hg, hr⟩
  | replayed =>
    refine Unmoved.evolved ?_
    have hclear : Unmoved u w w.clearEstopPending := .of_eq rfl rfl
    unfold World.estopReplayed World.replayOk
    dsimp only
    split
    · refine Unmoved.trans ?_ .transition
      exact .of_eq rfl rfl
    · exact hclear
  | intended =>
    apply Unmoved.evolved
    exact .of_eq rfl rfl
  | unsubscribed h b topic s code reason hp' hx h =>
    have hclosing : Closing x w topic s := .unsubscribed _ _ hp' hx
    rcases h with rfl | rfl
    · exact .closeSlot hclosing
    · exact (Evolved.closeSlot hclosing).unmoved (.push rfl)
  | handedOut =>
    apply Unmoved.evolved
    exact .setSlot fun _ => rfl

theorem Becomes.evolved {q : List Label} (h : Becomes σ x w q w') : Evolved x u w w' := by
  cases h with
  | reconnects =>
    refine Unmoved.evolved ?_
    refine Unmoved.trans ?_ .transition
    exact .of_eq rfl rfl
  | installs =>
    apply Unmoved.evolved
    exact .of_eq rfl (List.filter_cons_of_neg (by simp [Obs.about]))
  | begins isR ep c rid cmd resp hp => exact .beginSession ⟨isR, ep, c, hp⟩
  | restores => exact Unmoved.refl.evolved

theorem step_evolved {q : List Label} (h : (outline σ).step x q w w') : Evolved x u w w' := by
  rcases h with ⟨-, h⟩ | ⟨l, hp, h⟩ | h
  · exact h.evolved
  · exact h.evolved hp
  · exact h.evolved

/-! ### What the begin of a call does -/

/-- What the begin of a call does to the life of the slot `u`, and what it adds to
its trail. -/
inductive Starts (x : Running Karo) (w : World) (u : SlotId) : Label → Life → List Obs → Prop
  | kept {l : Label} : Starts x w u l (w.life u) []
  | registered (rid since : Nat) (hs : Resumes (w.subs.slots u) since) :
      Starts x w u (.subscribing u rid) { w.life u with
        expectedResumeSeq := since
        isReconnectResume := (w.life u).state = .paused ||
          ((w.life u).everActive && w.conn.state = .reconnecting)
        state := .pending } []
  | acknowledged (phase : Bool) (ep : Nat) (resp : DecodedResponse) :
      Starts x w u (.handleSubscribeAck u phase ep) (w.life u) [.acknowledged u resp]
  | unsendable (s : StreamStatus) (hk : s.kind = .closed) :
      Starts x w u (.unsendable u)
        { w.life u with state := .closed, errorCode := s.errorCode } [.status u s]
  | closed (s : StreamStatus) (hk : s.kind = .closed) (hx : w.Open u) :
      Starts x w u .abortToFatal
        { w.life u with state := .closed, errorCode := s.errorCode } [.status u s]
  | created (v : Life) (l : List Obs) (hu : u = w.subs.slotCount)
      (hv : v.lastSeq = 0 ∧ v.expectedResumeSeq = 0 ∧ v.everActive = false ∧
        v.isReconnectResume = false ∧ v.pendingBuffer = [])
      (hl : v.state = .pending ∧ l = [] ∨
        v.state = .closed ∧ ∃ s : StreamStatus, s.kind = .closed ∧ l = [.status u s]) :
      Starts x w u (.subscribe u) v l

/-- The begin of a call, from `w` to `w'`. -/
def Started (x : Running Karo) (u : SlotId) (l : Label) (w w' : World) : Prop :=
  ∃ obs, trail u w'.log = obs ++ trail u w.log ∧ Starts x w u l (w'.life u) obs

theorem Unmoved.started {l : Label} (h : Unmoved u w w') : Started x u l w w' := by
  refine ⟨[], h.trail, ?_⟩
  rw [h.life]
  exact .kept

theorem registerSubscribe_started {s : SlotId} {rid since : Nat}
    (hs : Resumes (w.subs.slots s) since) :
    Started x u (.subscribing s rid) w (w.registerSubscribe s rid since) := by
  rcases eq_or_ne u s with rfl | hne
  · refine ⟨[], rfl, ?_⟩
    have hl : (w.registerSubscribe u rid since).life u = { w.life u with
        expectedResumeSeq := since
        isReconnectResume := (w.life u).state = .paused ||
          ((w.life u).everActive && w.conn.state = .reconnecting)
        state := .pending } := by
      simp only [World.life, World.registerSubscribe, World.callLater, World.setSlot, SubSlot.control,
        SubSlot.Control.life, Function.update_self]
      congr
    rw [hl]
    exact .registered rid since hs
  · refine Unmoved.started ⟨?_, rfl⟩
    simp [World.life, World.registerSubscribe, World.callLater, World.setSlot, hne]

theorem closeSlot_started {s : SlotId} {topic : String} {code : ErrorCode} {reason : String} :
    Started x u (.unsendable s) w (w.closeSlot me topic s code reason) := by
  have hrest : ∀ v : World, Unmoved u v { v.stopSubWorker me s with
      subs.subs := (v.stopSubWorker me s).subs.subs.erase topic } :=
    fun v => Unmoved.stopSubWorker.trans (.of_eq rfl rfl)
  have hclose : Unmoved u (w.markClosed s code reason) (w.closeSlot me topic s code reason) := hrest _
  rcases eq_or_ne u s with rfl | hne
  · have hl : (w.markClosed u code reason).life u
        = { w.life u with state := .closed, errorCode := code } := by
      simp [World.life, World.markClosed, World.fireStatus, World.push, World.setSlot,
        SubSlot.control, SubSlot.Control.life]
    have ht : trail u (w.markClosed u code reason).log
        = [.status u { kind := .closed, errorCode := code, reason := reason }] ++ trail u w.log :=
      trail_status
    refine ⟨_, hclose.trail.trans ht, ?_⟩
    rw [hclose.life, hl]
    exact .unsendable { kind := .closed, errorCode := code, reason := reason } rfl
  · exact ((Unmoved.fire hne).trans hclose).started

theorem ClosedAll.started (h : ClosedAll u w w') : Started x u .abortToFatal w w' := by
  rcases h with h | ⟨s, hk, hr, hs, hl, ht⟩
  · exact h.started
  · exact ⟨_, ht, hl ▸ .closed s hk ⟨hr, hs⟩⟩

theorem Unmoved.startSubWorker {s : SlotId} : Unmoved u w (w.startSubWorker s) := by
  rcases startSubWorker_cases w s with ⟨f, hv, hf⟩ | ⟨q, hv⟩
  · rw [hv]
    exact .setSlot fun y => congrArg SubSlot.Control.life (hf y)
  · have h : Unmoved u w (w.setSlot s fun y =>
        { y with dispatchQueue := q, dispatchWorker := some w.tasks.next }) := .setSlot fun _ => rfl
    rw [hv]
    exact ⟨h.life, h.trail⟩

theorem beginSubscribe_started {topic : String} {hz : PyFloat} :
    Started x u (.subscribe w.subs.slotCount) w (w.beginSubscribe σ w.subs.slotCount topic hz) := by
  rcases eq_or_ne u w.subs.slotCount with hu | hne
  · rw [← hu]
    unfold World.beginSubscribe
    split
    · refine ⟨_, trail_status, .created _ _ hu ?_ (.inr ⟨?_, _, ?_, rfl⟩)⟩
      all_goals simp [World.newSlot, World.markClosed, World.fireStatus, World.push, World.setSlot,
        World.life, SubSlot.control, SubSlot.Control.life]
    · have hfinish := Unmoved.startSubWorker (u := u) (s := u) (w := { w.newSlot σ u topic hz with
        subs.subs := (w.newSlot σ u topic hz).subs.subs.insert topic u })
      refine ⟨[], hfinish.trail, ?_⟩
      show Starts x w u (.subscribe u) (World.life (World.startSubWorker u _) u) []
      rw [hfinish.life]
      refine .created _ _ hu ?_ (.inl ⟨?_, rfl⟩)
      all_goals simp [World.newSlot, World.setSlot, World.life, SubSlot.control, SubSlot.Control.life]
  · apply Unmoved.started
    have hnew : Unmoved u w (w.newSlot σ w.subs.slotCount topic hz) :=
      ⟨by simp [World.life, World.newSlot, World.setSlot, hne], rfl⟩
    unfold World.beginSubscribe
    split
    · exact hnew.trans (.fire hne)
    · refine hnew.trans ?_
      unfold World.enlist
      refine Unmoved.trans (v := { w.newSlot σ w.subs.slotCount topic hz with
        subs.subs := (w.newSlot σ w.subs.slotCount topic hz).subs.subs.insert topic
          w.subs.slotCount }) (.of_eq rfl rfl) .startSubWorker

theorem beginAck_started {s : SlotId} {phase : Bool} {ep : Nat} {resp : DecodedResponse} :
    Started x u (.handleSubscribeAck s phase ep) w (w.beginAck s resp) := by
  have h : Unmoved u w ((w.takeAck resp.requestId).setSlot s fun y =>
      { y with inflightSubscribeRequestId := 0 }) := Unmoved.takeAck.trans (.setSlot fun _ => rfl)
  rcases eq_or_ne u s with rfl | hne
  · refine ⟨[.acknowledged u resp], ?_, ?_⟩
    · rw [← h.trail]
      exact List.filter_cons_of_pos (by simp [Obs.about])
    · have hl : (w.beginAck u resp).life u = w.life u := h.life
      rw [hl]
      exact .acknowledged phase ep resp
  · exact (h.trans (.push (by simp [Obs.about, hne.symm]))).started

theorem Enters.started {l : Label} (h : Enters σ x w l w') : Started x u l w w' := by
  cases h with
  | establish => exact Unmoved.transition.started
  | unsendable => exact closeSlot_started
  | subscribing q s rid since hp hx hq hr hs => exact registerSubscribe_started hs
  | sendFailed q s rid =>
    apply Unmoved.started
    have h : Unmoved u w ((w.cancelTimer rid).setSlot s fun y =>
        { y with inflightSubscribeRequestId := 0 }) :=
      Unmoved.trans (v := w.cancelTimer rid) (.of_eq rfl rfl) (.setSlot fun _ => rfl)
    exact ⟨h.life, h.trail⟩
  | replayFailed =>
    apply Unmoved.started
    exact .of_eq rfl rfl
  | abortToFatal => exact ClosedAll.abandon.started
  | handleSubscribeAck c resp topic s => exact beginAck_started
  | subscribe => exact beginSubscribe_started
  | _ => exact Unmoved.refl.started

/-! ### Between the steps -/

theorem start_unmoved {t : TaskId} : Unmoved u w ((robot σ).start t w) := .of_eq rfl rfl

theorem resume_unmoved {t : TaskId} {op : Op} {r : Except Exn Reply} :
    Unmoved u w ((robot σ).resume t op r w) := by
  obtain ⟨ts, evt, h, -⟩ := resume_eq t op r w
  rw [show (robot σ).resume t op r w = _ from h]
  exact .of_eq rfl rfl

theorem finish_unmoved {t : TaskId} {r : Except Exn Unit} :
    Unmoved u w ((robot σ).finish t r w) := by
  show Unmoved u w (w.finish t r)
  unfold World.finish
  dsimp only
  split
  · exact .of_eq rfl rfl
  · exact .of_eq rfl rfl
  · have hraise : ∀ (v : World) (e : Exn), Unmoved u v (v.push (.raised t e)) :=
      fun v e => .push rfl
    refine Unmoved.trans (v := { w with tasks := w.tasks.finish t }) (.of_eq rfl rfl) ?_
    split
    · exact (hraise _ _).trans (.of_eq rfl rfl)
    · exact hraise _ _

theorem env_unmoved {e : EnvStep} (h : (robot σ).env e w = some w') : Unmoved u w w' := by
  cases env_env h with
  | quiet hq => exact .of_quiet hq
  | cancels | calls => exact .of_eq rfl rfl
  | acks hq => exact (Unmoved.of_quiet hq).trans (.of_eq rfl rfl)
  | drops hq => exact (Unmoved.of_quiet hq).trans (.of_eq rfl rfl)

end KaroX2
