/-
KaroX2/Blame.lean

A subscription that fails says why: which code a slot is closed with.

An update `Blames` if no slot is closed with the code OK by it, neither in the slot nor
in a `CLOSED` status.  All code that handles a subscribe request blames, whatever
happens while it is suspended, except for two acknowledgements that name no reason: an
error response with the code OK, and a rejection with the reason NONE.  With the results
of the calls this settles when a failure is never reported as OK.
-/
import KaroX2.Resumption
import KaroX2.Outcomes
import KaroX2.Closing

namespace KaroX2

open Coop

variable {σ : Setup} {w w' w₁ w₂ : World} {me : TaskId} {u s : SlotId}

/-! ### Blame -/

/-- The slot is closed and its code is OK. -/
def Life.Blameless (x : Life) : Prop := x.state = .closed ∧ x.errorCode = .ok

/-- No slot is closed with the code OK. -/
structure Blames (w w' : World) : Prop where
  slots : ∀ u, (w'.life u).Blameless → (w.life u).Blameless
  statuses : ∀ u, ∃ l, trail u w'.log = l ++ trail u w.log ∧
    ∀ st, Obs.status u st ∈ l → st.kind = .closed → st.errorCode ≠ .ok

/-- The acknowledgement does not say why it refuses. -/
def DecodedResponse.Unexplained (resp : DecodedResponse) : Prop :=
  resp.success = false ∧ resp.sdkCode = .ok ∨
    resp.success = true ∧ resp.subAccepted = false ∧ resp.subRejectReason = .none

namespace Blames

theorem refl : Blames w w := ⟨fun _ => id, fun _ => ⟨[], rfl, fun _ h => by cases h⟩⟩

theorem trans (h : Blames w w₁) (h' : Blames w₁ w₂) : Blames w w₂ := by
  refine ⟨fun u hu => h.slots u (h'.slots u hu), fun u => ?_⟩
  obtain ⟨l, hl, hst⟩ := h.statuses u
  obtain ⟨l', hl', hst'⟩ := h'.statuses u
  refine ⟨l' ++ l, by rw [hl', hl, List.append_assoc], fun st hm => ?_⟩
  rcases List.mem_append.mp hm with hm | hm
  · exact hst' st hm
  · exact hst st hm

theorem of_unmoved (h : ∀ u, Unmoved u w w') : Blames w w' := by
  refine ⟨fun u hu => ?_, fun u => ⟨[], (h u).trail, fun _ hm => by cases hm⟩⟩
  rwa [(h u).life] at hu

/-- An update of one slot, with a status for it. -/
theorem fire {f : SubSlot → SubSlot} {st : StreamStatus}
    (hf : ¬(f (w.subs.slots s)).control.life.Blameless) (hst : st.kind = .closed → st.errorCode ≠ .ok) :
    Blames w ((w.setSlot s f).fireStatus s st) := by
  refine ⟨fun u hu => ?_, fun u => ?_⟩
  -- only the slot `s` changes, and its new state is not to blame
  · rcases eq_or_ne u s with rfl | hne
    · refine absurd ?_ hf
      rw [← life_setSlot]
      exact hu
    · rwa [(Unmoved.fire hne).life] at hu
  · rcases eq_or_ne u s with rfl | hne
    · refine ⟨[.status u st], trail_status, fun st' hm => ?_⟩
      cases List.mem_singleton.mp hm
      exact hst
    · exact ⟨[], (Unmoved.fire hne).trail, fun _ hm => by cases hm⟩

/-- A slot that is left or made open. -/
theorem setSlot {f : SubSlot → SubSlot}
    (hf : (f (w.subs.slots s)).control.life.Blameless → (w.life s).Blameless) :
    Blames w (w.setSlot s f) := by
  refine ⟨fun u hu => ?_, fun u => ⟨[], rfl, fun _ hm => by cases hm⟩⟩
  rcases eq_or_ne u s with rfl | hne
  · rw [life_setSlot] at hu
    exact hf hu
  · rwa [(Unmoved.setOther hne).life] at hu

theorem markClosed {reason : String} {code : ErrorCode} (h : code ≠ .ok) :
    Blames w (w.markClosed s code reason) :=
  fire (f := fun x => { x with state := .closed, errorCode := code }) (fun hb => h hb.2) fun _ => h

theorem closeSlot {topic reason : String} {code : ErrorCode} (h : code ≠ .ok) :
    Blames w (w.closeSlot me topic s code reason) :=
  (markClosed h).trans (of_unmoved fun _ => Unmoved.stopSubWorker.trans (.of_eq rfl rfl))

theorem closeSlotOnce {reason : String} {code : ErrorCode} (h : code ≠ .ok) :
    Blames w (w.closeSlotOnce me code reason s) := by
  have hstop : ∀ v : World, Blames v (v.stopSubWorker me s) :=
    fun v => of_unmoved fun _ => Unmoved.stopSubWorker
  unfold World.closeSlotOnce
  dsimp only
  -- a slot that is closed already keeps its code
  split
  · exact hstop w
  · exact (markClosed h).trans (hstop _)

theorem foldl {α : Type} {f : World → α → World} (hf : ∀ v y, Blames v (f v y)) (l : List α)
    (w : World) : Blames w (l.foldl f w) := by
  induction l generalizing w with
  | nil => exact refl
  | cons y l ih => exact (hf w y).trans (ih _)

theorem abandon {message : String} {code : ErrorCode} (h : code ≠ .ok) :
    Blames w (w.abandon me code message) := by
  have hall : Blames w (w.closeAllSlots me code (if message = "" then "Fatal" else message)) :=
    (foldl (f := World.closeSlotOnce me code _) (fun _ _ => closeSlotOnce h) _ w).trans
      (of_unmoved fun _ => .of_eq rfl rfl)
  refine hall.trans (of_unmoved fun _ => ?_)
  exact ((Unmoved.failInflight.trans .clearSubAcks).trans .cancelOther).trans .cancelOther

theorem loseTransport {reason : ErrorCode} {msg : String} :
    Blames w (w.loseTransport σ me reason msg) := by
  have hpause : ∀ v : World, Blames v (v.pauseSlots reason msg) := by
    intro v
    refine foldl (f := World.pauseSlot reason msg) (fun v s => ?_) _ v
    have hclear : ∀ z : World, Blames z (z.setSlot s fun x =>
        { x with pendingBuffer := [], inflightSubscribeRequestId := 0 }) := fun _ => setSlot id
    unfold World.pauseSlot
    dsimp only
    -- an active slot is paused, and that status is not `CLOSED`
    split
    · refine Blames.trans ?_ (hclear _)
      exact fire (f := fun x => { x with state := .paused }) (fun hb => nomatch hb.1) fun hk =>
        nomatch hk
    · exact hclear v
  have hpush : Blames w (w.push (.transportClose reason msg)) := of_unmoved fun _ => .push rfl
  refine (hpush.trans (hpause _)).trans (of_unmoved fun _ => ?_)
  refine Unmoved.trans ?_ .transientFailure
  exact ((Unmoved.failInflight.trans .clearSubAcks).trans .cancelOther).trans (.of_eq rfl rfl)

/-- An update of one slot that leaves it open. -/
theorem of_open (hs : (w'.life s).state ≠ .closed) (ht : trail s w'.log = trail s w.log)
    (h : ∀ u, u ≠ s → Unmoved u w w') : Blames w w' := by
  refine ⟨fun u hu => ?_, fun u => ⟨[], ?_, fun _ hm => by cases hm⟩⟩
  · rcases eq_or_ne u s with rfl | hne
    · exact absurd hu.1 hs
    · rwa [(h u hne).life] at hu
  · rcases eq_or_ne u s with rfl | hne
    · exact ht
    · exact (h u hne).trail

theorem newSlot {topic : String} {hz : PyFloat} : Blames w (w.newSlot σ s topic hz) := by
  refine of_open (s := s) ?_ rfl fun u hne => ⟨by simp [World.life, World.newSlot, World.setSlot, hne], rfl⟩
  simp [World.newSlot, World.setSlot, World.life, SubSlot.control, SubSlot.Control.life]

theorem beginSubscribe {topic : String} {hz : PyFloat} :
    Blames w (w.beginSubscribe σ s topic hz) := by
  have hnew : Blames w (w.newSlot σ s topic hz) := newSlot
  unfold World.beginSubscribe
  -- a second subscription of the topic is closed with an error
  split
  · exact hnew.trans (markClosed ErrorCode.noConfusion)
  · refine hnew.trans (of_unmoved fun _ => ?_)
    unfold World.enlist
    exact Unmoved.trans (v := { w.newSlot σ s topic hz with
      subs.subs := (w.newSlot σ s topic hz).subs.subs.insert topic s }) (.of_eq rfl rfl)
      .startSubWorker

theorem registerSubscribe {rid since : Nat} : Blames w (w.registerSubscribe s rid since) := by
  refine of_open (s := s) ?_ rfl fun u hne => ⟨?_, rfl⟩
  · simp [World.life, World.registerSubscribe, World.callLater, World.setSlot, SubSlot.control,
      SubSlot.Control.life]
  · simp [World.life, World.registerSubscribe, World.callLater, World.setSlot, hne]

theorem beginAck {resp : DecodedResponse} : Blames w (w.beginAck s resp) := by
  have htaken : Blames w ((w.takeAck resp.requestId).setSlot s fun x =>
      { x with inflightSubscribeRequestId := 0 }) :=
    of_unmoved fun _ => Unmoved.takeAck.trans (.setSlot fun _ => rfl)
  refine htaken.trans ?_
  refine ⟨fun _ => id, fun u => ?_⟩
  by_cases h : u = s
  · subst h
    exact ⟨[.acknowledged u resp], List.filter_cons_of_pos (by simp [Obs.about]), fun _ hm => by
      cases List.mem_singleton.mp hm⟩
  · exact ⟨[], List.filter_cons_of_neg (by simpa [Obs.about] using Ne.symm h), fun _ hm => by
      cases hm⟩

/-- An accepted slot is active. -/
theorem activate {f : SubSlot → SubSlot} {st : StreamStatus}
    (hf : (f (w.subs.slots s)).state = .active) (hst : st.kind ≠ .closed) :
    Blames w ((w.setSlot s f).fireStatus s st) :=
  fire (fun hb => by
    have hstate : (f (w.subs.slots s)).state = .closed := hb.1
    rw [hf] at hstate
    cases hstate) fun hk => absurd hk hst

theorem closeAndFinish {topic reason : String} {code : ErrorCode} {phase : Bool}
    (h : code ≠ .ok) : Blames w (w.closeAndFinish me topic s code reason phase) :=
  (closeSlot h).trans (of_unmoved fun _ => .maybeFinishReconnect)

end Blames

/-! ### Code that blames -/

/-- Updates blame; nothing is assumed. -/
def blaming : Protocol Karo Unit where
  update _ w w' _ := Blames w w'
  wait _ _ _ _ := True

/-- The coroutine closes no slot with the code OK. -/
abbrev Blaming {α : Type} (Q : α → Prop) (c : M α) : Prop := c.Steady blaming () Q

section Coroutines

variable {α : Type} {c : WsId} {rid : Nat} {cmd : SdkCommand}

theorem blaming_modify_then {Q : α → Prop} {f : World → World} {k : M α}
    (h : ∀ w, Blames w (f w)) (hk : Blaming Q k) :
    Blaming Q (Coro.modify (S := Karo) f >>= fun _ => k) := (Coro.Steady.modify h).andThen fun _ => hk

theorem blaming_suspend_then {Q : α → Prop} {op : Op} {k : Except Exn Reply → M α}
    (hk : ∀ r, Blaming Q (k r)) : Blaming Q ((suspend op).attempt >>= k) :=
  (Coro.Steady.wait fun _ => trivial).attempt.bind fun r _ => hk r

theorem wsSend_blaming : Blaming (fun _ => True) (wsSend c cmd) := by
  refine .read fun w => ?_
  split
  · refine blaming_suspend_then fun r => ?_
    split
    · exact blaming_modify_then (fun _ => .of_unmoved fun _ => .push rfl) <| .pure trivial
    · exact .raise
    · exact .pure trivial
  · exact .pure trivial

theorem blames_id (w : World) : Blames w (id w) := .refl

theorem blaming_closable : Closable blaming () where
  refl := blames_id
  detach _ _ := .of_unmoved fun _ => .of_eq rfl rfl
  shut _ _ := .of_unmoved fun _ => .of_eq rfl rfl
  cancel _ _ := .of_unmoved fun _ => .of_eq rfl rfl
  close _ _ := trivial
  join _ _ := trivial
  joined _ _ := trivial

theorem closeWs_blaming {last : World → World} (h : ∀ w, Blames w (last w)) :
    Blaming (fun _ => True) (closeWs me last) := by
  have hclear : ∀ w : World, Blames w w.clearWs := fun _ => .of_unmoved fun _ => .of_eq rfl rfl
  exact blaming_closable.closeWs h fun w => (hclear w).trans (h _)

theorem onTransportCloseAfter_blaming {first : World → World} {reason : ErrorCode} {msg : String}
    (h : ∀ w, Blames w (first w)) :
    Blaming (fun _ => True) (onTransportCloseAfter σ first me reason msg) := by
  refine .scope blames_id h (.read fun w => ?_)
  split
  · exact .pure ⟨trivial, blames_id⟩
  · refine blaming_modify_then (fun _ => .loseTransport) ?_
    refine (closeWs_blaming blames_id).andThen fun _ => .pure ⟨trivial, fun _ => ?_⟩
    exact .of_unmoved fun _ => .retry

theorem abortToFatal_blaming {code : ErrorCode} {message : String} (h : code ≠ .ok) :
    Blaming (fun _ => True) (abortToFatal me code message) := by
  refine .scope blames_id (fun _ => .abandon h) ?_
  refine (closeWs_blaming fun _ => ?_).andThen fun _ => .pure ⟨trivial, blames_id⟩
  exact .of_unmoved fun _ => .transition

/-! ### Subscribe requests -/

theorem sendSubscribe_blaming {since : Nat} : Blaming (fun _ => True) (sendSubscribe σ me s since) := by
  refine .call blames_id (.andThen (.update fun _ => .of_unmoved fun _ => .of_eq rfl rfl) fun rid =>
    .read fun w => ?_)
  dsimp only
  split
  · exact .scope blames_id (fun _ => .closeSlot nofun) (.pure ⟨trivial, blames_id⟩)
  · refine .andThen (.scope blames_id (fun _ => .registerSubscribe) ?_) fun ok =>
      .when (onTransportCloseAfter_blaming fun w => ?_)
    · refine .andThen (.read fun w => ?_) fun ok => .pure ⟨trivial, blames_id⟩
      split
      · exact .pure trivial
      · exact wsSend_blaming
    · have hslot : ∀ u, Unmoved u w ((w.cancelTimer rid).setSlot s fun x =>
          { x with inflightSubscribeRequestId := 0 }) := fun u =>
        (Unmoved.of_quiet .cancelTimer).trans (.setSlot fun _ => rfl)
      exact .of_unmoved fun u => ⟨(hslot u).life, (hslot u).trail⟩

theorem handleSubscribeAckTimeout_blaming {topic : String} :
    Blaming (fun _ => True) (handleSubscribeAckTimeout σ me rid topic) :=
  .read fun _ => .when <| blaming_modify_then (fun _ => .of_unmoved fun _ => .push rfl) <|
    onTransportCloseAfter_blaming blames_id

theorem subscribeInternal_blaming {topic : String} {hz : PyFloat} :
    Blaming (fun _ => True) (subscribeInternal σ me topic hz) := by
  refine .read fun w => .scope blames_id (fun _ => .beginSubscribe) ?_
  refine (Coro.Steady.when sendSubscribe_blaming).andThen fun _ => .pure ⟨trivial, fun w => ?_⟩
  exact .of_unmoved fun _ => Unmoved.setSlot (f := fun x => { x with finalizer := true }) fun _ => rfl

/-! ### Acknowledgements -/

/-- How `settleAck` goes on blames. -/
def AckEnd.Blames : AckEnd → Prop
  | .finished last => ∀ w, KaroX2.Blames w (last w)
  | .drain _ => True

theorem ackFailed_blaming {topic : String} {phase : Bool} {resp : DecodedResponse}
    (h : resp.sdkCode ≠ .ok) : Blaming AckEnd.Blames (ackFailed σ me topic s phase resp) := by
  unfold ackFailed
  split
  -- the code of the response is the one that is reported, in all three branches
  · exact (abortToFatal_blaming h).andThen fun _ => .pure blames_id
  · split
    · exact (onTransportCloseAfter_blaming blames_id).andThen fun _ => .pure blames_id
    · exact .pure fun _ => .closeSlot h
  · exact .pure fun _ => .closeAndFinish h

theorem rejectReasonToError_ne {r : SubscribeRejectReason} (h : r ≠ .none) :
    rejectReasonToError r ≠ .ok := by
  cases r <;> first | exact absurd rfl h | exact nofun

theorem settleAck_blaming {topic : String} {phase : Bool} {resp : DecodedResponse}
    (h : ¬resp.Unexplained) : Blaming AckEnd.Blames (settleAck σ me topic s phase resp) := by
  have hrejected : resp.success ≠ false → resp.subAccepted = false →
      rejectReasonToError resp.subRejectReason ≠ .ok := fun hs ha =>
    rejectReasonToError_ne fun hr => h (.inr ⟨by simpa using hs, ha, hr⟩)
  refine .read fun w => ?_
  split
  -- a failed response has a code other than OK
  · rename_i hs
    exact ackFailed_blaming fun hok => h (.inl ⟨hs, hok⟩)
  · rename_i hs
    split
    · split
      · rename_i ha
        exact .pure fun _ => .closeAndFinish (hrejected hs ha)
      · exact blaming_modify_then (fun w => .activate rfl (by split <;> nofun)) <| .pure trivial
    · split
      · rename_i ha
        split
        · split
          -- a second rejection is an internal error, the first one asks again
          · exact .pure fun _ => .closeAndFinish nofun
          · refine blaming_modify_then (fun _ => .setSlot id) ?_
            exact sendSubscribe_blaming.andThen fun _ => .pure blames_id
        · exact .pure fun _ => .closeAndFinish (hrejected hs ha)
      · refine blaming_modify_then (fun w => .activate rfl fun hk => ?_) <| .pure trivial
        rcases resumeAt_kind (w.life s) resp.subNextSeq rfl with h | ⟨h, -⟩
        · exact nomatch h.symm.trans hk
        · exact nomatch h.symm.trans hk

theorem handleSubscribeAck_blaming {resp : DecodedResponse} (h : ¬resp.Unexplained) :
    Blaming (fun _ => True) (handleSubscribeAck σ me resp) := by
  have htaken : ∀ w : World, Blames w (w.takeAck resp.requestId) :=
    fun _ => .of_unmoved fun _ => .takeAck
  refine .read fun w => ?_
  split
  · exact blaming_modify_then (fun _ => .of_unmoved fun _ => .push rfl) <| .pure trivial
  · split
    · exact blaming_modify_then htaken <| .pure trivial
    · split
      · exact blaming_modify_then htaken <| .pure trivial
      · refine (Coro.Steady.enterBy fun w => Blames.beginAck).andThen fun _ =>
          (settleAck_blaming h).within.bind fun r hr => ?_
        split
        · refine (Coro.Steady.leaveBy fun w => ?_).andThen fun _ => .pure trivial
          exact hr _ rfl w
        · exact .pure trivial
        · exact (Coro.Steady.leaveBy blames_id).andThen fun _ => .raise

/-! ### Unexplained acknowledgements -/

theorem closeAndFinish_life {topic reason : String} {code : ErrorCode} {phase : Bool} :
    (w.closeAndFinish me topic s code reason phase).life s
      = { w.life s with state := .closed, errorCode := code } := by
  have hrest : Unmoved s (w.markClosed s code reason)
      (w.closeAndFinish me topic s code reason phase) := by
    refine Unmoved.trans (v := w.closeSlot me topic s code reason) ?_ .maybeFinishReconnect
    exact Unmoved.stopSubWorker.trans (.of_eq rfl rfl)
  rw [hrest.life]
  show (w.setSlot s fun x => { x with state := .closed, errorCode := code }).life s = _
  rw [life_setSlot]
  rfl

theorem not_blames_closeAndFinish {topic reason : String} {phase : Bool}
    (h : (w.life s).state ≠ .closed) : ¬Blames w (w.closeAndFinish me topic s .ok reason phase) := by
  intro hb
  refine h (hb.slots s ?_).1
  rw [closeAndFinish_life]
  exact ⟨rfl, rfl⟩

theorem unexplained_closes {topic : String} {resp : DecodedResponse} {Q : Unit → Except Exn AckNext → World → Prop}
    (h : resp.Unexplained) (ht : w.subs.inflightSub.get? resp.requestId = some topic)
    (hs : w.subs.subs.get? topic = some s)
    (hi : (w.subs.slots s).inflightSubscribeRequestId = resp.requestId)
    (hopen : (w.life s).state ≠ .closed) :
    ¬(handleSubscribeAck σ me resp).Abides blaming Q () w := by
  intro habides
  have hopen' : ((w.beginAck s resp).life s).state ≠ .closed := by
    have hsame : Unmoved s w ((w.takeAck resp.requestId).setSlot s fun x =>
        { x with inflightSubscribeRequestId := 0 }) := Unmoved.takeAck.trans (.setSlot fun _ => rfl)
    have hlife : (w.beginAck s resp).life s = w.life s := hsame.life
    rwa [hlife]
  unfold handleSubscribeAck at habides
  rw [Coro.abides_read_then] at habides
  simp only [ht, hs] at habides
  rw [if_neg (not_not.mpr hi)] at habides
  obtain ⟨⟨⟩, -, habides⟩ := habides
  replace habides := Coro.abides_within.mp (Coro.abides_bind.mp habides)
  unfold settleAck at habides
  rw [Coro.abides_read_then] at habides
  -- both acknowledgements without an explanation close the slot with the code OK
  rcases h with ⟨hfail, hcode⟩ | ⟨hsucc, hacc, hreason⟩
  · rw [if_pos hfail] at habides
    unfold ackFailed at habides
    rw [hcode] at habides
    obtain ⟨⟨⟩, hb, -⟩ := habides
    exact not_blames_closeAndFinish hopen' hb
  · rw [if_neg (by simp [hsucc]), if_pos hacc, if_pos hacc, hreason] at habides
    -- telemetry and events, by the same code
    split at habides
    · obtain ⟨⟨⟩, hb, -⟩ := habides
      exact not_blames_closeAndFinish hopen' hb
    · obtain ⟨⟨⟩, hb, -⟩ := habides
      exact not_blames_closeAndFinish hopen' hb

/-- A subscription that waits for the acknowledgement of the request. -/
def World.awaiting (rid : Nat) : World :=
  { World.init ⟨0, 0⟩ with
    subs := {
      subs := Py.Dict.empty.insert "robot.state" 0
      slots := fun _ => { SubSlot.blank with inflightSubscribeRequestId := rid }
      inflightSub := Py.Dict.empty.insert rid "robot.state" } }

theorem blaming_iff {resp : DecodedResponse} :
    (∀ me, Blaming (fun _ => True) (handleSubscribeAck σ me resp)) ↔ ¬resp.Unexplained := by
  refine ⟨fun hb h => ?_, fun h me => handleSubscribeAck_blaming h⟩
  have hpending : ((World.awaiting resp.requestId).life 0).state = .pending := rfl
  refine unexplained_closes h (s := 0) Py.Dict.get?_insert_self Py.Dict.get?_insert_self rfl ?_
    (hb 0 (.awaiting resp.requestId))
  rw [hpending]
  exact nofun

end Coroutines

/-! ### The exact condition -/

/-- **A failure is never reported as OK**, exactly if the request does not fail with the code
OK, and the acknowledgement says why it refuses. -/
theorem failures_reported_iff (σ : Setup) (x : Fut) (resp : DecodedResponse) :
    (CallsAgree x ↔ x.Honest) ∧
    ((∀ me, Blaming (fun _ => True) (handleSubscribeAck σ me resp)) ↔ ¬resp.Unexplained) ∧
    (∀ me topic hz, Blaming (fun _ => True) (subscribeInternal σ me topic hz)) ∧
    (∀ me s since, Blaming (fun _ => True) (sendSubscribe σ me s since)) ∧
    ∀ me rid topic, Blaming (fun _ => True) (handleSubscribeAckTimeout σ me rid topic) := by
  refine ⟨callsAgree_iff, blaming_iff, fun _ _ _ => ?_, fun _ _ _ => ?_, fun _ _ _ => ?_⟩
  · exact subscribeInternal_blaming
  · exact sendSubscribe_blaming
  · exact handleSubscribeAckTimeout_blaming

/-- The velocity command and the subscription are refused with no reason given. -/
def refusedVelocity : List (Cmd (robot .plain)) :=
  connected ++ [.env (.call (.cmdVel ⟨0⟩ ⟨0⟩ ⟨0⟩)), .start 4, .resume 4 (.ok .done),
    responds 2 0 { requestId := 2 }, .resume 4 (.ok .done)]

def refusedSubscription : List (Cmd (robot .plain)) :=
  subscribedEvents ++ [responds 2 0 { requestId := 2, success := true, hasSubscribe := true }]

theorem failure_reported_ok :
    (∃ c rtt, Reaches (robot .plain) (initial ⟨0, 0⟩) c ∧
      .returned 4 (.cmdVel ⟨false, .ok, "", rtt⟩) ∈ c.world.log) ∧
    ∃ c, Reaches (robot .plain) (initial ⟨0, 0⟩) c ∧ (c.world.subs.slots 0).state = .closed ∧
      (c.world.subs.slots 0).errorCode = .ok ∧ .status 0 { kind := .closed } ∈ c.world.log := by
  have hvelocity : ((robot .plain).play 4 refusedVelocity (initial ⟨0, 0⟩)).any (fun c =>
      c.world.log.contains (.returned 4 (.cmdVel ⟨false, .ok, "", 0⟩))) = true := by
    decide +kernel
  have hsubscription : ((robot .plain).play 4 refusedSubscription (initial ⟨0, 0⟩)).any (fun c =>
      (c.world.subs.slots 0).state = .closed && (c.world.subs.slots 0).errorCode = .ok &&
        c.world.log.contains (.status 0 { kind := .closed })) = true := by
    decide +kernel
  obtain ⟨c, hc, hs⟩ := (Option.any_eq_true _ _).mp hvelocity
  obtain ⟨d, hd, ht⟩ := (Option.any_eq_true _ _).mp hsubscription
  simp only [Bool.and_eq_true, decide_eq_true_eq, List.contains_iff_mem] at hs ht
  obtain ⟨⟨hclosed, hcode⟩, hstatus⟩ := ht
  exact ⟨⟨c, 0, play_run hc, hs⟩, d, play_run hd, hclosed, hcode, hstatus⟩

end KaroX2
