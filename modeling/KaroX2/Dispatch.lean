/-
KaroX2/Dispatch.lean

Which table a response is looked up in.

A response is routed by its payload: one with a subscribe payload goes to
`_inflight_sub`, every other one to `_inflight`.  An error response has no payload,
so the error of a subscribe request is looked up in the wrong table.
-/
import KaroX2.Resumption

namespace KaroX2

open Coop Py

variable {σ : Setup} {w w' : World} {resp : DecodedResponse} {me : TaskId}

/-! ### Dispatch -/

/-- The id of the response is in neither table any more, and its request is completed:
the future has the response, or the acknowledgement timer is cancelled and the slot of the
topic goes on with the outcome. -/
structure Dispatched (resp : DecodedResponse) (w w' : World) : Prop where
  inflight : w'.rpc.inflight.get? resp.requestId = none
  inflightSub : w'.subs.inflightSub.get? resp.requestId = none
  answered : ∀ entry, w.rpc.inflight.get? resp.requestId = some entry →
    (w.rpc.futures resp.requestId).done = false → w'.rpc.futures resp.requestId = .result resp
  acknowledged : ∀ topic, w.subs.inflightSub.get? resp.requestId = some topic →
    w'.subs.subAckTimers.get? resp.requestId = none ∧
    (∀ h, w.subs.subAckTimers.get? resp.requestId = some h → w'.rpc.timers.get? h = none) ∧
    ∃ s, w.subs.subs.get? topic = some s ∧ (w'.subs.slots s).inflightSubscribeRequestId = 0 ∧
      w'.log = .acknowledged s resp :: w.log

/-- The response goes to the table that has its id, and the slot still waits for it. -/
def Routed (resp : DecodedResponse) (w : World) : Prop :=
  if resp.hasSubscribe then
    w.rpc.inflight.get? resp.requestId = none ∧
    ∃ topic s, w.subs.inflightSub.get? resp.requestId = some topic ∧
      w.subs.subs.get? topic = some s ∧
      (w.subs.slots s).inflightSubscribeRequestId = resp.requestId
  else w.subs.inflightSub.get? resp.requestId = none

/-- The world after the first update of the handler. -/
def firstHandled (σ : Setup) (me : TaskId) (resp : DecodedResponse) (w : World) : Option World :=
  (handleSdkResponse σ me resp).first w

/-! ### The two handlers -/

theorem handleRpcResponse_inflightSub :
    (w.handleRpcResponse resp).subs.inflightSub = w.subs.inflightSub := by
  unfold World.handleRpcResponse
  split
  · rfl
  · rw [Quiet.resolve_subs]
    split <;> rfl

theorem resolve_inflight {rid : Nat} {x : Fut} :
    (w.resolve rid x).rpc.inflight = w.rpc.inflight := by
  unfold World.resolve
  split <;> rfl

theorem resolve_future {rid : Nat} {x : Fut} (hd : (w.rpc.futures rid).done = false) :
    (w.resolve rid x).rpc.futures rid = x := by
  unfold World.resolve
  rw [if_neg (by simp [hd])]
  exact Function.update_self _ _ _

theorem handleRpcResponse_dispatched {entry : InflightRpc}
    (he : w.rpc.inflight.get? resp.requestId = some entry)
    (hs : w.subs.inflightSub.get? resp.requestId = none) :
    Dispatched resp w (w.handleRpcResponse resp) := by
  refine ⟨?_, ?_, fun _ _ hd => ?_, fun topic ht => ?_⟩
  · unfold World.handleRpcResponse
    simp only [he, resolve_inflight]
    rcases entry.timeoutHandle <;> exact Dict.get?_erase_self
  · rw [handleRpcResponse_inflightSub]
    exact hs
  · unfold World.handleRpcResponse
    simp only [he]
    apply resolve_future
    rcases entry.timeoutHandle <;> exact hd
  · rw [hs] at ht
    cases ht

theorem takeAck_log {rid : Nat} : (w.takeAck rid).log = w.log := by
  unfold World.takeAck
  split <;> rfl

theorem takeAck_timer {rid h : Nat} (hh : w.subs.subAckTimers.get? rid = some h) :
    (w.takeAck rid).rpc.timers.get? h = none := by
  unfold World.takeAck
  rw [hh]
  exact Dict.get?_erase_self

theorem takeAck_tables (w : World) (rid : Nat) :
    (w.takeAck rid).rpc.inflight = w.rpc.inflight ∧
    (w.takeAck rid).subs.inflightSub.get? rid = none ∧
    (w.takeAck rid).subs.subAckTimers.get? rid = none := by
  unfold World.takeAck
  split <;> exact ⟨rfl, Dict.get?_erase_self, Dict.get?_erase_self⟩

theorem beginAck_dispatched {topic : String} {s : SlotId}
    (hi : w.rpc.inflight.get? resp.requestId = none)
    (ht : w.subs.inflightSub.get? resp.requestId = some topic) (hs : w.subs.subs.get? topic = some s) :
    Dispatched resp w (w.beginAck s resp) := by
  obtain ⟨hrpc, hsub, htimer⟩ := takeAck_tables w resp.requestId
  refine ⟨?_, hsub, fun entry he => ?_, fun topic' ht' => ⟨htimer, fun h hh => takeAck_timer hh, ?_⟩⟩
  · show (w.takeAck resp.requestId).rpc.inflight.get? resp.requestId = none
    rw [hrpc]
    exact hi
  · rw [hi] at he
    cases he
  -- the slot is taken from the registry, and its request is not in flight any more
  · obtain rfl := Option.some.inj (ht.symm.trans ht')
    refine ⟨s, hs, ?_, ?_⟩
    · simp [World.beginAck, World.push, World.setSlot]
    · show _ :: (w.takeAck resp.requestId).log = _
      rw [takeAck_log]

/-- Without an entry in the history, nothing was acknowledged. -/
theorem Dispatched.not_of_log {topic : String} (hl : w'.log = w.log)
    (ht : w.subs.inflightSub.get? resp.requestId = some topic) : ¬Dispatched resp w w' := by
  intro hd
  obtain ⟨-, -, s, -, -, he⟩ := hd.acknowledged topic ht
  exact List.cons_ne_self _ _ (he.symm.trans hl)

/-! ### Responses with and without a subscribe payload -/

theorem firstHandled_rpc (h : resp.hasSubscribe = false) :
    firstHandled σ me resp w = some (w.handleRpcResponse resp) := by
  unfold firstHandled handleSdkResponse
  rw [if_neg (by simp [h])]
  rfl

/-- A response without a subscribe payload leaves the entry of a subscribe request. -/
theorem firstHandled_ignored {topic : String} (h : resp.hasSubscribe = false)
    (ht : w.subs.inflightSub.get? resp.requestId = some topic)
    (hw : firstHandled σ me resp w = some w') : ¬Dispatched resp w w' := by
  rw [firstHandled_rpc h] at hw
  obtain rfl := Option.some.inj hw
  intro hd
  have hnone := hd.inflightSub
  rw [handleRpcResponse_inflightSub, ht] at hnone
  cases hnone

theorem firstHandled_ack (h : resp.hasSubscribe = true) :
    firstHandled σ me resp w =
      match w.subs.inflightSub.get? resp.requestId with
      | none => some (w.postLog .debug "SubscribeAck for unknown request_id")
      | some topic =>
        match w.subs.subs.get? topic with
        | none => some (w.takeAck resp.requestId)
        | some s =>
          if (w.subs.slots s).inflightSubscribeRequestId ≠ resp.requestId then
            some (w.takeAck resp.requestId)
          else some (w.beginAck s resp) := by
  unfold firstHandled handleSdkResponse
  rw [if_pos h]
  unfold handleSubscribeAck
  change Coro.first (S := Karo) (Coro.bind Coro.read _) w = _
  simp only [Coro.read, Coro.bind, Coro.first]
  rcases w.subs.inflightSub.get? resp.requestId with - | topic
  · rfl
  · dsimp only
    rcases w.subs.subs.get? topic with - | s
    · rfl
    · dsimp only
      split <;> rfl

/-- The robot refuses the subscribe request with an error response, which has no payload. -/
def refusing : DecodedResponse := { requestId := 2, sdkCode := .capabilityDenied, message := "denied" }

end KaroX2
