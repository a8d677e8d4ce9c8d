/-
KaroX2/Slot.lean

One subscription (`SubSlot`) and the decisions about a single push that only
look at the slot: the sequence check of an event stream, the overflow rule of
the two buffers, and the receive counter over the last sixty seconds.

The tasks around a slot (the handler of its acknowledgement, its dispatch
worker) are in `Subscription.lean`.
-/
import KaroX2.Options
import KaroX2.Coop.Coro

namespace KaroX2

open Coop (TaskId)

/-- Slots are numbered in the order of the subscribe calls; a slot's number
stands for the handle that the call returned as well. -/
abbrev SlotId := Nat

/-- `SubscriptionState` -/
inductive SubscriptionState where
  | pending | active | paused | closed
  deriving DecidableEq, Repr

/-- `StreamStatusKind` -/
inductive StreamStatusKind where
  | started | paused | resumed | gap | closed
  deriving DecidableEq, Repr

/-- `StreamStatus` -/
structure StreamStatus where
  kind : StreamStatusKind
  gapCount : Option Nat := none
  errorCode : ErrorCode := .ok
  reason : String := ""
  deriving DecidableEq, Repr

/-- `SubSlot` -/
structure SubSlot where
  topic : String
  desiredHz : PyFloat
  semantics : DeliverySemantics
  callbackMode : CallbackMode
  dropPolicy : DropPolicy
  queueSize : Nat
  state : SubscriptionState := .pending
  lastSeq : Nat := 0
  dropCount : Nat := 0
  errorCode : ErrorCode := .ok
  pendingBuffer : List DecodedTopicPush := []
  inflightSubscribeRequestId : Nat := 0
  freshRetryDone : Bool := false
  expectedResumeSeq : Nat := 0
  everActive : Bool := false
  isReconnectResume : Bool := false
  unsubscribeSent : Bool := false
  userClosed : Bool := false
  messagesReceived : Nat := 0
  lastMessageAt : ℚ := 0
  hzBuckets : Fin 60 → Nat := fun _ => 0
  hzLastEpochMs : Nat := 0
  dispatchQueue : Option (List DecodedTopicPush) := none
  dispatchWorker : Option TaskId := none
  /-- the facade's finalizer exists and has neither run nor been detached -/
  finalizer : Bool := false

namespace SubSlot

/-! ### The sequence check -/

/-- What `_deliver_push_to_sub` does with a sequence number. -/
inductive SeqCheck where
  | accept (lastSeq : Nat) (gap : Option Nat)
  | duplicate
  | regression
  deriving DecidableEq, Repr

def checkSeq (s : SubSlot) (newSeq : Nat) : SeqCheck :=
  match s.semantics with
  | .telemetry => .accept s.lastSeq none
  | .event =>
    if newSeq = 0 then .accept s.lastSeq none
    else if s.lastSeq = 0 then .accept newSeq none
    else if newSeq = s.lastSeq + 1 then .accept newSeq none
    else if newSeq > s.lastSeq + 1 then .accept newSeq (some (newSeq - s.lastSeq - 1))
    else if newSeq = s.lastSeq then .duplicate
    else .regression

/-! ### Buffers -/

/-- Put a push into a buffer of the size of the slot's queue. -/
def enqueue (s : SubSlot) (q : List DecodedTopicPush) (push : DecodedTopicPush) :
    List DecodedTopicPush × Nat :=
  if q.length ≥ s.queueSize then
    match s.dropPolicy with
    | .dropNewest => (q, 1)
    | .dropOldest => (q.tail ++ [push], 1)
  else (q ++ [push], 0)

/-- A push that arrives while the slot waits for its acknowledgement. -/
def bufferPending (s : SubSlot) (push : DecodedTopicPush) : SubSlot :=
  { s with
    pendingBuffer := (s.enqueue s.pendingBuffer push).1
    dropCount := s.dropCount + (s.enqueue s.pendingBuffer push).2 }

/-- A push that goes to the dispatch worker. -/
def bufferDispatch (s : SubSlot) (push : DecodedTopicPush) : SubSlot :=
  match s.dispatchQueue with
  | none => s
  | some q =>
    { s with
      dispatchQueue := some (s.enqueue q push).1
      dropCount := s.dropCount + (s.enqueue q push).2 }

/-! ### The receive counter -/

/-- `_slide_hz_buckets` -/
def slideHzBuckets (s : SubSlot) (epochMs : Nat) : SubSlot :=
  let curSec := epochMs / 1000
  let lastSec := s.hzLastEpochMs / 1000
  if curSec = lastSec ∧ 0 < s.hzLastEpochMs then s
  else if s.hzLastEpochMs = 0 then { s with hzLastEpochMs := epochMs }
  else
    { s with
      hzBuckets := fun b =>
        if (List.range (min 60 (curSec - lastSec))).any
          fun i => Fin.ofNat 60 (lastSec + (i + 1)) = b then 0 else s.hzBuckets b
      hzLastEpochMs := epochMs }

/-- A push was accepted: the counters of `_deliver_push_to_sub`. -/
def recordReceived (s : SubSlot) (now : ℚ) (epochMs : Nat) : SubSlot :=
  let s := { s with messagesReceived := s.messagesReceived + 1, lastMessageAt := now }
  let s := s.slideHzBuckets epochMs
  { s with hzBuckets := fun b =>
      if Fin.ofNat 60 (epochMs / 1000) = b then s.hzBuckets b + 1 else s.hzBuckets b }

end SubSlot

end KaroX2
