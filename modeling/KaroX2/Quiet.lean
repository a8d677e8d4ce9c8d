/-
KaroX2/Quiet.lean

Updates that say nothing about the connection, and updates that say nothing
about the subscriptions either.

An update is *silent* if it leaves the attributes of the connection and the
emergency-stop intent alone, does nothing to tasks but ask some of them to
stop, and adds only routine entries to the history.  It is *quiet* if, besides,
it leaves the registry of subscriptions alone and whatever of a slot its life
cycle depends on.  Most updates are quiet: what they do to requests, statistics
and buffers does not matter to the statements about connections and
subscriptions.
-/
import KaroX2.System

namespace KaroX2

open Coop

/-! ### Routine entries of the history -/

/-- The entry is about neither the connection nor a request. -/
def Obs.routine : Obs → Bool
  | .posted _ _ | .acknowledged _ _ | .status _ _ | .accepted _ _ | .delivered _ _
  | .returned _ _ | .raised _ _ => true
  | _ => false

/-- The entry is about the stream of a subscription. -/
def Obs.stream : Obs → Bool
  | .acknowledged _ _ | .status _ _ | .accepted _ _ | .delivered _ _ => true
  | _ => false

/-- The part of the history that is about the streams of subscriptions. -/
def streams (log : List Obs) : List Obs := log.filter Obs.stream

/-- `log'` is `log` with routine entries added. -/
def LogGrows (log log' : List Obs) : Prop :=
  ∃ l, log' = l ++ log ∧ ∀ o ∈ l, o.routine = true

namespace LogGrows

variable {l₁ l₂ l₃ : List Obs}

theorem refl : LogGrows l₁ l₁ := ⟨[], rfl, fun _ h => absurd h List.not_mem_nil⟩

theorem trans (h : LogGrows l₁ l₂) (h' : LogGrows l₂ l₃) : LogGrows l₁ l₃ := by
  obtain ⟨l, rfl, hl⟩ := h
  obtain ⟨m, rfl, hm⟩ := h'
  refine ⟨m ++ l, (List.append_assoc _ _ _).symm, fun o ho => ?_⟩
  rcases List.mem_append.mp ho with h | h
  · exact hm o h
  · exact hl o h

theorem cons {o : Obs} (ho : o.routine = true) : LogGrows l₁ (o :: l₁) :=
  ⟨[o], rfl, by simpa using ho⟩

/-- What is computed from the history and does not see routine entries does not
see its growth. -/
theorem eq_of_routine {β : Type} {f : List Obs → β}
    (hf : ∀ o l, o.routine = true → f (o :: l) = f l) (h : LogGrows l₁ l₂) : f l₂ = f l₁ := by
  obtain ⟨l, rfl, hl⟩ := h
  induction l with
  | nil => rfl
  | cons o l ih =>
    have ho : o.routine = true := hl o List.mem_cons_self
    rw [List.cons_append, hf o _ ho]
    exact ih fun o ho => hl o (List.mem_cons_of_mem _ ho)

theorem filter_eq (h : LogGrows l₁ l₂) {q : Obs → Bool}
    (hq : ∀ o, o.routine = true → q o = false) : l₂.filter q = l₁.filter q :=
  h.eq_of_routine fun o l ho => List.filter_cons_of_neg (by simp [hq o ho])

theorem countP_eq (h : LogGrows l₁ l₂) {q : Obs → Bool}
    (hq : ∀ o, o.routine = true → q o = false) : l₂.countP q = l₁.countP q :=
  h.eq_of_routine fun o l ho => List.countP_cons_of_neg (by simp [hq o ho])

theorem mem (h : LogGrows l₁ l₂) {o : Obs} (ho : o.routine = false) : o ∈ l₂ ↔ o ∈ l₁ := by
  obtain ⟨l, rfl, hl⟩ := h
  refine ⟨fun hm => ?_, fun hm => List.mem_append_right _ hm⟩
  rcases List.mem_append.mp hm with h | h
  · rw [hl o h] at ho
    cases ho
  · exact h

theorem epoch_eq (h : LogGrows l₁ l₂) : epoch l₂ = epoch l₁ :=
  h.countP_eq fun o ho => by cases o <;> first | rfl | cases ho

end LogGrows

/-! ### What stays of slots and clients -/

/-- The fields of a slot that its life cycle and its sequence numbers depend on. -/
structure SubSlot.Control where
  topic : String
  semantics : DeliverySemantics
  state : SubscriptionState
  errorCode : ErrorCode
  inflight : Nat
  worker : Option TaskId
  lastSeq : Nat
  expectedResumeSeq : Nat
  everActive : Bool
  isReconnectResume : Bool
  pendingBuffer : List DecodedTopicPush

def SubSlot.control (x : SubSlot) : SubSlot.Control where
  topic := x.topic
  semantics := x.semantics
  state := x.state
  errorCode := x.errorCode
  inflight := x.inflightSubscribeRequestId
  worker := x.dispatchWorker
  lastSeq := x.lastSeq
  expectedResumeSeq := x.expectedResumeSeq
  everActive := x.everActive
  isReconnectResume := x.isReconnectResume
  pendingBuffer := x.pendingBuffer

/-- A client only ever comes closer to its end. -/
structure WsClient.Ages (k k' : WsClient) : Prop where
  isOpen : k'.isOpen = true → k.isOpen = true
  attached : k'.attached = true → k.attached = true
  reader : ∀ t, k'.readTask = some t → k.readTask = some t
  closed : k'.closed = k.closed
  handlers : k'.handlers = k.handlers

theorem WsClient.Ages.refl {k : WsClient} : k.Ages k := ⟨id, id, fun _ => id, rfl, rfl⟩

theorem WsClient.Ages.trans {k₁ k₂ k₃ : WsClient} (h : k₁.Ages k₂) (h' : k₂.Ages k₃) : k₁.Ages k₃ :=
  ⟨h.isOpen ∘ h'.isOpen, h.attached ∘ h'.attached, fun t => h.reader t ∘ h'.reader t,
    h'.closed.trans h.closed, h'.handlers.trans h.handlers⟩

/-- The task is the reader of a client or the worker of a slot. -/
def World.Minor (w : World) (t : TaskId) : Prop :=
  (∃ c, (w.clients c).readTask = some t) ∨ ∃ s, (w.subs.slots s).dispatchWorker = some t

/-! ### Silent updates -/

/-- The update says nothing about the connection; besides readers and workers it
may ask the tasks in `q` to stop. -/
structure Silent (q : TaskId → Prop) (w w' : World) : Prop where
  conn : w'.conn = w.conn
  estop : w'.estop = w.estop
  slotCount : w'.subs.slotCount = w.subs.slotCount
  topic : ∀ s, (w'.subs.slots s).topic = (w.subs.slots s).topic
  worker : ∀ s, (w'.subs.slots s).dispatchWorker = (w.subs.slots s).dispatchWorker
  clientCount : w'.clientCount = w.clientCount
  client : ∀ c, (w.clients c).Ages (w'.clients c)
  tasks : Tasks.Cancels (fun t => w.Minor t ∨ q t) w.tasks w'.tasks
  nextRid : w.rpc.nextRequestId ≤ w'.rpc.nextRequestId
  future : ∀ rid, (w.rpc.futures rid).done = true → w'.rpc.futures rid = w.rpc.futures rid
  log : LogGrows w.log w'.log

namespace Silent

variable {w w' w'' : World} {q r : TaskId → Prop}

theorem minor (h : Silent q w w') {t : TaskId} (ht : w'.Minor t) : w.Minor t := by
  rcases ht with ⟨c, hc⟩ | ⟨s, hs⟩
  · exact .inl ⟨c, (h.client c).reader t hc⟩
  · exact .inr ⟨s, h.worker s ▸ hs⟩

theorem refl : Silent q w w :=
  ⟨rfl, rfl, rfl, fun _ => rfl, fun _ => rfl, rfl, fun _ => .refl, .refl, le_rfl, fun _ _ => rfl,
    .refl⟩

theorem trans (h : Silent q w w') (h' : Silent q w' w'') : Silent q w w'' where
  conn := h'.conn.trans h.conn
  estop := h'.estop.trans h.estop
  slotCount := h'.slotCount.trans h.slotCount
  topic := fun s => (h'.topic s).trans (h.topic s)
  worker := fun s => (h'.worker s).trans (h.worker s)
  clientCount := h'.clientCount.trans h.clientCount
  client := fun c => (h.client c).trans (h'.client c)
  tasks := h.tasks.trans (h'.tasks.mono fun _ ht => ht.imp_left h.minor)
  nextRid := h.nextRid.trans h'.nextRid
  future := fun rid hd => by
    have he := h.future rid hd
    exact (h'.future rid (he ▸ hd)).trans he
  log := h.log.trans h'.log

theorem mono (hqr : ∀ t, q t → r t) (h : Silent q w w') : Silent r w w' :=
  { h with tasks := h.tasks.mono fun t => Or.imp_right (hqr t) }

theorem foldl {α : Type} {f : World → α → World} (hf : ∀ w x, Silent q w (f w x)) (l : List α)
    (w : World) : Silent q w (l.foldl f w) := by
  induction l generalizing w with
  | nil => exact refl
  | cons x l ih => exact (hf w x).trans (ih _)

/-- An update of the other parts of the world. -/
theorem of_eq (h₁ : w'.conn = w.conn) (h₂ : w'.estop = w.estop)
    (h₃ : w'.subs.slotCount = w.subs.slotCount) (h₄ : w'.subs.slots = w.subs.slots)
    (h₅ : w'.clientCount = w.clientCount) (h₆ : w'.clients = w.clients) (h₇ : w'.tasks = w.tasks)
    (h₈ : w.rpc.nextRequestId ≤ w'.rpc.nextRequestId) (h₉ : w'.rpc.futures = w.rpc.futures)
    (h : w'.log = w.log) : Silent q w w' :=
  ⟨h₁, h₂, h₃, fun _ => by rw [h₄], fun _ => by rw [h₄], h₅, fun _ => h₆ ▸ .refl, h₇ ▸ .refl, h₈,
    fun _ _ => by rw [h₉], h ▸ .refl⟩

theorem push {o : Obs} (ho : o.routine = true) : Silent q w (w.push o) :=
  { refl with log := .cons ho }

theorem setSlot {s : SlotId} {f : SubSlot → SubSlot} (ht : ∀ x, (f x).topic = x.topic)
    (hw : ∀ x, (f x).dispatchWorker = x.dispatchWorker) : Silent q w (w.setSlot s f) where
  conn := rfl
  estop := rfl
  slotCount := rfl
  topic := fun u => by
    rcases eq_or_ne u s with rfl | h
    · simp [World.setSlot, ht]
    · simp [World.setSlot, h]
  worker := fun u => by
    rcases eq_or_ne u s with rfl | h
    · simp [World.setSlot, hw]
    · simp [World.setSlot, h]
  clientCount := rfl
  client := fun _ => .refl
  tasks := .refl
  nextRid := le_rfl
  future := fun _ _ => rfl
  log := .refl

theorem setClient {c : WsId} {f : WsClient → WsClient} (hf : ∀ k : WsClient, k.Ages (f k)) :
    Silent q w (w.setClient c f) :=
  { refl (w := w) with
    client := fun d => by
      rcases eq_or_ne d c with rfl | h
      · simpa [World.setClient] using hf (w.clients d)
      · simpa [World.setClient, h] using .refl }

theorem resolve {rid : Nat} {x : Fut} : Silent q w (w.resolve rid x) := by
  unfold World.resolve
  split
  · exact refl
  · rename_i hd
    refine { refl (w := w) with future := fun r hr => ?_ }
    have : r ≠ rid := by
      rintro rfl
      exact hd hr
    simp [World.setFuture, this]

theorem cancelTimer {rid : Nat} : Silent q w (w.cancelTimer rid) :=
  of_eq rfl rfl rfl rfl rfl rfl rfl le_rfl rfl rfl

/-- `cancelOther` asks the task that it is given to stop, or none. -/
theorem cancelOther {me : TaskId} {u : Option TaskId} (hu : ∀ t, u = some t → w.Minor t ∨ q t) :
    Silent q w (w.cancelOther me u) := by
  cases u with
  | none => exact refl
  | some t =>
    unfold World.cancelOther
    dsimp only
    split
    · exact refl
    · exact { refl (w := w) (q := q) with tasks := .single (hu t rfl) }

theorem fireStatus {s : SlotId} {st : StreamStatus} : Silent q w (w.fireStatus s st) := push rfl

theorem markClosed {s : SlotId} {code : ErrorCode} {reason : String} :
    Silent q w (w.markClosed s code reason) :=
  (setSlot (fun _ => by rfl) fun _ => by rfl).trans fireStatus

theorem stopSubWorker {me : TaskId} {s : SlotId} : Silent q w (w.stopSubWorker me s) :=
  cancelOther fun _ ht => .inl (.inr ⟨s, ht⟩)

theorem closeSlot {me : TaskId} {topic : String} {s : SlotId} {code : ErrorCode} {reason : String} :
    Silent q w (w.closeSlot me topic s code reason) :=
  (markClosed.trans stopSubWorker).trans (of_eq rfl rfl rfl rfl rfl rfl rfl le_rfl rfl rfl)

theorem closeSlotOnce {me : TaskId} {code : ErrorCode} {reason : String} {s : SlotId} :
    Silent q w (w.closeSlotOnce me code reason s) := by
  unfold World.closeSlotOnce
  dsimp only
  split
  · exact stopSubWorker
  · exact markClosed.trans stopSubWorker

theorem closeAllSlots {me : TaskId} {code : ErrorCode} {reason : String} :
    Silent q w (w.closeAllSlots me code reason) :=
  (foldl (fun _ _ => closeSlotOnce) _ _).trans
    (of_eq rfl rfl rfl rfl rfl rfl rfl le_rfl rfl rfl)

theorem pauseSlot {reason : ErrorCode} {msg : String} {s : SlotId} :
    Silent q w (w.pauseSlot reason msg s) := by
  unfold World.pauseSlot
  dsimp only
  split
  · exact ((setSlot (fun _ => by rfl) fun _ => by rfl).trans fireStatus).trans
      (setSlot (fun _ => by rfl) fun _ => by rfl)
  · exact setSlot (fun _ => by rfl) fun _ => by rfl

theorem pauseSlots {reason : ErrorCode} {msg : String} : Silent q w (w.pauseSlots reason msg) :=
  foldl (fun _ _ => pauseSlot) _ _

theorem failRequest {e : Exn} {x : Nat × InflightRpc} : Silent q w (w.failRequest e x) := by
  unfold World.failRequest
  cases x.2.timeoutHandle with
  | none => exact resolve
  | some h => exact cancelTimer.trans resolve

theorem failInflight {e : Exn} : Silent q w (w.failInflight e) :=
  (foldl (fun _ _ => failRequest) _ _).trans (of_eq rfl rfl rfl rfl rfl rfl rfl le_rfl rfl rfl)

theorem clearSubAcks : Silent q w w.clearSubAcks :=
  (foldl (fun _ _ => cancelTimer) _ _).trans (of_eq rfl rfl rfl rfl rfl rfl rfl le_rfl rfl rfl)

theorem takeAck {rid : Nat} : Silent q w (w.takeAck rid) := by
  unfold World.takeAck
  dsimp only
  split
  · exact of_eq rfl rfl rfl rfl rfl rfl rfl le_rfl rfl rfl
  · exact of_eq rfl rfl rfl rfl rfl rfl rfl le_rfl rfl rfl

theorem beginAck {s : SlotId} {resp : DecodedResponse} : Silent q w (w.beginAck s resp) :=
  (takeAck.trans (setSlot (fun _ => by rfl) fun _ => by rfl)).trans (push rfl)

theorem registerSubscribe {s : SlotId} {rid since : Nat} :
    Silent q w (w.registerSubscribe s rid since) :=
  (setSlot (w := w) (s := s) (fun _ => by rfl) fun _ => by rfl).trans
    (of_eq rfl rfl rfl rfl rfl rfl rfl le_rfl rfl rfl)

theorem unregisterSubscribe {s : SlotId} {rid : Nat} : Silent q w (w.unregisterSubscribe s rid) :=
  (show Silent q w ((w.cancelTimer rid).setSlot s
      fun x => { x with inflightSubscribeRequestId := 0 }) from
    cancelTimer.trans (setSlot (fun _ => rfl) fun _ => rfl)).trans
      (of_eq rfl rfl rfl rfl rfl rfl rfl le_rfl rfl rfl)

theorem activateTelemetry {s : SlotId} : Silent q w (w.activateTelemetry s) :=
  (setSlot (fun _ => by rfl) fun _ => by rfl).trans fireStatus

theorem activateEvent {s : SlotId} {K : Nat} : Silent q w (w.activateEvent s K) :=
  (setSlot (fun _ => by rfl) fun _ => by rfl).trans fireStatus

theorem resolveAllSemantics : Silent q w w.resolveAllSemantics :=
  foldl (fun _ _ => setSlot (fun _ => by rfl) fun _ => by rfl) _ _

/-- The tasks that an end of the connection asks to stop besides readers and
workers. -/
def supervisors (w : World) (t : TaskId) : Prop :=
  w.conn.heartbeatTask = some t ∨ w.conn.reconnectTask = some t

theorem dropSession {me : TaskId} {reason : ErrorCode} {msg : String} :
    Silent (fun t => w.conn.heartbeatTask = some t) w (w.dropSession me reason msg) := by
  have h : Silent (fun t => w.conn.heartbeatTask = some t) w
      (((w.pauseSlots reason msg).failInflight (.sdk reason msg)).clearSubAcks) :=
    (pauseSlots.trans failInflight).trans clearSubAcks
  refine (h.trans (cancelOther fun t ht => .inr ?_)).trans
    (of_eq rfl rfl rfl rfl rfl rfl rfl le_rfl rfl rfl)
  rw [h.conn] at ht
  exact ht

theorem abandon {me : TaskId} {code : ErrorCode} {message : String} :
    Silent (supervisors w) w (w.abandon me code message) := by
  have h : Silent (supervisors w) w ((w.closeAllSlots me code
      (if message = "" then "Fatal" else message)).failInflight (.sdk code message)).clearSubAcks :=
    (closeAllSlots.trans failInflight).trans clearSubAcks
  have hnext : ∀ v : World, Silent (supervisors w) w v →
      Silent (supervisors w) w (v.cancelOther me v.conn.heartbeatTask) :=
    fun v hv => hv.trans (cancelOther fun t ht => .inr (.inl (hv.conn ▸ ht)))
  have h' := hnext _ h
  exact h'.trans (cancelOther fun t ht => .inr (.inr (h'.conn ▸ ht)))

theorem closeDown {me : TaskId} : Silent (supervisors w) w (w.closeDown me) := by
  have h : Silent (supervisors w) w (w.cancelOther me w.conn.reconnectTask) :=
    cancelOther fun t ht => .inr (.inr ht)
  have hnext : ∀ v : World, Silent (supervisors w) w v →
      Silent (supervisors w) w (v.cancelOther me v.conn.heartbeatTask) :=
    fun v hv => hv.trans (cancelOther fun t ht => .inr (.inl (hv.conn ▸ ht)))
  have h' := hnext _ h
  exact ((h'.trans failInflight).trans clearSubAcks).trans closeAllSlots

theorem restartHeartbeat :
    Silent (fun t => w.conn.heartbeatTask = some t) w w.restartHeartbeat := by
  obtain ⟨q, hq⟩ : ∃ q, q = fun t => w.conn.heartbeatTask = some t := ⟨_, rfl⟩
  rw [← hq]
  have h : ∀ w', Silent q w w' →
      Silent q w { w' with hb.lastInbound := w'.clock.steady, hb.missCount := 0 } :=
    fun _ h => h.trans (of_eq rfl rfl rfl rfl rfl rfl rfl le_rfl rfl rfl)
  unfold World.restartHeartbeat
  refine h _ ?_
  rcases ht : w.conn.heartbeatTask with - | t
  · exact refl
  · dsimp only
    split
    · exact refl
    · exact { refl (w := w) (q := q) with tasks := .single (.inr (hq ▸ ht)) }

end Silent

/-! ### Quiet updates -/

/-- The update says nothing about the connection and the subscriptions. -/
structure Quiet (w w' : World) : Prop extends Silent (fun _ => False) w w' where
  registry : w'.subs.subs = w.subs.subs
  inflightSub : w'.subs.inflightSub = w.subs.inflightSub
  control : ∀ s, (w'.subs.slots s).control = (w.subs.slots s).control
  stream : streams w'.log = streams w.log

namespace Quiet

variable {w w' w'' : World}

theorem refl : Quiet w w := ⟨.refl, rfl, rfl, fun _ => rfl, rfl⟩

theorem trans (h : Quiet w w') (h' : Quiet w' w'') : Quiet w w'' :=
  ⟨h.toSilent.trans h'.toSilent, h'.registry.trans h.registry,
    h'.inflightSub.trans h.inflightSub, fun s => (h'.control s).trans (h.control s),
    h'.stream.trans h.stream⟩

/-- An update of the parts of the world that no statement looks at. -/
theorem of_eq (h₁ : w'.conn = w.conn) (h₂ : w'.estop = w.estop) (h₃ : w'.subs = w.subs)
    (h₄ : w'.clientCount = w.clientCount) (h₅ : w'.clients = w.clients) (h₆ : w'.tasks = w.tasks)
    (h₇ : w.rpc.nextRequestId ≤ w'.rpc.nextRequestId) (h₈ : w'.rpc.futures = w.rpc.futures)
    (h : w'.log = w.log) : Quiet w w' :=
  ⟨.of_eq h₁ h₂ (by rw [h₃]) (by rw [h₃]) h₄ h₅ h₆ h₇ h₈ h, by rw [h₃], by rw [h₃],
    fun _ => by rw [h₃], by rw [h]⟩

theorem push {o : Obs} (ho : o.routine = true) (hs : o.stream = false) : Quiet w (w.push o) :=
  ⟨.push ho, rfl, rfl, fun _ => rfl, List.filter_cons_of_neg (by simp [hs])⟩

theorem setSlot {s : SlotId} {f : SubSlot → SubSlot} (hf : ∀ x, (f x).control = x.control) :
    Quiet w (w.setSlot s f) where
  toSilent := .setSlot (fun x => congrArg SubSlot.Control.topic (hf x))
    fun x => congrArg SubSlot.Control.worker (hf x)
  registry := rfl
  inflightSub := rfl
  control := fun u => by
    rcases eq_or_ne u s with rfl | h
    · simpa [World.setSlot] using hf _
    · simp [World.setSlot, h]
  stream := rfl

theorem setClient {c : WsId} {f : WsClient → WsClient} (hf : ∀ k : WsClient, k.Ages (f k)) :
    Quiet w (w.setClient c f) :=
  ⟨.setClient hf, rfl, rfl, fun _ => rfl, rfl⟩

theorem shutSocket {c : WsId} : Quiet w (w.shutSocket c) :=
  setClient fun _ => ⟨nofun, id, fun _ => id, rfl, rfl⟩

theorem detach {c : WsId} : Quiet w (w.detach c) :=
  setClient fun _ => ⟨id, nofun, nofun, rfl, rfl⟩

theorem cancelReader {c : WsId} {reader : TaskId} (h : (w.clients c).readTask = some reader) :
    Quiet w (w.cancelReader reader) :=
  ⟨{ Silent.refl (w := w) (q := fun _ => False) with tasks := .single (.inl (.inl ⟨c, h⟩)) },
    rfl, rfl, fun _ => rfl, rfl⟩

theorem resolve_subs {rid : Nat} {x : Fut} : (w.resolve rid x).subs = w.subs := by
  unfold World.resolve
  split <;> rfl

theorem resolve_log {rid : Nat} {x : Fut} : (w.resolve rid x).log = w.log := by
  unfold World.resolve
  split <;> rfl

theorem resolve {rid : Nat} {x : Fut} : Quiet w (w.resolve rid x) :=
  ⟨.resolve, by rw [resolve_subs], by rw [resolve_subs], fun _ => by rw [resolve_subs],
    by rw [resolve_log]⟩

theorem bumpRid : Quiet w w.bumpRid :=
  of_eq rfl rfl rfl rfl rfl rfl (Nat.le_succ _) rfl rfl

theorem register {rid : Nat} {method : String} : Quiet w (w.register rid method) :=
  of_eq rfl rfl rfl rfl rfl rfl le_rfl rfl rfl

theorem unregister {rid : Nat} : Quiet w (w.unregister rid) :=
  of_eq rfl rfl rfl rfl rfl rfl le_rfl rfl rfl

theorem cancelTimer {rid : Nat} : Quiet w (w.cancelTimer rid) :=
  of_eq rfl rfl rfl rfl rfl rfl le_rfl rfl rfl

theorem withdraw {rid : Nat} : Quiet w (w.withdraw rid) := unregister.trans cancelTimer

theorem handleRpcResponse {resp : DecodedResponse} : Quiet w (w.handleRpcResponse resp) := by
  unfold World.handleRpcResponse
  rcases w.rpc.inflight.get? resp.requestId with - | entry
  · exact push rfl rfl
  · dsimp only
    rcases entry.timeoutHandle with - | h
    · exact unregister.trans resolve
    · exact (unregister.trans cancelTimer).trans resolve

theorem popDispatch {s : SlotId} : Quiet w (w.popDispatch s).2 := by
  unfold World.popDispatch
  split
  · dsimp only
    exact setSlot fun _ => rfl
  · exact refl

theorem recordReceived_control (x : SubSlot) (now : ℚ) (ms : Nat) :
    (x.recordReceived now ms).control = x.control := by
  unfold SubSlot.recordReceived SubSlot.slideHzBuckets
  dsimp only
  split
  · rfl
  · split <;> rfl

theorem bufferDispatch {s : SlotId} {push : DecodedTopicPush} :
    Quiet w (w.setSlot s fun x => x.bufferDispatch push) :=
  setSlot fun x => by
    unfold SubSlot.bufferDispatch
    split <;> rfl

theorem recordReceived {s : SlotId} {now : ℚ} {ms : Nat} :
    Quiet w (w.setSlot s fun x => x.recordReceived now ms) :=
  setSlot fun x => recordReceived_control x now ms

theorem countDrop {s : SlotId} : Quiet w (w.countDrop s) := setSlot fun _ => by rfl

end Quiet

/-! ### Deliveries -/

namespace Silent

variable {w : World} {q : TaskId → Prop}

theorem handOver {s : SlotId} {push : DecodedTopicPush} : Silent q w (w.handOver s push).2 := by
  unfold World.handOver
  split
  · exact Silent.push rfl
  · exact Quiet.bufferDispatch.toSilent.mono fun _ h => h.elim

theorem acceptPush {s : SlotId} {push : DecodedTopicPush} : Silent q w (w.acceptPush s push).2 := by
  have hseq : ∀ n, Silent q w (w.setSlot s fun x => { x with lastSeq := n }) :=
    fun n => setSlot (fun _ => by rfl) fun _ => by rfl
  have hrec : ∀ v : World, Silent q v (((v.setSlot s fun x =>
      x.recordReceived v.clock.steady v.clock.epochMs).push (.accepted s push)).handOver s push).2 :=
    fun v => ((Quiet.recordReceived.toSilent.mono fun _ h => h.elim).trans (Silent.push rfl)).trans
      handOver
  unfold World.acceptPush
  rcases (w.subs.slots s).checkSeq push.seq with ⟨lastSeq, - | g⟩ | - | -
  · exact (hseq lastSeq).trans (hrec _)
  · exact ((hseq lastSeq).trans fireStatus).trans (hrec _)
  · exact Silent.push rfl
  · exact Silent.push rfl

theorem popPending {s : SlotId} {rest : List DecodedTopicPush} : Silent q w (w.popPending s rest) :=
  setSlot (fun _ => rfl) fun _ => rfl

theorem drainFront {s : SlotId} {K : Nat} {front : DecodedTopicPush}
    {rest : List DecodedTopicPush} : Silent q w (w.drainFront s K front rest).2 := by
  unfold World.drainFront
  split
  · exact popPending.trans (Quiet.countDrop.toSilent.mono fun _ h => h.elim)
  · exact popPending.trans acceptPush

theorem bufferPending {s : SlotId} {push : DecodedTopicPush} :
    Silent q w (w.setSlot s fun x => x.bufferPending push) :=
  setSlot (fun _ => rfl) fun _ => rfl

theorem startAfresh {s : SlotId} : Silent q w (w.startAfresh s) :=
  setSlot (fun _ => rfl) fun _ => rfl

end Silent

end KaroX2
