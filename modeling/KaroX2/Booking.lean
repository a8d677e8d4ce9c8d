/-
KaroX2/Booking.lean

What each piece of code does to the tables of requests.

A task that sends a request goes through stages: it draws an id, registers the request,
hands the command to the transport, and settles the page of the request in the end.
`booking` is this protocol.  All code keeps to it, and is between two requests whenever
it ends (`body_books`); code without a request of its own touches a page only by settling
it.
-/
import KaroX2.Pages
import KaroX2.Closing
import KaroX2.Walk.Tasks

namespace KaroX2

open Coop Py

variable {σ : Setup} {w w' : World} {me : TaskId} {α β : Type}

/-! ### Updates aside from the tables -/

/-- A command was sent, or its response was taken. -/
def Obs.deals : Obs → Bool
  | .sent _ _ | .answered _ _ _ => true
  | _ => false

/-- The dealings with the peer so far. -/
def dealings (log : List Obs) : List Obs := log.filter Obs.deals

/-- The id of the next request and the dealings so far. -/
def World.account (w : World) : Nat × List Obs := (w.rpc.nextRequestId, dealings w.log)

/-- All that is about requests. -/
def World.tables (w : World) : Rpc × Dict Nat String × Dict Nat Nat × List Obs :=
  (w.rpc, w.subs.inflightSub, w.subs.subAckTimers, dealings w.log)

/-- The update leaves everything about requests alone. -/
def Aside (w w' : World) : Prop := w'.tables = w.tables

theorem Aside.page (h : Aside w w') : w'.page = w.page := by
  have hr : w'.rpc = w.rpc ∧ w'.subs.inflightSub = w.subs.inflightSub ∧
      w'.subs.subAckTimers = w.subs.subAckTimers ∧ dealings w'.log = dealings w.log := by
    simpa [Aside, World.tables] using h
  funext rid
  simp only [World.page, hr.1, hr.2.1, hr.2.2.1]

theorem Aside.account (h : Aside w w') : w'.account = w.account :=
  Prod.ext (congrArg (fun x => x.1.nextRequestId) h) (congrArg (fun x => x.2.2.2) h)

namespace Aside

variable {v : World} {s : SlotId} {topic reason message : String} {code : ErrorCode}

theorem refl (w : World) : Aside w w := rfl

theorem trans (h : Aside w v) (h' : Aside v w') : Aside w w' := Eq.trans h' h

/-- An update of other parts of the world, before another one. -/
theorem after (h : Aside v w') (hv : v.tables = w.tables) : Aside w w' := Eq.trans h hv

theorem foldl {f : World → α → World} (hf : ∀ w x, Aside w (f w x)) (l : List α) (w : World) :
    Aside w (l.foldl f w) := by
  induction l generalizing w with
  | nil => exact refl w
  | cons x l ih => exact (hf w x).trans (ih _)

theorem push {o : Obs} (ho : o.deals = false) : Aside w (w.push o) := by
  have hlog : dealings (o :: w.log) = dealings w.log := List.filter_cons_of_neg (by simp [ho])
  exact Prod.ext rfl (Prod.ext rfl (Prod.ext rfl hlog))

theorem transition {new : ConnectionState} {info : StateChangeInfo} :
    Aside w (w.transition new info) := by
  unfold World.transition
  split <;> rfl

theorem transientFailure : Aside w (w.transientFailure σ reason code message) := by
  obtain ⟨info, h⟩ := transientFailure_eq σ w reason code message
  rw [h]
  exact transition.after rfl

theorem retry : Aside w (w.retry σ) := by
  have h := retry_retries (σ := σ) w
  generalize w.retry σ = v at h
  cases h with
  | refused | exhausted | scheduled => rfl

theorem dialFailed : Aside w (w.dialFailed σ code message) := transientFailure.trans retry

theorem cancelOther {t : Option TaskId} : Aside w (w.cancelOther me t) := by
  unfold World.cancelOther
  split
  · split <;> rfl
  · rfl

theorem markClosed : Aside w (w.markClosed s code reason) := rfl

theorem closeSlot : Aside w (w.closeSlot me topic s code reason) :=
  (markClosed.trans cancelOther).trans rfl

theorem closeAllSlots : Aside w (w.closeAllSlots me code reason) := by
  have hround (v : World) (s : SlotId) : Aside v (v.closeSlotOnce me code reason s) := by
    unfold World.closeSlotOnce
    dsimp only
    split
    · exact cancelOther
    · exact markClosed.trans cancelOther
  exact (foldl hround _ w).trans rfl

theorem pauseSlots : Aside w (w.pauseSlots code reason) := by
  refine foldl (fun v s => ?_) _ w
  unfold World.pauseSlot
  dsimp only
  split <;> rfl

theorem maybeFinishReconnect {phase : Bool} : Aside w (w.maybeFinishReconnect phase) := by
  unfold World.maybeFinishReconnect
  split
  · dsimp only
    split
    · exact transition.after rfl
    · rfl
  · rfl

theorem acceptPush {push : DecodedTopicPush} : Aside w (w.acceptPush s push).2 := by
  unfold World.acceptPush World.handOver
  split
  · rfl
  · rfl
  · dsimp only
    split <;> split <;> rfl

theorem drainFront {K : Nat} {front : DecodedTopicPush} {rest : List DecodedTopicPush} :
    Aside w (w.drainFront s K front rest).2 := by
  unfold World.drainFront
  split
  · rfl
  · exact acceptPush.after rfl

theorem popDispatch : Aside w (w.popDispatch s).2 := by
  unfold World.popDispatch
  split <;> rfl

theorem startSubWorker : Aside w (w.startSubWorker s) := by
  unfold World.startSubWorker
  dsimp only
  split
  · rfl
  · split <;> split <;> rfl

theorem beginSubscribe {hz : PyFloat} : Aside w (w.beginSubscribe σ s topic hz) := by
  unfold World.beginSubscribe
  split
  · rfl
  · exact startSubWorker.after rfl

theorem startHeartbeat : Aside w (w.startHeartbeat σ) := by
  have hr : Aside w w.restartHeartbeat := by
    unfold World.restartHeartbeat
    dsimp only
    split
    · split <;> rfl
    · rfl
  unfold World.startHeartbeat
  dsimp only
  split
  · exact hr
  · exact hr.trans rfl

theorem resolveAllSemantics : Aside w w.resolveAllSemantics :=
  foldl (f := fun w s => w.setSlot s fun x => { x with semantics := w.resolveSemantics x.topic })
    (fun _ _ => rfl) _ w

theorem beginSession {isR : Bool} {c : WsId} {resp : DecodedResponse} :
    Aside w (w.beginSession σ isR c resp) := by
  have hbegun : Aside w ((w.setRobotInfo resp).startHeartbeat σ).resolveAllSemantics :=
    (startHeartbeat.trans resolveAllSemantics).after rfl
  have harm : ∀ v : World, Aside v v.armReconnect := by
    intro v
    unfold World.armReconnect World.reconnectOk
    dsimp only
    split
    · exact transition.after rfl
    · rfl
  unfold World.beginSession
  dsimp only
  split
  · exact hbegun.trans ((push rfl).trans (harm _))
  · exact hbegun.trans ((push rfl).trans transition)

theorem restored {isR : Bool} : Aside w (w.restored isR) := by
  unfold World.restored World.startReplay
  split
  · split <;> rfl
  · rfl

theorem estopReplayed : Aside w w.estopReplayed := by
  unfold World.estopReplayed World.replayOk
  dsimp only
  split
  · exact transition.after rfl
  · rfl

theorem connect : Aside w w.connect := by
  unfold World.connect
  split <;> rfl

end Aside

theorem Ageing.aside {Q : DecodedResponse → Prop} {v v' : World} (h : Aside w v)
    (h' : Aside v' w') (hs : v.Sorted Q → Ageing Q v v') (hw : w.Sorted Q) : Ageing Q w w' := by
  have hv : v.Sorted Q := by
    intro r
    rw [h.page]
    exact hw r
  obtain ⟨hsorted, hages⟩ := hs hv
  refine ⟨fun r => ?_, fun r => ?_⟩
  · rw [h'.page]
    exact hsorted r
  · rw [h'.page, ← h.page]
    exact hages r

/-! ### The stages of a request -/

/-- What a request is registered as: not at all, as a call, as a ping of the heartbeat,
or as a subscription. -/
inductive Kind where
  | plain | call | ping | subscription

/-- What the owner of a request of this kind knows of its page. -/
def Kind.Fits (rid : Nat) (p : Page) : Kind → Prop
  | .plain => True
  | .call => p.topic = none ∧ (∀ x, p.request = some x → x.timeoutHandle = some rid) ∧
      (p.request.isSome = true ∨ p.future.done = true)
  | .ping => p.topic = none ∧ ∀ x, p.request = some x → x.timeoutHandle = none
  | .subscription => p.request = none

/-- What a task has to do with requests at the time. -/
inductive Stake where
  | idle
  /-- an id is drawn -/
  | drawn (rid : Nat)
  /-- the request is registered -/
  | opened (k : Kind) (rid : Nat)
  /-- its command is handed to the transport -/
  | sending (k : Kind) (c : WsId) (cmd : SdkCommand)
  | sent (k : Kind) (c : WsId) (cmd : SdkCommand)

/-- The request that is registered. -/
def Stake.owned : Stake → Option (Kind × Nat)
  | .opened k rid => some (k, rid)
  | .sending k _ cmd | .sent k _ cmd => some (k, cmd.requestId)
  | _ => none

/-- The task is suspended by a request of its own. -/
def Op.mails : Op → Bool
  | .wsSend _ _ | .future _ | .pingOrInbound _ => true
  | _ => false

/-- The updates of the protocol. -/
inductive Books (Q : DecodedResponse → Prop) : Stake → World → World → Stake → Prop
  | still {g : Stake} {w w' : World} (h : Aside w w') : Books Q g w w' g
  /-- the request is left to the tables -/
  | gives {g : Stake} {w w' : World} (h : Aside w w') : Books Q g w w' .idle
  | draws {w : World} : Books Q .idle w w.bumpRid (.drawn w.rpc.nextRequestId)
  | opens {k : Kind} {w w' : World} {rid : Nat} {p : Page} (ha : w'.account = w.account)
      (hw : Writes w w' rid p) (hp : w.page rid = {} → p.Sound Q rid ∧ k.Fits rid p) :
      Books Q (.drawn rid) w w' (.opened k rid)
  | sent {k : Kind} {c : WsId} {cmd : SdkCommand} {w : World} :
      Books Q (.sending k c cmd) w (w.push (.sent c cmd)) (.sent k c cmd)
  | closes {g : Stake} {k : Kind} {w w' : World} {rid : Nat} {p : Page}
      (ha : w'.account = w.account) (hg : g.owned = some (k, rid)) (hw : Writes w w' rid p)
      (hp : (w.page rid).Sound Q rid → k.Fits rid (w.page rid) → p.Sound Q rid) :
      Books Q g w w' .idle
  | answered {c : WsId} {cmd : SdkCommand} {resp : DecodedResponse} {w : World}
      (hf : w.rpc.futures cmd.requestId = .result resp) :
      Books Q (.sent .call c cmd) w (w.push (.answered c cmd resp)) .idle
  | settles {g : Stake} {w w' : World} (hg : g.owned = none) (ha : w'.account = w.account)
      (h : w.Sorted Q → Ageing Q w w') : Books Q g w w' .idle

/-- The suspensions of the protocol. -/
inductive Parks : Stake → Op → World → Stake → Prop
  | mails {k : Kind} {rid : Nat} {c : WsId} {cmd : SdkCommand} {w : World}
      (h : cmd.requestId = rid) : Parks (.opened k rid) (.wsSend c cmd) w (.sending k c cmd)
  | plain {rid : Nat} {c : WsId} {cmd : SdkCommand} {w : World} (h : cmd.requestId = rid) :
      Parks (.drawn rid) (.wsSend c cmd) w (.sending .plain c cmd)
  | answer {c : WsId} {cmd : SdkCommand} {w : World} {rid : Nat} (h : cmd.requestId = rid) :
      Parks (.sent .call c cmd) (.future rid) w (.sent .call c cmd)
  | pong {c : WsId} {cmd : SdkCommand} {w : World} {rid : Nat} (h : cmd.requestId = rid) :
      Parks (.sent .ping c cmd) (.pingOrInbound rid) w (.sent .ping c cmd)
  | idles {op : Op} {w : World} (h : op.mails = false) : Parks .idle op w .idle

/-- What a received frame is decoded to satisfies `Q`. -/
def Received (Q : DecodedResponse → Prop) (op : Op) (r : Except Exn Reply) : Prop :=
  ∀ c len resp push, op = .recv c → r = .ok (.inbound (.frame len (some resp) push)) → Q resp

/-- The protocol of the requests. -/
def booking (Q : DecodedResponse → Prop) : Protocol Karo Stake where
  update := Books Q
  wait := Parks
  resume _ op r _ := Received Q op r

/-- The code keeps to the protocol, and is between two requests before and after. -/
abbrev Booked (Q : DecodedResponse → Prop) (R : α → Prop) (c : M α) : Prop :=
  Coro.Steady (booking Q) .idle R c

/-- Nothing more is said. -/
def Open {α : Type} (_ : Stake) (_ : Except Exn α) (_ : World) : Prop := True

/-! ### Rules -/

section Rules

variable {Q : DecodedResponse → Prop} {R : α → Prop} {g : Stake} {k : Kind} {rid : Nat} {c : WsId}
  {cmd : SdkCommand}

theorem modify_booked {f : World → World} (h : ∀ w, Aside w (f w)) :
    Booked Q (fun _ => True) (Coro.modify (S := Karo) f) := .modify fun w => .still (h w)

theorem update_booked {f : World → α × World} (h : ∀ w, Aside w (f w).2) :
    Booked Q (fun _ => True) (Coro.update (S := Karo) f) := .update fun w => .still (h w)

theorem modify_then_booked {f : World → World} {d : M α} (h : ∀ w, Aside w (f w))
    (hd : Booked Q R d) : Booked Q R (Coro.modify (S := Karo) f >>= fun _ => d) :=
  (modify_booked h).andThen fun _ => hd

theorem enterBy_booked {l : Label} {f : World → World} (h : ∀ w, Aside w (f w)) :
    Booked Q (fun _ => True) (Coro.enterBy (S := Karo) l f) := .enterBy fun w => .still (h w)

theorem leaveBy_booked {l : Label} {f : World → World} (h : ∀ w, Aside w (f w)) :
    Booked Q (fun _ => True) (Coro.leaveBy (S := Karo) l f) := .leaveBy fun w => .still (h w)

theorem become_booked {l m : Label} {f : World → World} (h : ∀ w, Aside w (f w)) :
    Booked Q (fun _ => True) (Coro.become (S := Karo) l m f) := .become fun w => .still (h w)

theorem settle_booked {f : World → World} (ha : ∀ w, (f w).account = w.account)
    (h : ∀ w, w.Sorted Q → Ageing Q w (f w)) :
    Booked Q (fun _ => True) (Coro.modify (S := Karo) f) :=
  .modify fun w => .settles rfl (ha w) (h w)

theorem suspend_booked {op : Op} (h : op.mails = false) :
    Booked Q (fun _ => True) (suspend op) := .wait fun _ => .idles h

theorem same_books (w : World) : Books Q g w w g := .still (.refl w)

theorem scope_booked {l : Label} {f : World → World} {d : M (α × (World → World))}
    (hf : ∀ w, Aside w (f w)) (hd : Booked Q (fun x => R x.1 ∧ ∀ w, Aside w (x.2 w)) d) :
    Booked Q R (Coro.scope l f d) :=
  .scope same_books (fun w => .still (hf w)) <| hd.mono fun _ hx =>
    ⟨hx.1, fun w => .still (hx.2 w)⟩

theorem call_booked {l : Label} {d : M α} (hd : Booked Q R d) : Booked Q R (Coro.call l d) :=
  .call same_books hd

/-- A call inside of which the code has a request leaves it behind. -/
theorem call_booking {l : Label} {d : M α} (hd : d.Abides (booking Q) Open g w) :
    (Coro.call l d).Abides (booking Q) (fun g _ _ => g = .idle) g w := by
  refine Coro.abides_call_iff.mpr ⟨g, same_books w, Coro.abides_mono ?_ hd⟩
  exact fun _ _ v _ => ⟨.idle, .gives (.refl v), rfl⟩

/-- Steady code that follows a piece of code with a request of its own. -/
theorem bind_booked {β : Type} {d : M α} {f : α → M β} {T : β → Prop}
    (hd : ∀ w, d.Abides (booking Q) (fun g _ _ => g = .idle) .idle w) (hf : ∀ a, Booked Q T (f a)) :
    Booked Q T (d >>= f) := by
  intro w
  rw [Coro.abides_bind]
  refine Coro.abides_mono ?_ (hd w)
  rintro g (e | a) v rfl
  · exact ⟨rfl, fun _ h => by cases h⟩
  · exact hf a v

theorem steady_open {d : M α} (hd : Booked Q R d) : d.Abides (booking Q) Open .idle w :=
  Coro.abides_mono (fun _ _ _ _ => trivial) (hd w)

end Rules

/-! ### Transport -/

section Code

variable {Q : DecodedResponse → Prop} {c : WsId} {rid : Nat} {s : SlotId} {cmd : SdkCommand}
  {k : Kind} {g : Stake}

theorem wsSend_booking (h : cmd.requestId = rid) :
    (wsSend c cmd).Abides (booking Q)
      (fun g r _ => g.owned = some (k, rid) ∧ (r = .ok true → g = .sent k c cmd))
      (.opened k rid) w := by
  subst h
  unfold wsSend
  rw [Coro.abides_read_then]
  split
  · rw [Coro.abides_attempt_then]
    refine ⟨_, .mails rfl, fun r v _ => ?_⟩
    -- failed, where a cancellation is raised again, or sent
    rcases r with e | rep
    · cases e <;> exact ⟨rfl, fun h => by cases h⟩
    · exact ⟨_, .sent, rfl, fun _ => rfl⟩
  · exact ⟨rfl, fun h => by cases h⟩

/-- A command whose request is not registered. -/
theorem wsSend_plain (h : cmd.requestId = rid) :
    (wsSend c cmd).Abides (booking Q) Open (.drawn rid) w := by
  unfold wsSend
  rw [Coro.abides_read_then]
  split
  · rw [Coro.abides_attempt_then]
    refine ⟨_, .plain h, fun r v _ => ?_⟩
    rcases r with e | rep
    · cases e <;> trivial
    · exact ⟨_, .sent, trivial⟩
  · trivial

theorem swallow_booked {d : M Unit} (hd : Booked Q (fun _ => True) d) :
    Booked Q (fun _ => True) (swallow d) := swallow_steady hd

theorem closable_booked : Closable (booking Q) .idle where
  refl := same_books
  detach _ _ := .still rfl
  shut _ _ := .still rfl
  cancel _ _ := .still rfl
  close _ _ := .idles rfl
  join _ _ := .idles rfl
  joined _ _ := .idles rfl

theorem closeWs_booked {last : World → World} (h : ∀ w, Aside w (last w)) :
    Booked Q (fun _ => True) (closeWs me last) :=
  closable_booked.closeWs (fun w => .still (h w)) fun w => .still ((h w.clearWs).after rfl)

theorem register_books {method : String} :
    Books Q (.drawn rid) w (w.register rid method) (.opened .call rid) := by
  refine .opens rfl Writes.register fun hb => ?_
  rw [hb]
  refine ⟨.calls method .pending (.inl rfl), rfl, fun x hx => ?_, .inl rfl⟩
  cases hx
  rfl

/-- The page of a call without its entry is closed. -/
theorem withdraw_books (hg : g.owned = some (.call, rid)) :
    Books Q g w (w.withdraw rid) .idle := by
  refine .closes rfl hg Writes.withdraw fun hp hf => ?_
  obtain ⟨htopic, hhandle, -⟩ := hf
  generalize w.page rid = p at hp htopic hhandle
  cases hp with
  | closed f hf => exact .closed f hf
  | calls method f hf =>
    refine .closed f fun resp hr => ?_
    rcases hf with rfl | rfl <;> cases hr
  | pings => cases hhandle _ rfl
  | subscribes => cases htopic

/-- The caller is cancelled: it cancels the future. -/
theorem cancelled_books (hg : g.owned = some (.call, rid)) :
    Books Q g w (w.resolve rid (.exception .cancelled)) .idle := by
  have ha : (w.resolve rid (.exception .cancelled)).account = w.account := by
    unfold World.resolve
    split <;> rfl
  refine .closes ha hg Writes.resolve fun hp hf => ?_
  obtain ⟨htopic, hhandle, -⟩ := hf
  generalize w.page rid = p at hp htopic hhandle
  cases hp with
  | closed f hf =>
    refine .closed _ fun resp hr => ?_
    replace hr : (if f.done then f else .exception .cancelled) = Fut.result resp := hr
    split at hr
    · exact hf resp hr
    · cases hr
  | calls method f hf =>
    refine .calls method _ (.inr ?_)
    rcases hf with rfl | rfl <;> rfl
  | pings => cases hhandle _ rfl
  | subscribes => cases htopic

theorem awaitResponse_booking (h : cmd.requestId = rid) :
    (awaitResponse c rid cmd).Abides (booking Q) Open (.sent .call c cmd) w := by
  subst h
  unfold awaitResponse
  rw [Coro.abides_attempt_then]
  refine ⟨_, .answer rfl, fun r v _ => ?_⟩
  rcases r with e | rep
  · exact ⟨.idle, cancelled_books rfl, trivial⟩
  · refine Coro.abides_read_then.mpr ?_
    split
    · rename_i hf
      exact ⟨.idle, .answered hf, trivial⟩
    · trivial
    · trivial

/-- `_send_rpc_and_wait` with an id that was drawn for it. -/
theorem sendRpcAndWait_booking {method : String} (h : cmd.requestId = rid) :
    (sendRpcAndWait rid method cmd).Abides (booking Q) (fun g _ _ => g = .idle) (.drawn rid) w := by
  unfold sendRpcAndWait
  rw [Coro.abides_read_then]
  refine call_booking ?_
  split
  · trivial
  · rename_i c _
    refine Coro.abides_modify_then register_books ?_
    refine Coro.abides_bind.mpr (Coro.abides_mono ?_ (wsSend_booking h))
    rintro g (e | ok) v ⟨hg, hsent⟩
    · trivial
    · cases ok with
      | true =>
        obtain rfl := hsent rfl
        exact awaitResponse_booking h
      | false => exact ⟨.idle, withdraw_books hg, trivial⟩

/-- A request and what is done with its outcome. -/
theorem sent_booking {α : Type} {R : Stake → Except Exn α → World → Prop} {method : String}
    {f : Except Exn DecodedResponse → M α} (h : cmd.requestId = rid)
    (hf : ∀ r v, (f r).Abides (booking Q) R .idle v) :
    ((sendRpcAndWait rid method cmd).attempt >>= f).Abides (booking Q) R (.drawn rid) w := by
  refine Coro.abides_attempt_then.mpr (Coro.abides_mono ?_ (sendRpcAndWait_booking h))
  rintro g r v rfl
  exact hf r v

end Code

end KaroX2
