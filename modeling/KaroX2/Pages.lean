/-
KaroX2/Pages.lean

The tables of requests, one request at a time.

Five tables are keyed by request ids: `_inflight`, `_inflight_sub`, `_sub_ack_timers`,
the timers of the event loop and the futures.  The page of a request is what they say
about it.  A page is sound if it has one of four shapes: nothing is registered, a call
waits with its timer armed, a ping of the heartbeat waits, or a subscription waits for
its acknowledgement.

Every update of the tables writes one page, the two loops at the end of a connection
apart, which close all of them.
-/
import KaroX2.System

namespace KaroX2

open Coop Py

variable {σ : Setup} {w w' : World} {me : TaskId} {rid : Nat}

/-! ### Pages -/

/-- What the tables say about a request. -/
@[ext] structure Page where
  request : Option InflightRpc := none
  topic : Option String := none
  ackTimer : Option Nat := none
  timer : Option Timer := none
  future : Fut := .pending

/-- The page of the request. -/
def World.page (w : World) (rid : Nat) : Page where
  request := w.rpc.inflight.get? rid
  topic := w.subs.inflightSub.get? rid
  ackTimer := w.subs.subAckTimers.get? rid
  timer := w.rpc.timers.get? rid
  future := w.rpc.futures rid

/-- The shapes of the page of the request `rid`; a response is for this request, and one
that satisfies `Q`. -/
inductive Page.Sound (Q : DecodedResponse → Prop) (rid : Nat) : Page → Prop
  | closed (f : Fut) (hf : ∀ resp, f = .result resp → resp.requestId = rid ∧ Q resp) :
      Sound Q rid { future := f }
  | calls (method : String) (f : Fut) (hf : f = .pending ∨ f = .exception .cancelled) :
      Sound Q rid
        { request := some ⟨method, some rid⟩, timer := some (.rpcTimeout rid), future := f }
  | pings (method : String) : Sound Q rid { request := some ⟨method, none⟩ }
  | subscribes (topic : String) (timer : Option Timer)
      (ht : timer = none ∨ timer = some (.ackTimeout rid topic)) :
      Sound Q rid { topic := some topic, ackTimer := some rid, timer := timer }

/-- All pages are sound. -/
def World.Sorted (Q : DecodedResponse → Prop) (w : World) : Prop := ∀ rid, (w.page rid).Sound Q rid

namespace Page

variable {Q : DecodedResponse → Prop} {p : Page}

theorem sound_blank : Page.Sound Q rid {} := .closed .pending fun _ h => by cases h

/-- A request never has a topic and an entry of `_inflight` at a time. -/
theorem Sound.request_none (h : p.Sound Q rid) {topic : String} (ht : p.topic = some topic) :
    p.request = none := by
  cases h with
  | subscribes => rfl
  | _ => cases ht

/-- The handle of an entry of `_inflight` is the timer of the request. -/
theorem Sound.handle (h : p.Sound Q rid) {x : InflightRpc} (hx : p.request = some x) :
    x.timeoutHandle = none ∧ p.timer = none ∨
      x.timeoutHandle = some rid ∧ p.timer = some (.rpcTimeout rid) := by
  cases h with
  | closed | subscribes => cases hx
  | calls =>
    cases hx
    exact .inr ⟨rfl, rfl⟩
  | pings =>
    cases hx
    exact .inl ⟨rfl, rfl⟩

theorem Sound.ackTimer_eq (h : p.Sound Q rid) {x : Nat} (hx : p.ackTimer = some x) : x = rid := by
  cases h with
  | subscribes =>
    cases hx
    rfl
  | _ => cases hx

/-- The page after the end of a connection. -/
def ended (e : Exn) (p : Page) : Page where
  future := if p.request.isSome ∧ p.future.done = false then .exception e else p.future

theorem Sound.ended (h : p.Sound Q rid) (e : Exn) : (p.ended e).Sound Q rid := by
  have hraised : ∀ x : Exn, Page.Sound Q rid { future := .exception x } :=
    fun x => .closed _ fun _ hr => by cases hr
  cases h with
  | closed f hf => exact .closed f hf
  | calls method f hf =>
    rcases hf with rfl | rfl
    · exact hraised e
    · exact hraised .cancelled
  | pings => exact hraised e
  | subscribes => exact sound_blank

end Page

/-! ### One page is written -/

/-- The update writes the page `p` of the request and no other page. -/
structure Writes (w w' : World) (rid : Nat) (p : Page) : Prop where
  self : w'.page rid = p
  other : ∀ r, r ≠ rid → w'.page r = w.page r

namespace Writes

variable {Q : DecodedResponse → Prop}

/-- A sound page is written. -/
theorem sorted {p : Page} (h : Writes w w' rid p) (hw : w.Sorted Q) (hp : p.Sound Q rid) :
    w'.Sorted Q := by
  intro r
  by_cases hr : r = rid
  · subst hr
    rw [h.self]
    exact hp
  · rw [h.other r hr]
    exact hw r

theorem register {method : String} : Writes w (w.register rid method) rid { w.page rid with
    request := some ⟨method, some rid⟩, timer := some (.rpcTimeout rid) } where
  self := by simp [World.page, World.register, World.callLater]
  other r hr := by simp [World.page, World.register, World.callLater, Dict.get?_insert_ne hr]

theorem registerPing :
    Writes w (w.registerPing rid) rid { w.page rid with request := some ⟨"ping", none⟩ } where
  self := by simp [World.page, World.registerPing]
  other r hr := by simp [World.page, World.registerPing, Dict.get?_insert_ne hr]

theorem registerSubscribe {s : SlotId} {since : Nat} :
    Writes w (w.registerSubscribe s rid since) rid { w.page rid with
      topic := some (w.subs.slots s).topic
      ackTimer := some rid
      timer := some (.ackTimeout rid (w.subs.slots s).topic) } where
  self := by simp [World.page, World.registerSubscribe, World.callLater, World.setSlot]
  other r hr := by
    simp [World.page, World.registerSubscribe, World.callLater, World.setSlot,
      Dict.get?_insert_ne hr]

theorem unregister : Writes w (w.unregister rid) rid { w.page rid with request := none } where
  self := by simp [World.page, World.unregister]
  other r hr := by simp [World.page, World.unregister, Dict.get?_erase_ne hr]

theorem cancelTimer : Writes w (w.cancelTimer rid) rid { w.page rid with timer := none } where
  self := by simp [World.page, World.cancelTimer]
  other r hr := by simp [World.page, World.cancelTimer, Dict.get?_erase_ne hr]

theorem resolve {x : Fut} : Writes w (w.resolve rid x) rid { w.page rid with
    future := if (w.page rid).future.done then (w.page rid).future else x } := by
  unfold World.resolve
  by_cases hd : (w.rpc.futures rid).done = true
  · rw [if_pos hd]
    refine ⟨?_, fun _ _ => rfl⟩
    simp [World.page, hd]
  · rw [if_neg hd]
    refine ⟨?_, fun r hr => ?_⟩
    · simp [World.page, World.setFuture, hd]
    · simp [World.page, World.setFuture, Function.update_of_ne hr]

/-- One after the other. -/
theorem trans {v : World} {p q : Page} (h : Writes w v rid p) (h' : Writes v w' rid q) :
    Writes w w' rid q where
  self := h'.self
  other r hr := (h'.other r hr).trans (h.other r hr)

theorem withdraw :
    Writes w (w.withdraw rid) rid { w.page rid with request := none, timer := none } := by
  have hfree : Writes w (w.unregister rid) rid { w.page rid with request := none } := unregister
  have h := hfree.trans (cancelTimer (w := w.unregister rid))
  rw [hfree.self] at h
  exact h

theorem unregisterSubscribe {s : SlotId} : Writes w (w.unregisterSubscribe s rid) rid
    { w.page rid with topic := none, ackTimer := none, timer := none } where
  self := by simp [World.page, World.unregisterSubscribe, World.cancelTimer, World.setSlot]
  other r hr := by
    simp [World.page, World.unregisterSubscribe, World.cancelTimer, World.setSlot,
      Dict.get?_erase_ne hr]

/-- The acknowledgement timer of a sound page is its own. -/
theorem takeAck (h : (w.page rid).Sound Q rid) : Writes w (w.takeAck rid) rid
    { w.page rid with
      topic := none
      ackTimer := none
      timer := if (w.page rid).ackTimer.isSome then none else (w.page rid).timer } := by
  unfold World.takeAck
  cases ha : w.subs.subAckTimers.get? rid with
  | none =>
    refine ⟨?_, fun r hr => ?_⟩
    · simp [World.page, ha]
    · simp [World.page, Dict.get?_erase_ne hr]
  | some x =>
    obtain rfl : x = rid := h.ackTimer_eq ha
    refine ⟨?_, fun r hr => ?_⟩
    · simp [World.page, World.cancelTimer, ha]
    · simp [World.page, World.cancelTimer, Dict.get?_erase_ne hr]

/-- The response to a request that is in flight settles it. -/
theorem handleRpcResponse {resp : DecodedResponse}
    (h : (w.page resp.requestId).Sound Q resp.requestId) :
    Writes w (w.handleRpcResponse resp) resp.requestId
      (if (w.page resp.requestId).request.isSome then
        { future := if (w.page resp.requestId).future.done then (w.page resp.requestId).future
            else .result resp }
      else w.page resp.requestId) := by
  unfold World.handleRpcResponse
  cases hx : w.rpc.inflight.get? resp.requestId with
  | none =>
    refine ⟨?_, fun _ _ => rfl⟩
    have hnone : (w.page resp.requestId).request.isSome = false := by
      show (w.rpc.inflight.get? resp.requestId).isSome = false
      rw [hx]
      rfl
    rw [if_neg (by rw [hnone]; exact Bool.false_ne_true)]
    rfl
  | some x =>
    have hsome : (w.page resp.requestId).request = some x := hx
    rw [if_pos (by rw [hsome]; rfl)]
    have htopic : (w.page resp.requestId).topic = none ∧
        (w.page resp.requestId).ackTimer = none := by
      generalize w.page resp.requestId = p at h hsome
      cases h with
      | subscribes => cases hsome
      | _ => exact ⟨rfl, rfl⟩
    dsimp only
    rcases h.handle hsome with ⟨hh, ht⟩ | ⟨hh, ht⟩
    · rw [hh]
      have hfree : Writes w (w.unregister resp.requestId) resp.requestId
          { w.page resp.requestId with request := none } := unregister
      have hw := hfree.trans (resolve (x := .result resp) (w := w.unregister resp.requestId))
      rw [hfree.self] at hw
      refine ⟨hw.self.trans (Page.ext rfl htopic.1 htopic.2 ht rfl), hw.other⟩
    · rw [hh]
      have hfree : Writes w (w.withdraw resp.requestId) resp.requestId
          { w.page resp.requestId with request := none, timer := none } := withdraw
      have hw := hfree.trans (resolve (x := .result resp) (w := w.withdraw resp.requestId))
      rw [hfree.self] at hw
      exact ⟨hw.self.trans (Page.ext rfl htopic.1 htopic.2 rfl rfl), hw.other⟩

end Writes

/-! ### All pages are closed -/

/-- A round of the loop over `_inflight` leaves all but the timers and the futures alone. -/
theorem failRequest_tables (e : Exn) (x : Nat × InflightRpc) :
    (w.failRequest e x).rpc.inflight = w.rpc.inflight ∧ (w.failRequest e x).subs = w.subs := by
  unfold World.failRequest World.resolve
  split <;> split <;> exact ⟨rfl, rfl⟩

theorem failRequest_timer (e : Exn) (x : Nat × InflightRpc) (r : Nat) :
    (w.failRequest e x).rpc.timers.get? r =
      if x.2.timeoutHandle = some r then none else w.rpc.timers.get? r := by
  have hresolve : ∀ v : World, ∀ f, (v.resolve x.1 f).rpc.timers = v.rpc.timers := by
    intro v f
    unfold World.resolve
    split <;> rfl
  unfold World.failRequest
  cases x.2.timeoutHandle with
  | none => simp [hresolve]
  | some h =>
    simp only [hresolve, World.cancelTimer, Dict.get?_erase, Option.some.injEq, eq_comm]

theorem failRequest_future (e : Exn) (x : Nat × InflightRpc) (r : Nat) :
    (w.failRequest e x).rpc.futures r =
      if r = x.1 ∧ (w.rpc.futures r).done = false then .exception e else w.rpc.futures r := by
  have hresolve : ∀ v : World, (v.resolve x.1 (.exception e)).rpc.futures r =
      if r = x.1 ∧ (v.rpc.futures r).done = false then .exception e else v.rpc.futures r := by
    intro v
    unfold World.resolve
    by_cases hr : r = x.1
    · subst hr
      split
      · rename_i hd
        simp [hd]
      · rename_i hd
        simp [hd, World.setFuture]
    · rw [if_neg (c := r = x.1 ∧ _) fun h => hr h.1]
      split
      · rfl
      · exact Function.update_of_ne hr _ _
  unfold World.failRequest
  rw [hresolve]
  cases x.2.timeoutHandle with
  | none => rfl
  | some h => rfl

/-- What the loop over `_inflight` does to one request. -/
theorem failAll_page (e : Exn) (l : List (Nat × InflightRpc)) (r : Nat) :
    (l.foldl (World.failRequest e) w).page r =
      { w.page r with
        timer := if ∃ x ∈ l, x.2.timeoutHandle = some r then none else (w.page r).timer
        future := if (∃ x ∈ l, x.1 = r) ∧ (w.page r).future.done = false then .exception e
          else (w.page r).future } := by
  induction l generalizing w with
  | nil => simp
  | cons x l ih =>
    obtain ⟨hinflight, hsubs⟩ := failRequest_tables (w := w) e x
    have hpage : (w.failRequest e x).page r =
        { w.page r with
          timer := if x.2.timeoutHandle = some r then none else (w.page r).timer
          future := if r = x.1 ∧ (w.page r).future.done = false then .exception e
            else (w.page r).future } := by
      refine Page.ext ?_ ?_ ?_ (failRequest_timer e x r) (failRequest_future e x r)
      · exact congrArg (fun d => Dict.get? d r) hinflight
      · exact congrArg (fun u : Subs => u.inflightSub.get? r) hsubs
      · exact congrArg (fun u : Subs => u.subAckTimers.get? r) hsubs
    rw [List.foldl_cons, ih, hpage]
    refine Page.ext rfl rfl rfl ?_ ?_
    · simp only [List.mem_cons, exists_eq_or_imp]
      by_cases hl : ∃ y ∈ l, y.2.timeoutHandle = some r
      · rw [if_pos hl, if_pos (.inr hl)]
      · rw [if_neg hl]
        by_cases hx : x.2.timeoutHandle = some r
        · rw [if_pos hx, if_pos (.inl hx)]
        · rw [if_neg hx, if_neg (not_or.mpr ⟨hx, hl⟩)]
    · simp only [List.mem_cons, exists_eq_or_imp, @eq_comm _ x.1 r]
      by_cases hd : (w.page r).future.done = false
      · by_cases hx : r = x.1
        · have hraised : ¬(Fut.exception e).done = false := fun h => by cases h
          rw [if_pos (c := r = x.1 ∧ _) ⟨hx, hd⟩, if_neg fun h => hraised h.2]
          exact (if_pos ⟨.inl hx, hd⟩).symm
        · rw [if_neg (c := r = x.1 ∧ _) fun h => hx h.1]
          simp only [hx, false_or]
      · have hno : ∀ c : Prop, ¬(c ∧ (w.page r).future.done = false) := fun c h => hd h.2
        simp only [hno, if_false]

/-- The loop over `_sub_ack_timers` cancels them. -/
theorem cancelAll_page (l : List Nat) (r : Nat) :
    (l.foldl (fun v h => World.cancelTimer h v) w).page r =
      { w.page r with timer := if r ∈ l then none else (w.page r).timer } := by
  induction l generalizing w with
  | nil => simp
  | cons h l ih =>
    rw [List.foldl_cons, ih]
    by_cases hr : r = h
    · subst hr
      rw [Writes.cancelTimer.self]
      simp
    · rw [Writes.cancelTimer.other r hr]
      simp [hr]

theorem failInflight_page {Q : DecodedResponse → Prop} (e : Exn) (h : w.Sorted Q) (r : Nat) :
    (w.failInflight e).page r =
      { w.page r with
        request := none
        timer := if (w.page r).request.isSome then none else (w.page r).timer
        future := ((w.page r).ended e).future } := by
  have hfold := failAll_page (w := w) e w.rpc.inflight.items r
  have hkey : (∃ x ∈ w.rpc.inflight.items, x.1 = r) ↔ (w.page r).request.isSome = true := by
    rw [show (w.page r).request.isSome = w.rpc.inflight.has r from Dict.has_eq_isSome.symm,
      Dict.has_iff]
    constructor
    · rintro ⟨⟨k, x⟩, hx, rfl⟩
      exact ⟨x, hx⟩
    · rintro ⟨x, hx⟩
      exact ⟨_, hx, rfl⟩
  have hrest : (w.failInflight e).page r =
      { (w.rpc.inflight.items.foldl (World.failRequest e) w).page r with request := none } := rfl
  rw [hrest, hfold]
  refine Page.ext rfl rfl rfl ?_ ?_
  · -- the handles of the other entries are timers of their own requests
    show (if ∃ x ∈ w.rpc.inflight.items, x.2.timeoutHandle = some r then none else _) = _
    by_cases hs : (w.page r).request.isSome = true
    · obtain ⟨x, hx⟩ := Option.isSome_iff_exists.mp hs
      rw [if_pos hs]
      rcases (h r).handle hx with ⟨-, ht⟩ | ⟨hh, -⟩
      · rw [ht, ite_self]
      · exact if_pos ⟨(r, x), Dict.mem_items_iff.mpr hx, hh⟩
    · rw [if_neg hs, if_neg]
      rintro ⟨⟨k, x⟩, hx, hh⟩
      rcases (h k).handle (Dict.mem_items_iff.mp hx) with ⟨hn, -⟩ | ⟨hk, -⟩
      · exact absurd (hn.symm.trans hh) (fun h => by cases h)
      · obtain rfl : k = r := Option.some.inj (hk.symm.trans hh)
        exact hs (hkey.mp ⟨_, hx, rfl⟩)
  · simp only [hkey]
    rfl

/-- The end of a connection closes all pages. -/
theorem ended_page {Q : DecodedResponse → Prop} (e : Exn) (h : w.Sorted Q) (r : Nat) :
    (w.failInflight e).clearSubAcks.page r = (w.page r).ended e := by
  have hfail := failInflight_page e h r
  have hrest : (w.failInflight e).clearSubAcks.page r =
      { ((w.failInflight e).subs.subAckTimers.values.foldl
          (fun v h => World.cancelTimer h v) (w.failInflight e)).page r with
        topic := none, ackTimer := none } := rfl
  have hsubs : (w.failInflight e).subs = w.subs := by
    have hfold : ∀ (l : List (Nat × InflightRpc)) (v : World),
        (l.foldl (World.failRequest e) v).subs = v.subs := by
      intro l
      induction l with
      | nil => exact fun _ => rfl
      | cons x l ih => exact fun v => (ih _).trans (failRequest_tables e x).2
    exact hfold _ w
  rw [hrest, cancelAll_page, hfail, hsubs]
  refine Page.ext rfl rfl rfl ?_ rfl
  show (if r ∈ w.subs.subAckTimers.values then none else _) = none
  have hmem : (w.page r).ackTimer = some r → r ∈ w.subs.subAckTimers.values :=
    fun ha => Dict.mem_values_iff.mpr ⟨r, ha⟩
  -- a timer that is left after the calls is that of a subscription
  have hp := h r
  generalize w.page r = p at hp hmem
  split
  · rfl
  · rename_i hno
    show (if p.request.isSome then none else p.timer) = none
    cases hp with
    | subscribes => exact absurd (hmem rfl) hno
    | calls | closed | pings => rfl

/-! ### What others do to a page -/

/-- The page is settled or left alone: an entry of `_inflight` goes only with a result. -/
structure Page.Ages (p p' : Page) : Prop where
  blank : p = {} → p' = {}
  request : p'.request = p.request ∨
    p'.request = none ∧ (p.request.isSome = true → p'.future.done = true)
  topic : p'.topic = p.topic ∨ p'.topic = none
  future : p.future.done = true → p'.future = p.future

theorem Page.Ages.refl {p : Page} : p.Ages p := ⟨id, .inl rfl, .inl rfl, fun _ => rfl⟩

/-- All pages are sound afterwards, and each of them is settled or left alone. -/
structure Ageing (Q : DecodedResponse → Prop) (w w' : World) : Prop where
  sorted : w'.Sorted Q
  ages : ∀ r, (w.page r).Ages (w'.page r)

namespace Ageing

variable {Q : DecodedResponse → Prop}

theorem writes {p : Page} (h : w.Sorted Q) (hw : Writes w w' rid p) (hp : p.Sound Q rid)
    (ha : (w.page rid).Ages p) : Ageing Q w w' := by
  refine ⟨hw.sorted h hp, fun r => ?_⟩
  by_cases hr : r = rid
  · subst hr
    rw [hw.self]
    exact ha
  · rw [hw.other r hr]
    exact .refl

/-- A settled call keeps the result it has, or gets this one. -/
theorem done_or {f x : Fut} (hx : x.done = true) : (if f.done then f else x).done = true := by
  split
  · assumption
  · exact hx

/-- The entry of a call and its timer go, with a result. -/
theorem closes {x : Fut} (h : w.Sorted Q) (hx : x.done = true)
    (hr : ∀ resp, x = .result resp → resp.requestId = rid ∧ Q resp)
    (hsome : (w.page rid).request.isSome = true) (hw : Writes w w' rid
      { future := if (w.page rid).future.done then (w.page rid).future else x }) :
    Ageing Q w w' := by
  have hp := h rid
  refine writes h hw ?_ ⟨fun hb => ?_, .inr ⟨rfl, fun _ => done_or hx⟩, .inr rfl,
    fun hd => if_pos hd⟩
  · generalize w.page rid = p at hp hsome
    refine .closed _ fun resp hresp => ?_
    cases hp with
    | closed | subscribes => cases hsome
    | calls method f hf =>
      rcases hf with rfl | rfl
      · exact hr resp hresp
      · cases hresp
    | pings => exact hr resp hresp
  · rw [hb] at hsome
    cases hsome

theorem handleRpcResponse {resp : DecodedResponse} (h : w.Sorted Q) (hq : Q resp) :
    Ageing Q w (w.handleRpcResponse resp) := by
  have hw := Writes.handleRpcResponse (h resp.requestId)
  split at hw
  · rename_i hsome
    refine closes h rfl (fun r hr => ?_) hsome hw
    obtain rfl := Fut.result.inj hr
    exact ⟨rfl, hq⟩
  · exact writes h hw (h _) .refl

theorem takeAck (h : w.Sorted Q) : Ageing Q w (w.takeAck rid) := by
  have hw := Writes.takeAck (h rid)
  have hp := h rid
  generalize hpage : w.page rid = p at hw hp
  refine writes h hw ?_ ?_
  · cases hp with
    | closed f hf => exact .closed f hf
    | calls method f hf => exact .calls method f hf
    | pings method => exact .pings method
    | subscribes => exact Page.sound_blank
  · rw [hpage]
    refine ⟨?_, .inl rfl, .inr rfl, fun _ => rfl⟩
    rintro rfl
    rfl

theorem ended {e : Exn} (h : w.Sorted Q) (hw : w'.page = (w.failInflight e).clearSubAcks.page) :
    Ageing Q w w' := by
  have hpage : ∀ r, w'.page r = (w.page r).ended e := fun r => by rw [hw, ended_page e h r]
  refine ⟨fun r => hpage r ▸ (h r).ended e, fun r => hpage r ▸ ?_⟩
  refine ⟨?_, .inr ⟨rfl, fun hs => ?_⟩, .inr rfl, fun hd => ?_⟩
  · intro hb
    rw [hb]
    rfl
  · show Fut.done (if _ then _ else _) = true
    split
    · rfl
    · rename_i hno
      exact Bool.not_eq_false _ ▸ fun hd => hno ⟨hs, hd⟩
  · exact if_neg fun hf => by rw [hd] at hf; cases hf.2

/-- A timer that fires settles its request, or leaves it to the task that it creates. -/
theorem fireTimer (h : w.Sorted Q) (hf : w.fireTimer rid = some w') : Ageing Q w w' := by
  have hp := h rid
  unfold World.fireTimer at hf
  split at hf
  · cases hf
  · rename_i r ht
    obtain rfl := Option.some.inj hf
    have htimer : (w.page rid).timer = some (.rpcTimeout r) := ht
    obtain ⟨hr, hsome⟩ : r = rid ∧ (w.page rid).request.isSome = true := by
      generalize w.page rid = p at hp htimer
      cases hp with
      | closed | pings => cases htimer
      | calls =>
        cases htimer
        exact ⟨rfl, rfl⟩
      | subscribes topic timer hack =>
        rcases hack with rfl | rfl <;> cases htimer
    subst hr
    have hhas : (w.cancelTimer r).rpc.inflight.has r = true := Dict.has_eq_isSome.trans hsome
    rw [if_pos hhas]
    have hfired : Writes w (w.cancelTimer r) r { w.page r with timer := none } := .cancelTimer
    have hw := hfired.trans <| (Writes.unregister (w := w.cancelTimer r)).trans
      (.resolve (x := .exception (.timeout "")))
    rw [Writes.unregister.self, hfired.self] at hw
    refine closes (x := .exception (.timeout "")) h rfl (fun _ hx => by cases hx) hsome ?_
    have htopic : (w.page r).topic = none ∧ (w.page r).ackTimer = none := by
      generalize w.page r = p at hp hsome
      cases hp with
      | subscribes => cases hsome
      | _ => exact ⟨rfl, rfl⟩
    exact ⟨hw.self.trans (Page.ext rfl htopic.1 htopic.2 rfl rfl), hw.other⟩
  · rename_i r topic ht
    obtain rfl := Option.some.inj hf
    have hw : Writes w ((w.cancelTimer rid).spawn (.subscribeAckTimeout r topic)) rid
        { w.page rid with timer := none } := ⟨Writes.cancelTimer.self, Writes.cancelTimer.other⟩
    have htimer : (w.page rid).timer = some (.ackTimeout r topic) := ht
    refine writes h hw ?_ ⟨?_, .inl rfl, .inl rfl, fun _ => rfl⟩
    · generalize w.page rid = p at hp htimer
      cases hp with
      | subscribes topic' => exact .subscribes topic' none (.inl rfl)
      | _ => cases htimer
    · intro hb
      rw [hb]

end Ageing

end KaroX2
