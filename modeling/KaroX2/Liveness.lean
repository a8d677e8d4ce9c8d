/-
KaroX2/Liveness.lean

How the heartbeat of a session finds a dead link.

`Session` is the time from the start of a heartbeat on, as long as the connection is
`READY`: the heartbeat runs its own code from one suspension to the next, frames come in,
and other things happen that leave the heartbeat alone.  It counts the ping time-outs
since the last frame; the result is that `_miss_count` is this number, and that the link
is declared dead by the time-out that makes it `max_missed_pings`.
-/
import KaroX2.Spinning
import KaroX2.Closing

namespace KaroX2

open Coop

variable {σ : Setup} {w w' : World} {me : TaskId}

/-! ### The code of the heartbeat between its suspensions -/

/-- The wait for the next ping has ended. -/
def rested (r : Except Exn Reply) : M (Flow Karo) :=
  match r with
  | .ok _ => do
    Coro.modify World.clearWakeup
    pure (.next .heartbeatRound)
  | .error (.timeout _) => pure (.next .heartbeatRound)
  | .error e => Coro.raise e

/-- The wait for the answer to a ping has ended. -/
def pingAwaited (σ : Setup) (me : TaskId) (rid left : Nat) (r : Except Exn Reply) :
    M (Flow Karo) :=
  match r with
  | .ok _ => do
    Coro.modify (World.pingDone rid)
    pure (.next .heartbeatRound)
  | .error (.timeout _) => pingMissed σ me rid left
  | .error e => Coro.raise e

/-- The send of a ping has ended well, or not. -/
def pingSent (σ : Setup) (me : TaskId) (c : WsId) (cmd : SdkCommand) (rid left : Nat)
    (r : Except Exn Reply) : M (Flow Karo) := do
  let ok ← (match r with
    | .ok _ => do
      Coro.modify (World.push (.sent c cmd))
      pure true
    | .error .cancelled => Coro.raise .cancelled
    | .error _ => pure false : M Bool)
  if ok then do
    let r ← (suspend (.pingOrInbound rid)).attempt
    pingAwaited σ me rid left r
  else do
    Coro.modify (World.unregister rid)
    onTransportClose σ me .transportFailure "heartbeat send failed"
    pure (.next .heartbeatRound)

theorem untilCancelled_read {k : World → M (Flow Karo)} :
    (untilCancelled (Coro.read >>= k)).segment w = (untilCancelled (k w)).segment w := rfl

/-- A round of the outer loop that finds the link idle. -/
theorem heartbeatRound_pings {c : WsId} (hr : w.conn.state = .ready)
    (hi : ¬w.clock.steady - w.hb.lastInbound < σ.opts.heartbeatInterval)
    (hws : w.conn.ws = some c) (ho : ((w.clients c).attached && (w.clients c).isOpen) = true) :
    (heartbeatRound σ).segment w =
      (w, .ended (.ok (.next (.pingRound (σ.opts.maxMissedPings + 1).toNat)))) := by
  unfold heartbeatRound
  rw [untilCancelled_read]
  dsimp only
  rw [if_neg (not_not.mpr hr), if_neg hi, hws]
  dsimp only
  rw [if_pos ho]
  rfl

/-- A round of the inner loop sends a ping. -/
theorem pingRound_sends {c : WsId} {left : Nat} (hws : w.conn.ws = some c)
    (ho : w.conn.state = .ready ∧ (w.clients c).attached = true ∧ (w.clients c).isOpen = true) :
    (pingRound σ me (left + 1)).segment w =
      (w.bumpRid.registerPing w.rpc.nextRequestId, .waits [.heartbeat]
        (.wsSend c (encodePing w.rpc.nextRequestId w.clock.epochMs)) fun r =>
          untilCancelled (pingSent σ me c (encodePing w.rpc.nextRequestId w.clock.epochMs)
            w.rpc.nextRequestId left r)) := by
  have hopen : (((w.bumpRid.registerPing w.rpc.nextRequestId).clients c).attached &&
      ((w.bumpRid.registerPing w.rpc.nextRequestId).clients c).isOpen) = true := by
    show ((w.clients c).attached && (w.clients c).isOpen) = true
    simp [ho.2]
  have hsend : (untilCancelled (sendPing σ me c left)).segment w =
      (untilCancelled (wsSend c (encodePing w.rpc.nextRequestId w.clock.epochMs) >>= fun ok =>
        if ok then do
          let r ← (suspend (.pingOrInbound w.rpc.nextRequestId)).attempt
          pingAwaited σ me w.rpc.nextRequestId left r
        else do
          Coro.modify (World.unregister w.rpc.nextRequestId)
          onTransportClose σ me .transportFailure "heartbeat send failed"
          pure (.next .heartbeatRound))).segment (w.bumpRid.registerPing w.rpc.nextRequestId) := rfl
  unfold pingRound
  rw [untilCancelled_read, hws]
  dsimp only
  rw [if_pos ho, hsend]
  show (untilCancelled ((if _ then _ else _) >>= _)).segment _ = _
  rw [if_pos hopen]
  rfl

/-- A ping that was sent is waited for. -/
theorem pingSent_waits {c : WsId} {cmd : SdkCommand} {rid left : Nat} {rep : Reply} :
    (untilCancelled (pingSent σ me c cmd rid left (.ok rep))).segment w =
      (w.push (.sent c cmd), .waits [.heartbeat] (.pingOrInbound rid) fun r =>
        untilCancelled (pingAwaited σ me rid left r)) := rfl

theorem pingAwaited_done {rid left : Nat} {rep : Reply} :
    (untilCancelled (pingAwaited σ me rid left (.ok rep))).segment w =
      (w.pingDone rid, .ended (.ok (.next .heartbeatRound))) := rfl

/-- A time-out is counted, and the inner loop goes on below the bound. -/
theorem pingAwaited_missed {rid left : Nat} {s : String}
    (h : ((w.hb.missCount + 1 : Nat) : Int) < σ.opts.maxMissedPings) :
    (untilCancelled (pingAwaited σ me rid left (.error (.timeout s)))).segment w =
      (w.countMiss rid, .ended (.ok (.next (.pingRound left)))) := by
  show (untilCancelled (if _ then _ else _)).segment (w.countMiss rid) = _
  have hbelow : ¬((w.countMiss rid).hb.missCount : Int) ≥ σ.opts.maxMissedPings := not_le.mpr h
  rw [if_neg hbelow]
  rfl

/-- At the bound the link is declared dead. -/
theorem pingAwaited_dead {rid left : Nat} {s : String}
    (h : σ.opts.maxMissedPings ≤ ((w.hb.missCount + 1 : Nat) : Int)) :
    (untilCancelled (pingAwaited σ me rid left (.error (.timeout s)))).segment w =
      (untilCancelled (do
        onTransportClose σ me .transportFailure "heartbeat dead"
        pure (.next .heartbeatRound))).segment
          ((w.countMiss rid).postLog .warn "heartbeat: declaring dead") := by
  show (untilCancelled (if _ then _ else _)).segment (w.countMiss rid) = _
  have hreached : ((w.countMiss rid).hb.missCount : Int) ≥ σ.opts.maxMissedPings := h
  rw [if_pos hreached]
  rfl

theorem pingSent_failed {c : WsId} {cmd : SdkCommand} {rid left : Nat} {e : Exn}
    (h : e ≠ .cancelled) :
    (untilCancelled (pingSent σ me c cmd rid left (.error e))).segment w =
      (untilCancelled (do
        onTransportClose σ me .transportFailure "heartbeat send failed"
        pure (.next .heartbeatRound))).segment (w.unregister rid) := by
  cases e with
  | cancelled => exact absurd rfl h
  | _ => rfl

theorem pingSent_cancelled {c : WsId} {cmd : SdkCommand} {rid left : Nat} :
    (untilCancelled (pingSent σ me c cmd rid left (.error .cancelled))).segment w =
      (w, .ended (.ok .done)) := rfl

/-! ### Declarations -/

/-- The link is declared dead. -/
def dead : Obs := .transportClose .transportFailure "heartbeat dead"

/-- How often the link has been declared dead. -/
def World.deaths (w : World) : Nat := w.log.count dead

theorem deaths_grows {l : List Obs} (h : w'.log = l ++ w.log) (hl : dead ∉ l) :
    w'.deaths = w.deaths := by
  unfold World.deaths
  rw [h, List.count_append, List.count_eq_zero_of_not_mem hl, Nat.zero_add]

theorem deaths_routine {l : List Obs} (h : w'.log = l ++ w.log)
    (hl : ∀ o ∈ l, o.routine = true) : w'.deaths = w.deaths :=
  deaths_grows h fun hd => absurd (hl dead hd) Bool.noConfusion

theorem deaths_cons {o : Obs} (h : w'.log = o :: w.log) (ho : o ≠ dead) : w'.deaths = w.deaths :=
  deaths_grows (l := [o]) h fun hd => ho (List.mem_singleton.mp hd).symm

/-- What the loss of a connection records. -/
theorem loseTransport_deaths {msg : String} :
    (w.loseTransport σ me .transportFailure msg).deaths =
      w.deaths + if msg = "heartbeat dead" then 1 else 0 := by
  have htransition : ∀ (v : World) new info, (v.transition new info).deaths = v.deaths := by
    intro v new info
    unfold World.transition
    split
    · rfl
    · exact deaths_cons rfl Obs.noConfusion
  have hdrop : ∀ v : World, (v.dropSession me .transportFailure msg).deaths = v.deaths := by
    intro v
    have hsilent : Silent _ v (v.dropSession me .transportFailure msg) := Silent.dropSession
    obtain ⟨l, hl, hroutine⟩ := hsilent.log
    exact deaths_routine hl hroutine
  have hpush : (w.push (.transportClose .transportFailure msg)).deaths =
      w.deaths + if msg = "heartbeat dead" then 1 else 0 := by
    show List.count dead (.transportClose .transportFailure msg :: w.log) = _
    rw [List.count_cons]
    simp [World.deaths, dead]
  exact (htransition _ _ _).trans ((hdrop _).trans hpush)

/-- A connection is lost once, and then wound up. -/
def losing (σ : Setup) (me : TaskId) (msg : String) : Protocol Karo Bool where
  update g w w' g' :=
    g = false ∧ g' = false ∧ w' = w ∨
    g = false ∧ g' = true ∧ w' = w.loseTransport σ me .transportFailure msg ∨
    g = true ∧ g' = true ∧ w'.conn.state = w.conn.state ∧ w'.deaths = w.deaths
  wait g _ _ g' := g = true ∧ g' = true

theorem losing_closable {msg : String} : Closable (losing σ me msg) true where
  refl _ := .inr (.inr ⟨rfl, rfl, rfl, rfl⟩)
  detach _ _ := .inr (.inr ⟨rfl, rfl, rfl, rfl⟩)
  shut _ _ := .inr (.inr ⟨rfl, rfl, rfl, rfl⟩)
  cancel _ _ := .inr (.inr ⟨rfl, rfl, rfl, rfl⟩)
  close _ _ := ⟨rfl, rfl⟩
  join _ _ := ⟨rfl, rfl⟩
  joined _ _ := ⟨rfl, rfl⟩

theorem retry_deaths : (w.retry σ).deaths = w.deaths := by
  unfold World.retry World.scheduleReconnect
  split
  · rfl
  · split
    · rfl
    · exact deaths_cons rfl Obs.noConfusion

theorem onTransportClose_loses (hr : w.conn.state = .ready) (me : TaskId) (msg : String) :
    (untilCancelled (do
      onTransportClose σ me .transportFailure msg
      pure (.next .heartbeatRound))).Abides (losing σ me msg) (fun g _ _ => g = true) false w := by
  have hid : ∀ v : World, (losing σ me msg).update true v v true :=
    fun v => .inr (.inr ⟨rfl, rfl, rfl, rfl⟩)
  have hclose : (onTransportClose σ me .transportFailure msg).Abides (losing σ me msg)
      (fun g _ _ => g = true) false w := by
    refine Coro.abides_scope.mpr ⟨false, .inl ⟨rfl, rfl, rfl⟩, ?_⟩
    have hlive : ¬(id w).conn.state.terminal = true := by
      show ¬w.conn.state.terminal = true
      rw [hr]
      exact Bool.noConfusion
    rw [Coro.abides_read_then, if_neg hlive]
    refine Coro.abides_modify_then (.inr (.inl ⟨rfl, rfl, rfl⟩)) ?_
    have hws : (closeWs me id).Steady (losing σ me msg) true fun _ => True :=
      losing_closable.closeWs hid fun _ => .inr (.inr ⟨rfl, rfl, rfl, rfl⟩)
    refine Coro.abides_bind.mpr (Coro.abides_mono ?_ (hws _))
    rintro g (e | a) v ⟨rfl, -⟩
    · exact ⟨true, hid v, rfl⟩
    · exact ⟨true, .inr (.inr ⟨rfl, rfl, retry_state, retry_deaths⟩), rfl⟩
  unfold untilCancelled
  rw [Coro.abides_bind, Coro.abides_within, Coro.abides_bind]
  refine Coro.abides_mono ?_ hclose
  rintro g (e | a) v rfl
  · cases e <;> rfl
  · rfl

/-- The state has left `READY` when the heartbeat is suspended next. -/
theorem lost_segment {msg : String} {v : World} {x : Coro.Stop Karo (Flow Karo)}
    (h : (untilCancelled (do
      onTransportClose σ me .transportFailure msg
      pure (.next .heartbeatRound))).segment w = (v, x)) (hr : w.conn.state = .ready) :
    v.conn.state = .transientFailure ∧
      v.deaths = w.deaths + if msg = "heartbeat dead" then 1 else 0 := by
  have hloses := onTransportClose_loses (σ := σ) (w := w) hr
  obtain ⟨g, hrun, hend, hwait⟩ := Coro.abides_segment (hloses me msg)
  rw [h] at hrun hend hwait
  have hg : g = true := by
    cases x with
    | ended r => exact hend r rfl
    | waits p op k =>
      obtain ⟨_, hg, -⟩ := hwait p op k rfl
      exact hg
  subst hg
  -- before the loss nothing changes, and after it neither the state nor the declarations
  have hinv : ∀ y : Bool × World, Relation.ReflTransGen (fun x y : Bool × World =>
      (losing σ me msg).update x.1 x.2 y.2 y.1) (false, w) y →
      y.1 = false ∧ y.2 = w ∨ y.1 = true ∧ y.2.conn.state = .transientFailure ∧
        y.2.deaths = w.deaths + if msg = "heartbeat dead" then 1 else 0 := by
    intro y hy
    induction hy with
    | refl => exact .inl ⟨rfl, rfl⟩
    | tail _ hs ih =>
      rcases ih with ⟨hb, hw⟩ | ⟨hb, hstate, hdeaths⟩
      · rcases hs with ⟨-, hg, hv⟩ | ⟨-, hg, hv⟩ | ⟨hf, -⟩
        · exact .inl ⟨hg, hv.trans hw⟩
        · refine .inr ⟨hg, ?_, ?_⟩
          · rw [hv]
            exact (loseTransport_ends σ _ me .transportFailure msg).2
          · rw [hv, loseTransport_deaths, hw]
        · rw [hb] at hf
          cases hf
      · rcases hs with ⟨hf, -⟩ | ⟨hf, -⟩ | ⟨-, hg, hs, hd⟩
        · rw [hb] at hf
          cases hf
        · rw [hb] at hf
          cases hf
        · exact .inr ⟨hg, hs.trans hstate, hd.trans hdeaths⟩
  rcases hinv _ hrun with ⟨hf, -⟩ | ⟨-, h⟩
  · cases hf
  · exact h

/-! ### Sessions -/

/-- Where the heartbeat is. -/
inductive Pulse where
  | next (p : Proc)
  | suspended (op : Op) (k : Except Exn Reply → M (Flow Karo))
  | stopped

/-- Where an uninterrupted execution leaves it. -/
def Pulse.of : Coro.Stop Karo (Flow Karo) → Pulse
  | .ended (.ok (.next p)) => .next p
  | .ended _ => .stopped
  | .waits _ op k => .suspended op k

/-- The ping that the heartbeat sends or waits for. -/
def Pulse.asks : Pulse → Nat → Prop
  | .suspended (.wsSend _ cmd) _, rid => cmd.requestId = rid
  | .suspended (.pingOrInbound r) _, rid => r = rid
  | _, _ => False

/-- A ping has timed out. -/
def timedOut : Op → Except Exn Reply → Bool
  | .pingOrInbound _, .error (.timeout _) => true
  | _, _ => false

/-- No request has been answered before it was made. -/
def World.Unasked (w : World) : Prop :=
  ∀ rid, w.rpc.nextRequestId ≤ rid → (w.rpc.futures rid).done = false

/-- A heartbeat in `READY`, from its start on: the time-outs since the last frame, and
whether a frame has come in since the inner loop began. -/
inductive Session (σ : Setup) (me : TaskId) : World → Pulse → Nat → Bool → Prop
  | started {v w : World} (hb : w.hb = (v.startHeartbeat σ).hb) (hu : w.Unasked) :
      Session σ me w (.next (.run .heartbeat)) 0 false
  /-- the heartbeat goes on with a body -/
  | runs {w w' : World} {p : Proc} {n : Nat} {framed : Bool} {x : Coro.Stop Karo (Flow Karo)}
      (h : Session σ me w (.next p) n framed) (hr : w.conn.state = .ready)
      (hs : (body σ me p).segment w = (w', x)) :
      Session σ me w' (.of x) n (framed && p ≠ .heartbeatRound)
  /-- what the heartbeat waits for has ended -/
  | answered {w w' : World} {op : Op} {k : Except Exn Reply → M (Flow Karo)} {n : Nat}
      {framed : Bool} {r : Except Exn Reply} {x : Coro.Stop Karo (Flow Karo)}
      (h : Session σ me w (.suspended op k) n framed) (hr : w.conn.state = .ready)
      (ha : w.ready me op r = true) (hs : (k r).segment (w.resume me op r) = (w', x)) :
      Session σ me w' (.of x) (if timedOut op r then n + 1 else n) framed
  /-- a frame comes in -/
  | frame {w w' : World} {p : Pulse} {n : Nat} {framed : Bool} (h : Session σ me w p n framed)
      (hr : w.conn.state = .ready) (hb : w'.hb = w.resetLiveness.hb) (hu : w'.Unasked) :
      Session σ me w' p 0 true
  /-- anything else; the ping of the heartbeat is answered by a frame only -/
  | beside {w w' : World} {p : Pulse} {n : Nat} {framed : Bool} (h : Session σ me w p n framed)
      (hr : w.conn.state = .ready) (hb : w'.hb = w.hb) (hu : w'.Unasked)
      (hf : ∀ rid, p.asks rid → (w'.rpc.futures rid).done = true →
        (w.rpc.futures rid).done = true) :
      Session σ me w' p n framed

/-- The code that the heartbeat goes on with, and the rounds that the inner loop has left:
without a frame they are enough to reach the bound. -/
inductive Placed (σ : Setup) (me : TaskId) (n : Nat) (framed : Bool) : Pulse → Prop
  | start : Placed σ me n framed (.next (.run .heartbeat))
  | round : Placed σ me n framed (.next .heartbeatRound)
  | pings {left : Nat} (h : framed = false → σ.opts.maxMissedPings + 1 ≤ (left + n : Nat)) :
      Placed σ me n framed (.next (.pingRound left))
  | rests {seconds : ℚ} :
      Placed σ me n framed (.suspended (.heartbeatWakeup seconds) fun r =>
        untilCancelled (rested r))
  | sends {c : WsId} {cmd : SdkCommand} {left : Nat}
      (h : framed = false → σ.opts.maxMissedPings + 1 ≤ (left + 1 + n : Nat)) :
      Placed σ me n framed (.suspended (.wsSend c cmd) fun r =>
        untilCancelled (pingSent σ me c cmd cmd.requestId left r))
  | waits {rid left : Nat}
      (h : framed = false → σ.opts.maxMissedPings + 1 ≤ (left + 1 + n : Nat)) :
      Placed σ me n framed (.suspended (.pingOrInbound rid) fun r =>
        untilCancelled (pingAwaited σ me rid left r))
  | stopped : Placed σ me n framed .stopped

/-- What holds of a heartbeat in `READY`. -/
structure Beating (σ : Setup) (me : TaskId) (w : World) (p : Pulse) (n : Nat) (framed : Bool) :
    Prop where
  count : w.hb.missCount = n
  below : (n : Int) < σ.opts.maxMissedPings
  unasked : w.Unasked
  seen : ∀ rid, p.asks rid →
    w.hb.pingDeadlineEvt = true ∨ (w.rpc.futures rid).done = true → n = 0
  placed : Placed σ me n framed p

theorem startHeartbeat_hb : (w.startHeartbeat σ).hb.missCount = 0 := by
  unfold World.startHeartbeat
  dsimp only
  split <;> rfl

theorem Placed.framed {n : Nat} {framed : Bool} {p : Pulse} (h : Placed σ me n framed p) :
    Placed σ me 0 true p := by
  have hno : ∀ {q : Prop}, true = false → q := fun h => absurd h Bool.noConfusion
  cases h with
  | start => exact .start
  | round => exact .round
  | pings h => exact .pings hno
  | rests => exact .rests
  | sends h => exact .sends hno
  | waits h => exact .waits hno
  | stopped => exact .stopped

/-- A round of the outer loop changes nothing. -/
theorem heartbeatRound_stops (hr : w.conn.state = .ready) {x : Coro.Stop Karo (Flow Karo)}
    (hs : (heartbeatRound σ).segment w = (w', x)) : w' = w ∧
      (x = .ended (.ok .done) ∨
        x = .ended (.ok (.next (.pingRound (σ.opts.maxMissedPings + 1).toNat))) ∨
        ∃ seconds, x = .waits [.heartbeat] (.heartbeatWakeup seconds) fun r =>
          untilCancelled (rested r)) := by
  by_cases hi : w.clock.steady - w.hb.lastInbound < σ.opts.heartbeatInterval
  -- a frame came in lately: sleep for what is left of the interval
  · have h : (heartbeatRound σ).segment w = (w, .waits [.heartbeat]
        (.heartbeatWakeup (σ.opts.heartbeatInterval - (w.clock.steady - w.hb.lastInbound))) fun r =>
          untilCancelled (rested r)) := by
      unfold heartbeatRound
      rw [untilCancelled_read]
      dsimp only
      rw [if_neg (not_not.mpr hr), if_pos hi]
      rfl
    rw [h] at hs
    cases hs
    exact ⟨rfl, .inr (.inr ⟨_, rfl⟩)⟩
  -- the link is idle: send pings, if there is an open client to send them to
  · cases hws : w.conn.ws with
    | none =>
      have h : (heartbeatRound σ).segment w = (w, .ended (.ok .done)) := by
        unfold heartbeatRound
        rw [untilCancelled_read]
        dsimp only
        rw [if_neg (not_not.mpr hr), if_neg hi, hws]
        rfl
      rw [h] at hs
      cases hs
      exact ⟨rfl, .inl rfl⟩
    | some c =>
      cases ho : (w.clients c).attached && (w.clients c).isOpen with
      | true =>
        rw [heartbeatRound_pings hr hi hws ho] at hs
        cases hs
        exact ⟨rfl, .inr (.inl rfl)⟩
      | false =>
        have h : (heartbeatRound σ).segment w = (w, .ended (.ok .done)) := by
          unfold heartbeatRound
          rw [untilCancelled_read]
          dsimp only
          rw [if_neg (not_not.mpr hr), if_neg hi, hws]
          dsimp only
          rw [if_neg (by rw [ho]; exact Bool.noConfusion)]
          rfl
        rw [h] at hs
        cases hs
        exact ⟨rfl, .inl rfl⟩

section Beats

variable {n : Nat} {framed : Bool} {p : Proc} {op : Op} {k : Except Exn Reply → M (Flow Karo)}
  {r : Except Exn Reply} {x : Coro.Stop Karo (Flow Karo)}

/-- A body of the heartbeat goes on as before. -/
theorem Beating.runs (h : Beating σ me w (.next p) n framed) (hm : 1 ≤ σ.opts.maxMissedPings)
    (hr : w.conn.state = .ready) (hs : (body σ me p).segment w = (w', x)) :
    Beating σ me w' (.of x) n (framed && p ≠ .heartbeatRound) ∧ w'.deaths = w.deaths := by
  obtain ⟨hcount, hbelow, hunasked, -, hplaced⟩ := h
  cases hplaced with
  | start =>
    cases hs
    exact ⟨⟨hcount, hbelow, hunasked, fun _ h => h.elim, .round⟩, rfl⟩
  | round =>
    obtain ⟨rfl, rfl | rfl | ⟨seconds, rfl⟩⟩ := heartbeatRound_stops hr hs
    · exact ⟨⟨hcount, hbelow, hunasked, fun _ h => h.elim, .stopped⟩, rfl⟩
    · refine ⟨⟨hcount, hbelow, hunasked, fun _ h => h.elim, .pings fun _ => ?_⟩, rfl⟩
      push_cast
      omega
    · exact ⟨⟨hcount, hbelow, hunasked, fun _ h => h.elim, .rests⟩, rfl⟩
  | @pings left hleft =>
    -- the flag is reset at the beginning of the outer round only
    have hframed : (framed && decide (Proc.pingRound left ≠ .heartbeatRound)) = framed := by simp
    rw [hframed]
    have hround : ∀ {v y}, v = w → y = Coro.Stop.ended (.ok (.next .heartbeatRound)) →
        Beating σ me v (.of y) n framed ∧ v.deaths = w.deaths := by
      rintro _ _ rfl rfl
      exact ⟨⟨hcount, hbelow, hunasked, fun _ h => h.elim, .round⟩, rfl⟩
    -- the rounds have run out, or the client has gone: back to the outer loop
    cases left with
    | zero =>
      cases hs
      exact hround rfl rfl
    | succ left =>
      cases hws : w.conn.ws with
      | none =>
        have h : (pingRound σ me (left + 1)).segment w =
            (w, .ended (.ok (.next .heartbeatRound))) := by
          unfold pingRound
          rw [untilCancelled_read, hws]
          rfl
        rw [show (body σ me (.pingRound (left + 1))).segment w = _ from h] at hs
        cases hs
        exact hround rfl rfl
      | some c =>
        by_cases ho : w.conn.state = .ready ∧ (w.clients c).attached = true ∧
          (w.clients c).isOpen = true
        · rw [show (body σ me (.pingRound (left + 1))).segment w = _ from
            pingRound_sends hws ho] at hs
          cases hs
          refine ⟨⟨hcount, hbelow, fun rid hle => ?_, ?_, .sends fun hf => ?_⟩, rfl⟩
          -- the ping takes the next request number, which nobody has answered yet
          · exact hunasked rid (Nat.le_of_succ_le hle)
          · rintro rid rfl (he | hd)
            · cases he
            · have hnot := hunasked w.rpc.nextRequestId le_rfl
              rw [show (w.rpc.futures w.rpc.nextRequestId).done = true from hd] at hnot
              cases hnot
          · exact hleft hf
        · have h : (pingRound σ me (left + 1)).segment w =
              (w, .ended (.ok (.next .heartbeatRound))) := by
            unfold pingRound
            rw [untilCancelled_read, hws]
            dsimp only
            rw [if_neg ho]
            rfl
          rw [show (body σ me (.pingRound (left + 1))).segment w = _ from h] at hs
          cases hs
          exact hround rfl rfl

/-- A reply that ends the heartbeat, or that it passes on. -/
theorem untilCancelled_raise {e : Exn} :
    ∃ y, (untilCancelled (Coro.raise e)).segment w = (w, y) ∧ Pulse.of y = .stopped := by
  cases e <;> exact ⟨_, rfl, rfl⟩

/-- What an answer leads to: the time-out that reaches the bound declares the link dead,
and nothing else does. -/
structure Handled (σ : Setup) (me : TaskId) (w : World) (op : Op) (r : Except Exn Reply)
    (n : Nat) (framed : Bool) (w' : World) (x : Coro.Stop Karo (Flow Karo)) : Prop where
  declares : timedOut op r = true ∧ σ.opts.maxMissedPings ≤ (n + 1 : Nat) →
    w'.conn.state = .transientFailure ∧ w'.deaths = w.deaths + 1
  goesOn : ¬(timedOut op r = true ∧ σ.opts.maxMissedPings ≤ (n + 1 : Nat)) →
    w'.deaths = w.deaths ∧ (w'.conn.state = .ready →
      Beating σ me w' (.of x) (if timedOut op r then n + 1 else n) framed)

theorem Handled.quiet (ht : timedOut op r = false) (hd : w'.deaths = w.deaths)
    (hb : w'.conn.state = .ready → Beating σ me w' (.of x) n framed) :
    Handled σ me w op r n framed w' x := by
  refine ⟨fun h => ?_, fun _ => ⟨hd, ?_⟩⟩
  · rw [ht] at h
    exact absurd h.1 Bool.noConfusion
  · rw [ht]
    exact hb

/-- What the heartbeat does with an answer. -/
theorem Beating.answered (h : Beating σ me w (.suspended op k) n framed)
    (hr : w.conn.state = .ready) (ha : w.ready me op r = true)
    (hs : (k r).segment (w.resume me op r) = (w', x)) : Handled σ me w op r n framed w' x := by
  obtain ⟨hcount, hbelow, hunasked, hseen, hplaced⟩ := h
  obtain ⟨ts, evt, hv, -⟩ := resume_eq me op r w
  rw [hv] at hs
  -- an error that is passed on ends the heartbeat
  have hraise : ∀ e, timedOut op (.error e) = false → r = .error e →
      (untilCancelled (Coro.raise e)).segment { w with tasks := ts, stateEvt := evt } = (w', x) →
      Handled σ me w op r n framed w' x := by
    intro e ht he hs
    obtain ⟨y, hy, hover⟩ := untilCancelled_raise (e := e)
      (w := { w with tasks := ts, stateEvt := evt })
    obtain ⟨rfl, rfl⟩ := Prod.mk.inj (hy.symm.trans hs)
    refine .quiet (he ▸ ht) rfl fun _ => ?_
    rw [hover]
    exact ⟨hcount, hbelow, hunasked, fun _ h => h.elim, .stopped⟩
  cases hplaced with
  | rests =>
    -- the wait for the next round ends by its time-out or is woken
    rcases r with e | rep
    · cases e with
      | timeout s =>
        cases hs
        exact .quiet rfl rfl fun _ => ⟨hcount, hbelow, hunasked, fun _ h => h.elim, .round⟩
      | _ => exact hraise _ rfl rfl hs
    · cases hs
      exact .quiet rfl rfl fun _ => ⟨hcount, hbelow, hunasked, fun _ h => h.elim, .round⟩
  | @sends c cmd left hleft =>
    rcases r with e | rep
    · by_cases he : e = .cancelled
      · subst he
        rw [pingSent_cancelled] at hs
        cases hs
        exact .quiet rfl rfl fun _ => ⟨hcount, hbelow, hunasked, fun _ h => h.elim, .stopped⟩
      -- a failed send loses the connection, but is not a missed ping
      · rw [pingSent_failed he] at hs
        obtain ⟨hstate, hdeaths⟩ := lost_segment hs hr
        refine .quiet rfl (hdeaths.trans rfl) fun hready => ?_
        rw [hstate] at hready
        cases hready
    · rw [pingSent_waits] at hs
      cases hs
      refine .quiet rfl (deaths_cons rfl Obs.noConfusion) fun _ => ?_
      exact ⟨hcount, hbelow, hunasked, hseen, .waits hleft⟩
  | @waits rid left hleft =>
    rcases r with e | rep
    · cases e with
      | timeout s =>
        -- the time-out is counted before it is compared with the bound
        by_cases hbound : σ.opts.maxMissedPings ≤ (n + 1 : Nat)
        · rw [pingAwaited_dead (by rw [← hcount] at hbound; exact hbound)] at hs
          obtain ⟨hstate, hdeaths⟩ := lost_segment hs hr
          refine ⟨fun _ => ⟨hstate, hdeaths.trans ?_⟩, fun hnot => absurd ⟨rfl, hbound⟩ hnot⟩
          rw [if_pos rfl]
          exact congrArg (· + 1) (deaths_cons (w := w) rfl Obs.noConfusion)
        · rw [pingAwaited_missed (by rw [← hcount] at hbound; exact not_le.mp hbound)] at hs
          cases hs
          refine ⟨fun h => absurd h.2 hbound, fun _ => ⟨rfl, fun _ => ?_⟩⟩
          refine ⟨congrArg (· + 1) hcount, not_le.mp hbound, hunasked, fun _ h => h.elim, ?_⟩
          refine .pings fun hf => (hleft hf).trans ?_
          show ((left + 1 + n : Nat) : Int) ≤ (left + (n + 1) : Nat)
          omega
      | _ => exact hraise _ rfl rfl hs
    · rw [pingAwaited_done] at hs
      cases hs
      -- an answered wait means that a frame has come in, so nothing has been missed since
      have hzero : n = 0 := by
        refine hseen rid rfl ?_
        have hend := (Bool.and_eq_true_iff.mp ha).2
        cases rep with
        | done => exact Bool.or_eq_true_iff.mp hend
        | _ => cases hend
      subst hzero
      exact .quiet rfl rfl fun _ => ⟨rfl, hbelow, hunasked, fun _ h => h.elim, .round⟩

/-- **A session in `READY` keeps count.** -/
theorem Session.beating {q : Pulse} (h : Session σ me w q n framed)
    (hm : 1 ≤ σ.opts.maxMissedPings) (hr : w.conn.state = .ready) :
    Beating σ me w q n framed := by
  -- the induction is on the session: the count is followed through every step of it
  induction h with
  | @started v w hb hu =>
    refine ⟨?_, by omega, hu, fun _ h => h.elim, .start⟩
    rw [hb]
    exact startHeartbeat_hb
  | runs _ hr' hs ih => exact ((ih hr').runs hm hr' hs).1
  | @answered w w' op k n framed r x _ hr' ha hs ih =>
    have hhandled := (ih hr').answered hr' ha hs
    by_cases hdead : timedOut op r = true ∧ σ.opts.maxMissedPings ≤ (n + 1 : Nat)
    -- the link was declared dead, so the state is not `READY` any more
    · rw [(hhandled.declares hdead).1] at hr
      cases hr
    · exact (hhandled.goesOn hdead).2 hr
  | @frame w w' p n framed _ hr' hb hu ih =>
    refine ⟨?_, by omega, hu, fun _ _ _ => rfl, (ih hr').placed.framed⟩
    rw [hb]
    rfl
  | @beside w w' p n framed _ hr' hb hu hf ih =>
    obtain ⟨hcount, hbelow, -, hseen, hplaced⟩ := ih hr'
    -- only a frame answers the ping that is waited for
    refine ⟨hb ▸ hcount, hbelow, hu, fun rid hrid hd => hseen rid hrid ?_, hplaced⟩
    exact hd.imp (fun h => hb ▸ h) (hf rid hrid)

end Beats

/-! ### Dead links -/

/-- **A dead link is found by counting** for every `max_missed_pings` of at least one: every
frame restarts the count; in a session in `READY` `_miss_count` is the number of time-outs
since the last frame, which is below the bound; the link is declared dead by the time-out
that reaches the bound, and by nothing else that the heartbeat does; and the inner loop
runs out of rounds only if a frame has come in since it began. -/
theorem heartbeat_counts (σ : Setup) :
    (∀ me response push w, (onInboundMessage σ me response push).first w = some w.resetLiveness) ∧
    (∀ w : World, w.resetLiveness.hb.missCount = 0) ∧
    ∀ me w p n framed, 1 ≤ σ.opts.maxMissedPings → Session σ me w p n framed →
      w.conn.state = .ready →
      w.hb.missCount = n ∧ (n : Int) < σ.opts.maxMissedPings ∧
      (∀ op k r w' x, p = .suspended op k → w.ready me op r = true →
        (k r).segment (w.resume me op r) = (w', x) →
        (timedOut op r = true ∧ σ.opts.maxMissedPings ≤ (n + 1 : Nat) →
          w'.conn.state = .transientFailure ∧ w'.deaths = w.deaths + 1) ∧
        (¬(timedOut op r = true ∧ σ.opts.maxMissedPings ≤ (n + 1 : Nat)) →
          w'.deaths = w.deaths)) ∧
      (∀ q w' x, p = .next q → (body σ me q).segment w = (w', x) → w'.deaths = w.deaths) ∧
      (p = .next (.pingRound 0) → framed = true) := by
  refine ⟨fun _ _ _ _ => rfl, fun _ => rfl, fun me w p n framed hm h hr => ?_⟩
  have hbeating := h.beating hm hr
  refine ⟨hbeating.count, hbeating.below, ?_, ?_, ?_⟩
  · rintro op k r w' x rfl ha hs
    have hhandled := hbeating.answered hr ha hs
    exact ⟨hhandled.declares, fun hnot => (hhandled.goesOn hnot).1⟩
  · rintro q w' x rfl hs
    exact (hbeating.runs hm hr hs).2
  · rintro rfl
    obtain ⟨-, hbelow, -, -, hplaced⟩ := hbeating
    cases hplaced with
    | pings hleft =>
      cases framed with
      | true => rfl
      -- without a frame the rounds that are left reach the bound, and none are left
      | false =>
        have := hleft rfl
        push_cast at this
        omega

/-- A connection that has just been opened. -/
def World.opened : World :=
  { World.init ⟨0, 0⟩ with
    conn := { (World.init ⟨0, 0⟩).conn with state := .ready, ws := some 0 }
    clients := fun _ => { (World.init ⟨0, 0⟩).clients 0 with attached := true, isOpen := true } }

/-- The first ping of a session times out. -/
theorem heartbeat_counts_missed : ∃ w, Session .plain 0 w (.next (.pingRound 3)) 1 false ∧
    w.conn.state = .ready ∧ w.hb.missCount = 1 ∧ (1 : Int) < Setup.plain.opts.maxMissedPings := by
  have hstarted : Session .plain 0 { World.opened.startHeartbeat .plain with clock := ⟨20, 0⟩ }
      (.next (.run .heartbeat)) 0 false := .started (v := .opened) rfl fun _ _ => rfl
  have hround := hstarted.runs rfl rfl
  have hidle := hround.runs rfl (heartbeatRound_pings (c := 0) rfl (by decide +kernel) rfl rfl)
  have hsent := Session.runs (p := .pingRound 4) hidle rfl
    (pingRound_sends (c := 0) rfl ⟨rfl, rfl, rfl⟩)
  have hwaits := hsent.answered (r := .ok .done) rfl rfl pingSent_waits
  have hmissed := hwaits.answered (r := .error (.timeout "")) rfl rfl
    (pingAwaited_missed (by decide +kernel))
  have hcount := (heartbeat_counts .plain).2.2 _ _ _ _ _ (by decide) hmissed rfl
  exact ⟨_, hmissed, rfl, hcount.1, hcount.2.1⟩

/-- A ping was sent. -/
def Obs.isPing : Obs → Bool
  | .sent _ ⟨_, .ping _⟩ => true
  | _ => false

/-- A ping is sent, and times out. -/
def pingTimesOut : List (Cmd (robot .plain)) :=
  [.resume 3 (.ok .done), .resume 3 (.error (.timeout ""))]

/-- A ping is sent, and its time-out overtakes a frame. -/
def frameOvertaken : List (Cmd (robot .plain)) :=
  [.resume 3 (.ok .done), .resume 2 (.ok (.inbound (.frame 0 none none))),
    .resume 3 (.error (.timeout ""))]

/-- All rounds of the inner loop time out, three of them just after a frame. -/
def overtaken : List (Cmd (robot .plain)) :=
  connected ++ [.env (.tick 10 0), .start 3] ++ pingTimesOut ++ frameOvertaken ++ frameOvertaken ++
    frameOvertaken

/-- The inner loop ends after `max_missed_pings + 1` time-outs with a count of one, and the
next ping waits until the link has been idle again. -/
theorem inner_loop_ends : ∃ c seconds, Reaches (robot .plain) (initial ⟨0, 0⟩) c ∧
    c.world.conn.state = .ready ∧ c.world.log.countP Obs.isPing = 4 ∧
    c.world.hb.missCount = 1 ∧ c.world.deaths = 0 ∧
    (⟨3, [.heartbeat], .heartbeatWakeup seconds⟩ : Site Karo) ∈ c.sites := by
  have hplay : ((robot .plain).play 4 overtaken (initial ⟨0, 0⟩)).any (fun c =>
      c.world.conn.state = .ready && c.world.log.countP Obs.isPing = 4 &&
        c.world.hb.missCount = 1 && c.world.deaths = 0 &&
        c.waiting.any fun x => x.site.task = 3 && x.site.path = [.heartbeat] &&
          x.site.op = .heartbeatWakeup 10) = true := by
    decide +kernel
  obtain ⟨c, hc, h⟩ := (Option.any_eq_true _ _).mp hplay
  simp only [Bool.and_eq_true, decide_eq_true_eq, List.any_eq_true] at h
  obtain ⟨⟨⟨⟨hready, hpings⟩, hmiss⟩, hdeaths⟩, x, hx, ⟨htask, hpath⟩, hop⟩ := h
  refine ⟨c, 10, play_run hc, hready, hpings, hmiss, hdeaths, ?_⟩
  have hsite : x.site = ⟨3, [.heartbeat], .heartbeatWakeup 10⟩ := by
    cases hs : x.site
    simp_all
  exact Multiset.mem_coe.mpr (List.mem_map.mpr ⟨x, hx, hsite⟩)

end KaroX2
