/-
KaroX2/Spinning.lean

Whether the heartbeat blocks the event loop.

A round of `_heartbeat_loop` that goes on without a suspension has changed nothing
and has found a ping due.  The inner loop has `max_missed_pings + 1` rounds: where
there is one, it suspends in the send; where there is none, the outer loop is back
where it was.
-/
import KaroX2.Lookup
import KaroX2.Coop.Spin

namespace KaroX2

open Coop

variable {σ : Setup} {w v : World} {t : TaskId}

/-- The client has a socket, which is open. -/
def World.HasOpenSocket (w : World) : Prop :=
  ∃ c, w.conn.ws = some c ∧ (w.clients c).attached = true ∧ (w.clients c).isOpen = true

/-- `_heartbeat_loop` has found the link idle and its socket open. -/
def World.PingDue (σ : Setup) (w : World) : Prop :=
  w.conn.state = .ready ∧ σ.opts.heartbeatInterval ≤ w.clock.steady - w.hb.lastInbound ∧
    w.HasOpenSocket

/-! ### One body -/

theorem untilCancelled_segment (c : M (Flow Karo)) {p : Proc} :
    (untilCancelled c).segment w = (v, .ended (.ok (.next p))) ↔
      c.segment w = (v, .ended (.ok (.next p))) := by
  show (Coro.bind (S := Karo) (Coro.within (S := Karo) .heartbeat c) _).segment w = _ ↔ _
  induction c generalizing w with
  | ret r =>
    rcases r with e | p
    · rcases e <;> refine ⟨fun h => ?_, fun h => ?_⟩ <;> cases h
    · rfl
  | get k ih => exact ih w
  | step p q u k ih => exact ih
  | enter p l u k ih => exact ih
  | await p op k ih =>
    refine ⟨fun h => ?_, fun h => ?_⟩ <;> cases h

/-- A round of the outer loop goes on without a suspension if a ping is due. -/
theorem heartbeatRound_segment {p : Proc} :
    (heartbeatRound σ).segment w = (v, .ended (.ok (.next p))) ↔
      w.PingDue σ ∧ v = w ∧ p = .pingRound (σ.opts.maxMissedPings + 1).toNat := by
  unfold heartbeatRound
  rw [untilCancelled_segment]
  show Coro.segment (S := Karo) (if _ then _ else _) w = _ ↔ _
  split
  case isTrue hs =>
    refine ⟨fun h => ?_, fun h => absurd h.1.1 hs⟩
    cases h
  case isFalse hs =>
    split
    case isTrue hi =>
      refine ⟨fun h => ?_, fun h => absurd hi (not_lt.mpr h.1.2.1)⟩
      cases h
    case isFalse hi =>
      split
      case h_1 hw =>
        refine ⟨fun h => ?_, fun h => ?_⟩
        · cases h
        · obtain ⟨⟨-, -, c, hc, -⟩, -⟩ := h
          cases hw.symm.trans hc
      case h_2 c hw =>
        split
        case isTrue ho =>
          obtain ⟨ha, ho⟩ := Bool.and_eq_true_iff.mp ho
          refine ⟨fun h => ?_, fun h => ?_⟩
          · cases h
            exact ⟨⟨not_not.mp hs, not_lt.mp hi, c, hw, ha, ho⟩, rfl, rfl⟩
          · obtain ⟨-, rfl, rfl⟩ := h
            rfl
        case isFalse ho =>
          refine ⟨fun h => ?_, fun h => ?_⟩
          · cases h
          · obtain ⟨⟨-, -, d, hd, ha, ho'⟩, -⟩ := h
            obtain rfl := Option.some.inj (hw.symm.trans hd)
            exact absurd (Bool.and_eq_true_iff.mpr ⟨ha, ho'⟩) ho

/-- A round of the inner loop goes on without a suspension if it does not ping. -/
theorem pingRound_segment {n : Nat} {p : Proc}
    (h : (pingRound σ t (n + 1)).segment w = (v, .ended (.ok (.next p)))) :
    v = w ∧ p = .heartbeatRound ∧ ¬w.PingDue σ := by
  unfold pingRound at h
  rw [untilCancelled_segment] at h
  simp only [Bind.bind, Coro.bind, Coro.read, Coro.segment] at h
  split at h
  case h_1 hw =>
    cases h
    refine ⟨rfl, rfl, ?_⟩
    rintro ⟨-, -, c, hc, -⟩
    cases hw.symm.trans hc
  case h_2 c hw =>
    split at h
    case isTrue ho =>
      simp only [sendPing, nextRid, wsSend, Bind.bind, Coro.bind, Coro.read, Coro.update,
        Coro.modify, Coro.segment] at h
      have hopen : ((World.registerPing w.rpc.nextRequestId w.bumpRid).clients c).attached &&
          ((World.registerPing w.rpc.nextRequestId w.bumpRid).clients c).isOpen :=
        Bool.and_eq_true_iff.mpr ho.2
      rw [if_pos hopen] at h
      cases h
    case isFalse ho =>
      cases h
      refine ⟨rfl, rfl, ?_⟩
      rintro ⟨hs, -, d, hd, ha, ho'⟩
      obtain rfl := Option.some.inj (hw.symm.trans hd)
      exact ho ⟨hs, ha, ho'⟩

/-! ### The loops -/

theorem pingRound_ends {ws : List (Waiting Karo)} (n : Nat) :
    Acc (After (robot σ)) ⟨w, ws, some (t, body σ t (.pingRound (n + 1)))⟩ := by
  apply (acc_iff_segment _).mpr
  intro v p hv
  obtain ⟨rfl, rfl, hdue⟩ := pingRound_segment hv
  apply (acc_iff_segment _).mpr
  intro u q hu
  exact absurd (heartbeatRound_segment.mp hu).1 hdue

theorem heartbeatRound_cycles {ws : List (Waiting Karo)} (hm : σ.opts.maxMissedPings < 0)
    (hdue : w.PingDue σ) :
    Spins (robot σ) ⟨w, ws, some (t, body σ t .heartbeatRound)⟩ := by
  have hnone : (σ.opts.maxMissedPings + 1).toNat = 0 := Int.toNat_of_nonpos (by omega)
  have hout : (heartbeatRound σ).segment w = (w, .ended (.ok (.next (.pingRound 0)))) :=
    heartbeatRound_segment.mpr ⟨hdue, rfl, by rw [hnone]⟩
  have hback : (pingRound σ t 0).segment w = (w, .ended (.ok (.next .heartbeatRound))) := rfl
  apply spins_of_cycle
  exact (after_of_segment hback).trans (after_of_segment hout)

/-- The default options, except that `max_missed_pings` is -1. -/
def Setup.missless : Setup where
  opts := { accessToken := [0x6b], maxMissedPings := -1 }
  valid := by decide +kernel
  random := Setup.plain.random
  random_mem := Setup.plain.random_mem
  pemToDer := Setup.plain.pemToDer
  sslContext := Setup.plain.sslContext

end KaroX2
