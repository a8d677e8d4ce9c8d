/-
KaroX2/Latency.lean

The latency percentiles of the diagnostics.

`_RttHist` keeps the round trips of the last requests in a bounded queue, and sorts them
whenever it is asked for a percentile.  `percentiles_ranked` says what the two percentiles
tell of these samples, whatever has been recorded before.
-/
import KaroX2.Queue.Ranks
import Mathlib.Algebra.Order.Ring.Rat

namespace KaroX2

open Queue

/-- `_RttHist`, with its `deque(maxlen=cap)` -/
structure RttHist where
  cap : Nat
  d : List ℚ
  bounded : d.length ≤ cap

namespace RttHist

/-- `_RttHist(cap)`; the client has `cap` at its default, 1024. -/
def new (cap : Nat) : RttHist := ⟨cap, [], Nat.zero_le _⟩

/-- `record`: a full queue discards its oldest sample. -/
def record (h : RttHist) (rttMs : ℚ) : RttHist :=
  ⟨h.cap, (h.d ++ [rttMs]).rtake h.cap, by
    rw [length_rtake]
    exact Nat.min_le_left _ _⟩

/-- `p50_ms` -/
def p50Ms (h : RttHist) : ℚ :=
  if hd : h.d.length = 0 then 0
  else ranked h.d (h.d.length / 2) (by omega)

/-- `p99_ms` -/
def p99Ms (h : RttHist) : ℚ :=
  if hd : h.d.length = 0 then 0
  else ranked h.d (min (h.d.length - 1) (h.d.length * 99 / 100)) (by omega)

/-- The round trips were recorded, one after another. -/
def recordAll (h : RttHist) (samples : List ℚ) : RttHist := samples.foldl record h

variable {h : RttHist} {cap : Nat} {samples : List ℚ}

@[simp] theorem record_cap {rttMs : ℚ} : (h.record rttMs).cap = h.cap := rfl

@[simp] theorem record_d {rttMs : ℚ} : (h.record rttMs).d = (h.d ++ [rttMs]).rtake h.cap := rfl

theorem recordAll_cap : (h.recordAll samples).cap = h.cap := by
  induction samples generalizing h with
  | nil => rfl
  | cons x samples ih =>
    show ((h.record x).recordAll samples).cap = h.cap
    rw [ih, record_cap]

/-- The queue holds the last samples. -/
theorem recordAll_last : ((new cap).recordAll samples).d = samples.rtake cap := by
  induction samples using List.reverseRecOn with
  | nil =>
    rw [List.rtake_nil]
    rfl
  | append_singleton samples x ih =>
    have hrecord : (new cap).recordAll (samples ++ [x]) =
        ((new cap).recordAll samples).record x := by
      rw [recordAll, List.foldl_append]
      rfl
    have hcap : ((new cap).recordAll samples).cap = cap := recordAll_cap
    rw [hrecord, record_d, ih, hcap, rtake_append]

/-- What the two percentiles say of the samples: they are samples, half of the samples are on
either side of the first at most, and less than one in a hundred is above the second. -/
structure Percentiles (last : List ℚ) (p50 p99 : ℚ) : Prop where
  sampled : p50 ∈ last ∧ p99 ∈ last
  ordered : p50 ≤ p99
  below : 2 * last.countP (· < p50) ≤ last.length
  above : 2 * last.countP (p50 < ·) < last.length
  tail : 100 * last.countP (p99 < ·) < last.length

theorem percentiles (hd : h.d.length ≠ 0) : Percentiles h.d h.p50Ms h.p99Ms := by
  rw [p50Ms, p99Ms, dif_neg hd, dif_neg hd]
  have hmedian : h.d.length / 2 < h.d.length := by omega
  have htail : min (h.d.length - 1) (h.d.length * 99 / 100) < h.d.length := by omega
  refine ⟨⟨ranked_mem _, ranked_mem _⟩, ranked_mono _ _ (by omega), ?_, ?_, ?_⟩
  · have := countP_lt_ranked hmedian
    omega
  · have := countP_ranked_lt hmedian
    omega
  · have := countP_ranked_lt htail
    omega

end RttHist

/-- **The percentiles describe the last requests**: whatever was recorded, in whatever order,
the percentiles are those of the last `cap` samples. -/
theorem percentiles_ranked {cap : Nat} {samples : List ℚ} (hcap : 0 < cap) (hne : samples ≠ []) :
    RttHist.Percentiles (samples.rtake cap) ((RttHist.new cap).recordAll samples).p50Ms
      ((RttHist.new cap).recordAll samples).p99Ms := by
  have hlast : ((RttHist.new cap).recordAll samples).d = samples.rtake cap :=
    RttHist.recordAll_last
  rw [← hlast]
  apply RttHist.percentiles
  have hpos := List.length_pos_iff.mpr hne
  rw [hlast, length_rtake]
  omega

/-- Three requests, of which the first has been discarded. -/
theorem percentiles_ranked_two :
    RttHist.Percentiles [10, 20] ((RttHist.new 2).recordAll [30, 10, 20]).p50Ms
      ((RttHist.new 2).recordAll [30, 10, 20]).p99Ms :=
  @percentiles_ranked 2 [30, 10, 20] (by decide) (List.cons_ne_nil _ _)

end KaroX2
