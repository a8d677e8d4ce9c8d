/-
KaroX2/Receiving.lean

The receive counter of a subscription, and what `get_diagnostics` reads off it.

A slot counts its accepted pushes in sixty buckets, one for each second of the
last minute, and empties a bucket only when the counter is used the next time:
by a push, or by a call of `get_diagnostics`.  `Counts x seconds` says that the
slot has recorded pushes in these seconds; it holds of a new slot and of every
slot that has been used at times that do not decrease.  The sum of the buckets
is then the number of pushes of the last minute, whatever the gaps between the
uses were (`sum_slideHzBuckets`).
-/
import KaroX2.Queue.Window
import KaroX2.Subscription

namespace KaroX2

open Queue (Tallies InWindow)

/-! ### `get_diagnostics` -/

/-- `SubscriptionStat` -/
structure SubscriptionStat where
  topic : String
  state : SubscriptionState
  configuredHz : PyFloat
  receivedHz1min : ℚ
  dropCount : Nat
  lastSeq : Nat
  lastMessageAgeMs : Int

namespace SubSlot

/-- `int(q)`, which rounds towards zero -/
def trunc (q : ℚ) : Int := q.num.tdiv q.den

/-- What `get_diagnostics` reports of a slot whose buckets are up to date. -/
def stat (x : SubSlot) (topic : String) (now : ℚ) : SubscriptionStat where
  topic := topic
  state := x.state
  configuredHz := x.desiredHz
  receivedHz1min := (∑ b, x.hzBuckets b : Nat) / 60
  dropCount := x.dropCount
  lastSeq := x.lastSeq
  lastMessageAgeMs := if 0 < x.lastMessageAt then trunc ((now - x.lastMessageAt) * 1000) else -1

/-- The buckets with the time of their last use. -/
def counter (x : SubSlot) : (Fin 60 → Nat) × Nat := (x.hzBuckets, x.hzLastEpochMs)

end SubSlot

namespace World

/-- One subscription in the loop of `get_diagnostics`. -/
def diagnoseSub (topic : String) (s : SlotId) (w : World) : SubscriptionStat × World :=
  let w := w.setSlot s fun x => x.slideHzBuckets w.clock.epochMs
  ((w.subs.slots s).stat topic w.clock.steady, w)

/-- The loop of `get_diagnostics` over `_subs.items()`. -/
def diagnoseSubs : List (String × SlotId) → World → List SubscriptionStat × World
  | [], w => ([], w)
  | (topic, s) :: items, w =>
    let (st, w) := w.diagnoseSub topic s
    let (sts, w) := diagnoseSubs items w
    (st :: sts, w)

end World

/-! ### What a slot has recorded -/

namespace SubSlot

variable {x y : SubSlot} {seconds : List Nat} {e : Nat}

/-- The slot has recorded pushes in these seconds. -/
structure Counts (x : SubSlot) (seconds : List Nat) : Prop where
  unused : x.hzLastEpochMs = 0 → seconds = []
  tallies : Tallies x.hzBuckets (x.hzLastEpochMs / 1000) seconds

/-- Only the buckets and the time of their last use matter. -/
theorem Counts.congr (h : Counts x seconds) (hxy : y.counter = x.counter) : Counts y seconds := by
  obtain ⟨hb, he⟩ := Prod.mk.inj hxy
  exact ⟨fun h0 => h.unused (he ▸ h0), by rw [hb, he]; exact h.tallies⟩

/-- A new slot has recorded nothing. -/
theorem Counts.fresh (hb : x.hzBuckets = fun _ => 0) (he : x.hzLastEpochMs = 0) :
    Counts x [] :=
  ⟨fun _ => rfl, by rw [hb, he]; exact Tallies.nil _⟩

/-! ### `_slide_hz_buckets` -/

theorem slideHzBuckets_same (hsec : e / 1000 = x.hzLastEpochMs / 1000)
    (hused : 0 < x.hzLastEpochMs) : x.slideHzBuckets e = x :=
  if_pos ⟨hsec, hused⟩

theorem slideHzBuckets_unused (h : x.hzLastEpochMs = 0) :
    x.slideHzBuckets e = { x with hzLastEpochMs := e } := by
  unfold slideHzBuckets
  rw [if_neg (by omega), if_pos h]

theorem slideHzBuckets_later (hsec : e / 1000 ≠ x.hzLastEpochMs / 1000)
    (hused : 0 < x.hzLastEpochMs) :
    x.slideHzBuckets e
      = { x with
          hzBuckets := Queue.sweep (x.hzLastEpochMs / 1000) (e / 1000) x.hzBuckets
          hzLastEpochMs := e } := by
  unfold slideHzBuckets
  rw [if_neg (by omega), if_neg (by omega)]
  rfl

/-- What `_slide_hz_buckets` does: the time goes on, and the buckets fit the
new second. -/
theorem Counts.slide (h : Counts x seconds) (hle : x.hzLastEpochMs ≤ e) :
    (x.slideHzBuckets e).hzLastEpochMs ≤ e ∧
      Tallies (x.slideHzBuckets e).hzBuckets (e / 1000) seconds := by
  by_cases hused : 0 < x.hzLastEpochMs
  case neg =>
    have h0 : x.hzLastEpochMs = 0 := by omega
    have hb := h.tallies
    rw [h.unused h0] at hb ⊢
    rw [slideHzBuckets_unused h0]
    -- nothing is recorded, so all buckets are empty
    exact ⟨le_rfl, fun _ ht => absurd ht List.not_mem_nil, hb.count⟩
  by_cases hsec : e / 1000 = x.hzLastEpochMs / 1000
  · rw [slideHzBuckets_same hsec hused, hsec]
    exact ⟨hle, h.tallies⟩
  · rw [slideHzBuckets_later hsec hused]
    exact ⟨le_rfl, h.tallies.sweep (Nat.div_le_div_right hle)⟩

/-- The second of the last use is the present one. -/
theorem slideHzBuckets_second (he : 0 < e) :
    0 < (x.slideHzBuckets e).hzLastEpochMs ∧
      (x.slideHzBuckets e).hzLastEpochMs / 1000 = e / 1000 := by
  by_cases hused : 0 < x.hzLastEpochMs
  case neg => exact slideHzBuckets_unused (x := x) (e := e) (by omega) ▸ ⟨he, rfl⟩
  by_cases hsec : e / 1000 = x.hzLastEpochMs / 1000
  · exact (slideHzBuckets_same hsec hused).symm ▸ ⟨hused, hsec.symm⟩
  · exact (slideHzBuckets_later hsec hused).symm ▸ ⟨he, rfl⟩

/-! ### A use of the counter -/

/-- A use of the counter and its wall-clock time: an accepted push, which also
reads the steady clock, or a call of `get_diagnostics`. -/
inductive Use where
  | record (now : ℚ) (epochMs : Nat)
  | query (epochMs : Nat)

def Use.epochMs : Use → Nat
  | .record _ e => e
  | .query e => e

def Use.second (u : Use) : Nat := u.epochMs / 1000

def Use.recorded : Use → Bool
  | .record _ _ => true
  | .query _ => false

def Use.run (x : SubSlot) : Use → SubSlot
  | .record now e => x.recordReceived now e
  | .query e => x.slideHzBuckets e

/-- The seconds of the accepted pushes. -/
def recordedSeconds (uses : List Use) : List Nat := (uses.filter Use.recorded).map Use.second

/-- A use at a time that is not before the last one. -/
theorem Counts.run {u : Use} (h : Counts x seconds) (hle : x.hzLastEpochMs ≤ u.epochMs)
    (hpos : 0 < u.epochMs) :
    (u.run x).hzLastEpochMs ≤ u.epochMs ∧
      Counts (u.run x) (seconds ++ recordedSeconds [u]) := by
  cases u with
  | query e =>
    obtain ⟨hlast, ht⟩ := h.slide hle
    obtain ⟨hused, hsec⟩ := slideHzBuckets_second (x := x) hpos
    refine ⟨hlast, fun h0 => absurd h0 hused.ne', ?_⟩
    show Tallies _ _ (seconds ++ [])
    rw [List.append_nil]
    exact hsec.symm ▸ ht
  | record now e =>
    -- the other counters of the push do not matter to the buckets
    have hcount : Counts
        { x with messagesReceived := x.messagesReceived + 1, lastMessageAt := now } seconds :=
      h.congr rfl
    obtain ⟨hlast, ht⟩ := hcount.slide hle
    obtain ⟨hused, hsec⟩ := slideHzBuckets_second
      (x := { x with messagesReceived := x.messagesReceived + 1, lastMessageAt := now }) hpos
    refine ⟨hlast, fun h0 => absurd h0 hused.ne', ?_⟩
    exact hsec.symm ▸ ht.mark

/-- Any sequence of uses at times that do not decrease. -/
theorem Counts.runs {uses : List Use} (h : Counts x seconds)
    (hle : ∀ u ∈ uses, x.hzLastEpochMs ≤ u.epochMs) (hpos : ∀ u ∈ uses, 0 < u.epochMs)
    (hsorted : uses.Pairwise fun u v => u.epochMs ≤ v.epochMs) :
    Counts (uses.foldl Use.run x) (seconds ++ recordedSeconds uses) ∧
      ∀ e, x.hzLastEpochMs ≤ e → (∀ u ∈ uses, u.epochMs ≤ e) →
        (uses.foldl Use.run x).hzLastEpochMs ≤ e := by
  induction uses generalizing x seconds with
  | nil => exact ⟨by simpa [recordedSeconds] using h, fun e he _ => he⟩
  | cons u uses ih =>
    obtain ⟨hfirst, hrest⟩ := List.pairwise_cons.mp hsorted
    obtain ⟨hlast, hu⟩ := h.run (hle u (List.mem_cons_self ..)) (hpos u (List.mem_cons_self ..))
    obtain ⟨hcounts, hend⟩ := ih hu (fun v hv => hlast.trans (hfirst v hv))
      (fun v hv => hpos v (List.mem_cons_of_mem _ hv)) hrest
    constructor
    · have hsplit : recordedSeconds (u :: uses)
          = recordedSeconds [u] ++ recordedSeconds uses := by
        rw [recordedSeconds, ← List.singleton_append, List.filter_append, List.map_append]
        rfl
      rw [hsplit, ← List.append_assoc]
      exact hcounts
    · intro e he hall
      exact hend e (hlast.trans (hall u (List.mem_cons_self ..)))
        fun v hv => hall v (List.mem_cons_of_mem _ hv)

/-! ### The last minute -/

/-- The accepted pushes of the minute that ends with the second `s`. -/
def lastMinute (uses : List Use) (s : Nat) : Nat :=
  uses.countP fun u => u.recorded && decide (s < u.second + 60 ∧ u.second ≤ s)

theorem countP_recordedSeconds (uses : List Use) (s : Nat) :
    ((recordedSeconds uses).countP fun t => InWindow 60 s t) = lastMinute uses s := by
  rw [recordedSeconds, List.countP_map, List.countP_filter]
  apply List.countP_congr
  intro u _
  simp [InWindow, and_comm]

/-- **The one-minute counter.**  A new slot is used at times that do not
decrease; then, right after `_slide_hz_buckets`, the buckets hold the accepted
pushes of the last sixty seconds, whatever else of the slot has changed. -/
theorem sum_slideHzBuckets (x : SubSlot) (uses : List Use) (e : Nat)
    (hfresh : x.counter = (fun _ => 0, 0)) (hpos : ∀ u ∈ uses, 0 < u.epochMs)
    (hsorted : uses.Pairwise fun u v => u.epochMs ≤ v.epochMs)
    (hnow : ∀ u ∈ uses, u.epochMs ≤ e) (y : SubSlot)
    (hy : y.counter = (uses.foldl Use.run x).counter) :
    ∑ b, (y.slideHzBuckets e).hzBuckets b = lastMinute uses (e / 1000) := by
  obtain ⟨hbuckets, hzero⟩ := Prod.mk.inj hfresh
  obtain ⟨hcounts, hend⟩ := (Counts.fresh hbuckets hzero).runs
    (fun u _ => hzero ▸ Nat.zero_le _) hpos hsorted
  have hlast : (uses.foldl Use.run x).hzLastEpochMs ≤ e := hend e (hzero ▸ Nat.zero_le _) hnow
  have hle : y.hzLastEpochMs ≤ e := (Prod.mk.inj hy).2 ▸ hlast
  rw [((hcounts.congr hy).slide hle).2.sum_eq]
  exact countP_recordedSeconds uses _

/-- A push at second 1, a gap of one minute less a second, a query, and a push at the
second after: the first push has just left the window. -/
theorem sum_slideHzBuckets_gap :
    ∑ b, ((([Use.record 0 1000, .query 60000, .record 60 61000].foldl Use.run
      SubSlot.blank).slideHzBuckets 61000).hzBuckets b) = 1 :=
  sum_slideHzBuckets SubSlot.blank [.record 0 1000, .query 60000, .record 60 61000] 61000 rfl
    (by simp [Use.epochMs]) (by simp [Use.epochMs]) (by simp [Use.epochMs]) _ rfl

end SubSlot

/-! ### The steps of the robot -/

namespace World

variable {s : SlotId} {push : DecodedTopicPush} {w : World}

theorem slot_setSlot (s : SlotId) (f : SubSlot → SubSlot) (w : World) :
    (w.setSlot s f).subs.slots s = f (w.subs.slots s) := Function.update_self ..

theorem handOver_counter :
    ((w.handOver s push).2.subs.slots s).counter = (w.subs.slots s).counter := by
  unfold handOver
  split
  · rfl
  · simp only [setSlot, Function.update_self]
    unfold SubSlot.bufferDispatch
    split <;> rfl

/-- A push that passes the sequence check is one record. -/
theorem acceptPush_counter {lastSeq : Nat} {gap : Option Nat}
    (h : (w.subs.slots s).checkSeq push.seq = .accept lastSeq gap) :
    ((w.acceptPush s push).2.subs.slots s).counter
      = ((SubSlot.Use.record w.clock.steady w.clock.epochMs).run
          { w.subs.slots s with lastSeq := lastSeq }).counter := by
  have hpush (v : World) (o : Obs) : (v.push o).subs.slots s = v.subs.slots s := rfl
  unfold acceptPush
  rw [h]
  dsimp only
  rw [handOver_counter, hpush, slot_setSlot]
  cases gap with
  | none =>
    dsimp only
    rw [slot_setSlot]
    rfl
  | some g =>
    dsimp only
    rw [fireStatus, hpush, slot_setSlot]
    rfl

/-- `get_diagnostics` is one query of the slot, and reports its last minute. -/
theorem diagnoseSub_slot (topic : String) :
    (w.diagnoseSub topic s).2.subs.slots s
        = (SubSlot.Use.query w.clock.epochMs).run (w.subs.slots s) ∧
      (w.diagnoseSub topic s).1.receivedHz1min
        = (∑ b, ((w.subs.slots s).slideHzBuckets w.clock.epochMs).hzBuckets b : Nat) / 60 := by
  refine ⟨slot_setSlot .., ?_⟩
  unfold diagnoseSub
  dsimp only
  rw [slot_setSlot, SubSlot.stat]

end World

end KaroX2
