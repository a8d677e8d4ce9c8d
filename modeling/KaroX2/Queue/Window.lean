/-
KaroX2/Queue/Window.lean

A counter over the last `N` ticks of a clock, kept in `N` buckets.

The bucket of a tick is its remainder modulo `N`.  The buckets of the ticks
that have gone by are emptied only when the counter is next used, for at most
one turn of the ring, so the state is the buckets with the tick of the last
use.

`Tallies` says what the buckets hold: each of them counts the marks of the
window that fall into it.  Using the counter at a later tick keeps that
(`Tallies.sweep`, `Tallies.mark`), and the sum of the buckets is then the
number of marks in the window (`Tallies.sum_eq`).
-/
import Mathlib

namespace KaroX2.Queue

variable {N : Nat} [NeZero N]

/-- Empty the buckets of the ticks after `last` and up to `now`, one turn of the ring
at most. -/
def sweep (last now : Nat) (b : Fin N → Nat) : Fin N → Nat := fun i =>
  if (List.range (min N (now - last))).any fun j => Fin.ofNat N (last + (j + 1)) = i
  then 0 else b i

/-- Count one more mark at `now`. -/
def mark (now : Nat) (b : Fin N → Nat) : Fin N → Nat := fun i =>
  if Fin.ofNat N now = i then b i + 1 else b i

/-- The window of `N` ticks that ends with `now`. -/
def InWindow (N now t : Nat) : Prop := now < t + N ∧ t ≤ now

instance (N now t : Nat) : Decidable (InWindow N now t) :=
  inferInstanceAs (Decidable (_ ∧ _))

/-- Every bucket counts the marks of the window that fall into it. -/
structure Tallies (b : Fin N → Nat) (last : Nat) (marks : List Nat) : Prop where
  past : ∀ t ∈ marks, t ≤ last
  count : ∀ i, b i = marks.countP fun t => InWindow N last t ∧ Fin.ofNat N t = i

/-! ### One bucket -/

section Bucket

variable {last now t : Nat} {i : Fin N}

/-- Two ticks of one bucket, the first before the second, are a turn apart. -/
theorem add_le_of_bucket_eq {t u : Nat} (hlt : t < u) (h : Fin.ofNat N t = Fin.ofNat N u) :
    t + N ≤ u := by
  have hmod : t % N = u % N := congrArg Fin.val h
  have hdvd : N ∣ u - t := (Nat.modEq_iff_dvd' hlt.le).mp hmod
  have hle : N ≤ u - t := Nat.le_of_dvd (Nat.sub_pos_of_lt hlt) hdvd
  omega

theorem bucket_add (t : Nat) : Fin.ofNat N (t + N) = Fin.ofNat N t :=
  Fin.ext (Nat.add_mod_right t N)

/-- The buckets that are emptied. -/
def Swept (last now : Nat) (i : Fin N) : Prop :=
  ∃ u, last < u ∧ u ≤ now ∧ u ≤ last + N ∧ Fin.ofNat N u = i

theorem swept_iff :
    ((List.range (min N (now - last))).any fun j => Fin.ofNat N (last + (j + 1)) = i) = true
      ↔ Swept last now i := by
  simp only [List.any_eq_true, List.mem_range, decide_eq_true_eq]
  constructor
  · rintro ⟨j, hj, rfl⟩
    exact ⟨last + (j + 1), by omega, by omega, by omega, rfl⟩
  · rintro ⟨u, hlast, hnow, hturn, rfl⟩
    refine ⟨u - last - 1, by omega, ?_⟩
    congr 1
    omega

/-- A bucket that is emptied holds no mark of the new window. -/
theorem Swept.outside (h : Swept last now i) (ht : t ≤ last) (hi : Fin.ofNat N t = i) :
    ¬InWindow N now t := by
  obtain ⟨u, hlast, hnow, -, rfl⟩ := h
  have hturn : t + N ≤ u := add_le_of_bucket_eq (by omega) hi
  rintro ⟨hin, -⟩
  omega

/-- A bucket that is left alone loses no mark of the window. -/
theorem inWindow_of_not_swept (h : ¬Swept last now i) (hnow : last ≤ now)
    (ht : InWindow N last t) (hi : Fin.ofNat N t = i) : InWindow N now t := by
  refine ⟨?_, ht.2.trans hnow⟩
  by_contra hout
  apply h
  -- the tick one turn later has gone by
  refine ⟨t + N, ht.1, by omega, by have := ht.2; omega, ?_⟩
  rw [bucket_add, hi]

end Bucket

/-! ### The operations -/

namespace Tallies

variable {b : Fin N → Nat} {last now : Nat} {marks : List Nat}

theorem nil (last : Nat) : Tallies (fun _ : Fin N => 0) last [] :=
  ⟨fun _ h => absurd h List.not_mem_nil, fun _ => rfl⟩

theorem sweep (h : Tallies b last marks) (hnow : last ≤ now) :
    Tallies (sweep last now b) now marks where
  past t ht := (h.past t ht).trans hnow
  count i := by
    unfold Queue.sweep
    split
    case isTrue hs =>
      have hs := swept_iff.mp hs
      symm
      rw [List.countP_eq_zero]
      intro t ht
      simp only [decide_eq_true_eq, not_and]
      intro hin hi
      exact hs.outside (h.past t ht) hi hin
    case isFalse hs =>
      have hs : ¬Swept last now i := fun hs' => hs (swept_iff.mpr hs')
      rw [h.count i]
      apply List.countP_congr
      intro t ht
      simp only [decide_eq_true_eq]
      constructor
      · rintro ⟨hin, hi⟩
        exact ⟨inWindow_of_not_swept hs hnow hin hi, hi⟩
      · rintro ⟨hin, hi⟩
        have hpast := h.past t ht
        exact ⟨⟨by have := hin.1; omega, hpast⟩, hi⟩

theorem mark (h : Tallies b now marks) : Tallies (mark now b) now (marks ++ [now]) where
  past t ht := by
    rcases List.mem_append.mp ht with ht | ht
    · exact h.past t ht
    · exact (List.mem_singleton.mp ht).le
  count i := by
    have hnow : InWindow N now now := ⟨by have := NeZero.pos N; omega, le_rfl⟩
    rw [List.countP_append, ← h.count i, List.countP_singleton]
    by_cases hi : Fin.ofNat N now = i
    · simp only [Queue.mark, hi, hnow, and_self, decide_true, if_true]
    · simp only [Queue.mark, hi, and_false, decide_false, if_false, Bool.false_eq_true, add_zero]

/-- The sum of the buckets is the number of marks in the window. -/
theorem sum_eq (h : Tallies b last marks) :
    ∑ i, b i = marks.countP fun t => InWindow N last t := by
  simp only [h.count]
  clear h
  induction marks with
  | nil => simp
  | cons t marks ih =>
    simp only [List.countP_cons, Finset.sum_add_distrib, ih, decide_eq_true_eq]
    congr 1
    by_cases hin : InWindow N last t
    -- the mark is counted in exactly one bucket
    · simp only [hin, true_and, if_true]
      exact Fintype.sum_ite_eq _ _
    · simp [hin]

end Tallies

end KaroX2.Queue
