/-
KaroX2/Queue/Ranks.lean

The last elements of a sequence, and their ranks.

A bounded queue that discards its oldest element holds the last `n` elements of what was
put into it (`rtake_append`).

`ranked xs i` is the element that has `i` elements before it in ascending order.  At most
`i` elements are smaller, and all but the first `i + 1` are needed to be larger
(`countP_lt_ranked`, `countP_ranked_lt`).
-/
import Mathlib.Data.List.DropRight
import Mathlib.Order.Lattice

namespace KaroX2.Queue

variable {α : Type} {xs s : List α} {n i j : Nat}

/-! ### The last elements -/

theorem length_rtake : (xs.rtake n).length = min n xs.length := by
  rw [List.rtake, List.length_drop]
  omega

theorem rtake_rtake : (xs.rtake (n + 1)).rtake n = xs.rtake n := by
  simp only [List.rtake, List.length_drop, List.drop_drop]
  congr 1
  omega

/-- An element is put into the queue. -/
theorem rtake_append (x : α) : (xs.rtake n ++ [x]).rtake n = (xs ++ [x]).rtake n := by
  cases n with
  | zero => simp
  | succ n => rw [List.rtake_concat_succ, List.rtake_concat_succ, rtake_rtake]

/-! ### Ranks -/

variable [LinearOrder α]

/-- `sorted(xs)` -/
def ascending (xs : List α) : List α := xs.mergeSort fun a b => decide (a ≤ b)

theorem ascending_perm : (ascending xs).Perm xs := List.mergeSort_perm _ _

@[simp] theorem length_ascending : (ascending xs).length = xs.length := ascending_perm.length_eq

theorem ascending_pairwise : (ascending xs).Pairwise (· ≤ ·) := by
  have hpairwise : (ascending xs).Pairwise fun a b => decide (a ≤ b) = true := by
    apply List.pairwise_mergeSort
    · intro a b c hab hbc
      exact decide_eq_true (le_trans (of_decide_eq_true hab) (of_decide_eq_true hbc))
    · intro a b
      simpa using le_total a b
  exact hpairwise.imp fun h => of_decide_eq_true h

theorem get_mono (h : s.Pairwise (· ≤ ·)) (hi : i < s.length) (hj : j < s.length) (hij : i ≤ j) :
    s[i] ≤ s[j] := by
  rcases Nat.eq_or_lt_of_le hij with rfl | hij
  · exact le_rfl
  · exact List.pairwise_iff_getElem.mp h i j hi hj hij

/-- What comes later in a sorted list is not smaller. -/
theorem countP_lt_get (h : s.Pairwise (· ≤ ·)) (hi : i < s.length) :
    s.countP (· < s[i]) ≤ i := by
  have hlater : (s.drop i).countP (· < s[i]) = 0 := by
    rw [List.countP_eq_zero]
    intro x hx
    obtain ⟨k, hk, rfl⟩ := List.mem_iff_getElem.mp hx
    rw [List.getElem_drop, decide_eq_true_eq, not_lt]
    exact get_mono h hi _ (Nat.le_add_right i k)
  have hfirst : (s.take i).countP (· < s[i]) ≤ (s.take i).length := List.countP_le_length
  rw [List.length_take] at hfirst
  have hsplit := congrArg (List.countP (· < s[i])) (List.take_append_drop i s)
  rw [List.countP_append] at hsplit
  omega

/-- What comes earlier is not larger. -/
theorem countP_get_lt (h : s.Pairwise (· ≤ ·)) (hi : i < s.length) :
    s.countP (s[i] < ·) + i < s.length := by
  have hfirst : (s.take (i + 1)).countP (s[i] < ·) = 0 := by
    rw [List.countP_eq_zero]
    intro x hx
    obtain ⟨k, hk, rfl⟩ := List.mem_iff_getElem.mp hx
    rw [List.length_take] at hk
    rw [List.getElem_take, decide_eq_true_eq, not_lt]
    exact get_mono h _ hi (by omega)
  have hlater : (s.drop (i + 1)).countP (s[i] < ·) ≤ (s.drop (i + 1)).length :=
    List.countP_le_length
  rw [List.length_drop] at hlater
  have hsplit := congrArg (List.countP (s[i] < ·)) (List.take_append_drop (i + 1) s)
  rw [List.countP_append] at hsplit
  omega

/-- The element with `i` elements before it in ascending order. -/
def ranked (xs : List α) (i : Nat) (h : i < xs.length) : α :=
  (ascending xs).get ⟨i, by rwa [length_ascending]⟩

variable (hi : i < xs.length)

include hi

theorem ranked_mem : ranked xs i hi ∈ xs := ascending_perm.mem_iff.mp (List.get_mem _ _)

theorem ranked_mono (hj : j < xs.length) (hij : i ≤ j) : ranked xs i hi ≤ ranked xs j hj :=
  get_mono ascending_pairwise _ _ hij

theorem countP_lt_ranked : xs.countP (· < ranked xs i hi) ≤ i := by
  rw [← ascending_perm.countP_eq]
  exact countP_lt_get ascending_pairwise (by rwa [length_ascending])

theorem countP_ranked_lt : xs.countP (ranked xs i hi < ·) + i < xs.length := by
  rw [← ascending_perm.countP_eq, ← length_ascending]
  exact countP_get_lt ascending_pairwise (by rwa [length_ascending])

end KaroX2.Queue
