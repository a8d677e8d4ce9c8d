/-
KaroX2/RateLimit.lean

The token bucket of `cmd_vel` is a minimum spacing.

With a burst of 1 the bucket is full when `1 / max_hz` has passed since the last
accepted call, whatever was rejected in between: every call refills and clamps it, and
`Filled` says that this loses nothing.  What is spaced is bounded in every window.
-/
import KaroX2.State
import Mathlib.Algebra.Order.Field.Rat
import Mathlib.Tactic.Linarith

namespace KaroX2

/-! ### Spaced times -/

/-- Times that are `d` apart fit into a window `[x, y]` in a bounded number. -/
theorem spaced_fit {d y : ℚ} {l : List ℚ} (hl : l.Pairwise fun a b => a + d ≤ b) :
    ∀ x, (∀ a ∈ l, x ≤ a ∧ a ≤ y) → l ≠ [] → x + ((l.length : ℚ) - 1) * d ≤ y := by
  induction l with
  | nil => exact fun _ _ h => absurd rfl h
  | cons a l ih =>
    intro x hw _
    obtain ⟨hx, hy⟩ := hw a List.mem_cons_self
    obtain ⟨ha, hl⟩ := List.pairwise_cons.mp hl
    rcases eq_or_ne l [] with rfl | hne
    · simp only [List.length_singleton, Nat.cast_one, sub_self, zero_mul, add_zero]
      exact hx.trans hy
    · have h := ih hl (a + d) (fun b hb => ⟨ha b hb, (hw b (List.mem_cons_of_mem _ hb)).2⟩) hne
      simp only [List.length_cons, Nat.cast_add, Nat.cast_one]
      linarith

/-- At most `1 + hz * T` times that are `1 / hz` apart lie in a window of length `T`. -/
theorem spaced_window {hz x T : ℚ} (hhz : 0 < hz) (hT : 0 ≤ T) {l : List ℚ}
    (hl : l.Pairwise fun a b => a + 1 / hz ≤ b) :
    ((l.filter fun a => x ≤ a ∧ a ≤ x + T).length : ℚ) ≤ 1 + hz * T := by
  rcases eq_or_ne (l.filter fun a => x ≤ a ∧ a ≤ x + T) [] with h | h
  · rw [h, List.length_nil, Nat.cast_zero]
    have := mul_nonneg hhz.le hT
    linarith
  -- the times in the window are apart themselves, so they fit into it only if they are few
  · have hw : ∀ a ∈ l.filter fun a => x ≤ a ∧ a ≤ x + T, x ≤ a ∧ a ≤ x + T :=
      fun a ha => of_decide_eq_true (List.mem_filter.mp ha).2
    have hfit := spaced_fit (hl.filter _) x hw h
    generalize (l.filter fun a => x ≤ a ∧ a ≤ x + T).length = n at hfit ⊢
    have hmul : ((n : ℚ) - 1) * (1 / hz) ≤ T := by linarith
    rw [mul_one_div, div_le_iff₀ hhz] at hmul
    linarith

/-! ### The bucket -/

/-- The calls of `try_acquire` at the given times, one after the other. -/
def acquireAll : TokenBucket → List ℚ → List Bool
  | _, [] => []
  | b, t :: ts => (World.tryAcquire t b).1 :: acquireAll (World.tryAcquire t b).2 ts

/-- The rule that the bucket implements: a call is accepted if none was before, or if
`1 / hz` has passed since the last one that was. -/
def spacing (hz : ℚ) : Option ℚ → List ℚ → List Bool
  | _, [] => []
  | none, t :: ts => true :: spacing hz (some t) ts
  | some a, t :: ts =>
    if 1 / hz ≤ t - a then true :: spacing hz (some t) ts else false :: spacing hz (some a) ts

/-- The times of the calls that were accepted. -/
def acceptedAt (ts : List ℚ) (oks : List Bool) : List ℚ :=
  ((ts.zip oks).filter Prod.snd).map Prod.fst

/-- What has come in since the last accepted call, up to the burst. -/
def level (hz : ℚ) (accepted : Option ℚ) (now : ℚ) : ℚ :=
  match accepted with
  | none => 1
  | some a => min 1 ((now - a) * hz)

/-- The bucket holds what has come in since the last accepted call. -/
structure Filled (hz : ℚ) (accepted : Option ℚ) (b : TokenBucket) : Prop where
  maxHz : b.maxHz = hz
  burst : b.burst = 1
  tokens : b.tokens = level hz accepted b.last
  before : ∀ a, accepted = some a → a ≤ b.last

variable {hz now : ℚ} {accepted : Option ℚ} {b : TokenBucket}

/-- A refill loses nothing to an earlier clamp. -/
theorem min_add_min {x y : ℚ} (hy : 0 ≤ y) : min 1 (min 1 x + y) = min 1 (x + y) := by
  rcases le_total 1 x with h | h
  -- the bucket is full before the refill, or the clamp did nothing
  · rw [min_eq_left h, min_eq_left (by linarith), min_eq_left (by linarith)]
  · rw [min_eq_right h]

/-- The bucket after a refill. -/
theorem Filled.refilled (h : Filled hz accepted b) (hhz : 0 < hz) (hnow : b.last ≤ now) :
    min b.burst (b.tokens + (now - b.last) * b.maxHz) = level hz accepted now := by
  have hin : 0 ≤ (now - b.last) * hz := mul_nonneg (by linarith) hhz.le
  rw [h.burst, h.tokens, h.maxHz]
  cases accepted with
  | none => exact min_eq_left (show (1 : ℚ) ≤ 1 + (now - b.last) * hz by linarith)
  | some a =>
    rw [level, min_add_min hin, ← add_mul, level]
    congr 2
    linarith

/-- A call is accepted if none was before, or if `1 / hz` has passed. -/
theorem Filled.accepts_iff (h : Filled hz accepted b) (hhz : 0 < hz) (hnow : b.last ≤ now) :
    (World.tryAcquire now b).1 = true ↔ ∀ a, accepted = some a → 1 / hz ≤ now - a := by
  have hfill := h.refilled hhz hnow
  have hcond : (World.tryAcquire now b).1 = true ↔
      min b.burst (b.tokens + (now - b.last) * b.maxHz) ≥ 1 := by
    unfold World.tryAcquire
    dsimp only
    split <;> simp_all
  rw [hcond, hfill]
  cases accepted with
  -- a fresh bucket holds one token
  | none => simp [level]
  | some a =>
    simp only [level, ge_iff_le, le_min_iff, le_refl, true_and, Option.some.injEq, forall_eq',
      div_le_iff₀ hhz]

theorem Filled.onAccept (h : Filled hz accepted b) (hhz : 0 < hz) (hnow : b.last ≤ now)
    (hok : (World.tryAcquire now b).1 = true) : Filled hz (some now) (World.tryAcquire now b).2 := by
  have hfill := h.refilled hhz hnow
  unfold World.tryAcquire at hok ⊢
  dsimp only at hok ⊢
  split at hok
  · rename_i hge
    rw [if_pos hge]
    have hle : min b.burst (b.tokens + (now - b.last) * b.maxHz) ≤ 1 :=
      (min_le_left _ _).trans h.burst.le
    -- it takes the one token there is, so nothing is left
    have hone := le_antisymm hle hge
    refine ⟨h.maxHz, h.burst, ?_, fun a ha => (Option.some.inj ha).ge⟩
    simp [hone, level]
  · cases hok

theorem Filled.onReject (h : Filled hz accepted b) (hhz : 0 < hz) (hnow : b.last ≤ now)
    (hok : (World.tryAcquire now b).1 = false) :
    Filled hz accepted (World.tryAcquire now b).2 := by
  have hfill := h.refilled hhz hnow
  unfold World.tryAcquire at hok ⊢
  dsimp only at hok ⊢
  split at hok
  · cases hok
  · rename_i hlt
    rw [if_neg hlt]
    exact ⟨h.maxHz, h.burst, hfill, fun a ha => (h.before a ha).trans hnow⟩

theorem tryAcquire_last : (World.tryAcquire now b).2.last = now := by
  unfold World.tryAcquire
  dsimp only
  split <;> rfl

theorem Filled.init {t₀ : ℚ} : Filled hz none ⟨hz, 1, 1, t₀⟩ := ⟨rfl, rfl, rfl, nofun⟩

/-- The bucket accepts what the spacing accepts. -/
theorem acquireAll_eq (hhz : 0 < hz) {ts : List ℚ} (h : Filled hz accepted b)
    (hts : (b.last :: ts).Pairwise (· ≤ ·)) : acquireAll b ts = spacing hz accepted ts := by
  -- the invariant is `Filled`: the bucket after each call is the one of its last acceptance
  induction ts generalizing accepted b with
  | nil => rfl
  | cons t ts ih =>
    obtain ⟨hb, hts⟩ := List.pairwise_cons.mp hts
    have ht : b.last ≤ t := hb t List.mem_cons_self
    have hrest : ((World.tryAcquire t b).2.last :: ts).Pairwise (· ≤ ·) := by
      rw [tryAcquire_last]
      exact hts
    have hiff := h.accepts_iff hhz ht
    rw [acquireAll]
    cases hok : (World.tryAcquire t b).1 with
    | true =>
      rw [ih (h.onAccept hhz ht hok) hrest]
      cases accepted with
      | none => rfl
      | some a => rw [spacing, if_pos (hiff.mp hok a rfl)]
    | false =>
      rw [ih (h.onReject hhz ht hok) hrest]
      have hno : ¬∀ a, accepted = some a → 1 / hz ≤ t - a := by
        rw [← hiff, hok]
        exact Bool.false_ne_true
      cases accepted with
      | none => exact absurd (fun _ ha => by cases ha) hno
      | some a =>
        rw [spacing, if_neg]
        exact fun hle => hno fun a' ha => Option.some.inj ha ▸ hle

/-- What the spacing accepts is spaced. -/
theorem spacing_spaced (hhz : 0 < hz) (ts : List ℚ) (accepted : Option ℚ) :
    (acceptedAt ts (spacing hz accepted ts)).Pairwise (fun a b => a + 1 / hz ≤ b) ∧
      ∀ a, accepted = some a → ∀ b ∈ acceptedAt ts (spacing hz accepted ts), a + 1 / hz ≤ b := by
  have hpos : 0 ≤ 1 / hz := (one_div_pos.mpr hhz).le
  induction ts generalizing accepted with
  | nil => cases accepted <;> exact ⟨.nil, fun _ _ b hb => absurd hb List.not_mem_nil⟩
  | cons t ts ih =>
    obtain ⟨hnew, hfirst⟩ := ih (some t)
    have hcons : (t :: acceptedAt ts (spacing hz (some t) ts)).Pairwise fun a b => a + 1 / hz ≤ b :=
      List.pairwise_cons.mpr ⟨hfirst t rfl, hnew⟩
    cases accepted with
    | none => exact ⟨hcons, fun _ ha => by cases ha⟩
    | some a =>
      rw [spacing]
      split
      · rename_i hle
        refine ⟨hcons, fun a' ha b hb => ?_⟩
        obtain rfl := Option.some.inj ha
        rcases List.mem_cons.mp (show b ∈ t :: acceptedAt ts _ from hb) with rfl | hb
        · linarith
        · have := hfirst t rfl b hb
          linarith
      · exact ih (some a)

end KaroX2
