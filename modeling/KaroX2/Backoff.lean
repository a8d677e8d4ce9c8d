/-
KaroX2/Backoff.lean

The delay before the next try in closed form.

`_next_backoff_ms` doubles the base delay in a loop that stops early at the
maximum, clips, subtracts a random part and truncates.  Here the loop is the
envelope

    envelope o n = min (base * 2 ^ n) max * 1000

and the random part is a factor `1 - jitter o * u`, so that the value is the
floor of their product (`backoffMs_eq`).  The envelope grows with the number
of tries and stays where it is once it has reached the maximum.
-/
import Mathlib
import KaroX2.System

namespace KaroX2

/-- The options that decide how long to wait make sense together. -/
structure ConnectOptions.Patient (o : ConnectOptions) : Prop where
  base_nonneg : 0 ≤ o.reconnectBaseDelay
  base_le_max : o.reconnectBaseDelay ≤ o.reconnectMaxDelay
  ratio_nonneg : 0 ≤ o.reconnectJitterRatio
  ratio_le_one : o.reconnectJitterRatio ≤ 1

namespace World

variable {o : ConnectOptions}

/-- The delay in milliseconds before the random part is taken off. -/
def envelope (o : ConnectOptions) (n : Nat) : ℚ :=
  min (o.reconnectBaseDelay * 2 ^ n) o.reconnectMaxDelay * 1000

/-- The part of the delay that is random. -/
def jitter (o : ConnectOptions) : ℚ := max (1 / 20) o.reconnectJitterRatio

/-! ### The loop -/

/-- Doubling that stops at `mx` and doubling throughout are clipped to the
same value. -/
theorem min_backoffExp {mx : ℚ} (n : Nat) {exp : ℚ} (h : 0 ≤ exp) :
    min (backoffExp mx n exp) mx = min (exp * 2 ^ n) mx := by
  induction n generalizing exp with
  | zero => simp [backoffExp]
  | succ n ih =>
    rw [backoffExp]
    split
    -- the loop breaks: all later doublings stay above the maximum
    case isTrue hge =>
      have hpow : (1 : ℚ) ≤ 2 ^ (n + 1) := one_le_pow₀ (by norm_num)
      have hle : exp ≤ exp * 2 ^ (n + 1) := le_mul_of_one_le_right h hpow
      rw [min_eq_right hge, min_eq_right (hge.trans hle)]
    case isFalse =>
      rw [ih (by positivity)]
      congr 1
      ring

theorem clip_eq_min (x mx : ℚ) : (if x > mx then mx else x) = min x mx := by
  split
  case isTrue h => exact (min_eq_right h.le).symm
  case isFalse h => exact (min_eq_left (not_lt.mp h)).symm

/-! ### The envelope -/

theorem envelope_nonneg (h : o.Patient) (n : Nat) : 0 ≤ envelope o n := by
  have hmax : 0 ≤ o.reconnectMaxDelay := h.base_nonneg.trans h.base_le_max
  have hbase := h.base_nonneg
  unfold envelope
  positivity

theorem envelope_le_max (o : ConnectOptions) (n : Nat) :
    envelope o n ≤ o.reconnectMaxDelay * 1000 := by
  unfold envelope
  gcongr
  exact min_le_right _ _

theorem envelope_mono (h : o.Patient) : Monotone (envelope o) := by
  intro m n hmn
  have hbase := h.base_nonneg
  unfold envelope
  gcongr
  norm_num

/-- Once at the maximum, the envelope stays there. -/
theorem envelope_settles (h : o.Patient) {m n : Nat}
    (hm : envelope o m = o.reconnectMaxDelay * 1000) (hmn : m ≤ n) :
    envelope o n = o.reconnectMaxDelay * 1000 :=
  le_antisymm (envelope_le_max o n) (hm ▸ envelope_mono h hmn)

/-! ### The random part -/

theorem jitter_nonneg (o : ConnectOptions) : 0 ≤ jitter o := le_max_of_le_left (by norm_num)

theorem jitter_le_one (h : o.Patient) : jitter o ≤ 1 := max_le (by norm_num) h.ratio_le_one

theorem factor_nonneg (h : o.Patient) {u : ℚ} (hu₀ : 0 ≤ u) (hu₁ : u < 1) :
    0 ≤ 1 - jitter o * u := by
  have : jitter o * u ≤ 1 := mul_le_one₀ (jitter_le_one h) hu₀ hu₁.le
  linarith

/-! ### The delay -/

/-- What `_next_backoff_ms` computes before it truncates. -/
theorem backoffMs_eq_toNat (h : o.Patient) (n : Nat) {u : ℚ} (hu₀ : 0 ≤ u) (hu₁ : u < 1) :
    backoffMs o n u = ⌊envelope o n * (1 - jitter o * u)⌋.toNat := by
  have hbase := h.base_nonneg
  have hexp : min (backoffExp (o.reconnectMaxDelay * 1000) n (o.reconnectBaseDelay * 1000))
      (o.reconnectMaxDelay * 1000) = envelope o n := by
    rw [min_backoffExp n (by positivity), envelope, min_mul_of_nonneg _ _ (by norm_num)]
    congr 1
    ring
  have hactual : envelope o n - envelope o n * max (1 / 20) o.reconnectJitterRatio * u
      = envelope o n * (1 - jitter o * u) := by
    rw [jitter]
    ring
  have hnonneg : 0 ≤ envelope o n * (1 - jitter o * u) :=
    mul_nonneg (envelope_nonneg h n) (factor_nonneg h hu₀ hu₁)
  show ((if _ < (0 : ℚ) then (0 : ℚ) else _).floor).toNat = _
  simp only [clip_eq_min, hexp, hactual]
  rw [if_neg (not_lt.mpr hnonneg)]
  rfl

/-- The delay is the floor of the envelope less its random part. -/
theorem backoffMs_eq (h : o.Patient) (n : Nat) {u : ℚ} (hu₀ : 0 ≤ u) (hu₁ : u < 1) :
    (backoffMs o n u : ℤ) = ⌊envelope o n * (1 - jitter o * u)⌋ := by
  rw [backoffMs_eq_toNat h n hu₀ hu₁]
  refine Int.toNat_of_nonneg (Int.floor_nonneg.mpr ?_)
  exact mul_nonneg (envelope_nonneg h n) (factor_nonneg h hu₀ hu₁)

theorem backoffMs_le_max (h : o.Patient) (n : Nat) {u : ℚ} (hu₀ : 0 ≤ u) (hu₁ : u < 1) :
    (backoffMs o n u : ℚ) ≤ o.reconnectMaxDelay * 1000 := by
  have hju : 0 ≤ jitter o * u := mul_nonneg (jitter_nonneg o) hu₀
  calc (backoffMs o n u : ℚ)
      = ((backoffMs o n u : ℤ) : ℚ) := rfl
    _ = (⌊envelope o n * (1 - jitter o * u)⌋ : ℚ) := by rw [backoffMs_eq h n hu₀ hu₁]
    _ ≤ envelope o n * (1 - jitter o * u) := Int.floor_le _
    _ ≤ envelope o n := mul_le_of_le_one_right (envelope_nonneg h n) (by linarith)
    _ ≤ o.reconnectMaxDelay * 1000 := envelope_le_max o n

theorem floor_le_backoffMs (h : o.Patient) (n : Nat) {u : ℚ} (hu₀ : 0 ≤ u) (hu₁ : u < 1) :
    ⌊envelope o n * (1 - jitter o)⌋ ≤ (backoffMs o n u : ℤ) := by
  rw [backoffMs_eq h n hu₀ hu₁]
  apply Int.floor_mono
  apply mul_le_mul_of_nonneg_left _ (envelope_nonneg h n)
  have : jitter o * u ≤ jitter o := mul_le_of_le_one_right (jitter_nonneg o) hu₁.le
  linarith

/-! ### The method -/

/-- Validated options are patient, up to the sign of the base delay, which
`_validate_opts` does not check. -/
theorem patient_of_valid (σ : Setup) (hbase : 0 ≤ σ.opts.reconnectBaseDelay) :
    σ.opts.Patient := by
  have hvalid := σ.valid
  unfold validateOpts at hvalid
  split_ifs at hvalid with _ _ _ _ _ hmax hratio
  all_goals first
    | exact Except.noConfusion hvalid
    | exact ⟨hbase, not_lt.mp hmax, hratio.1, hratio.2⟩

/-- One call of `_next_backoff_ms`, for every number of earlier tries and
every draw: its value in closed form with its bounds, and the course of the
envelope. -/
theorem nextBackoffMs_enveloped (σ : Setup) (w : World) (n : Nat)
    (hbase : 0 ≤ σ.opts.reconnectBaseDelay) :
    ((w.nextBackoffMs σ n).1 : ℤ)
        = ⌊envelope σ.opts n * (1 - jitter σ.opts * σ.random w.draws)⌋ ∧
      (0 : ℤ) ≤ (w.nextBackoffMs σ n).1 ∧
      ((w.nextBackoffMs σ n).1 : ℚ) ≤ σ.opts.reconnectMaxDelay * 1000 ∧
      ⌊envelope σ.opts n * (1 - jitter σ.opts)⌋ ≤ ((w.nextBackoffMs σ n).1 : ℤ) ∧
      Monotone (envelope σ.opts) ∧
      ∀ k, envelope σ.opts k = σ.opts.reconnectMaxDelay * 1000 →
        ∀ m, k ≤ m → envelope σ.opts m = σ.opts.reconnectMaxDelay * 1000 := by
  have h := patient_of_valid σ hbase
  obtain ⟨hu₀, hu₁⟩ := σ.random_mem w.draws
  refine ⟨backoffMs_eq h n hu₀ hu₁, Int.natCast_nonneg _, ?_, ?_, envelope_mono h, ?_⟩
  · exact backoffMs_le_max h n hu₀ hu₁
  · exact floor_le_backoffMs h n hu₀ hu₁
  · intro k hk m hkm
    exact envelope_settles h hk hkm

/-- The sixth try with the default options: half a second has been doubled to sixteen. -/
theorem nextBackoffMs_enveloped_plain :
    0 ≤ Setup.plain.opts.reconnectBaseDelay ∧
      ((World.nextBackoffMs Setup.plain 5 (.init ⟨0, 0⟩)).1 : ℤ)
        = ⌊envelope Setup.plain.opts 5 * (1 - jitter Setup.plain.opts * Setup.plain.random 0)⌋ :=
  have hbase : 0 ≤ Setup.plain.opts.reconnectBaseDelay := by
    show (0 : ℚ) ≤ 1 / 2
    norm_num
  ⟨hbase, (nextBackoffMs_enveloped Setup.plain (.init ⟨0, 0⟩) 5 hbase).1⟩

end World

end KaroX2
