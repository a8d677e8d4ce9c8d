/-
KaroX2/Coop/Spin.lean

Tasks that never suspend.

An uninterrupted execution is deterministic, and a coroutine alone always ends or
suspends: its tree is finite.  Only the loops between bodies can go on for ever.
`Spins` says that the running task does; `acc_iff_segment` follows it from one body to
the next.
-/
import KaroX2.Coop.Loop
import Mathlib.Order.WellFounded

namespace KaroX2.Coop

variable {S : Sig} {α β : Type}

/-- The world and the stop of the uninterrupted execution of `c`. -/
def Coro.segment : Coro S α → S.World → S.World × Coro.Stop S α
  | ret r, w => (w, .ended r)
  | get k, w => (k w).segment w
  | step _ _ w' k, _ => k.segment w'
  | enter _ _ w' k, _ => k.segment w'
  | await p op k, w => (w, .waits p op k)

section Segment

variable {w w' : S.World} {c : Coro S α} {a : α}

theorem Coro.segment_read_then {k : S.World → Coro S α} :
    (Coro.read >>= k).segment w = (k w).segment w := rfl

theorem Coro.segment_modify_then {f : S.World → S.World} {k : Unit → Coro S α} :
    (Coro.modify f >>= k).segment w = (k ()).segment (f w) := rfl

theorem Coro.segment_update_then {f : S.World → α × S.World} {k : α → Coro S β} :
    (Coro.update f >>= k).segment w = (k (f w).1).segment (f w).2 := rfl

theorem Coro.segment_bind {f : α → Coro S β} (h : c.segment w = (w', .ended (.ok a))) :
    (c >>= f).segment w = (f a).segment w' := by
  show (c.bind f).segment w = _
  induction c generalizing w with
  | ret r =>
    obtain ⟨rfl, hr⟩ := Prod.mk.inj h
    cases hr
    rfl
  | get k ih => exact ih w h
  | step p q v k ih => exact ih h
  | enter p l v k ih => exact ih h
  | await p op k => cases h

/-- Where a composition has ended, its first part has. -/
theorem Coro.ended_of_bind {f : α → Coro S β} {b : β}
    (h : (c >>= f).segment w = (w', .ended (.ok b))) :
    ∃ v a, c.segment w = (v, .ended (.ok a)) ∧ (f a).segment v = (w', .ended (.ok b)) := by
  replace h : (c.bind f).segment w = (w', .ended (.ok b)) := h
  induction c generalizing w with
  | ret r =>
    cases r with
    | ok a => exact ⟨w, a, rfl, h⟩
    | error e => cases h
  | get k ih => exact ih w h
  | step p q v k ih => exact ih h
  | enter p l v k ih => exact ih h
  | await p op k => cases h

theorem Coro.segment_within {l : S.Label} (h : c.segment w = (w', .ended (.ok a))) :
    (Coro.within l c).segment w = (w', .ended (.ok (.ok a))) := by
  show (c.under l).attempt.segment w = _
  induction c generalizing w with
  | ret r =>
    obtain ⟨rfl, hr⟩ := Prod.mk.inj h
    cases hr
    rfl
  | get k ih => exact ih w h
  | step p q v k ih => exact ih h
  | enter p l v k ih => exact ih h
  | await p op k => cases h

theorem Coro.segment_call {l : S.Label} (h : c.segment w = (w', .ended (.ok a))) :
    (Coro.call l c).segment w = (w', .ended (.ok a)) := by
  have hpair : (c >>= fun b => (pure (b, id) : Coro S (α × (S.World → S.World)))).segment w =
      (w', .ended (.ok (a, id))) := segment_bind h
  show Coro.segment (Coro.within l (c >>= _) >>= _) w = _
  rw [segment_bind (segment_within hpair)]
  rfl

end Segment

/-- A step from `c` to `d`, after which a task is running. -/
def After (sys : Sys S) (d c : Config S) : Prop := d.running.isSome = true ∧ ∃ a, Step sys c a d

/-- The running task goes on for ever, and is never suspended. -/
def Spins (sys : Sys S) (c : Config S) : Prop :=
  ∃ f : Nat → Config S, f 0 = c ∧ ∀ n, After sys (f (n + 1)) (f n)

variable {sys : Sys S} {w w' : S.World} {ws : List (Waiting S)} {t : TaskId}

theorem spins_iff {c : Config S} : Spins sys c ↔ ¬Acc (After sys) c :=
  not_acc_iff_exists_descending_chain.symm

/-- A configuration with one successor. -/
theorem acc_iff_of_unique {c d : Config S} (h : ∀ x, After sys x c ↔ x = d) :
    Acc (After sys) c ↔ Acc (After sys) d := by
  refine ⟨fun hc => hc.inv ((h d).mpr rfl), fun hd => .intro _ fun x hx => ?_⟩
  obtain rfl := (h x).mp hx
  exact hd

theorem acc_of_none {c : Config S} (h : ∀ d, ¬After sys d c) : Acc (After sys) c :=
  .intro _ fun d hd => absurd hd (h d)

/-- A task does not spin if it is suspended or ends, or if the body that it goes on
with does not. -/
theorem acc_iff_segment (k : Coro S (Flow S)) :
    Acc (After sys) ⟨w, ws, some (t, k)⟩ ↔ ∀ v p, k.segment w = (v, .ended (.ok (.next p))) →
      Acc (After sys) ⟨v, ws, some (t, sys.body t p)⟩ := by
  induction k generalizing w with
  | ret r =>
    rcases r with e | p | -
    · refine ⟨fun _ _ _ h => (by cases h), fun _ => acc_of_none ?_⟩
      rintro d ⟨hd, a, hs⟩
      cases hs
      cases hd
    · have hone : ∀ d, After sys d ⟨w, ws, some (t, .ret (.ok (.next p)))⟩ ↔
          d = ⟨w, ws, some (t, sys.body t p)⟩ := by
        refine fun d => ⟨?_, ?_⟩
        · rintro ⟨-, a, hs⟩
          cases hs
          rfl
        · rintro rfl
          exact ⟨rfl, _, .next⟩
      rw [acc_iff_of_unique hone]
      constructor
      · rintro hacc v q h
        cases h
        exact hacc
      · exact fun h => h w p rfl
    · refine ⟨fun _ _ _ h => (by cases h), fun _ => acc_of_none ?_⟩
      rintro d ⟨hd, a, hs⟩
      cases hs
      cases hd
  | get k ih =>
    rw [acc_iff_of_unique (d := ⟨w, ws, some (t, k w)⟩), ih w]
    · rfl
    · refine fun d => ⟨?_, ?_⟩
      · rintro ⟨-, a, hs⟩
        cases hs
        rfl
      · rintro rfl
        exact ⟨rfl, _, .get⟩
  | step p q v k ih =>
    rw [acc_iff_of_unique (d := ⟨v, ws, some (t, k)⟩), ih]
    · rfl
    · refine fun d => ⟨?_, ?_⟩
      · rintro ⟨-, a, hs⟩
        cases hs
        rfl
      · rintro rfl
        exact ⟨rfl, _, .step⟩
  | enter p l v k ih =>
    rw [acc_iff_of_unique (d := ⟨v, ws, some (t, k)⟩), ih]
    · rfl
    · refine fun d => ⟨?_, ?_⟩
      · rintro ⟨-, a, hs⟩
        cases hs
        rfl
      · rintro rfl
        exact ⟨rfl, _, .enter⟩
  | await p op k =>
    refine ⟨fun _ _ _ h => (by cases h), fun _ => acc_of_none ?_⟩
    rintro d ⟨hd, a, hs⟩
    cases hs
    cases hd

/-- From one body to the next. -/
theorem after_of_segment {k : Coro S (Flow S)} {p : S.Proc}
    (h : k.segment w = (w', .ended (.ok (.next p)))) :
    Relation.TransGen (After sys) ⟨w', ws, some (t, sys.body t p)⟩ ⟨w, ws, some (t, k)⟩ := by
  induction k generalizing w with
  | ret r =>
    cases h
    exact .single ⟨rfl, _, .next⟩
  | get k ih => exact (ih w h).tail ⟨rfl, _, .get⟩
  | step p q v k ih => exact (ih h).tail ⟨rfl, _, .step⟩
  | enter p l v k ih => exact (ih h).tail ⟨rfl, _, .enter⟩
  | await p op k => cases h

/-- A task that comes back to where it is spins. -/
theorem spins_of_cycle {c : Config S} (h : Relation.TransGen (After sys) c c) : Spins sys c := by
  rw [spins_iff]
  intro hc
  have hirrefl : ∀ d, Acc (Relation.TransGen (After sys)) d →
      ¬Relation.TransGen (After sys) d d := by
    intro d hd
    induction hd with
    | intro d _ ih => exact fun hdd => ih d hdd hdd
  exact hirrefl c hc.transGen h

end KaroX2.Coop
