/-
KaroX2/Coop/Answers.lean

How coroutines end, if what they are answered satisfies an assumption.

The assumption may look at the calls that a task is suspended inside of, and at the
world in which the task goes on.  `Coro.Ends A Q` says that the coroutine can only end
in a way that satisfies `Q`; there is a rule for each way to put coroutines together.
-/
import KaroX2.Coop.Coro

namespace KaroX2.Coop

variable {S : Sig} {α β : Type}

/-- An assumption on the answers: inside which calls the task is suspended, on what, the
answer, and the world in which the task goes on. -/
abbrev Answers (S : Sig) := List S.Label → S.Op → Except S.Exn S.Reply → S.World → Prop

/-- Inside the calls `p` and from the world on, the coroutine ends in `Q` if it ends. -/
def Coro.Ends (A : Answers S) (Q : Except S.Exn α → Prop) :
    Coro S α → List S.Label → S.World → Prop
  | ret r, _, _ => Q r
  | get k, p, w => (k w).Ends A Q p w
  | step _ _ w' k, p, _ => k.Ends A Q p w'
  | enter _ _ w' k, p, _ => k.Ends A Q p w'
  | await q op k, p, _ => ∀ r w, A (p ++ q) op r w → (k r).Ends A Q p w

namespace Coro.Ends

variable {A : Answers S} {Q : Except S.Exn α → Prop} {R : Except S.Exn β → Prop}
  {c : Coro S α} {p : List S.Label} {w : S.World} {l : S.Label}

theorem mono {Q' : Except S.Exn α → Prop} (h : ∀ r, Q r → Q' r) (hc : c.Ends A Q p w) :
    c.Ends A Q' p w := by
  induction c generalizing w with
  | ret r => exact h r hc
  | get k ih => exact ih w hc
  | step q q' w' k ih => exact ih hc
  | enter q m w' k ih => exact ih hc
  | await q op k ih =>
    intro r v hr
    exact ih r (hc r v hr)

theorem read_then {k : S.World → Coro S α} (h : (k w).Ends A Q p w) :
    (read >>= k).Ends A Q p w := h

theorem modify_then {f : S.World → S.World} {k : Coro S α} (h : k.Ends A Q p (f w)) :
    (modify f >>= fun _ => k).Ends A Q p w := h

theorem update_then {f : S.World → β × S.World} {k : β → Coro S α}
    (h : (k (f w).1).Ends A Q p (f w).2) : (update f >>= k).Ends A Q p w := h

theorem wait {op : S.Op} {Q : Except S.Exn S.Reply → Prop} (h : ∀ r w, A p op r w → Q r) :
    (Coro.wait op).Ends A Q p w := by
  intro r v hr
  rw [List.append_nil] at hr
  exact h r v hr

/-- What was raised stays raised, and what was returned goes on. -/
theorem bind {f : α → Coro S β} (hc : c.Ends A Q p w) (he : ∀ e, Q (.error e) → R (.error e))
    (hf : ∀ a, Q (.ok a) → ∀ w, (f a).Ends A R p w) : (c >>= f).Ends A R p w := by
  show (c.bind f).Ends A R p w
  induction c generalizing w with
  | ret r =>
    -- at the end of the first coroutine the promise is handed over
    cases r with
    | error e => exact he e hc
    | ok a => exact hf a hc w
  | get k ih => exact ih w hc
  | step q q' w' k ih => exact ih hc
  | enter q m w' k ih => exact ih hc
  | await q op k ih =>
    intro r v hr
    exact ih r (hc r v hr)

theorem attempt (hc : c.Ends A Q p w) :
    c.attempt.Ends A (fun r => ∃ x, r = .ok x ∧ Q x) p w := by
  induction c generalizing w with
  | ret r => exact ⟨r, rfl, hc⟩
  | get k ih => exact ih w hc
  | step q q' w' k ih => exact ih hc
  | enter q m w' k ih => exact ih hc
  | await q op k ih =>
    intro r v hr
    exact ih r (hc r v hr)

/-- The rule of `try`. -/
theorem attempt_then {k : Except S.Exn α → Coro S β} (hc : c.Ends A Q p w)
    (hk : ∀ r, Q r → ∀ w, (k r).Ends A R p w) : (c.attempt >>= k).Ends A R p w := by
  refine hc.attempt.bind ?_ ?_
  · rintro e ⟨x, hx, -⟩
    cases hx
  · rintro a ⟨x, hx, hq⟩
    cases hx
    exact hk a hq

theorem under (hc : c.Ends A Q (p ++ [l]) w) : (c.under l).Ends A Q p w := by
  induction c generalizing w with
  | ret r => exact hc
  | get k ih => exact ih w hc
  | step q q' w' k ih => exact ih hc
  | enter q m w' k ih => exact ih hc
  | await q op k ih =>
    intro r v hr
    -- the label is the outermost one of the part, and comes last in the path of the whole
    refine ih r (hc r v ?_)
    rwa [List.append_assoc, List.singleton_append]

/-- The rule of calls with a first update. -/
theorem scope {f : S.World → S.World} {d : Coro S (α × (S.World → S.World))}
    (hd : d.Ends A (fun r => Q (r.map Prod.fst)) (p ++ [l]) (f w)) :
    (Coro.scope l f d).Ends A Q p w := by
  show Coro.Ends A Q (Coro.within l d >>= _) p (f w)
  refine hd.under.attempt_then fun r hr v => ?_
  cases r with
  | error e => exact hr
  | ok x => exact hr

/-- The rule of calls. -/
theorem call (hc : c.Ends A Q (p ++ [l]) w) : (Coro.call l c).Ends A Q p w := by
  refine scope (hc.bind ?_ ?_)
  · exact fun e he => he
  · exact fun a ha v => ha

/-- The rule of a suspension whose end is looked at. -/
theorem wait_then {op : S.Op} {k : Except S.Exn S.Reply → Coro S α}
    (hk : ∀ r w, A p op r w → (k r).Ends A Q p w) :
    ((Coro.wait op).attempt >>= k).Ends A Q p w := by
  intro r v hr
  rw [List.append_nil] at hr
  exact hk r v hr

theorem when {b : Prop} [Decidable b] {d : Coro S Unit} {Q : Except S.Exn Unit → Prop}
    (h : Q (.ok ())) (hd : d.Ends A Q p w) : (Coro.when b d).Ends A Q p w := by
  unfold Coro.when
  split
  · exact hd
  · exact h

end Coro.Ends

end KaroX2.Coop
