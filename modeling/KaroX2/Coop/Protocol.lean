/-
KaroX2/Coop/Protocol.lean

Protocols that a coroutine abides by, whatever happens while it is suspended.

A protocol has stages.  It says which updates of the world are allowed at a stage, on
what a task may be suspended, and to which stage this leads.  Of the world after a
suspension only what the protocol assumes is known, and without an assumption what
`Coro.Abides` says of a coroutine holds in every environment.  There is a rule for each
way to put coroutines together.

A coroutine that stays in one stage is `Steady`: the rules for it need no worlds.
-/
import KaroX2.Coop.Spin

namespace KaroX2.Coop

variable {S : Sig} {γ α β : Type}

/-- The stages of a task. -/
structure Protocol (S : Sig) (γ : Type) where
  /-- the update is allowed at the stage and leads to another -/
  update : γ → S.World → S.World → γ → Prop
  /-- so is the suspension -/
  wait : γ → S.Op → S.World → γ → Prop
  /-- what is assumed of the reply and of the world in which the task goes on -/
  resume : γ → S.Op → Except S.Exn S.Reply → S.World → Prop := fun _ _ _ _ => True

/-- The coroutine abides by the protocol from the stage and the world on, and ends in
the postcondition. -/
def Coro.Abides (P : Protocol S γ) (Q : γ → Except S.Exn α → S.World → Prop) :
    Coro S α → γ → S.World → Prop
  | ret r, g, w => Q g r w
  | get k, g, w => (k w).Abides P Q g w
  | step _ _ w' k, g, w => ∃ g', P.update g w w' g' ∧ k.Abides P Q g' w'
  | enter _ _ w' k, g, w => ∃ g', P.update g w w' g' ∧ k.Abides P Q g' w'
  | await _ op k, g, w => ∃ g', P.wait g op w g' ∧
    ∀ r w', P.resume g' op r w' → (k r).Abides P Q g' w'

namespace Coro

variable {P : Protocol S γ} {g : γ} {w : S.World}

theorem abides_bind {c : Coro S α} {f : α → Coro S β} {Q : γ → Except S.Exn β → S.World → Prop} :
    (c >>= f).Abides P Q g w ↔ c.Abides P (fun g r w => match r with
      | .ok a => (f a).Abides P Q g w
      | .error e => Q g (.error e) w) g w := by
  show (c.bind f).Abides P Q g w ↔ _
  induction c generalizing g w with
  | ret r => cases r <;> rfl
  | get k ih => exact ih w
  | step p q w' k ih => simp only [Coro.bind, Abides, ih]
  | enter p l w' k ih => simp only [Coro.bind, Abides, ih]
  | await p op k ih => simp only [Coro.bind, Abides, ih]

theorem abides_attempt {c : Coro S α} {Q : γ → Except S.Exn (Except S.Exn α) → S.World → Prop} :
    c.attempt.Abides P Q g w ↔ c.Abides P (fun g r => Q g (.ok r)) g w := by
  induction c generalizing g w with
  | ret r => rfl
  | get k ih => exact ih w
  | step p q w' k ih => simp only [attempt, Abides, ih]
  | enter p l w' k ih => simp only [attempt, Abides, ih]
  | await p op k ih => simp only [attempt, Abides, ih]

theorem abides_under {l : S.Label} {c : Coro S α} {Q : γ → Except S.Exn α → S.World → Prop} :
    (c.under l).Abides P Q g w ↔ c.Abides P Q g w := by
  induction c generalizing g w with
  | ret r => rfl
  | get k ih => exact ih w
  | step p q w' k ih => simp only [under, Abides, ih]
  | enter p m w' k ih => simp only [under, Abides, ih]
  | await p op k ih => simp only [under, Abides, ih]

theorem abides_within {l : S.Label} {c : Coro S α}
    {Q : γ → Except S.Exn (Except S.Exn α) → S.World → Prop} :
    (within l c).Abides P Q g w ↔ c.Abides P (fun g r => Q g (.ok r)) g w := by
  rw [within, abides_attempt, abides_under]

theorem abides_mono {c : Coro S α} {Q Q' : γ → Except S.Exn α → S.World → Prop}
    (h : ∀ g r w, Q g r w → Q' g r w) (hc : c.Abides P Q g w) : c.Abides P Q' g w := by
  induction c generalizing g w with
  | ret r => exact h g r w hc
  | get k ih => exact ih w hc
  | step p q w' k ih =>
    obtain ⟨g', hu, hk⟩ := hc
    exact ⟨g', hu, ih hk⟩
  | enter p l w' k ih =>
    obtain ⟨g', hu, hk⟩ := hc
    exact ⟨g', hu, ih hk⟩
  | await p op k ih =>
    obtain ⟨g', hu, hk⟩ := hc
    exact ⟨g', hu, fun r v hv => ih r (hk r v hv)⟩

/-- What is allowed at a stage is done from every stage that allows no less. -/
theorem abides_from {g₀ : γ} {c : Coro S α} {Q : γ → Except S.Exn α → S.World → Prop}
    (hu : ∀ w w' g', P.update g w w' g' → P.update g₀ w w' g')
    (hw : ∀ op w g', P.wait g op w g' → P.wait g₀ op w g') (hQ : ∀ r w, Q g r w → Q g₀ r w)
    (hc : c.Abides P Q g w) : c.Abides P Q g₀ w := by
  induction c generalizing w with
  | ret r => exact hQ r w hc
  | get k ih => exact ih w hc
  | step p q w' k =>
    obtain ⟨g', h, hk⟩ := hc
    exact ⟨g', hu _ _ _ h, hk⟩
  | enter p l w' k =>
    obtain ⟨g', h, hk⟩ := hc
    exact ⟨g', hu _ _ _ h, hk⟩
  | await p op k =>
    obtain ⟨g', h, hk⟩ := hc
    exact ⟨g', hw _ _ _ h, hk⟩

theorem abides_read_then {k : S.World → Coro S α} {Q : γ → Except S.Exn α → S.World → Prop} :
    (read >>= k).Abides P Q g w ↔ (k w).Abides P Q g w := Iff.rfl

theorem abides_modify_then {f : S.World → S.World} {k : Coro S α} {g' : γ}
    {Q : γ → Except S.Exn α → S.World → Prop} (h : P.update g w (f w) g')
    (hk : k.Abides P Q g' (f w)) : (modify f >>= fun _ => k).Abides P Q g w := ⟨g', h, hk⟩

theorem abides_update_then {f : S.World → α × S.World} {k : α → Coro S β} {g' : γ}
    {Q : γ → Except S.Exn β → S.World → Prop} (h : P.update g w (f w).2 g')
    (hk : (k (f w).1).Abides P Q g' (f w).2) : (update f >>= k).Abides P Q g w := ⟨g', h, hk⟩

theorem abides_attempt_then {c : Coro S α} {k : Except S.Exn α → Coro S β}
    {Q : γ → Except S.Exn β → S.World → Prop} :
    (c.attempt >>= k).Abides P Q g w ↔ c.Abides P (fun g r w => (k r).Abides P Q g w) g w := by
  rw [abides_bind, abides_attempt]

theorem abides_modify_iff {f : S.World → S.World} {k : Unit → Coro S α}
    {Q : γ → Except S.Exn α → S.World → Prop} : (modify f >>= k).Abides P Q g w ↔
      ∃ g', P.update g w (f w) g' ∧ (k ()).Abides P Q g' (f w) := Iff.rfl

theorem abides_update_iff {f : S.World → α × S.World} {k : α → Coro S β}
    {Q : γ → Except S.Exn β → S.World → Prop} : (update f >>= k).Abides P Q g w ↔
      ∃ g', P.update g w (f w).2 g' ∧ (k (f w).1).Abides P Q g' (f w).2 := Iff.rfl

/-- The rule of calls with a first and a last update. -/
theorem abides_scope {l : S.Label} {f : S.World → S.World} {c : Coro S (α × (S.World → S.World))}
    {Q : γ → Except S.Exn α → S.World → Prop} : (scope l f c).Abides P Q g w ↔
      ∃ g', P.update g w (f w) g' ∧ c.Abides P (fun g r w => match r with
        | .ok x => ∃ g', P.update g w (x.2 w) g' ∧ Q g' (.ok x.1) (x.2 w)
        | .error e => ∃ g', P.update g w w g' ∧ Q g' (.error e) w) g' (f w) := by
  show (∃ g', P.update g w (f w) g' ∧ (within l c >>= _).Abides P Q g' (f w)) ↔ _
  simp only [abides_bind, abides_within]
  refine exists_congr fun g' => and_congr_right fun _ => ⟨abides_mono ?_, abides_mono ?_⟩
  · rintro g'' (e | a) v hr
    · exact hr
    · exact hr
  · rintro g'' (e | a) v hr
    · exact hr
    · exact hr

theorem abides_call_iff {l : S.Label} {c : Coro S α} {Q : γ → Except S.Exn α → S.World → Prop} :
    (call l c).Abides P Q g w ↔ ∃ g', P.update g w w g' ∧
      c.Abides P (fun g r w => ∃ g', P.update g w w g' ∧ Q g' r w) g' w := by
  refine abides_scope.trans (exists_congr fun g' => and_congr_right fun _ => ?_)
  rw [abides_bind]
  refine ⟨abides_mono ?_, abides_mono ?_⟩
  · rintro g'' (e | a) v hr
    · exact hr
    · exact hr
  · rintro g'' (e | a) v hr
    · exact hr
    · exact hr

/-- The rule of calls. -/
theorem abides_call {l : S.Label} {c : Coro S α} {Q : γ → Except S.Exn α → S.World → Prop}
    (hid : ∀ g w, P.update g w w g) (hc : c.Abides P Q g w) : (call l c).Abides P Q g w :=
  abides_call_iff.mpr ⟨g, hid g w, abides_mono (fun g' _ v hr => ⟨g', hid g' v, hr⟩) hc⟩

/-- The updates of the uninterrupted execution are those of the protocol. -/
theorem abides_segment {c : Coro S α} {Q : γ → Except S.Exn α → S.World → Prop}
    (h : c.Abides P Q g w) : ∃ g', Relation.ReflTransGen
      (fun x y : γ × S.World => P.update x.1 x.2 y.2 y.1) (g, w) (g', (c.segment w).1) ∧
      (∀ r, (c.segment w).2 = .ended r → Q g' r (c.segment w).1) ∧
      ∀ p op k, (c.segment w).2 = .waits p op k → ∃ g'', P.wait g' op (c.segment w).1 g'' := by
  induction c generalizing g w with
  | ret r =>
    refine ⟨g, .refl, fun r' hr => ?_, fun p op k hw => by cases hw⟩
    cases hr
    exact h
  | get k ih => exact ih w h
  | step p q w' k ih =>
    obtain ⟨g', hu, hk⟩ := h
    obtain ⟨g'', hrun, hends⟩ := ih hk
    exact ⟨g'', .head hu hrun, hends⟩
  | enter p l w' k ih =>
    obtain ⟨g', hu, hk⟩ := h
    obtain ⟨g'', hrun, hends⟩ := ih hk
    exact ⟨g'', .head hu hrun, hends⟩
  -- the execution stops here; what comes after the wait is not part of it
  | await p op k ih =>
    obtain ⟨g', hw, -⟩ := h
    refine ⟨g, .refl, fun r hr => (by cases hr), fun p' op' k' hw' => ?_⟩
    cases hw'
    exact ⟨g', hw⟩

/-- The coroutine stays at the stage in every world, and its result satisfies `Q`. -/
def Steady (P : Protocol S γ) (g : γ) (Q : α → Prop) (c : Coro S α) : Prop :=
  ∀ w, c.Abides P (fun g' r _ => g' = g ∧ ∀ a, r = .ok a → Q a) g w

namespace Steady

variable {Q : α → Prop} {R : β → Prop} {c : Coro S α}

theorem mono {Q' : α → Prop} (h : ∀ a, Q a → Q' a) (hc : c.Steady P g Q) : c.Steady P g Q' :=
  fun w => abides_mono (fun _ _ _ hr => ⟨hr.1, fun a ha => h a (hr.2 a ha)⟩) (hc w)

/-- From a protocol of one stage to a stage of another that allows at least as much. -/
theorem through {P : Protocol S Unit} {P' : Protocol S γ} (hu : ∀ w w', P.update () w w' () →
    P'.update g w w' g) (hw : ∀ op w, P.wait () op w () → P'.wait g op w g)
    (hr : ∀ op r w, P'.resume g op r w → P.resume () op r w) (hc : c.Steady P () Q) :
    c.Steady P' g Q := by
  intro w
  replace hc := hc w
  induction c generalizing w with
  | ret r => exact ⟨rfl, hc.2⟩
  | get k ih => exact ih w w hc
  | step p q w' k ih =>
    obtain ⟨_, hstep, hk⟩ := hc
    exact ⟨g, hu w w' hstep, ih w' hk⟩
  | enter p l w' k ih =>
    obtain ⟨_, hstep, hk⟩ := hc
    exact ⟨g, hu w w' hstep, ih w' hk⟩
  | await p op k ih =>
    obtain ⟨_, hwait, hk⟩ := hc
    exact ⟨g, hw op w hwait, fun r v hv => ih r v (hk r v (hr op r v hv))⟩

theorem pure {a : α} (h : Q a) : (Pure.pure a : Coro S α).Steady P g Q :=
  fun _ => ⟨rfl, fun _ hb => Except.ok.inj hb ▸ h⟩

theorem raise {e : S.Exn} : (Coro.raise e : Coro S α).Steady P g Q :=
  fun _ => ⟨rfl, fun _ hb => by cases hb⟩

theorem read {k : S.World → Coro S α} (h : ∀ w, (k w).Steady P g Q) :
    (Coro.read >>= k).Steady P g Q := fun w => h w w

theorem bind {f : α → Coro S β} (hc : c.Steady P g Q) (hf : ∀ a, Q a → (f a).Steady P g R) :
    (c >>= f).Steady P g R := by
  intro w
  rw [abides_bind]
  refine abides_mono ?_ (hc w)
  rintro g' (e | a) v ⟨rfl, hr⟩
  · exact ⟨rfl, fun _ hb => by cases hb⟩
  · exact hf a (hr a rfl) v

/-- The result of the first coroutine does not matter. -/
theorem andThen {f : α → Coro S β} (hc : c.Steady P g fun _ => True)
    (hf : ∀ a, (f a).Steady P g R) : (c >>= f).Steady P g R := hc.bind fun a _ => hf a

theorem attempt (hc : c.Steady P g Q) : c.attempt.Steady P g fun r => ∀ a, r = .ok a → Q a := by
  intro w
  rw [abides_attempt]
  exact abides_mono (fun _ _ _ hr => ⟨hr.1, fun _ hb => Except.ok.inj hb ▸ hr.2⟩) (hc w)

theorem within {l : S.Label} (hc : c.Steady P g Q) :
    (Coro.within l c).Steady P g fun r => ∀ a, r = .ok a → Q a := by
  intro w
  rw [abides_within]
  exact abides_mono (fun _ _ _ hr => ⟨hr.1, fun _ hb => Except.ok.inj hb ▸ hr.2⟩) (hc w)

theorem when {b : Prop} [Decidable b] {c : Coro S Unit} (hc : c.Steady P g fun _ => True) :
    (Coro.when b c).Steady P g fun _ => True := by
  unfold Coro.when
  split
  · exact hc
  · exact pure trivial

theorem map {f : α → β} (hc : c.Steady P g fun a => R (f a)) : (f <$> c).Steady P g R :=
  hc.bind fun _ ha => pure ha

section Updates

variable {f : S.World → S.World} {l m : S.Label}

theorem modify (h : ∀ w, P.update g w (f w) g) : (Coro.modify f).Steady P g fun _ => True :=
  fun w => ⟨g, h w, rfl, fun _ _ => trivial⟩

theorem update {f : S.World → α × S.World} (h : ∀ w, P.update g w (f w).2 g) :
    (Coro.update f).Steady P g fun _ => True :=
  fun w => ⟨g, h w, rfl, fun _ _ => trivial⟩

theorem enterBy (h : ∀ w, P.update g w (f w) g) : (Coro.enterBy l f).Steady P g fun _ => True :=
  fun w => ⟨g, h w, rfl, fun _ _ => trivial⟩

theorem leaveBy (h : ∀ w, P.update g w (f w) g) : (Coro.leaveBy l f).Steady P g fun _ => True :=
  fun w => ⟨g, h w, rfl, fun _ _ => trivial⟩

theorem become (h : ∀ w, P.update g w (f w) g) : (Coro.become l m f).Steady P g fun _ => True :=
  fun w => ⟨g, h w, rfl, fun _ _ => trivial⟩

theorem wait {op : S.Op} (h : ∀ w, P.wait g op w g) : (Coro.wait op).Steady P g fun _ => True :=
  fun w => ⟨g, h w, fun _ _ _ => ⟨rfl, fun _ _ => trivial⟩⟩

variable (hid : ∀ w, P.update g w w g)

include hid

theorem scope {c : Coro S (α × (S.World → S.World))} (hf : ∀ w, P.update g w (f w) g)
    (hc : c.Steady P g fun x => Q x.1 ∧ ∀ w, P.update g w (x.2 w) g) :
    (Coro.scope l f c).Steady P g Q := by
  refine (enterBy hf).andThen fun _ => hc.within.bind ?_
  rintro (e | ⟨a, u⟩) hr
  · exact (leaveBy hid).andThen fun _ => raise
  -- the last update is part of the result, so the promise about it comes with the result
  · exact (leaveBy (hr _ rfl).2).andThen fun _ => pure (hr _ rfl).1

theorem call (hc : c.Steady P g Q) : (Coro.call l c).Steady P g Q :=
  scope hid hid (hc.bind fun _ ha => pure ⟨ha, hid⟩)

theorem rounds {lab : List β → S.Label} {last : S.World → S.World} {c : β → Coro S Unit}
    (hlast : ∀ w, P.update g w (last w) g) (hc : ∀ b, (c b).Steady P g fun _ => True)
    (bs : List β) : (Coro.rounds lab last c bs).Steady P g fun _ => True := by
  induction bs with
  | nil => exact leaveBy hlast
  | cons b bs ih =>
    refine (hc b).within.bind ?_
    rintro (e | _) -
    · exact (leaveBy hid).andThen fun _ => raise
    · exact (become hid).andThen fun _ => ih

end Updates

end Steady

end Coro

end KaroX2.Coop
