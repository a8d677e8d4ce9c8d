/-
KaroX2/Handles.lean

Handles own slots, but they are unsubscribed by topic.

`unsubscribe_request` is called for a handle and works on the slot that is
registered under the handle's topic.  As long as that is the handle's own slot,
or none, no other slot is touched.
-/
import KaroX2.Registry

namespace KaroX2

open Coop Py

variable {σ : Setup} {w w' : World} {x : Running Karo} {h : SlotId}

/-! ### The condition -/

/-- `unsubscribe_request` finds the slot of its handle where it finds one, and an
answer makes it close the slot only if no other one is registered by then. -/
def OwnsSlot (σ : Setup) : Constraint (robot σ)
  | _, _, .enter _ p (.unsubscribing _ s) => ∀ h b, .unsubscribeRequest h b ∈ p → s = h
  | w, _, .resume site r =>
    ∀ topic s, .unsubscribing topic s ∈ site.path → Unsubscribes w site r → w.Yields topic s
  | _, _, _ => True

/-- The slot that is looked up is the one of the handle. -/
def Owned (p : List Label) : Prop :=
  ∀ h b topic s, .unsubscribeRequest h b ∈ p → .unsubscribing topic s ∈ p → s = h

/-- All tasks have looked up their own slots. -/
structure Owning (_ : World) (r : Option (Running Karo)) (o : Multiset (Site Karo)) : Prop where
  running : ∀ x, r = some x → Owned x.path
  suspended : ∀ s ∈ o, Owned s.path

theorem enter_owned {l : Label} {o : Multiset (Site Karo)} (hen : Enters σ x w l w')
    (hst : Stacked x.path) (hx : Owned x.path)
    (ha : OwnsSlot σ w o (.enter x.task x.path l)) : Owned (x.path ++ [l]) := by
  intro h b topic s hh hs
  have hp := enter_stacked hen hst
  generalize he : x.path ++ [l] = p at hp hh hs
  cases hp ⟨_, hs, rfl⟩ with
  | request => simp at hs
  | slot h' b' topic' s' =>
    obtain ⟨hpath, rfl⟩ := append_eq_pair he
    obtain ⟨rfl, rfl⟩ : h = h' ∧ b = b' := by simpa using hh
    obtain ⟨rfl, rfl⟩ : topic = topic' ∧ s = s' := by simpa using hs
    exact ha h b (by simp [hpath])
  | rpc h' b' topic' s' rid ws =>
    obtain ⟨hpath, rfl⟩ := append_eq_triple he
    refine hx h b topic s ?_ ?_
    · rw [hpath]
      simpa using hh
    · rw [hpath]
      simpa using hs

theorem step_owned {q : List Label} (hs : (outline σ).step x q w w') (hx : Owned x.path) :
    Owned q := by
  intro h b topic s hh hm
  have hpre := step_unsubscribing hs hm
  exact hx h b topic s (hpre.mem hh) (hpre.mem hm)

theorem owning_kept :
    Keeps (outline σ) (OwnsSlot σ) (Invariant.and Enrolling (Looking World.Yields)) Owning where
  step := by
    rintro x q w w' o - ⟨hx, hs⟩ h -
    refine ⟨?_, hs⟩
    rintro y ⟨rfl⟩
    exact step_owned h (hx x rfl)
  enter := by
    rintro x l w w' o hk ⟨hx, hs⟩ ha h -
    refine ⟨?_, hs⟩
    rintro y ⟨rfl⟩
    exact enter_owned h (hk.1.running x rfl).1 (hx x rfl) ha
  wait := by
    rintro x op w o - ⟨hx, hs⟩ - -
    refine ⟨by simp, fun s hm => ?_⟩
    rcases Multiset.mem_cons.mp hm with rfl | hm
    · exact hx x rfl
    · exact hs s hm
  resume := by
    rintro s r w o - ⟨-, hs⟩ - - -
    refine ⟨?_, fun y hy => hs y (Multiset.mem_cons_of_mem hy)⟩
    rintro y ⟨rfl⟩
    exact hs s (Multiset.mem_cons_self s o)
  start := by
    rintro t q w o - ⟨-, hs⟩ - - -
    refine ⟨?_, hs⟩
    rintro y ⟨rfl⟩ _ _ _ _ hm
    simp at hm
  finish := by
    rintro x r w o - ⟨-, hs⟩ - -
    exact ⟨by simp, hs⟩
  env := by
    rintro e w w' o - ⟨-, hs⟩ - - -
    exact ⟨by simp, hs⟩

/-- Tasks close what they have looked up, and that is their own. -/
abbrev Isolated : Invariant Karo := Invariant.and (Invariant.and Enrolling (Looking World.Yields)) Owning

theorem isolated_kept : Keeps (outline σ) (OwnsSlot σ) .trivial Isolated := by
  refine ((looked_kept yields_relied).mono fun w o a ha => ?_).and owning_kept
  cases a with
  | resume => exact ha
  | _ => trivial

/-! ### What a handle may change -/

/-- The step is one of `unsubscribe_request` for the handle, or of its finalizer. -/
def OfHandle (h : SlotId) : Action Karo EnvStep → Prop
  | .update _ p => ∃ b, .unsubscribeRequest h b ∈ p
  | .enter _ p l => ∃ b, .unsubscribeRequest h b ∈ p ++ [l]
  | .resume s _ => ∃ b, .unsubscribeRequest h b ∈ s.path
  | .env e => e = .dropHandle h
  | _ => False

/-- States, error codes and registrations of all other slots are as before. -/
structure Spares (h : SlotId) (w w' : World) : Prop where
  state : ∀ s, s ≠ h → (w'.subs.slots s).state = (w.subs.slots s).state
  errorCode : ∀ s, s ≠ h → (w'.subs.slots s).errorCode = (w.subs.slots s).errorCode
  registry : ∀ topic s, s ≠ h →
    (w'.subs.subs.get? topic = some s ↔ w.subs.subs.get? topic = some s)

theorem Same.spares (hw : Same w w') : Spares h w w' :=
  ⟨fun s _ => hw.state s, fun s _ => hw.errorCode s, fun topic s _ => by rw [hw.registry]⟩

theorem Shut.spares {topic : String} (hw : Shut topic h w w') (hy : w.Yields topic h) :
    Spares h w w' where
  state := hw.state
  errorCode := hw.errorCode
  registry := fun topic' s hs => by
    rw [hw.registry, Dict.get?_erase]
    split
    · rename_i he
      -- only the slot of the handle was registered under this topic
      subst he
      simp only [reduceCtorEq, false_iff]
      exact fun hg => hs (hy s hg)
    · rfl

theorem step_spares {q : List Label} {o : Multiset (Site Karo)} {b : Bool}
    (hs : (outline σ).step x q w w') (hk : Isolated w (some x) o)
    (hm : .unsubscribeRequest h b ∈ x.path) : Spares h w w' := by
  have hst := (hk.1.1.running x rfl).1
  have hd := hk.1.2 x rfl
  have hu : UnsubStack x.path := hst ⟨_, hm, rfl⟩
  cases step_alters hs with
  | kept hw => exact hw.spares
  | closes topic s hx hw =>
    cases hx with
    -- the call stack of a handle does not go through an acknowledgement
    | acking q' phase ep hp hx => exact absurd (hu.last hp) (by simp [Label.unsub])
    | unsubscribed h' b' hp hx =>
      have hslot : .unsubscribing topic s ∈ x.path := by simp [hp]
      obtain rfl : s = h := hk.2.running x rfl h b topic s hm hslot
      refine hw.spares ?_
      unfold Due at hd
      rcases hx with hx | ⟨site, r, hx, -, hr⟩
      · rw [hx] at hd
        exact hd topic s hslot
      · rw [hx] at hd
        exact (hd.2 topic s hslot).2 hr
  | activates s phase ep hp => simp [hp] at hm
  | pauses q' hp => exact absurd (hu.last hp) (by simp [Label.unsub])
  | clears hp => simp [hp] at hm

theorem enter_spares {l : Label} {b : Bool} (hen : Enters σ x w l w') (hst : Stacked x.path)
    (hm : .unsubscribeRequest h b ∈ x.path ++ [l]) : Spares h w w' := by
  have hu : UnsubStack (x.path ++ [l]) := enter_stacked hen hst ⟨_, hm, rfl⟩
  have hlast := hu.last rfl
  cases hen.begins with
  | kept hw => exact hw.spares
  | _ => simp [Label.unsub] at hlast

theorem handles_guaranteed : Guarantees (outline σ) (OwnsSlot σ) Isolated
    fun a w w' => ∀ h, OfHandle h a → Spares h w w' where
  refl := fun _ _ _ _ => Same.refl.spares
  step := fun hk _ hs _ ⟨_, hm⟩ => step_spares hs hk hm
  enter := fun hk _ hen _ ⟨_, hm⟩ => enter_spares hen (hk.1.1.running _ rfl).1 hm
  start := fun _ _ _ => start_same.spares
  resume := fun _ _ => resume_same.spares
  finish := fun _ _ _ _ => finish_same.spares
  env := fun he _ _ => (env_same he).spares

/-- The same topic is subscribed twice; the second handle is closed from the start. -/
def subscribedTwice : List (Cmd (robot .plain)) :=
  subscribed ++ [.env (.call (.subscribe "robot.state" ⟨1⟩)), .start 2]

end KaroX2
