/-
KaroX2/Registry.lean

The registry `_subs` and the slots: a slot is registered exactly as long as it is
not closed, and a closed slot stays closed.

The code looks slots up by their topics, and goes on with what it has found after
its suspensions: the loop of `_establish` with a snapshot of the registry, and
`unsubscribe_request` with a topic that may be another slot's by then.
`ConsultsRegistry` says that neither happens.
-/
import KaroX2.Lookup

namespace KaroX2

open Coop Py

variable {σ : Setup} {w w' : World} {x : Running Karo}

/-! ### Consistency -/

/-- The slots that are not closed are registered. -/
def Consistent (w : World) : Prop :=
  ∀ s < w.subs.slotCount, (w.subs.slots s).state ≠ .closed →
    w.subs.subs.get? (w.subs.slots s).topic = some s

namespace Consistent

theorem same (h : Consistent w) (hw : Same w w') (ht : KeepsTopics w w') : Consistent w' := by
  intro s hlt hs
  rw [hw.slotCount] at hlt
  rw [hw.state] at hs
  rw [hw.registry, ht s hlt]
  exact h s hlt hs

theorem paused (h : Consistent w) (hw : Paused w w') (ht : KeepsTopics w w') : Consistent w' := by
  intro s hlt hs
  rw [hw.slotCount] at hlt
  rw [hw.registry, ht s hlt]
  refine h s hlt ?_
  rcases hw.state s with he | ⟨-, hn⟩
  · rwa [he] at hs
  · exact hn

theorem opened {s : SlotId} (h : Consistent w) (he : Enrolled w) (hw : Opened s w w')
    (ht : KeepsTopics w w') (hs : ∃ topic, w.subs.subs.get? topic = some s) : Consistent w' := by
  intro u hlt hu
  rw [hw.slotCount] at hlt
  rw [hw.registry, ht u hlt]
  rcases eq_or_ne u s with rfl | hne
  · obtain ⟨topic, hs⟩ := hs
    rw [(he topic u hs).2.1]
    exact hs
  · rw [hw.state u hne] at hu
    exact h u hlt hu

theorem shut {topic : String} {s : SlotId} (h : Consistent w) (hw : Shut topic s w w')
    (ht : KeepsTopics w w') (hs : w.Yields topic s) : Consistent w' := by
  intro u hlt hu
  rw [hw.slotCount] at hlt
  have hus : u ≠ s := by
    rintro rfl
    exact hu hw.closed
  rw [hw.state u hus] at hu
  have hlive := h u hlt hu
  have hne : (w.subs.slots u).topic ≠ topic := by
    rintro he
    exact hus (hs u (he ▸ hlive))
  rw [hw.registry, ht u hlt, Dict.get?_erase_ne hne]
  exact hlive

theorem cleared (h : Consistent w) (hw : Cleared w w') : Consistent w' := by
  intro s hlt hs
  rw [hw.slotCount] at hlt
  have he := (hw.state s).resolve_left hs
  exact absurd (hw.closed _ s (h s hlt (he ▸ hs))) hs

theorem created {topic : String} (h : Consistent w) (hw : Created topic w.subs.slotCount w w') :
    Consistent w' := by
  intro s hlt hs
  rw [hw.slotCount] at hlt
  rcases Nat.lt_succ_iff_lt_or_eq.mp hlt with hlt | rfl
  · rw [hw.other s (Nat.ne_of_lt hlt)] at hs ⊢
    have hlive := h s hlt hs
    rw [hw.registry]
    split
    · exact hlive
    -- the new slot takes a free topic, so no live slot loses its own
    · rename_i hfree
      rw [Dict.get?_insert_ne, hlive]
      rintro rfl
      rw [Dict.has_eq_isSome, hlive] at hfree
      exact hfree rfl
  · have hfree : ¬w.subs.subs.has topic = true := fun ht => hs (hw.closed.mpr ht)
    rw [hw.registry, if_neg hfree, hw.named, Dict.get?_insert_self]

end Consistent

/-! ### The condition -/

/-- The code goes on with a slot that it has looked up before only as long as the
slot is the registered one: a subscribe request is recorded for a registered slot,
and a slot is closed when no other slot is registered under its topic. -/
def ConsultsRegistry (σ : Setup) : Constraint (robot σ)
  | w, _, .enter _ _ (.subscribing s _) => w.subs.subs.get? (w.subs.slots s).topic = some s
  | w, _, .enter _ _ (.unsendable s) => w.Yields (w.subs.slots s).topic s
  | w, _, .resume site r =>
    ∀ topic s, .unsubscribing topic s ∈ site.path → Unsubscribes w site r → w.Yields topic s
  | _, _, _ => True

/-! ### The invariant -/

/-- A step keeps slots and registry consistent. -/
theorem Alters.consistent (h : Alters x w w') (hw : Consistent w) (he : Enrolled w)
    (ht : KeepsTopics w w') (hd : Due World.Yields w x) : Consistent w' := by
  cases h with
  | kept h => exact hw.same h ht
  | closes topic s hx h =>
    refine hw.shut h ht ?_
    cases hx with
    -- the slot has just been found in the registry, or it may be closed by what was found before
    | acking q phase ep hp hx hs => exact fun u hu => Option.some.inj (hu.symm.trans hs)
    | unsubscribed handle b hp hx =>
      have hm : .unsubscribing topic s ∈ x.path := by simp [hp]
      unfold Due at hd
      rcases hx with hx | ⟨site, r, hx, -, hu⟩
      · rw [hx] at hd
        exact hd topic s hm
      · rw [hx] at hd
        exact (hd.2 topic s hm).2 hu
  | activates s phase ep hp hs h => exact hw.opened he h ht hs
  | pauses q hp h => exact hw.paused h ht
  | clears hp h => exact hw.cleared h

/-- The begin of a call keeps slots and registry consistent. -/
theorem Begins.consistent {l : Label} {o : Multiset (Site Karo)} (h : Begins x w w' l)
    (hw : Consistent w) (he : Enrolled w) (ht : KeepsTopics w w')
    (ha : ConsultsRegistry σ w o (.enter x.task x.path l)) : Consistent w' := by
  cases h with
  | kept h => exact hw.same h ht
  | closes q s hp h => exact hw.shut h ht ha
  | registers q s rid hp h => exact hw.opened he h ht ⟨_, ha⟩
  | clears hp h => exact hw.cleared h
  | subscribes topic hp h => exact hw.created h

theorem consistent_kept : Keeps (outline σ) (ConsultsRegistry σ) (Invariant.and Enrolling (Looking World.Yields))
    fun w _ _ => Consistent w where
  step := fun hk hw h _ =>
    (step_alters h).consistent hw hk.1.enrolled (outline_step_later h).topic (hk.2 _ rfl)
  enter := fun hk hw ha h _ => h.begins.consistent hw hk.1.enrolled (Enters.later h).topic ha
  wait := fun _ hw _ _ => hw
  resume := fun _ hw _ _ _ => hw.same resume_same resume_later.topic
  start := fun _ hw _ _ _ => hw.same start_same begin_later.topic
  finish := fun _ hw _ _ => hw.same finish_same finish_later.topic
  env := fun _ hw _ h _ => hw.same (env_same h) (env_later h).topic

/-- Slots and registry are consistent. -/
abbrev Registered : Invariant Karo :=
  Invariant.and (Invariant.and Enrolling (Looking World.Yields)) fun w _ _ => Consistent w

theorem registered_kept : Keeps (outline σ) (ConsultsRegistry σ) .trivial Registered := by
  refine ((looked_kept yields_relied).mono fun w o a ha => ?_).and consistent_kept
  cases a with
  | resume => exact ha
  | _ => trivial

/-! ### Runs -/

/-- A closed slot stays closed. -/
structure StaysClosed (w w' : World) : Prop where
  slotCount : w.subs.slotCount ≤ w'.subs.slotCount
  closed : ∀ s < w.subs.slotCount, (w.subs.slots s).state = .closed →
    (w'.subs.slots s).state = .closed

theorem StaysClosed.trans {w₁ w₂ w₃ : World} (h : StaysClosed w₁ w₂) (h' : StaysClosed w₂ w₃) :
    StaysClosed w₁ w₃ :=
  ⟨h.slotCount.trans h'.slotCount, fun s hs hc =>
    h'.closed s (hs.trans_le h.slotCount) (h.closed s hs hc)⟩

theorem Same.staysClosed (h : Same w w') : StaysClosed w w' :=
  ⟨h.slotCount.ge, fun s _ hc => (h.state s).trans hc⟩

theorem Opened.staysClosed {s : SlotId} (h : Opened s w w') (hw : Enrolled w)
    (hs : ∃ topic, w.subs.subs.get? topic = some s) : StaysClosed w w' := by
  refine ⟨h.slotCount.ge, fun u hu hc => ?_⟩
  obtain ⟨topic, hs⟩ := hs
  rcases eq_or_ne u s with rfl | hne
  · exact absurd hc (hw topic u hs).2.2
  · rwa [h.state u hne]

theorem Shut.staysClosed {topic : String} {s : SlotId} (h : Shut topic s w w') :
    StaysClosed w w' := by
  refine ⟨h.slotCount.ge, fun u _ hc => ?_⟩
  rcases eq_or_ne u s with rfl | hne
  · exact h.closed
  · rwa [h.state u hne]

theorem Cleared.staysClosed (h : Cleared w w') : StaysClosed w w' :=
  ⟨h.slotCount.ge, fun s _ hc => (h.state s).elim id fun he => he.trans hc⟩

theorem registry_guaranteed :
    Guarantees (outline σ) (ConsultsRegistry σ) Registered fun _ => StaysClosed where
  refl := fun _ _ => Same.refl.staysClosed
  step := by
    rintro x q w w' o ⟨⟨hw, -⟩, -⟩ - h
    cases step_alters h with
    | kept h => exact h.staysClosed
    | closes topic s hx h => exact h.staysClosed
    | activates s phase ep hp hs h => exact h.staysClosed hw.enrolled hs
    | pauses q hp h =>
      exact ⟨h.slotCount.ge, fun s _ hc => (h.state s).elim (·.trans hc) fun hn => absurd hc hn.2⟩
    | clears hp h => exact h.staysClosed
  enter := by
    rintro x l w w' o ⟨⟨hw, -⟩, -⟩ ha h
    cases h.begins with
    | kept h' => exact h'.staysClosed
    | closes q s hp h' => exact h'.staysClosed
    | registers q s rid hp h' => exact h'.staysClosed hw.enrolled ⟨_, ha⟩
    | clears hp h' => exact h'.staysClosed
    | subscribes topic hp h' =>
      refine ⟨h'.slotCount ▸ Nat.le_succ _, fun s hs hc => ?_⟩
      rw [h'.other s (Nat.ne_of_lt hs)]
      exact hc
  start := fun _ => start_same.staysClosed
  resume := resume_same.staysClosed
  finish := fun _ _ => finish_same.staysClosed
  env := fun h => (env_same h).staysClosed

theorem registered_initial {clock : Clock} : Registered (initial clock).world none 0 :=
  ⟨looked_initial, fun _ h => by simp [initial, World.init] at h⟩

/-- **The registry is consistent with the slots**, and closed slots stay closed, in
every run in which the code goes on with a slot only as long as it is registered. -/
theorem registry_consistent {clock : Clock} {c d : Config Karo}
    (hc : Run (robot σ) (ConsultsRegistry σ) (initial clock) c)
    (hd : Run (robot σ) (ConsultsRegistry σ) c d) :
    (∀ s < c.world.subs.slotCount, (c.world.subs.slots s).state ≠ .closed ↔
      c.world.subs.subs.get? (c.world.subs.slots s).topic = some s) ∧
    ∀ s < c.world.subs.slotCount, (c.world.subs.slots s).state = .closed →
      (d.world.subs.slots s).state = .closed := by
  have hc := outlined.traced_run registered_kept (.initial registered_initial) hc
  have hw : Enrolled c.world ∧ Consistent c.world := by
    rcases hr : c.running with - | ⟨t, k⟩
    -- the invariant is known between steps, whether a task is running or not
    · exact ⟨(hc.idle hr).1.1.enrolled, (hc.idle hr).2⟩
    · obtain ⟨x, -, hx, -⟩ := hc.running t k hr
      exact ⟨hx.1.1.enrolled, hx.2⟩
  have hrel : StaysClosed c.world d.world :=
    registry_guaranteed.along outlined registered_kept (fun _ => Same.refl.staysClosed)
      StaysClosed.trans id hc hd
  exact ⟨fun s hs => ⟨hw.2 s hs, fun h => (hw.1 _ s h).2.2⟩, hrel.closed⟩

/-- A subscribe call, and `unsubscribe()` on its handle, without a connection. -/
def subscribed : List (Cmd (robot .plain)) :=
  [.env (.call (.subscribe "robot.state" ⟨1⟩)), .start 0]

theorem registry_consistent_closed : ∃ c d : Config Karo,
    Run (robot .plain) (ConsultsRegistry .plain) (initial ⟨0, 0⟩) c ∧
    Run (robot .plain) (ConsultsRegistry .plain) c d ∧
    c.world.subs.slotCount = 1 ∧ (c.world.subs.slots 0).state ≠ .closed ∧
    c.world.subs.subs.get? (c.world.subs.slots 0).topic = some 0 ∧
    (d.world.subs.slots 0).state = .closed := by
  let ok : Check (robot .plain) := .of (fun _ _ _ => false) fun
    | _, .subscribing _ _ | _, .unsendable _ => false
    | _, _ => true
  have hok : ∀ w o a, ok.allows w o a → ConsultsRegistry .plain w o a := by
    intro w o a h
    cases a with
    | enter t q l => cases l <;> simp_all [ok, ConsultsRegistry]
    | resume s r => simp [ok] at h
    | _ => trivial
  have hplay : (Sys.playChecked ok 4 subscribed (initial ⟨0, 0⟩)).any (fun c =>
      c.world.subs.slotCount = 1 && (c.world.subs.slots 0).state ≠ .closed &&
        (Sys.playChecked ok 4 [.env (.call (.unsubscribe 0)), .start 2] c).any fun d =>
          (d.world.subs.slots 0).state = .closed) = true := by decide +kernel
  obtain ⟨c, hc, hs⟩ := (Option.any_eq_true _ _).mp hplay
  simp only [Bool.and_eq_true, decide_eq_true_eq, Option.any_eq_true] at hs
  obtain ⟨⟨hn, hs⟩, d, hd, hclosed⟩ := hs
  have hc := (playChecked_run ok hc).mono hok
  have hd := (playChecked_run ok hd).mono hok
  exact ⟨c, d, hc, hd, hn, hs,
    ((registry_consistent hc hd).1 0 (by rw [hn]; exact one_pos)).mp hs, hclosed⟩

/-- Two calls of `unsubscribe()` on one handle wait for their responses; between the
responses the topic is subscribed again. -/
def unsubscribedTwice : List (Cmd (robot .plain)) :=
  connected ++
  [.env (.call (.subscribe "robot.state" ⟨1⟩)), .start 4, .resume 4 (.ok .done),
    .env (.call (.unsubscribe 0)), .start 6, .resume 6 (.ok .done),
    .env (.call (.unsubscribe 0)), .start 7, .resume 7 (.ok .done),
    .resume 2 (.ok (.inbound (.frame 0 (some { requestId := 3, success := true }) none))),
    .resume 6 (.ok .done),
    .env (.call (.subscribe "robot.state" ⟨1⟩)), .start 8, .resume 8 (.ok .done),
    .resume 2 (.ok (.inbound (.frame 0 (some { requestId := 4, success := true }) none))),
    .resume 7 (.ok .done)]

theorem registry_lost : ∃ c : Config Karo, Reaches (robot .plain) (initial ⟨0, 0⟩) c ∧
    1 < c.world.subs.slotCount ∧ (c.world.subs.slots 1).state ≠ .closed ∧
    c.world.subs.subs.get? (c.world.subs.slots 1).topic ≠ some 1 := by
  have hplay : ((robot .plain).play 4 unsubscribedTwice (initial ⟨0, 0⟩)).any (fun c =>
      1 < c.world.subs.slotCount && (c.world.subs.slots 1).state ≠ .closed &&
        c.world.subs.subs.get? (c.world.subs.slots 1).topic ≠ some 1) = true := by decide +kernel
  obtain ⟨c, hc, hs⟩ := (Option.any_eq_true _ _).mp hplay
  simp only [Bool.and_eq_true, decide_eq_true_eq] at hs
  exact ⟨c, play_run hc, hs.1.1, hs.1.2, hs.2⟩

end KaroX2
