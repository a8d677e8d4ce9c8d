/-
KaroX2/Delivery.lean

No data after close.

The dispatch worker and the live delivery look at the state of the slot right
before they hand over a push.  The drain of the pending buffer does not: after a
callback it goes on with what is left in the buffer, whatever has become of the
slot.
-/
import KaroX2.Evolution
import KaroX2.Lookup

namespace KaroX2

open Coop

variable {σ : Setup} {w w' : World} {x : Running Karo} {u : SlotId}

/-! ### The condition -/

/-- The buffer of the slot holds no push that the sequence check would accept. -/
def Life.Exhausted (v : Life) : Prop :=
  ∀ push ∈ v.pendingBuffer, ∀ n gap, v.checkSeq push.seq ≠ .accept n gap

/-- No drain goes on after a callback with pushes for a slot that has been closed,
and no subscribe request is recorded for a closed slot. -/
def DrainsOpen (σ : Setup) : Constraint (robot σ)
  | w, _, .resume s r =>
    ∀ u phase ep push, s.path = [.handleSubscribeAck u phase ep] → s.op = .callback u push →
      r ≠ .error .cancelled → (w.life u).state = .closed → (w.life u).Exhausted
  | w, _, .enter _ _ (.subscribing s _) => (w.life s).state ≠ .closed
  | _, _, _ => True

/-! ### The invariant -/

/-- Where a drain goes on after a callback, its slot is open or has nothing left. -/
def Draws (w : World) (x : Running Karo) : Prop :=
  ∀ t u phase ep push r, x.since = .answered ⟨t, [.handleSubscribeAck u phase ep], .callback u push⟩ r →
    r ≠ .error .cancelled → x.path = [] ∨ x.path = [.handleSubscribeAck u phase ep] ∧
      ((w.life u).state = .closed → (w.life u).Exhausted)

theorem Life.Exhausted.mono {v : Life} {b : List DecodedTopicPush} (h : v.Exhausted)
    (hb : b ⊆ v.pendingBuffer) : Life.Exhausted { v with pendingBuffer := b } :=
  fun push hp => h push (hb hp)

/-- A step in the drain of a slot that is not open leaves it exhausted. -/
theorem Evolves.exhausted {v : Life} {l : List Obs} {phase : Bool} {ep : Nat}
    (h : Evolves x w u v l) (hp : x.path = [.handleSubscribeAck u phase ep])
    (hx : x.since ≠ .called) (hw : (w.life u).state = .closed → (w.life u).Exhausted)
    (hv : v.state = .closed) : v.Exhausted := by
  cases h with
  | kept => exact hw hv
  | retyped sem hp' => simp [hp] at hp'
  | buffered b hs =>
    rw [show (w.life u).state = .closed from hv] at hs
    cases hs
  | skipped b hb => exact (hw hv).mono hb
  | accepted push n gap b l hx' hb hc hl =>
    have hclosed : (w.life u).state = .closed := hv
    rcases hx' with ha | ⟨-, -, -, hm, -⟩
    · rw [hclosed] at ha
      cases ha
    · exact absurd hc (hw hclosed push hm n gap)
  | dispatched push hs => exact absurd hv hs
  | activated => cases hv
  | startedAfresh resp hx' => exact absurd hx' hx
  | acked => exact hw hv
  | paused => cases hv
  | closed s hk hx' =>
    rcases hx' with ⟨topic, hx'⟩ | ⟨hp', -⟩
    · cases hx' with
      | acking _ _ _ _ hx' => exact absurd hx' hx
      | unsubscribed _ _ hp' => simp [hp] at hp'
    · simp [hp] at hp'

theorem step_draws {q : List Label} (h : (outline σ).step x q w w') (hx : Draws w x) :
    Draws w' { x with path := q } := by
  intro t u phase ep push r hs hr
  rcases hx t u phase ep push r hs hr with hp | ⟨hp, hw⟩
  · -- nothing is left to do in the call
    rcases h with ⟨rfl, -⟩ | ⟨l, hq, -⟩ | h
    · exact .inl hp
    · simp [hp] at hq
    · cases h <;> simp_all
  · obtain ⟨l, -, he⟩ := step_evolved (u := u) h
    have hstep := h
    rcases h with ⟨rfl, -⟩ | ⟨m, hq, -⟩ | h
    · exact .inr ⟨hp, fun hv => he.exhausted hp (by rw [hs]; simp) hw hv⟩
    · refine .inl ?_
      rw [hp] at hq
      have := congrArg List.dropLast hq
      simpa using this.symm
    · cases h <;> simp_all

/-- The drains of all tasks. -/
def Drawing (w : World) (r : Option (Running Karo)) (_ : Multiset (Site Karo)) : Prop :=
  ∀ x, r = some x → Draws w x

theorem drawing_kept : Keeps (outline σ) (DrainsOpen σ) Enrolling Drawing where
  step := by
    rintro x q w w' o - hx h - y ⟨rfl⟩
    exact step_draws h (hx x rfl)
  enter := by
    rintro x l w w' o - - - - - y ⟨rfl⟩ _ _ _ _ _ _ hs
    cases hs
  wait := by
    rintro x op w o - - - - y h
    cases h
  resume := by
    rintro ⟨t', p, op⟩ r w o - - ha - - y ⟨rfl⟩ t u phase ep push r' hs hr
    obtain ⟨⟨rfl, rfl, rfl⟩, rfl⟩ : (t' = t ∧ p = [.handleSubscribeAck u phase ep] ∧
        op = .callback u push) ∧ r = r' := by simpa using hs
    refine .inr ⟨rfl, fun hc => ?_⟩
    rw [resume_unmoved.life] at hc ⊢
    exact ha u phase ep push rfl rfl hr hc
  start := by
    rintro t q w o - - - - - y ⟨rfl⟩ _ _ _ _ _ _ hs
    cases hs
  finish := by
    rintro x r w o - - - - y h
    cases h
  env := by
    rintro e w w' o - - - - - y h
    cases h

/-! ### Deliveries -/

/-- The pushes that were handed to the frame dispatcher of the slot, newest first. -/
def deliveries (u : SlotId) (log : List Obs) : List DecodedTopicPush :=
  (trail u log).filterMap fun
    | .delivered _ push => some push
    | _ => none

/-- A closed slot stays closed, and nothing is delivered to it. -/
structure Quits (u : SlotId) (w w' : World) : Prop where
  slotCount : w.subs.slotCount ≤ w'.subs.slotCount
  closed : u < w.subs.slotCount → (w.life u).state = .closed → (w'.life u).state = .closed ∧
    deliveries u w'.log = deliveries u w.log

theorem Quits.refl : Quits u w w := ⟨le_rfl, fun _ h => ⟨h, rfl⟩⟩

theorem Quits.trans {w₁ w₂ w₃ : World} (h : Quits u w₁ w₂) (h' : Quits u w₂ w₃) : Quits u w₁ w₃ where
  slotCount := h.slotCount.trans h'.slotCount
  closed := fun hlt hc => by
    obtain ⟨hc₂, hd₂⟩ := h.closed hlt hc
    obtain ⟨hc₃, hd₃⟩ := h'.closed (hlt.trans_le h.slotCount) hc₂
    exact ⟨hc₃, hd₃.trans hd₂⟩

theorem Unmoved.quits (h : Unmoved u w w') (hl : Later w w') : Quits u w w' where
  slotCount := hl.slotCount
  closed := fun _ hc => ⟨by rw [h.life, hc], by rw [deliveries, h.trail, deliveries]⟩

theorem deliveries_append {l : List Obs} (ht : trail u w'.log = l ++ trail u w.log)
    (hl : ∀ s push, .delivered s push ∉ l) : deliveries u w'.log = deliveries u w.log := by
  unfold deliveries
  rw [ht, List.filterMap_append, List.filterMap_eq_nil_iff.mpr, List.nil_append]
  intro o ho
  cases o with
  | delivered s push => exact absurd ho (hl s push)
  | _ => rfl

theorem step_quits {q : List Label} (h : (outline σ).step x q w w') (he : Enrolled w)
    (hd : Draws w x) : Quits u w w' where
  slotCount := (outline_step_later h).slotCount
  closed := by
    intro hlt hc
    obtain ⟨l, hl, hv⟩ := step_evolved (u := u) h
    generalize hv' : w'.life u = v at hv ⊢
    cases hv with
    | kept => exact ⟨hc, deliveries_append hl (by simp)⟩
    | retyped | skipped | startedAfresh | acked => exact ⟨hc, deliveries_append hl (by simp)⟩
    | closed s hk => exact ⟨rfl, deliveries_append hl (by simp)⟩
    | buffered b hs =>
      rw [hc] at hs
      cases hs
    | dispatched push hs => exact absurd hc hs
    | paused s hk hr hs => simp [hc] at hs
    | activated n kind gap resp hx hlog ha hr =>
      -- registered slots are not closed
      obtain ⟨topic, hr⟩ := hr
      exact absurd hc (he topic u hr).2.2
    | accepted push n gap b l hx hb hcheck =>
      exfalso
      rcases hx with ha | ⟨phase, ep, hp, hm, p, r, hg, hr⟩
      · rw [hc] at ha
        cases ha
      · rcases hd x.task u phase ep p r (by rw [hg, hp]) hr with hp' | ⟨-, hex⟩
        · simp [hp] at hp'
        · exact hex hc push hm n gap hcheck

theorem enter_quits {l : Label} {o : Multiset (Site Karo)} (h : Enters σ x w l w')
    (ha : DrainsOpen σ w o (.enter x.task x.path l)) : Quits u w w' where
  slotCount := (outlined.enter h).slotCount
  closed := by
    intro hlt hc
    obtain ⟨m, hm, hv⟩ := h.started (u := u)
    generalize hv' : w'.life u = v at hv ⊢
    cases hv with
    | kept | acknowledged => exact ⟨hc, deliveries_append hm (by simp)⟩
    | registered rid since hs => exact absurd hc ha
    | unsendable s hk => exact ⟨rfl, deliveries_append hm (by simp)⟩
    | closed s hk => exact ⟨rfl, deliveries_append hm (by simp)⟩
    | created v l hu => exact absurd hu hlt.ne

/-- Drains of closed slots are exhausted, and closed slots are not registered. -/
abbrev Delivering : Invariant Karo := Invariant.and Enrolling Drawing

theorem delivering_kept : Keeps (outline σ) (DrainsOpen σ) .trivial Delivering :=
  (enrolling_kept.mono fun _ _ _ _ => True.intro).and drawing_kept

theorem quits_guaranteed : Guarantees (outline σ) (DrainsOpen σ) Delivering
    fun _ w w' => ∀ u, Quits u w w' where
  refl := fun _ _ _ => .refl
  step := fun hk _ hs _ => step_quits hs hk.1.enrolled (hk.2 _ rfl)
  enter := fun _ ha hen _ => enter_quits hen ha
  start := fun _ _ => start_unmoved.quits outlined.begun
  resume := fun _ => resume_unmoved.quits outlined.resume
  finish := fun _ _ _ => finish_unmoved.quits outlined.finish
  env := fun he _ => (env_unmoved he).quits (outlined.env he)

/-- **No data after close**: in every run whose drains go on with open slots, a slot
that is closed stays closed, and nothing more is handed to its dispatcher. -/
theorem closed_quiet {clock : Clock} {c d : Config Karo}
    (hc : Run (robot σ) (DrainsOpen σ) (initial clock) c) (hd : Run (robot σ) (DrainsOpen σ) c d) :
    ∀ u < c.world.subs.slotCount, (c.world.subs.slots u).state = .closed →
      (d.world.subs.slots u).state = .closed ∧
      deliveries u d.world.log = deliveries u c.world.log := by
  have hi : Delivering (initial clock).world none 0 := ⟨enrolling_initial, by rintro x ⟨⟩⟩
  have hc := outlined.traced_run delivering_kept (.initial hi) hc
  have hrel : ∀ u, Quits u c.world d.world :=
    quits_guaranteed.along outlined delivering_kept (fun _ _ => .refl)
      (fun h h' u => (h u).trans (h' u)) id hc hd
  exact fun u => (hrel u).closed

/-- A subscription gets two pushes before its acknowledgement, and is then given up
by the user. -/
def subscribedEarly : List (Cmd (robot σ)) :=
  connected ++
  [.env (.call (.subscribe "robot.state" ⟨1⟩)), .start 4, .resume 4 (.ok .done),
    .resume 2 (.ok (.inbound (.frame 0 none (some { topic := "robot.state", seq := 1 })))),
    .resume 2 (.ok (.inbound (.frame 0 none (some { topic := "robot.state", seq := 2 }))))]

theorem closed_quiet_given_up : ∃ c d : Config Karo,
    Run (robot .plain) (DrainsOpen .plain) (initial ⟨0, 0⟩) c ∧
    Run (robot .plain) (DrainsOpen .plain) c d ∧
    (c.world.subs.slots 0).pendingBuffer ≠ [] ∧ (d.world.subs.slots 0).state = .closed ∧
    deliveries 0 d.world.log = deliveries 0 c.world.log := by
  let ok : Check (robot .plain) := .of (fun _ s _ => !s.op.inCallback)
    fun w l => l.subscribes.all fun s => (w.subs.slots s).state ≠ .closed
  have hok : ∀ w o a, ok.allows w o a → DrainsOpen .plain w o a := by
    intro w o a h
    cases a with
    | enter t q l =>
      cases l with
      | subscribing s rid =>
        show (w.subs.slots s).state ≠ .closed
        simpa [ok, Label.subscribes] using h
      | _ => trivial
    | resume s r =>
      intro u phase ep push hq hop
      simp [ok, hop, Op.inCallback] at h
    | _ => trivial
  have hplay : (Sys.playChecked ok 4 (subscribedEarly ++ [.env (.call (.unsubscribe 0)), .start 6,
        .resume 6 (.ok .done), .env (.fireTimer 3), .resume 6 (.ok .done)])
      (initial ⟨0, 0⟩)).any (fun c =>
      c.world.subs.slotCount = 1 && (c.world.subs.slots 0).pendingBuffer ≠ [] &&
        (c.world.subs.slots 0).state = .closed &&
        (Sys.playChecked ok 4 [.resume 2 (.ok (.inbound (.frame 0 none
          (some { topic := "robot.state", seq := 3 }))))] c).isSome) = true := by decide +kernel
  obtain ⟨c, hc, hs⟩ := (Option.any_eq_true _ _).mp hplay
  simp only [Bool.and_eq_true, decide_eq_true_eq, Option.isSome_iff_exists] at hs
  obtain ⟨⟨⟨hn, hb⟩, hs⟩, d, hd⟩ := hs
  have hc := (playChecked_run ok hc).mono hok
  have hd := (playChecked_run ok hd).mono hok
  obtain ⟨hclosed, hquiet⟩ := closed_quiet hc hd 0 (by rw [hn]; exact one_pos) hs
  exact ⟨c, d, hc, hd, hb, hclosed, hquiet⟩

/-- The callback of the first push is running when the slot is closed. -/
def closedInCallback : List (Cmd (robot .inlined)) :=
  subscribedEarly ++
  [.resume 2 (.ok (.inbound (.frame 0
      (some { requestId := 2, success := true, hasSubscribe := true, subAccepted := true }) none))),
    .env (.call (.unsubscribe 0)), .start 5, .resume 5 (.ok .done), .env (.fireTimer 3),
    .resume 5 (.ok .done)]

theorem delivered_after_close : ∃ c d : Config Karo,
    Reaches (robot .inlined) (initial ⟨0, 0⟩) c ∧ Reaches (robot .inlined) c d ∧
    (c.world.subs.slots 0).state = .closed ∧
    deliveries 0 d.world.log = { topic := "robot.state", seq := 2 } :: deliveries 0 c.world.log := by
  have hplay : ((robot .inlined).play 4 closedInCallback (initial ⟨0, 0⟩)).any (fun c =>
      (c.world.subs.slots 0).state = .closed &&
        ((robot .inlined).play 4 [.resume 2 (.ok .done)] c).any fun d =>
          deliveries 0 d.world.log
            = { topic := "robot.state", seq := 2 } :: deliveries 0 c.world.log) = true := by
    decide +kernel
  obtain ⟨c, hc, hs⟩ := (Option.any_eq_true _ _).mp hplay
  simp only [Bool.and_eq_true, decide_eq_true_eq, Option.any_eq_true] at hs
  obtain ⟨hs, d, hd, hdel⟩ := hs
  exact ⟨c, d, play_run hc, play_run hd, hs, hdel⟩

end KaroX2
