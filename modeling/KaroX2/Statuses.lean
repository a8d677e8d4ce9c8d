/-
KaroX2/Statuses.lean

Status streams are well formed.

A slot fires `CLOSED` at most once and nothing after it, and neither `RESUMED` nor
`GAP` before `STARTED`.  The code has no guard for that: about twenty places fire,
and each of them is right as long as what it goes on with is still so.  `Fires`
collects what has to be so.
-/
import KaroX2.Delivery

namespace KaroX2

open Coop

variable {σ : Setup} {w w' : World} {x : Running Karo} {u : SlotId}

/-! ### Streams -/

/-- The statuses in a list of entries. -/
def told (l : List Obs) : List StreamStatus :=
  l.filterMap fun
    | .status _ s => some s
    | _ => none

/-- The statuses that were fired for the slot, newest first. -/
def statuses (u : SlotId) (log : List Obs) : List StreamStatus := told (trail u log)

theorem told_append (l l' : List Obs) : told (l ++ l') = told l ++ told l' := List.filterMap_append

theorem statuses_append {l : List Obs} (h : trail u w'.log = l ++ trail u w.log) :
    statuses u w'.log = told l ++ statuses u w.log := by
  unfold statuses
  rw [h, told_append]

/-- The stream, newest first, contains a status of this kind. -/
def Tells (k : StreamStatusKind) (l : List StreamStatus) : Prop := ∃ s ∈ l, s.kind = k

theorem Tells.append {k : StreamStatusKind} {l : List StreamStatus} (h : Tells k l)
    (l' : List StreamStatus) : Tells k (l' ++ l) := by
  obtain ⟨s, hs, hk⟩ := h
  exact ⟨s, List.mem_append_right l' hs, hk⟩

/-- A stream of statuses, newest first: nothing is fired after `CLOSED`, and `RESUMED`
and `GAP` are fired after `STARTED` only. -/
def WellFormed : List StreamStatus → Prop
  | [] => True
  | s :: l => ¬Tells .closed l ∧ (s.kind = .resumed ∨ s.kind = .gap → Tells .started l) ∧ WellFormed l

/-! ### The condition -/

/-- The slot is not closed. -/
def World.Alive (w : World) (_ : String) (s : SlotId) : Prop := (w.life s).state ≠ .closed

theorem alive_relied : Relied World.Alive where
  registered := fun he hs => (he _ _ hs).2.2
  same := fun hw h hc => h ((hw.state _).symm.trans hc)

/-- What the code goes on with is not closed: a drain and `unsubscribe_request` after
a suspension, and `_send_subscribe`; and a paused slot for which a subscribe request
is recorded has been started. -/
def Fires (σ : Setup) : Constraint (robot σ)
  | w, _, .resume s r =>
    (∀ u phase ep push, s.path = [.handleSubscribeAck u phase ep] → s.op = .callback u push →
      r ≠ .error .cancelled → (w.life u).state = .closed → (w.life u).Exhausted) ∧
    ∀ topic u, .unsubscribing topic u ∈ s.path → Unsubscribes w s r → w.Alive topic u
  | w, _, .enter _ _ (.subscribing s _) =>
    (w.life s).state ≠ .closed ∧
      ((w.life s).state = .paused → Tells .started (statuses s w.log))
  | w, _, .enter _ _ (.unsendable s) => (w.life s).state ≠ .closed
  | _, _, _ => True

theorem Fires.drains {o : Multiset (Site Karo)} {a : Action Karo EnvStep} (h : Fires σ w o a) :
    DrainsOpen σ w o a := by
  cases a with
  | resume s r => exact h.1
  | enter t p l =>
    cases l with
    | subscribing s rid => exact h.1
    | _ => trivial
  | _ => trivial

theorem Fires.looks {o : Multiset (Site Karo)} {a : Action Karo EnvStep} (h : Fires σ w o a) :
    LooksUp σ World.Alive w o a := by
  cases a with
  | resume s r => exact h.2
  | _ => trivial

/-! ### Known slots -/

/-- The slots that a label is about. -/
def Label.slots : Label → List SlotId
  | .restoring _ _ _ rest => rest
  | .sendSubscribe s | .unsendable s | .subscribing s _ | .handleSubscribeAck s _ _ => [s]
  | _ => []

/-- The slots that the call stack is about exist. -/
def Known (w : World) (p : List Label) : Prop := ∀ l ∈ p, ∀ s ∈ l.slots, s < w.subs.slotCount

theorem Known.later {p : List Label} (h : Known w p) (hw : Later w w') : Known w' p :=
  fun l hl s hs => (h l hl s hs).trans_le hw.slotCount

theorem Known.shorter {p q : List Label} (h : Known w p) (hq : q <+: p) : Known w q :=
  fun l hl => h l (hq.mem hl)

theorem Subscribes.known {p : List Label} {s : SlotId} (h : Subscribes w s p) (he : Enrolled w)
    (hp : Known w p) : s < w.subs.slotCount := by
  cases h with
  | restoring isR ep c rest => exact hp _ List.mem_cons_self s List.mem_cons_self
  | retrying phase ep hep hs hr | subscribing hs hr =>
    obtain ⟨topic, hr⟩ := hr
    exact (he topic s hr).1

theorem enter_known {l : Label} (h : Enters σ x w l w') (he : Enrolled w) (hx : Known w x.path) :
    Known w' (x.path ++ [l]) := by
  have hold := hx.later (outlined.enter h)
  intro m hm s hs
  rcases List.mem_append.mp hm with hm | hm
  · exact hold m hm s hs
  · obtain rfl := List.mem_singleton.mp hm
    refine lt_of_lt_of_le ?_ (outlined.enter h).slotCount
    cases h with
    | sendSubscribe u hsub =>
      obtain rfl : s = u := by simpa [Label.slots] using hs
      exact hsub.known he hx
    | unsendable q u reason hp hx' hsub | subscribing q u rid since hp hx' hsub =>
      obtain rfl : s = u := by simpa [Label.slots] using hs
      exact hx (.sendSubscribe s) (by simp [hp]) s (by simp [Label.slots])
    | handleSubscribeAck c rid topic u rep hp ht hx' hi hreg =>
      obtain rfl : s = u := by simpa [Label.slots] using hs
      exact (he topic s hreg).1
    | _ => simp [Label.slots] at hs

theorem step_known {q : List Label} (h : (outline σ).step x q w w') (he : Enrolled w)
    (hx : Known w x.path) : Known w' q := by
  have hl := outline_step_later h
  rcases h with ⟨rfl, -⟩ | ⟨l, hp, -⟩ | h
  · exact hx.later hl
  · exact (hx.shorter ⟨_, hp.symm⟩).later hl
  · refine Known.later ?_ hl
    intro m hm s hs
    cases h with
    | begins isR ep c rid cmd resp hp =>
      obtain rfl := List.mem_singleton.mp hm
      obtain ⟨topic, hr⟩ := Py.Dict.mem_values_iff.mp hs
      exact (he topic s hr).1
    | restores isR ep c u rest hp =>
      obtain rfl := List.mem_singleton.mp hm
      exact hx (.restoring isR ep c (u :: rest)) (by simp [hp]) s (List.mem_cons_of_mem _ hs)
    | _ =>
      obtain rfl := List.mem_singleton.mp hm
      cases hs

/-- All tasks are about slots that exist. -/
structure Knowing (w : World) (r : Option (Running Karo)) (o : Multiset (Site Karo)) : Prop where
  running : ∀ x, r = some x → Known w x.path
  suspended : ∀ s ∈ o, Known w s.path

theorem knowing_later {o : Multiset (Site Karo)} (hw : Later w w') (h : ∀ s ∈ o, Known w s.path) :
    ∀ s ∈ o, Known w' s.path := fun s hs => (h s hs).later hw

theorem knowing_kept : Keeps (outline σ) (Fires σ) Enrolling Knowing where
  step := by
    rintro x q w w' o hk ⟨hx, hs⟩ h -
    refine ⟨?_, knowing_later (outline_step_later h) hs⟩
    rintro y ⟨rfl⟩
    exact step_known h hk.enrolled (hx x rfl)
  enter := by
    rintro x l w w' o hk ⟨hx, hs⟩ - h -
    refine ⟨?_, knowing_later (outlined.enter h) hs⟩
    rintro y ⟨rfl⟩
    exact enter_known h hk.enrolled (hx x rfl)
  wait := by
    rintro x op w o - ⟨hx, hs⟩ - -
    refine ⟨by simp, fun s hm => ?_⟩
    rcases Multiset.mem_cons.mp hm with rfl | hm
    · exact hx x rfl
    · exact hs s hm
  resume := by
    rintro s r w o - ⟨-, hs⟩ - - -
    have hl : Later w ((robot σ).resume s.task s.op r w) := resume_later
    refine ⟨?_, fun y hy => knowing_later hl hs y (Multiset.mem_cons_of_mem hy)⟩
    rintro y ⟨rfl⟩
    exact knowing_later hl hs s (Multiset.mem_cons_self s o)
  start := by
    rintro t q w o - ⟨-, hs⟩ - - -
    refine ⟨?_, knowing_later begin_later hs⟩
    rintro y ⟨rfl⟩ _ hm
    cases hm
  finish := by
    rintro x r w o - ⟨-, hs⟩ - -
    exact ⟨by simp, knowing_later finish_later hs⟩
  env := by
    rintro e w w' o - ⟨-, hs⟩ - h -
    exact ⟨by simp, knowing_later (env_later h) hs⟩

/-! ### The invariant -/

/-- The life of a slot that only a started one can have. -/
def Life.Going (v : Life) : Prop :=
  v.state = .active ∨ v.isReconnectResume = true ∨ v.everActive = true ∨
    v.expectedResumeSeq ≠ 0 ∨ v.lastSeq ≠ 0

/-- What the stream of a slot has told, against its life. -/
structure Tale (v : Life) (l : List StreamStatus) (unborn : Prop) : Prop where
  formed : WellFormed l
  alive : v.state ≠ .closed → ¬Tells .closed l
  started : v.Going → Tells .started l
  born : unborn → v.state = .pending ∧ l = []

theorem Tale.keep {v v' : Life} {l : List StreamStatus} {b : Prop} (h : Tale v l b)
    (hs : v'.state = v.state) (hg : v'.Going → Tells .started l) : Tale v' l b :=
  ⟨h.formed, fun ha => h.alive (hs ▸ ha), hg, fun hb => ⟨hs.trans (h.born hb).1, (h.born hb).2⟩⟩

theorem Tale.fire {v v' : Life} {l : List StreamStatus} {b : Prop} {s : StreamStatus} (h : Tale v l b)
    (hb : ¬b) (ha : v.state ≠ .closed) (hs : s.kind = .resumed ∨ s.kind = .gap → Tells .started l)
    (hc : v'.state ≠ .closed → s.kind ≠ .closed)
    (hg : v'.Going → s.kind = .started ∨ Tells .started l) : Tale v' (s :: l) b where
  formed := ⟨h.alive ha, hs, h.formed⟩
  alive := by
    rintro ha' ⟨s', hm, hk⟩
    rcases List.mem_cons.mp hm with rfl | hm
    · exact hc ha' hk
    · exact h.alive ha ⟨s', hm, hk⟩
  started := fun hg' => by
    rcases hg hg' with hk | ht
    · exact ⟨s, List.mem_cons_self, hk⟩
    · exact ht.append [s]
  born := fun hb' => absurd hb' hb

/-- The invariant of a slot. -/
def Telling (u : SlotId) (w : World) : Prop :=
  Tale (w.life u) (statuses u w.log) (w.subs.slotCount ≤ u)

/-- A drain that was suspended in a callback has started its slot. -/
def Begun (w : World) (x : Running Karo) : Prop :=
  ∀ t u phase ep push r, x.since = .answered ⟨t, [.handleSubscribeAck u phase ep], .callback u push⟩ r →
    Tells .started (statuses u w.log)

/-- What the running task may rely on. -/
structure Ready (w : World) (x : Running Karo) : Prop where
  enrolled : Enrolled w
  named : Named w x.path
  due : Due World.Alive w x
  draws : Draws w x
  known : Known w x.path
  begun : Begun w x

theorem ShutBy.alive (h : ShutBy x w u) (hr : Ready w x) :
    (w.life u).state ≠ .closed ∧ u < w.subs.slotCount := by
  rcases h with ⟨topic, h⟩ | ⟨hp, ⟨topic, hr'⟩, hs⟩
  · cases h with
    | acking q phase ep hp hx hs => exact ⟨(hr.enrolled topic u hs).2.2, (hr.enrolled topic u hs).1⟩
    | unsubscribed handle b hp hx =>
      have hm : .unsubscribing topic u ∈ x.path := by simp [hp]
      refine ⟨?_, (hr.named topic u hm).1⟩
      have hd := hr.due
      unfold Due at hd
      rcases hx with hx | ⟨site, r, hx, -, hu⟩
      · rw [hx] at hd
        exact hd topic u hm
      · rw [hx] at hd
        exact (hd.2 topic u hm).2 hu
  · exact ⟨hs, (hr.enrolled topic u hr').1⟩

/-- Where a slot is drained, it has been started. -/
theorem Drains.started (h : x.Drains w u) (hr : Ready w x) (ht : Telling u w)
    (hp : ∃ phase ep, x.path = [.handleSubscribeAck u phase ep]) :
    Tells .started (statuses u w.log) := by
  rcases h with ⟨-, hs⟩ | ⟨push, r, hg, -⟩
  · exact ht.started (.inl hs)
  · obtain ⟨phase, ep, hp⟩ := hp
    exact hr.begun x.task u phase ep push r (by rw [hg, hp])

/-- What an accepted event acknowledgement fires. -/
theorem resumeAt_kind (y : Life) (K : Nat) {n : Nat} {kind : StreamStatusKind} {gap : Option Nat}
    (h : (n, kind, gap) = y.resumeAt K) : kind = .started ∨ kind = .resumed ∧
      (y.expectedResumeSeq ≠ 0 ∨ y.isReconnectResume = true) := by
  unfold Life.resumeAt at h
  split at h
  · obtain ⟨-, rfl, -⟩ := h
    by_cases hr : y.isReconnectResume
    · exact .inr ⟨by simp [hr], .inr hr⟩
    · exact .inl (by simp [hr])
  · rename_i he
    refine .inr ⟨?_, .inl he⟩
    split at h
    · exact (Prod.mk.inj (Prod.mk.inj h).2).1
    · split at h <;> exact (Prod.mk.inj (Prod.mk.inj h).2).1

theorem told_accepted {l : List Obs} {push : DecodedTopicPush} {gap : Option Nat}
    (hl : l = [] ∨ l = [.delivered u push]) : told (l ++ .accepted u push :: gapStatus u gap) =
      match gap with
      | some g => [{ kind := .gap, gapCount := some g }]
      | none => [] := by
  cases gap <;> rcases hl with rfl | rfl <;> rfl

theorem Evolves.tale {v : Life} {l : List Obs} (h : Evolves x w u v l) (hr : Ready w x)
    (ht : Telling u w) : Tale v (told l ++ statuses u w.log) (w.subs.slotCount ≤ u) := by
  have hborn : (∃ topic, w.subs.subs.get? topic = some u) →
      ¬w.subs.slotCount ≤ u ∧ (w.life u).state ≠ .closed := by
    rintro ⟨topic, hs⟩
    obtain ⟨hlt, -, hc⟩ := hr.enrolled topic u hs
    exact ⟨hlt.not_ge, hc⟩
  cases h with
  | kept | retyped | buffered | skipped | dispatched => exact ht.keep rfl ht.started
  | startedAfresh resp hx =>
    refine ht.keep rfl fun hg => ht.started ?_
    simp only [Life.Going, ne_eq, not_true, or_false] at hg ⊢
    tauto
  | acked hp hx => exact ht.keep rfl fun _ => Drains.started hx hr ht hp
  | accepted push n gap b l hx hb hc hl =>
    have hs : Tells .started (statuses u w.log) := by
      rcases hx with ha | ⟨phase, ep, hp, -, p, r, hg, -⟩
      · exact ht.started (.inl ha)
      · exact hr.begun x.task u phase ep p r (by rw [hg, hp])
    have ha : (w.life u).state ≠ .closed := by
      intro hclosed
      rcases hx with ha | ⟨phase, ep, hp, hm, p, r, hg, hr'⟩
      · rw [hclosed] at ha
        cases ha
      · rcases hr.draws x.task u phase ep p r (by rw [hg, hp]) hr' with hp' | ⟨-, hex⟩
        · simp [hp] at hp'
        · exact hex hclosed push hm n gap hc
    rw [told_accepted hl]
    cases gap with
    | none => exact ht.keep rfl fun _ => hs
    | some g =>
      refine ht.fire (fun hb => ?_) ha (fun _ => hs) (by simp) fun _ => .inr hs
      obtain ⟨s, hs, -⟩ := hs
      rw [(ht.born hb).2] at hs
      cases hs
  | activated n kind gap resp hx hlog hacc hreg h =>
    obtain ⟨hb, ha⟩ := hborn hreg
    have hk : kind = .started ∨ kind = .resumed ∧ (w.life u).Going := by
      cases hsem : (w.life u).semantics with
      | telemetry =>
        obtain ⟨-, -, rfl⟩ := h.1 hsem
        split
        · rename_i hrr
          exact .inr ⟨rfl, .inr (.inl hrr)⟩
        · exact .inl rfl
      | event =>
        refine (resumeAt_kind _ _ (h.2 hsem)).imp_right fun ⟨hk, hg⟩ => ⟨hk, ?_⟩
        rcases hg with hg | hg
        · exact .inr (.inr (.inr (.inl hg)))
        · exact .inr (.inl hg)
    refine ht.fire hb ha ?_ ?_ fun _ => hk.imp_right fun h => ht.started h.2
    · rintro (hk' | hk')
      · rcases hk with rfl | ⟨-, hg⟩
        · cases hk'
        · exact ht.started hg
      · rcases hk with rfl | ⟨rfl, -⟩ <;> cases hk'
    · intro _ hk'
      rcases hk with rfl | ⟨rfl, -⟩ <;> cases hk'
  | paused s hk hreg hs =>
    obtain ⟨hb, ha⟩ := hborn hreg
    refine ht.fire hb ha (by simp [hk]) (by simp [hk]) fun hg => .inr (ht.started ?_)
    simp only [Life.Going, reduceCtorEq, false_or] at hg
    exact .inr hg
  | closed s hk hx =>
    obtain ⟨ha, hlt⟩ := hx.alive hr
    refine ht.fire hlt.not_ge ha (by simp [hk]) (by simp) fun hg => .inr (ht.started ?_)
    simp only [Life.Going, reduceCtorEq, false_or] at hg
    exact .inr hg

theorem step_telling {q : List Label} (h : (outline σ).step x q w w') (hr : Ready w x)
    (ht : Telling u w) : Telling u w' := by
  obtain ⟨l, hl, hv⟩ := step_evolved (u := u) h
  have htale := hv.tale hr ht
  unfold Telling
  rw [statuses_append hl]
  exact { htale with born := fun hb => htale.born ((outline_step_later h).slotCount.trans hb) }

theorem enter_telling {l : Label} {o : Multiset (Site Karo)} (h : Enters σ x w l w')
    (ha : Fires σ w o (.enter x.task x.path l)) (hr : Ready w x) (hk : Known w' (x.path ++ [l]))
    (ht : Telling u w) : Telling u w' := by
  obtain ⟨m, hm, hv⟩ := h.started (u := u)
  have hcount := (outlined.enter h).slotCount
  suffices Tale (w'.life u) (told m ++ statuses u w.log) (w'.subs.slotCount ≤ u) by
    unfold Telling
    rwa [statuses_append hm]
  have ht' : Tale (w.life u) (statuses u w.log) (w'.subs.slotCount ≤ u) :=
    { ht with born := fun hb => ht.born (hcount.trans hb) }
  generalize w'.life u = v at hv ⊢
  cases hv with
  | kept | acknowledged => exact ht'
  | registered rid since hs =>
    obtain ⟨halive, hpaused⟩ : (w.life u).state ≠ .closed ∧
      ((w.life u).state = .paused → Tells .started (statuses u w.log)) := ha
    refine ⟨ht.formed, fun _ => ht.alive halive, fun hg => ?_, fun hb => ⟨rfl, (ht'.born hb).2⟩⟩
    rcases hg with hg | hg | hg | hg | hg
    · cases hg
    · simp only [Bool.or_eq_true, decide_eq_true_eq, Bool.and_eq_true] at hg
      rcases hg with hp | ⟨he, -⟩
      · exact hpaused hp
      · exact ht.started (.inr (.inr (.inl he)))
    · exact ht.started (.inr (.inr (.inl hg)))
    · rcases hs with rfl | ⟨-, hl, -⟩
      · exact absurd rfl hg
      · exact ht.started (.inr (.inr (.inr (.inr hl.ne'))))
    · exact ht.started (.inr (.inr (.inr (.inr hg))))
  | unsendable s hs =>
    have halive : (w.life u).state ≠ .closed := ha
    have hlt : u < w'.subs.slotCount := hk (.unsendable u) (by simp) u (by simp [Label.slots])
    refine ht'.fire hlt.not_ge halive (by simp [hs]) (by simp) fun hg => .inr (ht.started ?_)
    simp only [Life.Going, reduceCtorEq, false_or] at hg
    exact .inr hg
  | closed s hs hx =>
    obtain ⟨⟨topic, hreg⟩, halive⟩ := hx
    have hlt := (hr.enrolled topic u hreg).1
    refine ht'.fire (hlt.trans_le hcount).not_ge halive (by simp [hs]) (by simp) fun hg =>
      .inr (ht.started ?_)
    simp only [Life.Going, reduceCtorEq, false_or] at hg
    exact .inr hg
  | created v m hu hv hl =>
    -- the slot is new
    have hlt : u < w'.subs.slotCount := by
      cases h with
      | subscribe topic hz hp =>
        rw [hu, (Created.beginSubscribe (σ := σ) (w := w)).slotCount]
        exact Nat.lt_succ_self _
    have hempty := (ht.born hu.ge).2
    have hnot : v.state ≠ .active → ¬v.Going := by
      simp [Life.Going, hv]
    rw [hempty]
    rcases hl with ⟨hs, rfl⟩ | ⟨hs, s, hk, rfl⟩
    · refine ⟨trivial, fun _ => ?_, fun hg => absurd hg (hnot (by simp [hs])), fun hb => absurd hb hlt.not_ge⟩
      rintro ⟨_, hm, -⟩
      cases hm
    · refine ⟨⟨?_, by simp [hk], trivial⟩, fun h => absurd hs h,
        fun hg => absurd hg (hnot (by simp [hs])), fun hb => absurd hb hlt.not_ge⟩
      rintro ⟨_, hm, -⟩
      cases hm

/-! ### Runs -/

theorem Tells.later {k : StreamStatusKind} (h : Tells k (statuses u w.log)) (hw : Later w w') :
    Tells k (statuses u w'.log) := by
  obtain ⟨l, hl⟩ := hw.log
  have ht : trail u w'.log = trail u l ++ trail u w.log := by
    unfold trail
    rw [hl, List.filter_append]
  rw [statuses_append ht]
  exact h.append _

theorem Unmoved.telling (h : Unmoved u w w') (hw : Later w w') (ht : Telling u w) : Telling u w' := by
  unfold Telling statuses
  rw [h.life, h.trail]
  exact { ht with born := fun hb => ht.born (hw.slotCount.trans hb) }

/-- A site in a drain is about a slot that has been started. -/
def BegunAt (w : World) (s : Site Karo) : Prop :=
  ∀ u phase ep push, s.path = [.handleSubscribeAck u phase ep] → s.op = .callback u push →
    Tells .started (statuses u w.log)

/-- The streams of all slots are as they should be. -/
structure Reporting (w : World) (r : Option (Running Karo)) (o : Multiset (Site Karo)) : Prop where
  telling : ∀ u, Telling u w
  running : ∀ x, r = some x → Begun w x
  suspended : ∀ s ∈ o, BegunAt w s

/-- What the tasks may rely on. -/
abbrev Relying : Invariant Karo :=
  Invariant.and (Invariant.and (Invariant.and Enrolling (Looking World.Alive)) Drawing) Knowing

theorem relying_kept : Keeps (outline σ) (Fires σ) .trivial Relying := by
  have hlooked : Keeps (outline σ) (Fires σ) .trivial (Invariant.and Enrolling (Looking World.Alive)) :=
    (looked_kept alive_relied).mono fun _ _ _ => Fires.looks
  have hdrawing : Keeps (outline σ) (Fires σ) Enrolling Drawing :=
    drawing_kept.mono fun _ _ _ => Fires.drains
  exact (hlooked.and (hdrawing.under fun h => h.1)).and (knowing_kept.under fun h => h.1.1)

theorem Relying.ready {o : Multiset (Site Karo)} (h : Relying w (some x) o) (hb : Begun w x) :
    Ready w x :=
  ⟨h.1.1.1.enrolled, (h.1.1.1.running x rfl).2, h.1.1.2 x rfl, h.1.2 x rfl, h.2.running x rfl, hb⟩

theorem begun_later {o : Multiset (Site Karo)} (hw : Later w w') (h : ∀ s ∈ o, BegunAt w s) :
    ∀ s ∈ o, BegunAt w' s :=
  fun s hs u phase ep push hp ho => (h s hs u phase ep push hp ho).later hw

theorem reporting_kept : Keeps (outline σ) (Fires σ) Relying Reporting where
  step := by
    rintro x q w w' o hk ⟨ht, hx, hs⟩ h -
    have hl := outline_step_later h
    refine ⟨fun u => step_telling h (hk.ready (hx x rfl)) (ht u), ?_, begun_later hl hs⟩
    rintro y ⟨rfl⟩ t u phase ep push r hg
    exact (hx x rfl t u phase ep push r hg).later hl
  enter := by
    rintro x l w w' o hk ⟨ht, hx, hs⟩ ha h hk'
    refine ⟨fun u => enter_telling h ha (hk.ready (hx x rfl)) (hk'.2.running _ rfl) (ht u), ?_,
      begun_later (outlined.enter h) hs⟩
    rintro y ⟨rfl⟩ _ _ _ _ _ _ hg
    cases hg
  wait := by
    rintro x op w o hk ⟨ht, hx, hs⟩ h -
    refine ⟨ht, by simp, fun s hm => ?_⟩
    rcases Multiset.mem_cons.mp hm with rfl | hm
    · intro u phase ep push hp ho
      obtain rfl : op = .callback u push := ho
      have hp : x.path = [.handleSubscribeAck u phase ep] := hp
      cases h with
      | closing q c hp' hop => simp at hop
      | beating hp' hop => simp at hop
      | idling hp' hop => simp at hop
      | callback _ _ hd =>
        rcases hd with hp' | ⟨-, hd⟩
        · simp [hp] at hp'
        · exact Drains.started hd (hk.ready (hx x rfl)) (ht u) ⟨phase, ep, hp⟩
    · exact hs s hm
  resume := by
    rintro s r w o - ⟨ht, -, hs⟩ - - -
    have hl : Later w ((robot σ).resume s.task s.op r w) := resume_later
    refine ⟨fun u => resume_unmoved.telling hl (ht u), ?_,
      fun y hy => begun_later hl hs y (Multiset.mem_cons_of_mem hy)⟩
    rintro ⟨t, p, a⟩ hy t' u phase ep push r' hg
    obtain ⟨rfl, rfl, rfl⟩ := Running.mk.inj (Option.some.inj hy)
    obtain ⟨rfl, rfl⟩ := Since.answered.inj hg
    exact begun_later hl hs _ (Multiset.mem_cons_self _ o) u phase ep push rfl rfl
  start := by
    rintro t q w o - ⟨ht, -, hs⟩ - - -
    refine ⟨fun u => start_unmoved.telling begin_later (ht u), ?_, begun_later begin_later hs⟩
    rintro y ⟨rfl⟩ _ _ _ _ _ _ hg
    cases hg
  finish := by
    rintro x r w o - ⟨ht, -, hs⟩ - -
    exact ⟨fun u => finish_unmoved.telling finish_later (ht u), by simp, begun_later finish_later hs⟩
  env := by
    rintro e w w' o - ⟨ht, -, hs⟩ - h -
    have hl := env_later h
    exact ⟨fun u => (env_unmoved h).telling hl (ht u), by simp, begun_later hl hs⟩

/-- The invariant of the status streams. -/
abbrev Reported : Invariant Karo := Invariant.and Relying Reporting

theorem reported_kept : Keeps (outline σ) (Fires σ) .trivial Reported :=
  relying_kept.and reporting_kept

theorem reported_initial {clock : Clock} : Reported (initial clock).world none 0 := by
  refine ⟨⟨⟨looked_initial, by rintro x ⟨⟩⟩, by simp, by simp⟩, fun u => ?_, by simp, by simp⟩
  have hv : (initial clock).world.life u = ⟨.telemetry, .pending, .ok, 0, 0, false, false, []⟩ := rfl
  refine ⟨trivial, fun _ => ?_, fun hg => ?_, fun _ => ⟨rfl, rfl⟩⟩
  · rintro ⟨_, hm, -⟩
    cases hm
  · simp [Life.Going, hv] at hg

/-! ### After `CLOSED` -/

/-- A closed slot stays closed with its error code, and fires nothing. -/
structure Settles (u : SlotId) (w w' : World) : Prop where
  slotCount : w.subs.slotCount ≤ w'.subs.slotCount
  closed : u < w.subs.slotCount → (w.life u).state = .closed → (w'.life u).state = .closed ∧
    (w'.life u).errorCode = (w.life u).errorCode ∧ statuses u w'.log = statuses u w.log

theorem Settles.refl : Settles u w w := ⟨le_rfl, fun _ h => ⟨h, rfl, rfl⟩⟩

theorem Settles.trans {v : World} (h : Settles u w v) (h' : Settles u v w') : Settles u w w' where
  slotCount := h.slotCount.trans h'.slotCount
  closed := fun hlt hc => by
    obtain ⟨hc₁, he₁, hs₁⟩ := h.closed hlt hc
    obtain ⟨hc₂, he₂, hs₂⟩ := h'.closed (hlt.trans_le h.slotCount) hc₁
    exact ⟨hc₂, he₂.trans he₁, hs₂.trans hs₁⟩

theorem Unmoved.settles (h : Unmoved u w w') (hl : Later w w') : Settles u w w' where
  slotCount := hl.slotCount
  closed := fun _ hc => ⟨by rw [h.life, hc], by rw [h.life], by rw [statuses, h.trail, statuses]⟩

theorem step_settles {q : List Label} (h : (outline σ).step x q w w') (hr : Ready w x) :
    Settles u w w' where
  slotCount := (outline_step_later h).slotCount
  closed := by
    intro hlt hc
    obtain ⟨l, hl, hv⟩ := step_evolved (u := u) h
    rw [statuses_append hl]
    generalize w'.life u = v at hv ⊢
    cases hv with
    | kept | retyped | skipped | startedAfresh | acked | dispatched | buffered => exact ⟨hc, rfl, rfl⟩
    | closed s hk hx => exact absurd hc (hx.alive hr).1
    | paused s hk hreg hs => simp [hc] at hs
    | activated n kind gap resp hx hlog hacc hreg =>
      obtain ⟨topic, hreg⟩ := hreg
      exact absurd hc (hr.enrolled topic u hreg).2.2
    | accepted push n gap b l hx hb hcheck =>
      exfalso
      rcases hx with ha | ⟨phase, ep, hp, hm, p, r, hg, hr'⟩
      · rw [hc] at ha
        cases ha
      · rcases hr.draws x.task u phase ep p r (by rw [hg, hp]) hr' with hp' | ⟨-, hex⟩
        · simp [hp] at hp'
        · exact hex hc push hm n gap hcheck

theorem enter_settles {l : Label} {o : Multiset (Site Karo)} (h : Enters σ x w l w')
    (ha : Fires σ w o (.enter x.task x.path l)) : Settles u w w' where
  slotCount := (outlined.enter h).slotCount
  closed := by
    intro hlt hc
    obtain ⟨m, hm, hv⟩ := h.started (u := u)
    rw [statuses_append hm]
    generalize w'.life u = v at hv ⊢
    cases hv with
    | kept | acknowledged => exact ⟨hc, rfl, rfl⟩
    | registered rid since hs => exact absurd hc ha.1
    | unsendable s hk => exact absurd hc ha
    | closed s hk hx => exact absurd hc hx.2
    | created v l hu => exact absurd hu hlt.ne

theorem settles_guaranteed : Guarantees (outline σ) (Fires σ) Reported
    fun _ w w' => ∀ u, Settles u w w' where
  refl := fun _ _ _ => .refl
  step := fun hk _ hs _ => step_settles hs (hk.1.ready (hk.2.running _ rfl))
  enter := fun _ ha hen _ => enter_settles hen ha
  start := fun _ _ => start_unmoved.settles outlined.begun
  resume := fun _ => resume_unmoved.settles outlined.resume
  finish := fun _ _ _ => finish_unmoved.settles outlined.finish
  env := fun he _ => (env_unmoved he).settles (outlined.env he)

/-- **Status streams are well formed**: in every run in which the code goes on with
open slots only, and asks for paused slots only that have been started, nothing is
fired after `CLOSED`, the error code stays, and `RESUMED` and `GAP` come after
`STARTED`. -/
theorem statuses_wellFormed {clock : Clock} {c d : Config Karo}
    (hc : Run (robot σ) (Fires σ) (initial clock) c) (hd : Run (robot σ) (Fires σ) c d) :
    ∀ u < c.world.subs.slotCount, WellFormed (statuses u c.world.log) ∧
      (Tells .closed (statuses u c.world.log) →
        statuses u d.world.log = statuses u c.world.log ∧
        (d.world.subs.slots u).errorCode = (c.world.subs.slots u).errorCode) := by
  have hc := outlined.traced_run reported_kept (.initial reported_initial) hc
  have htell : ∀ u, Telling u c.world := by
    rcases hr : c.running with - | ⟨t, k⟩
    · exact (hc.idle hr).2.telling
    · obtain ⟨x, -, hx, -⟩ := hc.running t k hr
      exact hx.2.telling
  have hrel : ∀ u, Settles u c.world d.world :=
    settles_guaranteed.along outlined reported_kept (fun _ _ => .refl)
      (fun h h' u => (h u).trans (h' u)) id hc hd
  intro u hlt
  refine ⟨(htell u).formed, fun hclosed => ?_⟩
  have hs : (c.world.life u).state = .closed := by
    by_contra hne
    exact (htell u).alive hne hclosed
  obtain ⟨-, he, hst⟩ := (hrel u).closed hlt hs
  exact ⟨hst, he⟩

theorem statuses_wellFormed_unsubscribed : ∃ c d : Config Karo,
    Run (robot .plain) (Fires .plain) (initial ⟨0, 0⟩) c ∧ Run (robot .plain) (Fires .plain) c d ∧
    (statuses 0 c.world.log).map StreamStatus.kind = [.closed, .started] ∧
    WellFormed (statuses 0 c.world.log) ∧ statuses 0 d.world.log = statuses 0 c.world.log := by
  let ok : Check (robot .plain) := .of
    (fun w s _ => !s.op.inCallback && s.path.all fun l => l.lookedUp.all fun u => (w.life u).state ≠ .closed)
    fun w l => l.slots.all fun u => (w.life u).state = .pending
  have hok : ∀ w o a, ok.allows w o a → Fires .plain w o a := by
    intro w o a h
    cases a with
    | enter t q l =>
      cases l with
      | subscribing s rid =>
        have hs : (w.life s).state = .pending := by simpa [ok, Label.slots] using h
        refine ⟨?_, fun hp => ?_⟩ <;> simp_all
      | unsendable s =>
        have hs : (w.life s).state = .pending := by simpa [ok, Label.slots] using h
        show (w.life s).state ≠ .closed
        simp [hs]
      | _ => trivial
    | resume s r =>
      obtain ⟨hop, hpath⟩ : s.op.inCallback = false ∧
          ∀ l ∈ s.path, l.lookedUp.all (fun u => (w.life u).state ≠ .closed) = true := by
        simpa [ok] using h
      refine ⟨fun u phase ep push _ ho => ?_, fun topic u hm _ => ?_⟩
      · simp [ho, Op.inCallback] at hop
      · simpa [Label.lookedUp, World.Alive] using hpath _ hm
    | _ => trivial
  have hplay : (Sys.playChecked ok 8 (subscribedEarly ++ [
        .resume 2 (.ok (.inbound (.frame 0
          (some { requestId := 2, success := true, hasSubscribe := true, subAccepted := true }) none))),
        .env (.call (.unsubscribe 0)), .start 6, .resume 6 (.ok .done), .env (.fireTimer 3),
        .resume 6 (.ok .done)]) (initial ⟨0, 0⟩)).any (fun c =>
      c.world.subs.slotCount = 1 &&
        (statuses 0 c.world.log).map StreamStatus.kind = [.closed, .started] &&
        (Sys.playChecked ok 4 [.resume 2 (.ok (.inbound (.frame 0 none
          (some { topic := "robot.state", seq := 3 }))))] c).isSome) = true := by decide +kernel
  obtain ⟨c, hc, hs⟩ := (Option.any_eq_true _ _).mp hplay
  simp only [Bool.and_eq_true, decide_eq_true_eq, Option.isSome_iff_exists] at hs
  obtain ⟨⟨hn, hk⟩, d, hd⟩ := hs
  have hc := (playChecked_run ok hc).mono hok
  have hd := (playChecked_run ok hd).mono hok
  obtain ⟨hform, hafter⟩ := statuses_wellFormed hc hd 0 (by rw [hn]; exact one_pos)
  refine ⟨c, d, hc, hd, hk, hform, (hafter ?_).1⟩
  obtain ⟨s, hs, hks⟩ := List.mem_map.mp (show StreamStatusKind.closed ∈
    (statuses 0 c.world.log).map StreamStatus.kind by simp [hk])
  exact ⟨s, hs, hks⟩

/-- Two calls of `unsubscribe()` on one handle time out. -/
def unsubscribedBoth : List (Cmd (robot .plain)) :=
  subscribedEarly ++
  [.env (.call (.unsubscribe 0)), .start 6, .resume 6 (.ok .done),
    .env (.call (.unsubscribe 0)), .start 7, .resume 7 (.ok .done), .env (.fireTimer 3),
    .env (.fireTimer 4), .resume 6 (.ok .done), .resume 7 (.ok .done)]

theorem closed_fired_twice : ∃ c : Config Karo, Reaches (robot .plain) (initial ⟨0, 0⟩) c ∧
    0 < c.world.subs.slotCount ∧
    (statuses 0 c.world.log).map StreamStatus.kind = [.closed, .closed] ∧
    ¬WellFormed (statuses 0 c.world.log) := by
  have hplay : ((robot .plain).play 4 unsubscribedBoth (initial ⟨0, 0⟩)).any (fun c =>
      0 < c.world.subs.slotCount &&
        (statuses 0 c.world.log).map StreamStatus.kind = [.closed, .closed]) = true := by
    decide +kernel
  obtain ⟨c, hc, hs⟩ := (Option.any_eq_true _ _).mp hplay
  simp only [Bool.and_eq_true, decide_eq_true_eq] at hs
  obtain ⟨hn, hk⟩ := hs
  refine ⟨c, play_run hc, hn, hk, ?_⟩
  generalize statuses 0 c.world.log = l at hk ⊢
  obtain ⟨s, l, rfl, -, hl⟩ := List.map_eq_cons_iff.mp hk
  obtain ⟨s', l', rfl, hk', -⟩ := List.map_eq_cons_iff.mp hl
  rintro ⟨hnone, -⟩
  exact hnone ⟨s', List.mem_cons_self, hk'⟩

end KaroX2
