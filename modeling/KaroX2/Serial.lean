/-
KaroX2/Serial.lean

Who sends which command, which intent is recorded, and whose callbacks are invoked one after
the other.

Every command that is handed to a socket belongs to the errand of the task that hands it
over.  So the client makes the robot act on behalf of a public call only, and with the
arguments of this call.

The intent of the emergency stop comes from the last command that the robot has acknowledged:
as long as it is engaged, no release has been acknowledged since.

In the mode DISPATCHED only the worker of a slot invokes its callback, and a slot has one
worker at most, so no callback of a slot begins before the last one has returned.
-/
import KaroX2.Crew
import KaroX2.Walk.Errands
import KaroX2.Coop.Staging
import KaroX2.Delivery

namespace KaroX2

open Coop

variable {σ : Setup} {w w' : World} {clock : Clock} {c : Config Karo}

/-! ### The intent of the emergency stop -/

/-- The robot has acknowledged the command that engages the stop for the reason. -/
def Obs.Engages (reason : PyStr) : Obs → Prop
  | .answered _ cmd resp =>
    resp.rpcOk = true ∧ (ApiCall.emergencyStop true reason).sends cmd.payload
  | _ => False

/-- The robot has acknowledged a command that releases the stop. -/
def Obs.releases : Obs → Bool
  | .answered _ cmd resp => resp.rpcOk && cmd.releases
  | _ => false

/-- The stop was engaged for the reason, and no release has been acknowledged since. -/
def Engaged (reason : PyStr) : List Obs → Prop
  | [] => False
  | o :: log => o.Engages reason ∨ o.releases = false ∧ Engaged reason log

theorem engaged_stops {reason : PyStr} {log : List Obs} :
    Engaged reason (stops log) ↔ Engaged reason log := by
  induction log with
  | nil => exact Iff.rfl
  | cons o log ih =>
    by_cases ho : o.stops = true
    · rw [stops, List.filter_cons_of_pos ho]
      exact or_congr_right (and_congr_right fun _ => ih)
    · rw [stops, List.filter_cons_of_neg ho]
      -- the entry neither engages nor releases
      have hengages : ¬o.Engages reason := by
        intro h
        cases o with
        | answered c cmd resp =>
          obtain ⟨hok, hcmd : cmd.payload = _⟩ := h
          simp [Obs.stops, hok, hcmd, Payload.stops] at ho
        | _ => exact h
      have hreleases : o.releases = false := by
        cases o with
        | answered c cmd resp =>
          by_contra h
          obtain ⟨hok, hr⟩ : resp.rpcOk = true ∧ cmd.releases = true := by
            simpa [Obs.releases] using h
          have hcmd : cmd.payload.stops = true := by
            unfold SdkCommand.releases at hr
            split at hr
            · rename_i hp
              rw [hp]
              rfl
            · cases hr
          simp [Obs.stops, hok, hcmd] at ho
        | _ => rfl
      show Engaged reason (stops log) ↔ o.Engages reason ∨ o.releases = false ∧ _
      rw [ih, hreleases]
      simp [hengages]

/-- The intent is one that the robot has acknowledged. -/
def World.Acknowledged (w : World) : Prop :=
  w.estop.engaged = true → Engaged w.estop.reason w.log

theorem World.Acknowledged.moded (h : w.Acknowledged) (hw : w'.intent = w.intent) :
    w'.Acknowledged := by
  obtain ⟨hestop, hstops⟩ := Prod.mk.inj hw
  rw [World.Acknowledged, hestop, ← engaged_stops, hstops, engaged_stops]
  exact h

/-- Who releases the stop has an intent to record. -/
theorem Job.intends_releases {j : Job} {ws : WsId} {cmd : SdkCommand} {resp : DecodedResponse}
    (h : j.sends cmd.payload) (hr : (Obs.answered ws cmd resp).releases = true) :
    j.intends resp ≠ none := by
  obtain ⟨hok, hr⟩ : resp.rpcOk = true ∧ cmd.releases = true := by
    simpa [Obs.releases] using hr
  have hacts : cmd.payload.acts = true := by
    unfold SdkCommand.releases at hr
    unfold Payload.acts
    split at hr
    · rename_i hp
      rw [hp]
      exact hr
    · cases hr
  obtain ⟨call, rfl, hcall⟩ := Job.sends_acts h hacts
  unfold SdkCommand.releases at hr
  split at hr
  · rename_i hp
    rw [hp] at hcall
    cases call with
    | emergencyStop engage reason => simp [Job.intends, hok]
    | subscribe => obtain ⟨_, _, _, _, he⟩ := hcall; cases he
    | unsubscribe | ping => obtain ⟨_, he⟩ := hcall; cases he
    | cmdVel => obtain ⟨_, _, he⟩ := hcall; cases he
    | _ => cases hcall
  · cases hr

/-- What a job has to record is the intent of its call. -/
theorem Job.intends_some {j : Job} {resp : DecodedResponse} {engage : Bool} {reason : PyStr}
    (h : j.intends resp = some (engage, reason)) :
    j = .api (.emergencyStop engage reason) ∧ resp.rpcOk = true := by
  unfold Job.intends at h
  split at h
  · split at h
    · rename_i hok
      obtain ⟨rfl, rfl⟩ := Prod.mk.inj (Option.some.inj h)
      exact ⟨rfl, hok⟩
    · cases h
  · cases h

/-! ### The ledger of errands -/

variable (σ) in
/-- The job may be found suspended on the operation. -/
def Job.suspends (j : Job) : Op → Prop
  | .wsSend _ cmd => j.Encodes cmd
  | .callback s _ => j = .subWorker s ∨ (∃ c, j = .reader c) ∧ σ.opts.callbackMode = .inline
  | _ => True

variable (σ) in
/-- All tasks do their errands. -/
structure OnErrand (w : World) (ws : List (Site Karo × Errand)) (run : Option (TaskId × Errand)) :
    Prop where
  modes : ∀ s, (w.subs.slots s).callbackMode = .inline → σ.opts.callbackMode = .inline
  waiting : ∀ x ∈ ws, w.tasks.procOf x.1.task = some x.2.job ∧ x.2.job.suspends σ x.1.op ∧
    x.2.pending = none
  running : ∀ x, run = some x → w.tasks.procOf x.1 = some x.2.job
  intent : (∀ x, run = some x → x.2.pending = none) → w.Acknowledged
  pending : ∀ x, run = some x → ∀ reason, x.2.pending = some (true, reason) →
    ∃ o l, stops w.log = o :: l ∧ o.Engages reason

namespace OnErrand

variable {ws : List (Site Karo × Errand)} {run : Option (TaskId × Errand)} {t : TaskId}
  {g : Errand}

theorem later (h : OnErrand σ w ws run) (hw : Moded σ w w') (hl : Later w w') :
    OnErrand σ w' ws run where
  modes s hs := by
    rcases hw.modes s with he | he
    · exact h.modes s (he ▸ hs)
    · exact he.symm.trans hs
  waiting x hx := ⟨hl.proc _ _ (h.waiting x hx).1, (h.waiting x hx).2⟩
  running x hx := hl.proc _ _ (h.running x hx)
  intent hr := (h.intent hr).moded hw.intent
  pending x hx reason hp := by
    rw [show stops w'.log = stops w.log from congrArg Prod.snd hw.intent]
    exact h.pending x hx reason hp

/-- The running task has nothing to record. -/
theorem idle (h : OnErrand σ w ws (some (t, g))) (hg : g.pending = none) :
    OnErrand σ w ws none where
  modes := h.modes
  waiting := h.waiting
  running := fun _ hx => by cases hx
  intent _ := h.intent fun x hx => by
    cases hx
    exact hg
  pending := fun _ hx => by cases hx

theorem waits {p : List Label} {op : Op} (h : OnErrand σ w ws (some (t, g)))
    (hg : g.pending = none) (hj : g.job.may op w) : OnErrand σ w ((⟨t, p, op⟩, g) :: ws) none := by
  refine { h.idle hg with waiting := ?_ }
  refine List.forall_mem_cons.mpr ⟨⟨h.running _ rfl, ?_, hg⟩, h.waiting⟩
  cases op with
  | wsSend _ cmd => exact hj
  | callback s push =>
    obtain ⟨j, pending⟩ := g
    cases j with
    | subWorker u =>
      obtain rfl : s = u := hj
      exact .inl rfl
    | reader c => exact .inr ⟨⟨c, rfl⟩, h.modes s hj⟩
    | _ => cases hj
  | _ => trivial

/-- A task goes on with nothing to record. -/
theorem goesOn (h : OnErrand σ w ws none) (ht : w.tasks.procOf t = some g.job)
    (hg : g.pending = none) : OnErrand σ w ws (some (t, g)) where
  modes := h.modes
  waiting := h.waiting
  running := fun x hx => by
    cases hx
    exact ht
  intent _ := h.intent fun _ hx => by cases hx
  pending := fun x hx reason hp => by
    cases hx
    rw [hg] at hp
    cases hp

/-- A response is taken. -/
theorem takes {c : WsId} {cmd : SdkCommand} {resp : DecodedResponse}
    (h : OnErrand σ w ws (some (t, g))) (hg : g.pending = none) (hs : g.job.sends cmd.payload) :
    OnErrand σ (w.push (.answered c cmd resp)) ws (some (t, ⟨g.job, g.job.intends resp⟩)) where
  modes := h.modes
  waiting := h.waiting
  running := fun x hx => by
    cases hx
    exact h.running (t, g) rfl
  intent hnone := by
    have hintends : g.job.intends resp = none := hnone _ rfl
    intro he
    refine .inr ⟨?_, (h.idle hg).intent (fun _ hx => by cases hx) he⟩
    by_contra hr
    exact Job.intends_releases hs (Bool.eq_true_of_not_eq_false hr) hintends
  pending := fun x hx reason hp => by
    cases hx
    obtain ⟨hj, hok⟩ := Job.intends_some (j := g.job) hp
    have hcmd : (ApiCall.emergencyStop true reason).sends cmd.payload := by
      rw [hj] at hs
      exact hs
    refine ⟨.answered c cmd resp, stops w.log, ?_, hok, hcmd⟩
    refine List.filter_cons_of_pos ?_
    rw [Obs.stops, hok, show cmd.payload = _ from hcmd]
    rfl

/-- An intent is recorded. -/
theorem records {engage : Bool} {reason : PyStr} (h : OnErrand σ w ws (some (t, g)))
    (hg : g.pending = some (engage, reason)) :
    OnErrand σ (w.recordIntent engage reason) ws (some (t, ⟨g.job, none⟩)) where
  modes := h.modes
  waiting := h.waiting
  running := fun x hx => by
    cases hx
    exact h.running (t, g) rfl
  intent _ := by
    intro (he : engage = true)
    subst he
    obtain ⟨o, l, hstops, ho⟩ := h.pending _ rfl reason hg
    rw [← engaged_stops]
    show Engaged reason (stops w.log)
    rw [hstops]
    exact .inl ho
  pending := fun x hx reason hp => by
    cases hx
    cases hp

end OnErrand

theorem Moded.env {e : EnvStep} (h : World.env e w = some w') : Moded σ w w' := by
  unfold World.env at h
  split at h
  · split at h
    · obtain rfl := Option.some.inj h
      exact .same rfl
    · cases h
  · split at h
    · obtain rfl := Option.some.inj h
      exact .same rfl
    · cases h
  · rename_i rid
    unfold World.fireTimer at h
    split at h
    · cases h
    · obtain rfl := Option.some.inj h
      have hfired : Moded σ w (w.cancelTimer rid) := .same rfl
      split
      · rename_i r _ _
        have hfree : Moded σ w ((w.cancelTimer rid).unregister r) := .same rfl
        exact hfree.trans .resolve
      · exact hfired
    · obtain rfl := Option.some.inj h
      exact .same rfl
  · split at h
    · obtain rfl := Option.some.inj h
      exact .same rfl
    · cases h
  · obtain rfl := Option.some.inj h
    exact .same rfl
  · split at h
    · obtain rfl := Option.some.inj h
      exact .same rfl
    · cases h
  · split at h
    · obtain rfl := Option.some.inj h
      unfold World.dropHandle
      dsimp only
      split
      · exact .setting rfl rfl
      · exact .setting rfl rfl
    · cases h

variable (σ) in
/-- The stage of a task is its job, and what it has to record. -/
def errandPlan : Plan Karo Errand where
  proto _ := errands σ
  begins _ p _ g := p.serves g.job ∧ g.pending = none
  ends _ g := g.pending = none

theorem errands_keeps : (errandPlan σ).Keeps (robot σ) (fun _ _ _ => True) Later (OnErrand σ) where
  body := by
    rintro t p w ⟨j, pending⟩ ⟨hp, rfl : pending = none⟩
    refine Coro.abides_mono ?_ (Errands.body hp w)
    rintro _ (e | p' | _) v ⟨rfl, hr⟩
    · exact rfl
    · exact ⟨hr _ rfl, rfl⟩
    · exact rfl
  env he hl h := h.later (.env he) hl
  start := by
    intro t p w ws hp _ h
    obtain ⟨y, hy, -, hrun⟩ := created_task hp
    have hproc : (w.tasks.begin t).procOf t = some y.proc :=
      Tasks.procOf_begin.trans (by rw [Tasks.procOf, hy]; rfl)
    have hbegun : OnErrand σ { w with tasks := w.tasks.begin t } ws none :=
      h.later (.same rfl) begin_later
    refine ⟨⟨y.proc, none⟩, ⟨?_, rfl⟩, hbegun.goesOn hproc rfl⟩
    rcases hrun with rfl | rfl
    · trivial
    · exact rfl
  resume := by
    intro s g r w l₁ l₂ _ _ hl h
    obtain ⟨ts, evt, he, -⟩ := resume_eq s.task s.op r w
    have hresumed : OnErrand σ (w.resume s.task s.op r) (l₁ ++ (s, g) :: l₂) none :=
      h.later (.same (by rw [he]; rfl)) hl
    obtain ⟨hproc, -, hnone⟩ := hresumed.waiting (s, g) (by simp)
    refine ⟨trivial, { hresumed with waiting := fun x hx => hresumed.waiting x ?_ }.goesOn hproc hnone⟩
    rcases List.mem_append.mp hx with hx | hx
    · exact List.mem_append_left _ hx
    · exact List.mem_append_right _ (List.mem_cons_of_mem _ hx)
  update := by
    rintro t g _ w w' ws (⟨rfl, hm⟩ | ⟨c, cmd, resp, rfl, hs, hg, rfl⟩ |
      ⟨engage, reason, hg, rfl, rfl⟩) hl h
    · exact h.later hm hl
    · exact h.takes hg hs
    · exact h.records hg
  wait := by
    rintro t p op g _ w ws ⟨rfl, hg, hj⟩ h
    exact h.waits hg hj
  finish := by
    intro t g r w ws hg hl h
    obtain ⟨l, ts, he, hroutine, -⟩ := finish_eq w t r
    have hended : Moded σ w (w.finish t r) := by
      rw [he]
      exact .same (Prod.ext rfl (Prod.ext rfl (LogGrows.stops_eq ⟨l, rfl, hroutine⟩)))
    exact (h.idle hg).later hended hl

/-- In every run all suspended tasks do their errands, and the intent is one that the robot
has acknowledged, unless a task is about to record another one. -/
theorem on_errand (h : Reaches (robot σ) (initial clock) c) :
    (∀ x ∈ c.waiting, ∃ j, c.world.tasks.procOf x.site.task = some j ∧
      j.suspends σ x.site.op) ∧ (c.running = none → c.world.Acknowledged) := by
  have hinitial : OnErrand σ (.init clock) [] none := by
    refine ⟨?_, fun _ hx => absurd hx List.not_mem_nil, (fun _ hx => by cases hx),
      fun _ he => ?_, (fun _ hx => by cases hx)⟩
    · intro s hs
      cases hs
    · cases he
  have hlater : ∀ c₁ a c₂, Reaches (robot σ) (initial clock) c₁ → Step (robot σ) c₁ a c₂ →
      Later c₁.world c₂.world := fun c₁ a c₂ hr hs =>
    (later_guaranteed (A := fun _ _ _ => True)).holds (outlined.traced_reaches hr) hs trivial
  obtain ⟨m, rfl, -, hm⟩ := errands_keeps.run hinitial hlater h
  refine ⟨fun x hx => ?_, fun hidle => hm.intent fun x hx => ?_⟩
  · obtain ⟨y, hy, rfl⟩ := List.mem_map.mp hx
    obtain ⟨hproc, hsuspends, -⟩ := hm.waiting (y.1.site, y.2) (List.mem_map.mpr ⟨y, hy, rfl⟩)
    exact ⟨y.2.job, hproc, hsuspends⟩
  · obtain ⟨y, hy, -⟩ := Option.map_eq_some_iff.mp hx
    have hnone : m.running = none := Option.map_eq_none_iff.mp hidle
    rw [hnone] at hy
    cases hy

/-! ### Commands -/

/-- `cmd_vel` hands its command to the socket. -/
theorem velocity_handed : ∃ c x, Reaches (robot .plain) (initial ⟨0, 0⟩) c ∧ x ∈ c.waiting ∧
    x.site.op = .wsSend 0 (encodeCmdVel 2 ⟨0⟩ ⟨0⟩ ⟨0⟩ 1 0) := by
  have hplay : ((robot .plain).play 4
      (connected ++ [.env (.call (.cmdVel ⟨0⟩ ⟨0⟩ ⟨0⟩)), .start 4]) (initial ⟨0, 0⟩)).any
      (fun c => c.waiting.any fun x =>
        x.site.op = .wsSend 0 (encodeCmdVel 2 ⟨0⟩ ⟨0⟩ ⟨0⟩ 1 0)) = true := by
    decide +kernel
  obtain ⟨c, hc, hs⟩ := (Option.any_eq_true _ _).mp hplay
  obtain ⟨x, hx, hop⟩ := List.any_eq_true.mp hs
  exact ⟨c, x, play_run hc, hx, of_decide_eq_true hop⟩

/-- **Callbacks are serial** in the mode DISPATCHED: of all tasks, one at most is suspended in
a callback of a slot. -/
theorem callbacks_serial (hσ : σ.opts.callbackMode = .dispatched)
    (h : Reaches (robot σ) (initial clock) c) {x y : Waiting Karo} (hx : x ∈ c.waiting)
    (hy : y ∈ c.waiting) {s : SlotId} {p q : DecodedTopicPush} (hxop : x.site.op = .callback s p)
    (hyop : y.site.op = .callback s q) : x.site = y.site := by
  have hworker : ∀ z ∈ c.waiting, ∀ r, z.site.op = .callback s r →
      c.world.tasks.procOf z.site.task = some (.subWorker s) := by
    intro z hz r hop
    obtain ⟨j, hj, hsuspends⟩ := (on_errand h).1 z hz
    rw [hop] at hsuspends
    rcases hsuspends with rfl | ⟨-, hinline⟩
    · exact hj
    · cases hσ.symm.trans hinline
  obtain ⟨r, hm⟩ := manned h
  have hcrew : ∀ z ∈ c.waiting, z.site ∈ c.sites :=
    fun z hz => Multiset.mem_coe.mpr (List.mem_map_of_mem hz)
  -- both are the worker that the slot names
  have hnamed : ∀ z ∈ c.waiting, ∀ r, z.site.op = .callback s r →
      (c.world.subs.slots s).dispatchWorker = some z.site.task := by
    intro z hz p hop
    refine hm.sole _ s (hworker z hz p hop) fun hf => ?_
    cases (hm.started _ (mem_crew (hcrew z hz))).symm.trans hf
  have htask : x.site.task = y.site.task :=
    Option.some.inj ((hnamed x hx p hxop).symm.trans (hnamed y hy q hyop))
  exact Multiset.inj_on_of_nodup_map hm.sites_distinct _ (hcrew x hx) _ (hcrew y hy) htask

/-- The worker of a subscription is in the callback of the first push. -/
theorem callbacks_serial_subscribed : ∃ c x push, Reaches (robot .plain) (initial ⟨0, 0⟩) c ∧
    x ∈ c.waiting ∧ x.site.op = .callback 0 push ∧
    ∀ y ∈ c.waiting, ∀ q, y.site.op = .callback 0 q → x.site = y.site := by
  obtain ⟨push, hpush⟩ : ∃ push : DecodedTopicPush, push = { topic := "robot.state", seq := 1 } :=
    ⟨_, rfl⟩
  have hplay : ((robot .plain).play 6 (subscribedEarly ++
      [.resume 2 (.ok (.inbound (.frame 0
          (some { requestId := 2, success := true, hasSubscribe := true, subAccepted := true })
          none))),
        .start 5, .resume 5 (.ok .done)]) (initial ⟨0, 0⟩)).any
      (fun c => c.waiting.any fun x => x.site.op = .callback 0 push) = true := by
    rw [hpush]
    decide +kernel
  obtain ⟨c, hc, hs⟩ := (Option.any_eq_true _ _).mp hplay
  obtain ⟨x, hx, hop⟩ := List.any_eq_true.mp hs
  have hop : x.site.op = .callback 0 push := of_decide_eq_true hop
  exact ⟨c, x, push, play_run hc, hx, hop,
    fun y hy q hyop => callbacks_serial rfl (play_run hc) hx hy hop hyop⟩

end KaroX2
