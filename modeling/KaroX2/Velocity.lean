/-
KaroX2/Velocity.lean

Velocity commands are sent once, at once, and not too often.

`handing` reads the frames of `cmd_vel` off a run: a call that has its number is about
to be suspended in the send.  Up to there the call runs without a suspension, so the
frame goes to the client that was installed when it was made; after it, nothing is sent
any more.  The frames of a run are numbered, belong to different calls, and keep the
spacing of the rate limit.
-/
import KaroX2.Steering
import KaroX2.RateLimit
import KaroX2.Coop.Emission
import KaroX2.Aging
import KaroX2.Coop.Spin

namespace KaroX2

open Coop

variable {σ : Setup} {w : World} {me t : TaskId} {g : Stage}

/-! ### A call of `cmd_vel` -/

/-- No more is said of a call that has ended. -/
def Over {α : Type} (_ : Stage) (_ : Except Exn α) (_ : World) : Prop := True

theorem steady_over {α : Type} {c : M α} {Q : α → Prop} (h : c.Steady steering g Q) :
    c.Abides steering Over g w := Coro.abides_mono (fun _ _ _ _ => trivial) (h w)

theorem cmdVelFailed_over {code : ErrorCode} {message : String} :
    (cmdVelFailed code message).Abides steering Over g w :=
  ⟨g, steering_quiet rfl rfl, trivial⟩

theorem cmdVelAnswered_over {t0 : ℚ} {resp : DecodedResponse} :
    (cmdVelAnswered t0 resp).Abides steering Over g w := by
  unfold cmdVelAnswered
  rw [Coro.abides_read_then]
  dsimp only
  split
  · exact ⟨g, steering_quiet rfl rfl, trivial⟩
  · trivial

/-- The frame of a numbered call is handed to the transport at once or not at all. -/
theorem sendRpcAndWait_over {rid : Nat} {method : String} {cmd : SdkCommand}
    (hready : w.conn.state = .ready) (hseq : cmd.velocity? = some w.stats.cmdvelSeq) :
    (sendRpcAndWait rid method cmd).Abides steering Over .numbered w := by
  unfold sendRpcAndWait
  rw [Coro.abides_read_then]
  refine Coro.abides_call (fun _ _ => steering_quiet rfl rfl) ?_
  split
  · trivial
  · rename_i c hws
    refine Coro.abides_modify_then (steering_quiet rfl rfl) ?_
    unfold wsSend
    rw [Coro.abides_bind, Coro.abides_read_then]
    split
    · rw [Coro.abides_attempt_then]
      refine ⟨.spent, .inr ⟨c, cmd, rfl, hseq, rfl, rfl, hready, hws⟩, fun r v _ => ?_⟩
      rcases r with e | rep
      · cases e with
        | cancelled => trivial
        | _ =>
          exact Coro.abides_modify_then (steering_quiet rfl rfl) trivial
      · refine Coro.abides_modify_then (steering_quiet rfl rfl) ?_
        exact steady_over (Still.aloof still_ambient.awaitResponse)
    · exact Coro.abides_modify_then (steering_quiet rfl rfl) trivial

theorem cmdVel_over {vx vy wz : PyFloat} : (cmdVel vx vy wz).Abides steering Over .fresh w := by
  refine Coro.abides_call (fun _ _ => steering_quiet rfl rfl) ?_
  rw [Coro.abides_read_then]
  split
  · exact cmdVelFailed_over
  · rename_i hready
    have hready : w.conn.state = .ready := not_not.mp hready
    refine Coro.abides_update_then (.inr (.inl ⟨rfl, rfl, rfl⟩)) ?_
    split
    · exact cmdVelFailed_over
    · rename_i hgranted
      rw [if_pos (Bool.eq_true_of_not_eq_false hgranted)]
      refine Coro.abides_modify_then (steering_quiet rfl rfl) ?_
      refine Coro.abides_update_then (steering_quiet rfl rfl) ?_
      refine Coro.abides_update_then (.inr (.inr ⟨rfl, rfl, rfl⟩)) ?_
      rw [Coro.abides_read_then, Coro.abides_attempt_then]
      refine Coro.abides_mono ?_ (sendRpcAndWait_over hready rfl)
      rintro g (e | resp) v -
      · cases e with
        | timeout => exact cmdVelFailed_over
        | sdk => exact cmdVelFailed_over
        | _ => trivial
      · exact cmdVelAnswered_over

/-- A task that goes on has nothing to do with the velocity any more. -/
def Exits (g : Stage) (r : Except Exn (Flow Karo)) (_ : World) : Prop :=
  ∀ p, r = .ok (.next p) → g = .spent ∧ Flow.aloof (.next p)

theorem body_aloof_exits {p : Proc} (h : Flow.aloof (.next p)) :
    (body σ t p).Abides steering Exits .spent w :=
  Coro.abides_mono (fun _ _ _ hr _ hp => ⟨hr.1, hr.2 _ hp⟩) (body_aloof h w)

theorem cmdVel_exits {vx vy wz : PyFloat} :
    (body σ t (.run (.api (.cmdVel vx vy wz)))).Abides steering Exits .fresh w := by
  show (returning t (.cmdVel <$> cmdVel vx vy wz)).Abides _ _ _ _
  unfold returning
  rw [Coro.abides_bind]
  show ((cmdVel vx vy wz) >>= fun a => pure (ApiResult.cmdVel a)).Abides _ _ _ _
  rw [Coro.abides_bind]
  refine Coro.abides_mono ?_ cmdVel_over
  rintro g (e | a) v -
  · exact fun _ hp => by cases hp
  · refine ⟨g, steering_quiet rfl rfl, fun _ hp => ?_⟩
    cases hp

/-! ### Frames -/

/-- A velocity command that was handed to a transport: by which task, to which client,
with which number, and the world then. -/
structure Handed where
  task : TaskId
  ws : WsId
  seq : Nat
  world : World

/-- The time of the frame. -/
abbrev Handed.time (h : Handed) : ℚ := h.world.clock.steady

/-- A velocity command is about to be handed to the transport. -/
def handing (c : Config Karo) : Option Handed :=
  match c.running with
  | some (t, .await _ (.wsSend ws cmd) _) => cmd.velocity?.map fun seq => ⟨t, ws, seq, c.world⟩
  | _ => none

/-- In a run from `c` the task was started for a call of `cmd_vel`, and the connection
was `conn` then. -/
def CalledAt (σ : Setup) (c : Config Karo) (t : TaskId) (conn : Conn) : Prop :=
  ∃ c₀ c₁ vx vy wz, Reaches (robot σ) c c₀ ∧
    Step (robot σ) c₀ (.start t (.run (.api (.cmdVel vx vy wz)))) c₁ ∧ c₀.world.conn = conn

/-- What holds of the world and the frames so far. -/
structure Tally (σ : Setup) (c : Config Karo) (l : List Handed) (w : World) : Prop where
  begun : ∀ h ∈ l, w.tasks.Begun h.task
  ready : ∀ h ∈ l, h.world.conn.state = .ready ∧ h.world.conn.ws = some h.ws
  called : ∀ h ∈ l, CalledAt σ c h.task h.world.conn
  seqs : l.Pairwise fun new old => old.seq < new.seq
  seq_le : ∀ h ∈ l, h.seq ≤ w.stats.cmdvelSeq
  tasks : l.Pairwise fun new old => old.task ≠ new.task
  spaced : l.Pairwise fun new old => old.time + 1 / 20 ≤ new.time
  bucket : ∃ accepted, Filled 20 accepted w.stats.cmdvelRate ∧
    ∀ h ∈ l, ∃ a, accepted = some a ∧ h.time ≤ a
  last : w.stats.cmdvelRate.last ≤ w.clock.steady

/-- What holds of a task at its stage. -/
structure Poised (σ : Setup) (c : Config Karo) (l : List Handed) (t : TaskId) (g : Stage)
    (w : World) : Prop where
  begun : w.tasks.Begun t
  called : g ≠ .spent → CalledAt σ c t w.conn
  unsent : g ≠ .spent → ∀ h ∈ l, h.task ≠ t
  granted : g = .granted ∨ g = .numbered →
    Filled 20 (some w.clock.steady) w.stats.cmdvelRate ∧ ∀ h ∈ l, h.time + 1 / 20 ≤ w.clock.steady
  numbered : g = .numbered → ∀ h ∈ l, h.seq < w.stats.cmdvelSeq

section Steps

variable {c₀ : Config Karo} {l : List Handed} {w' : World}

theorem velocity_eq (hv : w'.velocity = w.velocity) :
    w'.stats.cmdvelSeq = w.stats.cmdvelSeq ∧ w'.stats.cmdvelRate = w.stats.cmdvelRate ∧
      w'.clock = w.clock := by
  simpa [World.velocity] using hv

/-- Time passes, and nothing else happens. -/
theorem Tally.later (h : Tally σ c₀ l w) (ha : Ages w w')
    (hseq : w'.stats.cmdvelSeq = w.stats.cmdvelSeq)
    (hrate : w'.stats.cmdvelRate = w.stats.cmdvelRate)
    (hclock : w.clock.steady ≤ w'.clock.steady) : Tally σ c₀ l w' where
  begun := fun x hx => ha _ (h.begun x hx)
  ready := h.ready
  called := h.called
  seqs := h.seqs
  seq_le := fun x hx => (h.seq_le x hx).trans hseq.ge
  tasks := h.tasks
  spaced := h.spaced
  bucket := hrate ▸ h.bucket
  last := by
    rw [hrate]
    exact h.last.trans hclock

theorem Tally.same (h : Tally σ c₀ l w) (ha : Ages w w') (hv : w'.velocity = w.velocity) :
    Tally σ c₀ l w' := by
  obtain ⟨hseq, hrate, hclock⟩ := velocity_eq hv
  exact h.later ha hseq hrate (hclock ▸ le_rfl)

theorem Poised.same (h : Poised σ c₀ l t g w) (ha : Ages w w') (hv : w'.velocity = w.velocity)
    (hc : g ≠ .spent → w'.conn = w.conn) : Poised σ c₀ l t g w' := by
  obtain ⟨hseq, hrate, hclock⟩ := velocity_eq hv
  refine ⟨ha _ h.begun, fun hg => ?_, h.unsent, fun hg => ?_, fun hg => ?_⟩
  · rw [hc hg]
    exact h.called hg
  · rw [hrate, hclock]
    exact h.granted hg
  · rw [hseq]
    exact h.numbered hg

theorem Poised.spent (h : w.tasks.Begun t) : Poised σ c₀ l t .spent w :=
  ⟨h, fun hne => absurd rfl hne, fun hne => absurd rfl hne, nofun, nofun⟩

/-- What an update of the protocol keeps. -/
theorem update_keeps {g' : Stage} (h : Tally σ c₀ l w) (hp : Poised σ c₀ l t g w) (ha : Ages w w')
    (hu : steering.update g w w' g') : Tally σ c₀ l w' ∧ Poised σ c₀ l t g' w' := by
  rcases hu with ⟨hv, hc, rfl⟩ | ⟨rfl, rfl, rfl⟩ | ⟨rfl, rfl, rfl⟩
  · exact ⟨h.same ha hv, hp.same ha hv hc⟩
  · -- the rate limit
    -- the bucket behaves as one that remembers only when it accepted last
    obtain ⟨accepted, hfill, htimes⟩ := h.bucket
    have hhz : (0 : ℚ) < 20 := by norm_num
    have hrate : w.acquire.2.stats.cmdvelRate =
        (World.tryAcquire w.clock.steady w.stats.cmdvelRate).2 := rfl
    have hlast : w.acquire.2.stats.cmdvelRate.last ≤ w.acquire.2.clock.steady := by
      rw [hrate, tryAcquire_last]
      exact le_rfl
    -- accepted: the time of the last acceptance is now, and it is far enough from every frame
    -- rejected: the call is spent
    cases hok : w.acquire.1 with
    | true =>
      have hnew := hfill.onAccept hhz h.last hok
      have hspace := (hfill.accepts_iff hhz h.last).mp hok
      refine ⟨⟨h.begun, h.ready, h.called, h.seqs, h.seq_le, h.tasks, h.spaced, ⟨_, hnew, ?_⟩, hlast⟩,
        ⟨hp.begun, fun _ => hp.called nofun, fun _ => hp.unsent nofun, fun _ => ⟨hnew, ?_⟩, nofun⟩⟩
      · intro x hx
        obtain ⟨a, ha', hle⟩ := htimes x hx
        exact ⟨_, rfl, hle.trans ((hfill.before a ha').trans h.last)⟩
      · intro x hx
        obtain ⟨a, ha', hle⟩ := htimes x hx
        have := hspace a ha'
        show x.time + 1 / 20 ≤ w.clock.steady
        linarith
    | false =>
      have hnew := hfill.onReject hhz h.last hok
      exact ⟨⟨h.begun, h.ready, h.called, h.seqs, h.seq_le, h.tasks, h.spaced,
        ⟨_, hnew, htimes⟩, hlast⟩, .spent hp.begun⟩
  · -- the number
    refine ⟨⟨h.begun, h.ready, h.called, h.seqs, fun x hx => ?_, h.tasks, h.spaced, h.bucket,
      h.last⟩, ⟨hp.begun, fun _ => hp.called nofun, fun _ => hp.unsent nofun,
      fun _ => hp.granted (.inl rfl), fun _ x hx => ?_⟩⟩
    · exact (h.seq_le x hx).trans (Nat.le_succ _)
    · exact Nat.lt_succ_of_le (h.seq_le x hx)

/-- What handing over a frame keeps. -/
theorem hand_keeps {c : WsId} (h : Tally σ c₀ l w) (hp : Poised σ c₀ l t .numbered w)
    (hready : w.conn.state = .ready) (hws : w.conn.ws = some c) :
    Tally σ c₀ (⟨t, c, w.stats.cmdvelSeq, w⟩ :: l) w where
  begun := List.forall_mem_cons.mpr ⟨hp.begun, h.begun⟩
  ready := List.forall_mem_cons.mpr ⟨⟨hready, hws⟩, h.ready⟩
  called := List.forall_mem_cons.mpr ⟨hp.called nofun, h.called⟩
  seqs := List.pairwise_cons.mpr ⟨hp.numbered rfl, h.seqs⟩
  seq_le := List.forall_mem_cons.mpr ⟨le_rfl, h.seq_le⟩
  tasks := List.pairwise_cons.mpr ⟨hp.unsent nofun, h.tasks⟩
  spaced := List.pairwise_cons.mpr ⟨(hp.granted (.inr rfl)).2, h.spaced⟩
  bucket := by
    -- no time has passed since the bucket granted this frame
    obtain ⟨hfill, htimes⟩ := hp.granted (.inr rfl)
    refine ⟨_, hfill, List.forall_mem_cons.mpr ⟨⟨_, rfl, le_rfl⟩, fun x hx => ⟨_, rfl, ?_⟩⟩⟩
    have := htimes x hx
    linarith
  last := h.last

end Steps

/-! ### Runs -/

/-- What holds of a configuration and the frames so far. -/
structure Steered (σ : Setup) (c₀ : Config Karo) (l : List Handed) (c : Config Karo) : Prop where
  tally : Tally σ c₀ l c.world
  waiting : ∀ x ∈ c.waiting, ∀ r w, (x.k r).Abides steering Exits .spent w
  begun : ∀ x ∈ c.waiting, c.world.tasks.Begun x.site.task
  running : ∀ t k, c.running = some (t, k) →
    ∃ g, k.Abides steering Exits g c.world ∧ Poised σ c₀ l t g c.world

theorem resume_velocity {op : Op} {r : Except Exn Reply} :
    (w.resume t op r).velocity = w.velocity := by
  obtain ⟨ts, evt, h, -⟩ := resume_eq t op r w
  rw [h]
  rfl

theorem finish_velocity {r : Except Exn Unit} : (w.finish t r).velocity = w.velocity := by
  obtain ⟨l, ts, h, -⟩ := finish_eq w t r
  rw [h]
  rfl

/-- A created task is not one that has been started. -/
theorem created_not_begun {p : Proc} (h : w.createdProc t = some p) : ¬w.tasks.Begun t := by
  rintro ⟨x, hx, hs⟩
  obtain ⟨y, hy, hcreated, -⟩ := created_task h
  obtain rfl := Option.some.inj (hx.symm.trans hy)
  exact hs hcreated

theorem begin_begun {p : Proc} (h : w.createdProc t = some p) : (w.tasks.begin t).Begun t := by
  obtain ⟨x, hx, -⟩ := created_task h
  exact ⟨{ x with status := .started }, by simp [Tasks.begin, Tasks.get?_update, hx], nofun⟩

theorem steered_step {l : List Handed} {c₀ c d : Config Karo} {a : Action Karo (robot σ).Env}
    (h : Steered σ c₀ l c) (hr : Reaches (robot σ) c₀ c) (hs : Step (robot σ) c a d)
    (ha : Ages c.world d.world) : Steered σ c₀ ((handing c).toList ++ l) d := by
  obtain ⟨htally, hwaiting, hbegun, hrunning⟩ := h
  cases hs with
  | env e he =>
    refine ⟨?_, hwaiting, fun x hx => ha _ (hbegun x hx), nofun⟩
    rcases env_core he with hcore | ⟨seconds, epochMs, hpos, rfl⟩
    · exact htally.same ha (World.velocity_of_core hcore)
    · exact htally.later ha rfl rfl (le_add_of_nonneg_right hpos)
  | @start w ws t p hp =>
    refine ⟨htally.same ha rfl, hwaiting, fun x hx => ha _ (hbegun x hx), ?_⟩
    rintro _ _ ⟨⟩
    -- a task starts once, so no frame so far is its own
    have hnew : ∀ x ∈ l, x.task ≠ t := by
      rintro x hx rfl
      exact created_not_begun hp (htally.begun x hx)
    -- a velocity command is followed through its stages, everything else is spent at once
    by_cases hcall : Flow.aloof (.next p)
    · exact ⟨.spent, body_aloof_exits hcall, .spent (begin_begun hp)⟩
    · obtain ⟨vx, vy, wz, rfl⟩ : ∃ vx vy wz, p = .run (.api (.cmdVel vx vy wz)) := by
        unfold Flow.aloof at hcall
        split at hcall
        · rename_i heq
          cases heq
          exact ⟨_, _, _, rfl⟩
        · exact absurd trivial hcall
      have hcall : ∀ v, (body σ t (.run (.api (.cmdVel vx vy wz)))).Abides steering Exits .fresh v :=
        fun _ => cmdVel_exits
      refine ⟨.fresh, hcall _, begin_begun hp, fun _ => ?_, fun _ => hnew, ?_, nofun⟩
      · exact ⟨_, _, vx, vy, wz, hr, .start hp, rfl⟩
      rintro (hg | hg) <;> cases hg
  | @resume w l₁ l₂ x r hready =>
    have hx := List.mem_append_right l₁ (List.mem_cons_self (a := x) (l := l₂))
    have hsub : ∀ y ∈ l₁ ++ l₂, y ∈ l₁ ++ x :: l₂ := fun y hy => by
      rcases List.mem_append.mp hy with h | h
      · exact List.mem_append_left _ h
      · exact List.mem_append_right _ (List.mem_cons_of_mem _ h)
    refine ⟨htally.same ha resume_velocity, fun y hy => hwaiting y (hsub y hy),
      fun y hy => ha _ (hbegun y (hsub y hy)), ?_⟩
    rintro _ _ ⟨⟩
    -- what was suspended is spent: the only wait before the frame is its own hand-over
    exact ⟨.spent, hwaiting x hx r _, .spent (ha _ (hbegun x hx))⟩
  | @get w ws t k =>
    refine ⟨htally, hwaiting, hbegun, ?_⟩
    rintro _ _ ⟨⟩
    obtain ⟨g, hk, hp⟩ := hrunning t (.get k) rfl
    exact ⟨g, hk, hp⟩
  | @step w ws t p q w' k =>
    obtain ⟨g, ⟨g', hu, hk⟩, hp⟩ := hrunning t _ rfl
    obtain ⟨htally', hp'⟩ := update_keeps htally hp ha hu
    refine ⟨htally', hwaiting, fun x hx => ha _ (hbegun x hx), ?_⟩
    rintro _ _ ⟨⟩
    exact ⟨g', hk, hp'⟩
  | @enter w ws t p lab w' k =>
    obtain ⟨g, ⟨g', hu, hk⟩, hp⟩ := hrunning t _ rfl
    obtain ⟨htally', hp'⟩ := update_keeps htally hp ha hu
    refine ⟨htally', hwaiting, fun x hx => ha _ (hbegun x hx), ?_⟩
    rintro _ _ ⟨⟩
    exact ⟨g', hk, hp'⟩
  | @await w ws t p op k =>
    obtain ⟨g, ⟨g', hw, hk⟩, hp⟩ := hrunning t _ rfl
    -- a wait without a velocity frame, or the hand-over of one to the transport
    rcases hw with ⟨hno, rfl, rfl⟩ | ⟨c, cmd, rfl, hseq, rfl, rfl, hready, hws⟩
    · have hnone : handing ⟨w, ws, some (t, .await p op k)⟩ = none := by
        cases op with
        | wsSend c cmd =>
          show cmd.velocity?.map _ = none
          rw [show cmd.velocity? = none from hno, Option.map_none]
        | _ => rfl
      rw [hnone]
      exact ⟨htally, List.forall_mem_cons.mpr ⟨fun r v => hk r v trivial, hwaiting⟩,
        List.forall_mem_cons.mpr ⟨hp.begun, hbegun⟩, nofun⟩
    · have hsome : handing ⟨w, ws, some (t, .await p (.wsSend c cmd) k)⟩ =
          some ⟨t, c, w.stats.cmdvelSeq, w⟩ := by
        show cmd.velocity?.map _ = _
        rw [hseq, Option.map_some]
      rw [hsome]
      exact ⟨hand_keeps htally hp hready hws,
        List.forall_mem_cons.mpr ⟨fun r v => hk r v trivial, hwaiting⟩,
        List.forall_mem_cons.mpr ⟨hp.begun, hbegun⟩, nofun⟩
  | @next w ws t p =>
    obtain ⟨g, hk, hp⟩ := hrunning t _ rfl
    obtain ⟨rfl, haloof⟩ := hk p rfl
    refine ⟨htally, hwaiting, hbegun, ?_⟩
    rintro _ _ ⟨⟩
    exact ⟨.spent, body_aloof_exits haloof, .spent hp.begun⟩
  | done => exact ⟨htally.same ha finish_velocity, hwaiting, fun x hx => ha _ (hbegun x hx), nofun⟩
  | failed =>
    exact ⟨htally.same ha finish_velocity, hwaiting, fun x hx => ha _ (hbegun x hx), nofun⟩

theorem steered_initial (c₀ : Config Karo) (clock : Clock) :
    Steered σ c₀ [] (initial clock) where
  tally :=
    { begun := fun _ hx => absurd hx List.not_mem_nil
      ready := fun _ hx => absurd hx List.not_mem_nil
      called := fun _ hx => absurd hx List.not_mem_nil
      seqs := .nil
      seq_le := fun _ hx => absurd hx List.not_mem_nil
      tasks := .nil
      spaced := .nil
      bucket := ⟨none, .init, fun _ hx => absurd hx List.not_mem_nil⟩
      last := le_rfl }
  waiting := fun _ hx => absurd hx List.not_mem_nil
  begun := fun _ hx => absurd hx List.not_mem_nil
  running := by
    rintro _ _ ⟨⟩

/-- **The velocity is steered** in every run. -/
theorem steered {clock : Clock} {l : List Handed} {c : Config Karo}
    (h : Emits (robot σ) handing (initial clock) l c) :
    Steered σ (initial clock) l c := by
  refine h.invariant (I := Steered σ (initial clock)) (steered_initial _ clock) fun l d a e hr hI hs => ?_
  have htraced := outlined.traced_reaches hr
  exact steered_step hI hr hs (ages_guaranteed.holds htraced hs trivial)

/-! ### Velocity commands -/

/-- Outside `READY` a call ends at once. -/
theorem cmdVel_disconnected {vx vy wz : PyFloat} (h : w.conn.state ≠ .ready) :
    ∃ v, (body σ t (.run (.api (.cmdVel vx vy wz)))).segment w = (v, .ended (.ok .done)) ∧
      v.log = .returned t (.cmdVel ⟨false, .disconnected, "Robot is not Ready", 0⟩) :: w.log := by
  have hfailed : (cmdVel vx vy wz).segment w =
      (w.cmdVelStat RpcStat.failed, .ended (.ok ⟨false, .disconnected, "Robot is not Ready", 0⟩)) := by
    refine Coro.segment_call ?_
    show Coro.segment (S := Karo) (if w.conn.state ≠ .ready then _ else _) w = _
    rw [if_pos h]
    rfl
  refine ⟨_, Coro.segment_bind (Coro.segment_bind hfailed), rfl⟩

/-- The frames in a window are as many as their times. -/
theorem frames_filter (l : List Handed) (q : ℚ → Bool) :
    ((l.reverse.map Handed.time).filter q).length = (l.filter fun h => q h.time).length := by
  rw [List.filter_map, List.length_map, List.filter_reverse, List.length_reverse]
  rfl

/-- **The rate limit is a minimum spacing**, and bounds the frames in every window. -/
theorem cmd_vel_rate_limited (σ : Setup) (clock : Clock) :
    (∀ (hz t₀ : ℚ) (ts : List ℚ), 0 < hz → (t₀ :: ts).Pairwise (· ≤ ·) →
      acquireAll ⟨hz, 1, 1, t₀⟩ ts = spacing hz none ts ∧
      ∀ x T : ℚ, 0 ≤ T → (((acceptedAt ts (acquireAll ⟨hz, 1, 1, t₀⟩ ts)).filter
        fun a => x ≤ a ∧ a ≤ x + T).length : ℚ) ≤ 1 + hz * T) ∧
    ∀ l c, Emits (robot σ) handing (initial clock) l c → ∀ x T : ℚ, 0 ≤ T →
      ((l.filter fun h => x ≤ h.time ∧ h.time ≤ x + T).length : ℚ) ≤ 1 + 20 * T := by
  refine ⟨fun hz t₀ ts hhz hts => ?_, fun l c h x T hT => ?_⟩
  · have heq : acquireAll ⟨hz, 1, 1, t₀⟩ ts = spacing hz none ts := acquireAll_eq hhz .init hts
    refine ⟨heq, fun x T hT => ?_⟩
    rw [heq]
    exact spaced_window hhz hT (spacing_spaced hhz ts none).1
  · have hspaced : (l.reverse.map Handed.time).Pairwise fun a b => a + 1 / 20 ≤ b :=
      List.pairwise_map.mpr (List.pairwise_reverse.mpr (steered h).tally.spaced)
    -- every window of a well-spaced sequence has few members
    have hwindow := spaced_window (x := x) (by norm_num) hT hspaced
    rwa [frames_filter] at hwindow

end KaroX2
