/-
KaroX2/Waking.lean

No wake-up of `wait_until_ready` is lost.

All waiters share one event, which each of them clears before it looks at the state.
Between the two and the wait itself a waiter does not suspend, so it enlists only while
the state is not settled and the event is cleared.  The invariant has two parts: an event
that is set, and a state that is settled, have no waiters.  Both hold because the only way
in which the state moves, `_transition`, sets the event, and the only way in which a
waiter leaves the event other than by this is the end of its own wait; there each task
takes nobody but itself off the event, since a task is suspended once at a time.
-/
import KaroX2.Ambient
import KaroX2.Velocity
import KaroX2.Coop.Staging
import Mathlib.Data.Multiset.MapFold

namespace KaroX2

open Coop

variable {σ : Setup} {w w' : World} {t me : TaskId}

/-! ### Waiting and returning -/

/-- The states in which `wait_until_ready` returns. -/
def ConnectionState.settled (s : ConnectionState) : Bool := s = .ready || s.terminal

/-- What the entry of the history tells of `wait_until_ready`. -/
def Obs.readiness? : Obs → Option (TaskId × Bool)
  | .returned t r => r.readiness?.map fun b => (t, b)
  | _ => none

/-- What the calls of `wait_until_ready` have returned so far. -/
def World.readiness (w : World) : List (TaskId × Bool) := w.log.filterMap Obs.readiness?

/-- The result fits the state. -/
def ConnectionState.answers (s : ConnectionState) (b : Bool) : Prop :=
  (b = true → s = .ready) ∧ (b = false → s = .fatal ∨ s = .shutdown)

/-- What code that is not enlisted does to the state, the event, and the results of
`wait_until_ready`. -/
inductive Stirs (t : TaskId) (w w' : World) : Prop
  | drifts (hevent : w'.conn.state = w.conn.state ∧ w'.stateEvt = w.stateEvt ∨
      w'.stateEvt = w.stateEvt.set) (hlog : w'.readiness = w.readiness)
  | clears (hstate : w'.conn.state = w.conn.state)
      (hevent : w'.stateEvt = { w.stateEvt with flag := false }) (hlog : w'.readiness = w.readiness)
  | answers {b : Bool} (hstate : w'.conn.state = w.conn.state) (hevent : w'.stateEvt = w.stateEvt)
      (hfits : w.conn.state.answers b) (hlog : w'.readiness = (t, b) :: w.readiness)

/-- The protocol of the event; the stage says whether the task has enlisted. -/
def waking (t : TaskId) : Protocol Karo Bool where
  update g w w' g' := g = false ∧ g' = false ∧ Stirs t w w' ∨
    g = false ∧ g' = true ∧ w.stateEvt.flag = false ∧ w.conn.state.settled = false ∧
      w' = { w with stateEvt.waiters := w.stateEvt.waiters ++ [t] }
  wait g op _ g' := g' = false ∧ (op.watches = true → g = true)

/-- The plan of all tasks. -/
def wakings : Plan Karo Bool where
  proto := waking
  begins _ _ _ g := g = false
  ends _ _ := True

/-! ### The code keeps to the protocol -/

theorem readied_of_returns (h : returns w'.log = returns w.log) : w'.readiness = w.readiness := by
  have hfilter : ∀ log : List Obs, (returns log).filterMap Obs.readiness? =
      log.filterMap Obs.readiness? := by
    intro log
    rw [returns, List.filterMap_filter]
    congr
    funext o
    cases o <;> rfl
  rw [World.readiness, World.readiness, ← hfilter w'.log, ← hfilter w.log, h]

theorem waking_drifts (hevent : w'.conn.state = w.conn.state ∧ w'.stateEvt = w.stateEvt ∨
    w'.stateEvt = w.stateEvt.set) (hlog : w'.readiness = w.readiness) :
    (waking t).update false w w' false := .inl ⟨rfl, rfl, .drifts hevent hlog⟩

theorem waking_same (hstate : w'.conn.state = w.conn.state) (hevent : w'.stateEvt = w.stateEvt)
    (hlog : w'.log = w.log) : (waking t).update false w w' false :=
  waking_drifts (.inl ⟨hstate, hevent⟩) (congrArg (List.filterMap _) hlog)

theorem waking_ambient : Ambient (waking t) false where
  drift h := waking_drifts h.event (readied_of_returns h.returns)
  install _ := waking_drifts (.inl ⟨rfl, rfl⟩) rfl
  wait _ h := ⟨rfl, by simp [h]⟩

theorem waking_hangsUp {c : WsId} : HangsUp (waking t) false c where
  ended _ _ := waking_drifts (.inl ⟨rfl, rfl⟩) rfl
  latched _ := waking_same rfl rfl rfl
  fired _ := waking_drifts (.inl ⟨rfl, rfl⟩) rfl

theorem steady_wakings {c : M (Flow Karo)} {Q : Flow Karo → Prop}
    (h : c.Steady (waking t) false Q) : c.Abides (waking t) (wakings.exits t) false w := by
  refine Coro.abides_mono ?_ (h w)
  rintro g (e | p | -) v ⟨rfl, -⟩
  · trivial
  · rfl
  · trivial

theorem returning_waking {d : M ApiResult}
    (hd : d.Steady (waking t) false fun r => r.readiness? = none) :
    (returning me d).Steady (waking t) false fun _ => True := by
  refine hd.bind fun r hr => (Coro.Steady.modify fun w => ?_).andThen fun _ => .pure trivial
  -- the entry is not about `wait_until_ready`
  refine waking_drifts (.inl ⟨rfl, rfl⟩) (List.filterMap_cons_none ?_)
  simp [Obs.readiness?, hr]

/-- A round of the loop of `wait_until_ready`. -/
theorem waitUntilReady_wakings {timeout : Option ℚ} :
    (apiBody σ t (.waitUntilReady timeout)).Abides (waking t) (wakings.exits t) false w := by
  have hreturn : ∀ (b : Bool) (v : World), v.conn.state.answers b →
      (returning t (pure (.ready b))).Abides (waking t) (wakings.exits t) false v := by
    intro b v hfits
    exact Coro.abides_modify_then (.inl ⟨rfl, rfl, .answers rfl rfl hfits rfl⟩) trivial
  show (waitRound t timeout >>= _).Abides _ _ _ _
  rw [Coro.abides_bind]
  refine Coro.abides_modify_then (.inl ⟨rfl, rfl, .clears rfl rfl rfl⟩) ?_
  rw [Coro.abides_read_then]
  split
  · rename_i hready
    exact hreturn true _ ⟨fun _ => hready, nofun⟩
  · rename_i hready
    split
    · rename_i hterminal
      refine hreturn false _ ⟨nofun, fun _ => ?_⟩
      revert hterminal
      cases w.conn.state <;> simp [ConnectionState.terminal]
    -- the event has just been cleared, and the state is not settled
    · rename_i hterminal
      refine Coro.abides_modify_then (.inr ⟨rfl, rfl, rfl, ?_, rfl⟩) ?_
      · simpa [ConnectionState.settled] using ⟨hready, Bool.eq_false_of_not_eq_true hterminal⟩
      · refine ⟨false, ⟨rfl, fun _ => rfl⟩, fun r v _ => ?_⟩
        rcases r with e | rep
        · trivial
        · rfl

theorem apiBody_wakings {call : ApiCall} :
    (apiBody σ t call).Abides (waking t) (wakings.exits t) false w := by
  have hcall {β : Type} {f : β → ApiResult} {d : M β} (hf : ∀ b, (f b).readiness? = none)
      (hd : d.Steady (waking t) false fun _ => True) :
      (returning t (f <$> d)).Abides (waking t) (wakings.exits t) false w :=
    steady_wakings (returning_waking (hd.mono fun b _ => hf b).map)
  cases call with
  | waitUntilReady timeout => exact waitUntilReady_wakings
  | cmdVel vx vy wz =>
    refine hcall (fun _ => rfl) (waking_ambient.cmdVel ?_ ?_ ?_ ?_)
    · exact fun f w => waking_same rfl rfl rfl
    · exact fun w => waking_same rfl rfl rfl
    · exact fun w => waking_same rfl rfl rfl
    · exact fun c cmd w => ⟨rfl, nofun⟩
  | emergencyStop engage reason =>
    exact hcall (fun _ => rfl) (waking_ambient.emergencyStop fun f w => waking_same rfl rfl rfl)
  | ping => exact hcall (fun _ => rfl) (waking_ambient.ping fun f w => waking_same rfl rfl rfl)
  | _ => exact steady_wakings (waking_ambient.apiBody rfl fun d hd => returning_waking hd)

theorem body_wakings {p : Proc} :
    (body σ t p).Abides (waking t) (wakings.exits t) false w := by
  by_cases hp : Flow.ambient (.next p)
  · exact steady_wakings (waking_ambient.body hp fun _ _ => waking_hangsUp)
  · obtain ⟨call, rfl⟩ := Flow.call_of_not_ambient hp
    exact apiBody_wakings

/-! ### The event and its waiters -/

/-- What holds of the event, the state, and all tasks that wait or are about to. -/
structure Watched (w : World) (ws : List (Site Karo × Bool)) (run : Option (TaskId × Bool)) :
    Prop where
  flag : w.stateEvt.flag = true → w.stateEvt.waiters = []
  settled : w.conn.state.settled = true → w.stateEvt.waiters = []
  waiting : ∀ x ∈ ws, x.1.op.watches = true →
    x.1.task ∈ w.stateEvt.waiters ∨ x.1.task ∈ w.stateEvt.woken
  away : ∀ x ∈ ws, x.2 = false
  enlisted : ∀ t, run = some (t, true) → t ∈ w.stateEvt.waiters ∨ t ∈ w.stateEvt.woken

namespace Watched

variable {ws ws' : List (Site Karo × Bool)} {run run' : Option (TaskId × Bool)}

/-- Setting the event wakes all its waiters. -/
theorem mem_set {e : Event} (he : e.flag = true → e.waiters = [])
    (h : t ∈ e.waiters ∨ t ∈ e.woken) : t ∈ e.set.woken := by
  unfold Event.set
  split
  · rename_i hflag
    rw [he hflag] at h
    exact h.resolve_left List.not_mem_nil
  · exact List.mem_append.mpr h

theorem waiters_set {e : Event} (he : e.flag = true → e.waiters = []) : e.set.waiters = [] := by
  unfold Event.set
  split
  · rename_i hflag
    exact he hflag
  · rfl

/-- The state moves only together with the event. -/
theorem drifts (h : Watched w ws run) (hevent : w'.conn.state = w.conn.state ∧
    w'.stateEvt = w.stateEvt ∨ w'.stateEvt = w.stateEvt.set) (hws : ∀ x ∈ ws', x ∈ ws)
    (hrun : ∀ t, run' = some (t, true) → run = some (t, true)) : Watched w' ws' run' := by
  rcases hevent with ⟨hstate, hevent⟩ | hset
  · refine ⟨?_, ?_, fun x hx => ?_, fun x hx => h.away x (hws x hx), fun t ht => ?_⟩
    · rw [hevent]
      exact h.flag
    · rw [hstate, hevent]
      exact h.settled
    · rw [hevent]
      exact h.waiting x (hws x hx)
    · rw [hevent]
      exact h.enlisted t (hrun t ht)
  · refine ⟨fun _ => ?_, fun _ => ?_, fun x hx hop => .inr ?_, fun x hx => h.away x (hws x hx),
      fun t ht => .inr ?_⟩
    · rw [hset, waiters_set h.flag]
    · rw [hset, waiters_set h.flag]
    · rw [hset]
      exact mem_set h.flag (h.waiting x (hws x hx) hop)
    · rw [hset]
      exact mem_set h.flag (h.enlisted t (hrun t ht))

/-- The end of a wait takes the task off the event, and no other task. -/
theorem resume {s : Site Karo} {g : Bool} {r : Except Exn Reply}
    {l₁ l₂ : List (Site Karo × Bool)} (h : Watched w (l₁ ++ (s, g) :: l₂) none)
    (hdistinct : ∀ x ∈ l₁ ++ l₂, x.1.task ≠ s.task) :
    Watched (w.resume s.task s.op r) (l₁ ++ l₂) (some (s.task, g)) := by
  obtain rfl : g = false := h.away (s, g) (List.mem_append_right l₁ (List.mem_cons_self ..))
  have hmem : ∀ x ∈ l₁ ++ l₂, x ∈ l₁ ++ (s, false) :: l₂ := fun x hx =>
    ((List.sublist_cons_self (s, false) l₂).append_left l₁).subset hx
  by_cases hop : s.op.watches = true
  · obtain ⟨timeout, hop⟩ : ∃ timeout, s.op = .stateChanged timeout := by
      cases hs : s.op with
      | stateChanged timeout => exact ⟨timeout, rfl⟩
      | _ => rw [hs] at hop; cases hop
    have hevent : (w.resume s.task s.op r).stateEvt = { w.stateEvt with
        waiters := w.stateEvt.waiters.filter fun u => u ≠ s.task
        woken := w.stateEvt.woken.filter fun u => u ≠ s.task } := by
      rw [hop]
      unfold World.resume
      dsimp only
      split <;> rfl
    have hstate : (w.resume s.task s.op r).conn.state = w.conn.state := by
      obtain ⟨ts, evt, heq, -⟩ := resume_eq s.task s.op r w
      rw [heq]
    refine ⟨?_, ?_, fun x hx hxop => ?_, fun x hx => h.away x (hmem x hx), nofun⟩
    · rw [hevent]
      exact fun hflag => by simp [h.flag hflag]
    · rw [hstate, hevent]
      exact fun hsettled => by simp [h.settled hsettled]
    · rw [hevent]
      have hne := hdistinct x hx
      exact (h.waiting x (hmem x hx) hxop).imp (fun hw => List.mem_filter.mpr ⟨hw, by simpa⟩)
        fun hw => List.mem_filter.mpr ⟨hw, by simpa⟩
  -- other replies leave the event alone
  · refine h.drifts (.inl ?_) hmem nofun
    cases hs : s.op with
    | stateChanged timeout => exact absurd (by rw [hs]; rfl) hop
    | _ =>
      unfold World.resume
      dsimp only
      split <;> exact ⟨rfl, rfl⟩

theorem update {g g' : Bool} (h : Watched w ws (some (t, g)))
    (hu : (waking t).update g w w' g') : Watched w' ws (some (t, g')) := by
  rcases hu with ⟨rfl, rfl, hstirs⟩ | ⟨rfl, rfl, hflag, hsettled, rfl⟩
  · cases hstirs with
    | drifts hevent => exact h.drifts hevent (fun _ => id) nofun
    | clears hstate hevent =>
      refine ⟨?_, ?_, ?_, h.away, nofun⟩
      · rw [hevent]
        exact nofun
      · rw [hstate, hevent]
        exact h.settled
      · rw [hevent]
        exact h.waiting
    | answers hstate hevent => exact h.drifts (.inl ⟨hstate, hevent⟩) (fun _ => id) nofun
  -- the task enlists
  · refine ⟨fun hset => ?_, fun hset => ?_, fun x hx hop => ?_, h.away, ?_⟩
    · exact absurd (hset.symm.trans hflag) nofun
    · exact absurd (hset.symm.trans hsettled) nofun
    · exact (h.waiting x hx hop).imp_left (List.mem_append_left _)
    · rintro _ ⟨⟩
      exact .inl (List.mem_append_right _ (List.mem_singleton_self _))

theorem wait {p : List Label} {op : Op} {g g' : Bool} (h : Watched w ws (some (t, g)))
    (hw : (waking t).wait g op w g') : Watched w ((⟨t, p, op⟩, g') :: ws) none := by
  obtain ⟨rfl, hop⟩ := hw
  refine ⟨h.flag, h.settled, List.forall_mem_cons.mpr ⟨fun hwatch => ?_, h.waiting⟩,
    List.forall_mem_cons.mpr ⟨rfl, h.away⟩, nofun⟩
  -- who waits for the connection has enlisted
  obtain rfl := hop hwatch
  exact h.enlisted t rfl

theorem env {e : EnvStep} (h : Watched w ws none) (he : World.env e w = some w') :
    Watched w' ws none := by
  rcases Drift.env he with hd | ⟨seconds, epochMs, -, rfl⟩
  · exact h.drifts hd.event (fun _ => id) nofun
  · exact h.drifts (.inl ⟨rfl, rfl⟩) (fun _ => id) nofun

end Watched

/-! ### Runs -/

/-- A task is suspended once at a time. -/
def Distinct : Constraint (robot σ)
  | _, o, _ => (Multiset.map (fun s : Site Karo => s.task) o).Nodup

theorem watched_kept : wakings.Keeps (robot σ) Distinct (fun _ _ => True) Watched where
  body hbegins := by
    obtain rfl : _ = false := hbegins
    exact body_wakings
  env he _ h := h.env he
  start _ _ h := ⟨false, rfl, h.drifts (.inl ⟨rfl, rfl⟩) (fun _ => id) nofun⟩
  resume := by
    intro s g r w l₁ l₂ _ hdistinct _ h
    refine ⟨trivial, ?_⟩
    have hnodup : (((l₁ ++ (s, g) :: l₂).map Prod.fst).map fun x => x.task).Nodup :=
      Multiset.coe_nodup.mp (by simpa [Distinct] using hdistinct)
    rw [List.map_map, List.map_append, List.map_cons, List.nodup_middle, ← List.map_append] at hnodup
    have hne : ∀ x ∈ l₁ ++ l₂, x.1.task ≠ s.task := by
      intro x hx heq
      exact (List.nodup_cons.mp hnodup).1 (List.mem_map.mpr ⟨x, hx, heq⟩)
    exact h.resume hne
  update hu _ h := h.update hu
  wait hw h := h.wait hw
  finish _ _ h := h.drifts Drift.finish.event (fun _ => id) nofun

theorem watched_initial (clock : Clock) : Watched (.init clock) [] none :=
  ⟨fun _ => rfl, fun _ => rfl, fun _ hx => absurd hx List.not_mem_nil,
    fun _ hx => absurd hx List.not_mem_nil, nofun⟩

/-- The tasks that are under way differ in every run. -/
theorem actors_distinct {clock : Clock} {c : Config Karo}
    (h : Reaches (robot σ) (initial clock) c) : c.actors.Nodup := by
  let begun (w : World) (t : TaskId) : Prop := w.tasks.Begun t
  refine (Run.actors_nodup begun h ?_ ?_ rfl).1
  · exact fun w t p hp => ⟨created_not_begun hp, begin_begun hp⟩
  · exact fun c₁ a c₂ hr hs => ages_guaranteed.holds (outlined.traced_reaches hr) hs trivial

theorem reaches_distinct {clock : Clock} {c : Config Karo}
    (h : Reaches (robot σ) (initial clock) c) : Run (robot σ) Distinct (initial clock) c := by
  refine h.assuming (fun c₁ hr => actors_distinct hr) fun c₁ a hnodup _ => ?_
  have hwaiting := (List.nodup_append.mp hnodup).2.1
  simp only [Distinct, Config.sites, Multiset.map_coe, List.map_map]
  exact Multiset.coe_nodup.mpr hwaiting

/-- A step in which `wait_until_ready` returns, and all others. -/
theorem readied_step {m : Staged Karo Bool} (hm : wakings.Kept m)
    {a : Action Karo (robot σ).Env} {d : Config Karo} (hs : Step (robot σ) m.config a d) :
    d.world.readiness = m.world.readiness ∨
      ∃ t b, a.actor = some t ∧ d.world.readiness = (t, b) :: m.world.readiness ∧
        m.world.conn.state.answers b ∧ d.world.conn.state = m.world.conn.state := by
  -- what an update of the protocol adds to the results
  have hupdate : ∀ {t g g' w w'}, (waking t).update g w w' g' → w'.readiness = w.readiness ∨
      ∃ b, w'.readiness = (t, b) :: w.readiness ∧ w.conn.state.answers b ∧
        w'.conn.state = w.conn.state := by
    rintro t g g' w w' (⟨-, -, hstirs⟩ | ⟨-, -, -, -, rfl⟩)
    · cases hstirs with
      | drifts _ hlog => exact .inl hlog
      | clears _ _ hlog => exact .inl hlog
      | answers hstate _ hfits hlog => exact .inr ⟨_, hlog, hfits, hstate⟩
    · exact .inl rfl
  obtain ⟨c, hc⟩ : ∃ c, m.config = c := ⟨_, rfl⟩
  have hworld : m.world = c.world := congrArg Config.world hc
  rw [hc] at hs
  rw [hworld]
  cases hs with
  | env e he =>
    rcases Drift.env he with hd | ⟨seconds, epochMs, -, rfl⟩
    · exact .inl (readied_of_returns hd.returns)
    · exact .inl rfl
  | start => exact .inl rfl
  | @resume w l₁ l₂ x r =>
    obtain ⟨ts, evt, heq, -⟩ := resume_eq x.site.task x.site.op r w
    refine .inl ?_
    show (w.resume x.site.task x.site.op r).readiness = w.readiness
    rw [heq]
    rfl
  | get | await | next => exact .inl rfl
  | @step w ws t p q w' k =>
    obtain ⟨g, hg⟩ := Staged.running_eq (congrArg Config.running hc)
    obtain ⟨g', hu, -⟩ := hm.running t _ g hg
    rw [hworld] at hu
    exact (hupdate hu).imp_right fun ⟨b, h⟩ => ⟨t, b, rfl, h⟩
  | @enter w ws t p l w' k =>
    obtain ⟨g, hg⟩ := Staged.running_eq (congrArg Config.running hc)
    obtain ⟨g', hu, -⟩ := hm.running t _ g hg
    rw [hworld] at hu
    exact (hupdate hu).imp_right fun ⟨b, h⟩ => ⟨t, b, rfl, h⟩
  | done | failed => exact .inl (readied_of_returns Drift.finish.returns)

/-- Two calls wait for the connection, and the client is closed. -/
def closedUnderWaiters : List (Cmd (robot .plain)) :=
  [.env (.call (.waitUntilReady none)), .start 0, .env (.call (.waitUntilReady none)), .start 1,
    .env (.call .close), .start 2]

end KaroX2
