/-
KaroX2/Coop/Staging.lean

Invariants of the stages of all tasks.

A plan gives each task a protocol and says at which stage a body may begin and a task may
end.  What relates the world to the stages of all tasks holds in every run if the updates,
the suspensions and the replies of the protocols keep it, and so do the event loop and the
environment (`Plan.Keeps`).  No coroutine is looked at any more.
-/
import KaroX2.Coop.Protocol

namespace KaroX2.Coop

variable {S : Sig} {γ : Type}

/-! ### The tasks of a configuration -/

/-- The tasks that have been started and have not ended. -/
def Config.actors (c : Config S) : List TaskId :=
  (c.running.map Prod.fst).toList ++ c.waiting.map fun x => x.site.task

/-- A step changes their order, ends one of them, or starts one. -/
theorem Step.actors {sys : Sys S} {c d : Config S} {a : Action S sys.Env} (h : Step sys c a d) :
    d.actors.Subperm c.actors ∨ ∃ t p, sys.created c.world t = some p ∧
      d.world = sys.start t c.world ∧ d.actors = t :: c.actors := by
  cases h with
  | env | get | step | enter | await | next => exact .inl (List.Subperm.refl _)
  | start hp => exact .inr ⟨_, _, hp, rfl, rfl⟩
  | @resume w l₁ l₂ x r =>
    left
    show (x.site.task :: (l₁ ++ l₂).map fun y => y.site.task).Subperm
      ((l₁ ++ x :: l₂).map fun y => y.site.task)
    rw [List.map_append, List.map_append, List.map_cons]
    exact List.perm_middle.symm.subperm
  | done | failed => exact .inl (List.sublist_cons_self _ _).subperm

section Actors

variable {sys : Sys S} {C : Constraint sys}

/-- They differ if a task is started once only. -/
theorem Run.actors_nodup (begun : S.World → TaskId → Prop) {c d : Config S} (hr : Run sys C c d)
    (hnew : ∀ w t p, sys.created w t = some p → ¬begun w t ∧ begun (sys.start t w) t)
    (hold : ∀ c₁ a c₂, Run sys C c c₁ → Step sys c₁ a c₂ →
      ∀ t, begun c₁.world t → begun c₂.world t)
    (hc : c.actors = []) : d.actors.Nodup ∧ ∀ t ∈ d.actors, begun d.world t := by
  induction hr with
  | refl => simp [hc]
  | @tail c₁ c₂ hr hs ih =>
    obtain ⟨a, hs, -⟩ := hs
    obtain ⟨hnodup, hbegun⟩ := ih
    rcases hs.actors with hsub | ⟨t, p, hp, hw, hact⟩
    · refine ⟨?_, fun t ht => hold c₁ a c₂ hr hs t (hbegun t (hsub.subset ht))⟩
      obtain ⟨l, hperm, hsub⟩ := hsub
      exact hperm.nodup_iff.mp (hnodup.sublist hsub)
    · obtain ⟨hfresh, hstarted⟩ := hnew _ t p hp
      rw [hact]
      refine ⟨List.nodup_cons.mpr ⟨fun ht => hfresh (hbegun t ht), hnodup⟩, ?_⟩
      refine List.forall_mem_cons.mpr ⟨hw ▸ hstarted, fun u hu => ?_⟩
      exact hold c₁ a c₂ hr hs u (hbegun u hu)

/-- What holds in all configurations of a run may be used as a constraint. -/
theorem Run.assuming {K : Config S → Prop} {D : Constraint sys} {c d : Config S}
    (hr : Run sys C c d) (hK : ∀ c₁, Run sys C c c₁ → K c₁)
    (hD : ∀ c₁ a, K c₁ → C c₁.world c₁.sites a → D c₁.world c₁.sites a) : Run sys D c d := by
  induction hr with
  | refl => exact .refl
  | @tail c₁ c₂ hr hs ih =>
    obtain ⟨a, hs, hC⟩ := hs
    exact ih.tail ⟨a, hs, hD c₁ a (hK c₁ hr) hC⟩

end Actors

/-! ### Plans -/

/-- The protocols of the tasks, and the stages at their ends. -/
structure Plan (S : Sig) (γ : Type) where
  proto : TaskId → Protocol S γ
  /-- the task may run the body from this stage and world on -/
  begins : TaskId → S.Proc → S.World → γ → Prop
  /-- the task may end at the stage -/
  ends : TaskId → γ → Prop

/-- How a body may end. -/
def Plan.exits (plan : Plan S γ) (t : TaskId) (g : γ) : Except S.Exn (Flow S) → S.World → Prop
  | .ok (.next p), w => plan.begins t p w g
  | _, _ => plan.ends t g

/-- A relation of the world, the suspended tasks with their stages, and the running task
with its stage. -/
abbrev Ledger (S : Sig) (γ : Type) := S.World → List (Site S × γ) → Option (TaskId × γ) → Prop

/-- All steps that the plan and the constraint allow keep the ledger; of each step it is
known that it changes the world as `E` says. -/
structure Plan.Keeps (plan : Plan S γ) (sys : Sys S) (C : Constraint sys)
    (E : S.World → S.World → Prop) (I : Ledger S γ) : Prop where
  body : ∀ {t p w g}, plan.begins t p w g →
    (sys.body t p).Abides (plan.proto t) (plan.exits t) g w
  env : ∀ {e w w' ws}, sys.env e w = some w' → E w w' → I w ws none → I w' ws none
  start : ∀ {t p w ws}, sys.created w t = some p → C w (ws.map Prod.fst : List _) (.start t p) →
    I w ws none → ∃ g, plan.begins t p (sys.start t w) g ∧ I (sys.start t w) ws (some (t, g))
  resume : ∀ {s g r w l₁ l₂}, sys.ready w s.task s.op r = true →
    C w ((l₁ ++ (s, g) :: l₂).map Prod.fst : List _) (.resume s r) →
    E w (sys.resume s.task s.op r w) → I w (l₁ ++ (s, g) :: l₂) none →
      (plan.proto s.task).resume g s.op r (sys.resume s.task s.op r w) ∧
        I (sys.resume s.task s.op r w) (l₁ ++ l₂) (some (s.task, g))
  update : ∀ {t g g' w w' ws}, (plan.proto t).update g w w' g' → E w w' → I w ws (some (t, g)) →
    I w' ws (some (t, g'))
  wait : ∀ {t p op g g' w ws}, (plan.proto t).wait g op w g' → I w ws (some (t, g)) →
    I w ((⟨t, p, op⟩, g') :: ws) none
  finish : ∀ {t g r w ws}, plan.ends t g → E w (sys.finish t r w) → I w ws (some (t, g)) →
    I (sys.finish t r w) ws none

/-! ### Configurations with stages -/

/-- A configuration and the stages of its tasks. -/
structure Staged (S : Sig) (γ : Type) where
  world : S.World
  waiting : List (Waiting S × γ)
  running : Option (TaskId × Coro S (Flow S) × γ)

namespace Staged

variable {m : Staged S γ}

/-- The configuration. -/
def config (m : Staged S γ) : Config S :=
  ⟨m.world, m.waiting.map Prod.fst, m.running.map fun x => (x.1, x.2.1)⟩

/-- The suspended tasks with their stages. -/
def sites (m : Staged S γ) : List (Site S × γ) := m.waiting.map fun x => (x.1.site, x.2)

/-- The running task with its stage. -/
def stage (m : Staged S γ) : Option (TaskId × γ) := m.running.map fun x => (x.1, x.2.2)

@[simp] theorem config_world : m.config.world = m.world := rfl

theorem config_sites : m.config.sites = (m.sites.map Prod.fst : List (Site S)) := by
  simp only [Config.sites, config, sites, List.map_map]
  rfl

end Staged

/-- The rest of the code of every task keeps to the plan. -/
structure Plan.Kept (plan : Plan S γ) (m : Staged S γ) : Prop where
  waiting : ∀ x ∈ m.waiting, ∀ r w, (plan.proto x.1.site.task).resume x.2 x.1.site.op r w →
    (x.1.k r).Abides (plan.proto x.1.site.task) (plan.exits x.1.site.task) x.2 w
  running : ∀ t k g, m.running = some (t, k, g) →
    k.Abides (plan.proto t) (plan.exits t) g m.world

/-! ### Runs -/

section Runs

variable {plan : Plan S γ} {sys : Sys S} {C : Constraint sys} {E : S.World → S.World → Prop}
  {I : Ledger S γ}

/-- A running task with its stage, from the configuration. -/
theorem Staged.running_eq {m : Staged S γ} {t : TaskId} {k : Coro S (Flow S)}
    (h : m.config.running = some (t, k)) : ∃ g, m.running = some (t, k, g) := by
  obtain ⟨⟨t', k', g⟩, hm, he⟩ := Option.map_eq_some_iff.mp h
  obtain ⟨rfl, rfl⟩ := Prod.mk.inj he
  exact ⟨g, hm⟩

namespace Plan.Keeps

variable {m : Staged S γ} {d : Config S} {a : Action S sys.Env}

/-- A step of a configuration with stages leads to another one. -/
theorem step (h : plan.Keeps sys C E I) (hm : plan.Kept m) (hI : I m.world m.sites m.stage)
    (hs : Step sys m.config a d) (hC : C m.world m.config.sites a) (hE : E m.world d.world) :
    ∃ m' : Staged S γ, m'.config = d ∧ plan.Kept m' ∧ I m'.world m'.sites m'.stage := by
  rw [Staged.config_sites] at hC
  obtain ⟨c, hc⟩ : ∃ c, m.config = c := ⟨_, rfl⟩
  obtain ⟨w₀, ws₀, run⟩ := m
  rw [hc] at hs
  obtain ⟨hwaiting, hrunning⟩ := hm
  simp only [Staged.sites, Staged.stage] at hI hC
  cases hs with
  | @env w w' ws e he =>
    obtain ⟨rfl, rfl, hrun⟩ := Config.mk.inj hc
    obtain rfl := Option.map_eq_none_iff.mp hrun
    exact ⟨⟨w', ws₀, none⟩, rfl, ⟨hwaiting, nofun⟩, h.env he hE hI⟩
  | @start w ws t p hp =>
    obtain ⟨rfl, rfl, hrun⟩ := Config.mk.inj hc
    obtain rfl := Option.map_eq_none_iff.mp hrun
    obtain ⟨g, hbegins, hI'⟩ := h.start hp hC hI
    refine ⟨⟨_, ws₀, some (t, _, g)⟩, rfl, ⟨hwaiting, ?_⟩, hI'⟩
    rintro _ _ _ ⟨⟩
    exact h.body hbegins
  | @resume w l₁ l₂ x r hready =>
    obtain ⟨rfl, hws, hrun⟩ := Config.mk.inj hc
    obtain rfl := Option.map_eq_none_iff.mp hrun
    -- the task that goes on, with its stage, among those that waited
    obtain ⟨m₁, m', rfl, rfl, htail⟩ := List.map_eq_append_iff.mp hws
    obtain ⟨⟨x, g⟩, m₂, rfl, rfl, rfl⟩ := List.map_eq_cons_iff.mp htail
    rw [List.map_append, List.map_cons] at hI hC
    obtain ⟨hreply, hI'⟩ := h.resume hready hC hE hI
    refine ⟨⟨sys.resume x.site.task x.site.op r w₀, m₁ ++ m₂, some (x.site.task, x.k r, g)⟩, ?_,
      ⟨fun y hy => hwaiting y ?_, ?_⟩, ?_⟩
    · simp [Staged.config]
    · exact (List.sublist_cons_self (x, g) m₂).append_left m₁ |>.subset hy
    · rintro _ _ _ ⟨⟩
      exact hwaiting (x, g) (List.mem_append_right m₁ (List.mem_cons_self ..)) r _ hreply
    · simpa [Staged.sites, Staged.stage] using hI'
  | @get w ws t k =>
    obtain ⟨rfl, rfl, hrun⟩ := Config.mk.inj hc
    obtain ⟨g, rfl⟩ := Staged.running_eq (m := ⟨w₀, ws₀, run⟩) hrun
    refine ⟨⟨w₀, ws₀, some (t, k w₀, g)⟩, rfl, ⟨hwaiting, ?_⟩, hI⟩
    rintro _ _ _ ⟨⟩
    exact hrunning t (.get k) g rfl
  | @step w ws t p q w' k =>
    obtain ⟨rfl, rfl, hrun⟩ := Config.mk.inj hc
    obtain ⟨g, rfl⟩ := Staged.running_eq (m := ⟨w₀, ws₀, run⟩) hrun
    obtain ⟨g', hu, hk⟩ := hrunning t _ g rfl
    refine ⟨⟨w', ws₀, some (t, _, g')⟩, rfl, ⟨hwaiting, ?_⟩, h.update hu hE hI⟩
    rintro _ _ _ ⟨⟩
    exact hk
  | @enter w ws t p l w' k =>
    obtain ⟨rfl, rfl, hrun⟩ := Config.mk.inj hc
    obtain ⟨g, rfl⟩ := Staged.running_eq (m := ⟨w₀, ws₀, run⟩) hrun
    obtain ⟨g', hu, hk⟩ := hrunning t _ g rfl
    refine ⟨⟨w', ws₀, some (t, _, g')⟩, rfl, ⟨hwaiting, ?_⟩, h.update hu hE hI⟩
    rintro _ _ _ ⟨⟩
    exact hk
  | @await w ws t p op k =>
    obtain ⟨rfl, rfl, hrun⟩ := Config.mk.inj hc
    obtain ⟨g, rfl⟩ := Staged.running_eq (m := ⟨w₀, ws₀, run⟩) hrun
    obtain ⟨g', hw, hk⟩ := hrunning t _ g rfl
    refine ⟨⟨w₀, (⟨⟨t, p, op⟩, k⟩, g') :: ws₀, none⟩, rfl, ⟨?_, nofun⟩, h.wait hw hI⟩
    exact List.forall_mem_cons.mpr ⟨hk, hwaiting⟩
  | @next w ws t p =>
    obtain ⟨rfl, rfl, hrun⟩ := Config.mk.inj hc
    obtain ⟨g, rfl⟩ := Staged.running_eq (m := ⟨w₀, ws₀, run⟩) hrun
    refine ⟨⟨w₀, ws₀, some (t, sys.body t p, g)⟩, rfl, ⟨hwaiting, ?_⟩, hI⟩
    rintro _ _ _ ⟨⟩
    exact h.body (hrunning t _ g rfl)
  | @done w ws t =>
    obtain ⟨rfl, rfl, hrun⟩ := Config.mk.inj hc
    obtain ⟨g, rfl⟩ := Staged.running_eq (m := ⟨w₀, ws₀, run⟩) hrun
    exact ⟨⟨_, ws₀, none⟩, rfl, ⟨hwaiting, nofun⟩, h.finish (hrunning t _ g rfl) hE hI⟩
  | @failed w ws t e =>
    obtain ⟨rfl, rfl, hrun⟩ := Config.mk.inj hc
    obtain ⟨g, rfl⟩ := Staged.running_eq (m := ⟨w₀, ws₀, run⟩) hrun
    exact ⟨⟨_, ws₀, none⟩, rfl, ⟨hwaiting, nofun⟩, h.finish (hrunning t _ g rfl) hE hI⟩

/-- **The ledger holds in every run** from a world without tasks. -/
theorem run {w : S.World} (h : plan.Keeps sys C E I) (hI : I w [] none)
    (hE : ∀ c a d, Run sys C ⟨w, [], none⟩ c → Step sys c a d → E c.world d.world)
    (hr : Run sys C ⟨w, [], none⟩ d) :
    ∃ m : Staged S γ, m.config = d ∧ plan.Kept m ∧ I m.world m.sites m.stage := by
  induction hr with
  | refl => exact ⟨⟨w, [], none⟩, rfl, ⟨fun _ hx => absurd hx List.not_mem_nil, nofun⟩, hI⟩
  | tail hr hs ih =>
    obtain ⟨m, rfl, hm, hI⟩ := ih
    obtain ⟨a, hs, hC⟩ := hs
    exact h.step hm hI hs hC (hE _ a _ hr hs)

end Plan.Keeps

end Runs

end KaroX2.Coop
