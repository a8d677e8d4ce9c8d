/-
KaroX2/Coop/Loop.lean

The event loop that runs coroutines.

A system (`Sys`) says which body a task has, when a suspended task may be
answered, and what the environment may do.  A configuration holds the world,
the suspended tasks and the task that is running, if any.  Everything that can
happen is a `Step`; it is labelled by an `Action`, and a run is a sequence of
steps whose actions an observer may constrain.

The scheduler is nondeterministic: any created task may be started and any
suspended task may be answered when no task is running.  A run of a particular
scheduling discipline is one of these runs.

`Sys.play` executes a script; `Sys.play_run` says that what it reaches is
reachable, which turns a computation into a fact about runs.
-/
import KaroX2.Coop.Coro
import Mathlib.Logic.Relation

namespace KaroX2.Coop

/-- A system of tasks over the coroutine language `S`. -/
structure Sys (S : Sig) where
  /-- what the environment can do by itself -/
  Env : Type
  /-- the code of a body, as the task `t` runs it -/
  body : TaskId → S.Proc → Coro S (Flow S)
  /-- the body of a task that was created and has not been started -/
  created : S.World → TaskId → Option S.Proc
  /-- the task is started -/
  start : TaskId → S.World → S.World
  /-- the suspended task may be given this reply -/
  ready : S.World → TaskId → S.Op → Except S.Exn S.Reply → Bool
  /-- the reply is delivered -/
  resume : TaskId → S.Op → Except S.Exn S.Reply → S.World → S.World
  /-- the task has ended -/
  finish : TaskId → Except S.Exn Unit → S.World → S.World
  /-- a step of the environment; `none` where it is not possible -/
  env : Env → S.World → Option S.World

/-- A suspended task: what is seen of it, and the rest of its code. -/
structure Waiting (S : Sig) where
  site : Site S
  k : Except S.Exn S.Reply → Coro S (Flow S)

structure Config (S : Sig) where
  world : S.World
  waiting : List (Waiting S)
  running : Option (TaskId × Coro S (Flow S))

namespace Config

variable {S : Sig}

/-- What is seen of the suspended tasks. -/
def sites (c : Config S) : Multiset (Site S) := (c.waiting.map Waiting.site : List (Site S))

/-- No task is running. -/
def Idle (c : Config S) : Prop := c.running = none

end Config

variable {S : Sig} (sys : Sys S)

/-- The label of a step. -/
inductive Action (S : Sig) (Env : Type) where
  | start (t : TaskId) (p : S.Proc)
  | resume (s : Site S) (r : Except S.Exn S.Reply)
  | enter (t : TaskId) (path : List S.Label) (l : S.Label)
  | env (e : Env)
  | update (t : TaskId) (path : List S.Label)
  | silent (t : TaskId)

/-- The action happens between two uninterrupted executions. -/
def Action.betweenTasks {Env : Type} : Action S Env → Prop
  | start _ _ | resume _ _ | env _ => True
  | enter _ _ _ | update _ _ | silent _ => False

/-- The task that takes the step. -/
def Action.actor {Env : Type} : Action S Env → Option TaskId
  | start t _ | enter t _ _ | update t _ | silent t => some t
  | resume s _ => some s.task
  | env _ => none

/-- One step of the event loop. -/
inductive Step : Config S → Action S sys.Env → Config S → Prop
  | env {w w' ws} (e : sys.Env) (h : sys.env e w = some w') :
      Step ⟨w, ws, none⟩ (.env e) ⟨w', ws, none⟩
  | start {w ws t p} (h : sys.created w t = some p) :
      Step ⟨w, ws, none⟩ (.start t p) ⟨sys.start t w, ws, some (t, sys.body t p)⟩
  | resume {w l₁ l₂} {x : Waiting S} {r}
      (h : sys.ready w x.site.task x.site.op r = true) :
      Step ⟨w, l₁ ++ x :: l₂, none⟩ (.resume x.site r)
        ⟨sys.resume x.site.task x.site.op r w, l₁ ++ l₂, some (x.site.task, x.k r)⟩
  | get {w ws t k} : Step ⟨w, ws, some (t, .get k)⟩ (.silent t) ⟨w, ws, some (t, k w)⟩
  | step {w ws t p q w' k} :
      Step ⟨w, ws, some (t, .step p q w' k)⟩ (.update t p) ⟨w', ws, some (t, k)⟩
  | enter {w ws t p l w' k} :
      Step ⟨w, ws, some (t, .enter p l w' k)⟩ (.enter t p l) ⟨w', ws, some (t, k)⟩
  | await {w ws t p op k} :
      Step ⟨w, ws, some (t, .await p op k)⟩ (.silent t) ⟨w, ⟨⟨t, p, op⟩, k⟩ :: ws, none⟩
  | next {w ws t p} :
      Step ⟨w, ws, some (t, .ret (.ok (.next p)))⟩ (.silent t) ⟨w, ws, some (t, sys.body t p)⟩
  | done {w ws t} :
      Step ⟨w, ws, some (t, .ret (.ok .done))⟩ (.silent t) ⟨sys.finish t (.ok ()) w, ws, none⟩
  | failed {w ws t e} :
      Step ⟨w, ws, some (t, .ret (.error e))⟩ (.silent t)
        ⟨sys.finish t (.error e) w, ws, none⟩

/-- A constraint on the steps of a run: the world before the step, the
suspended tasks, the action. -/
abbrev Constraint := S.World → Multiset (Site S) → Action S sys.Env → Prop

/-- A run all of whose steps satisfy `C`. -/
def Run (C : Constraint sys) : Config S → Config S → Prop :=
  Relation.ReflTransGen fun c c' => ∃ a, Step sys c a c' ∧ C c.world c.sites a

/-- A run without constraint. -/
abbrev Reaches : Config S → Config S → Prop := Run sys fun _ _ _ => True

variable {sys}

theorem Run.mono {C D : Constraint sys} (h : ∀ w o a, C w o a → D w o a) {c c' : Config S}
    (hr : Run sys C c c') : Run sys D c c' := by
  induction hr with
  | refl => exact Relation.ReflTransGen.refl
  | tail _ hs ih =>
      obtain ⟨a, hs, hc⟩ := hs
      exact ih.tail ⟨a, hs, h _ _ _ hc⟩

theorem Run.trans {C : Constraint sys} {a b c : Config S} (h₁ : Run sys C a b)
    (h₂ : Run sys C b c) : Run sys C a c :=
  Relation.ReflTransGen.trans h₁ h₂

/-! ### Scripts -/

/-- A decidable check on the actions of a script. -/
abbrev Check (sys : Sys S) := S.World → Multiset (Site S) → Action S sys.Env → Bool

/-- Silent steps are not checked, all others are. -/
def Check.allows (ok : Check sys) : Constraint sys
  | _, _, .silent _ => True
  | w, o, a => ok w o a = true

/-- A check on replies and calls. -/
def Check.of (reply : S.World → Site S → Except S.Exn S.Reply → Bool)
    (call : S.World → S.Label → Bool) : Check sys
  | w, _, .resume s r => reply w s r
  | w, _, .enter _ _ l => call w l
  | _, _, _ => true

@[simp] theorem Check.of_resume {w : S.World} {o : Multiset (Site S)} {s : Site S}
    {r : Except S.Exn S.Reply} {f : S.World → Site S → Except S.Exn S.Reply → Bool}
    {g : S.World → S.Label → Bool} :
    (Check.of f g : Check sys).allows w o (.resume s r) ↔ f w s r = true := Iff.rfl

@[simp] theorem Check.of_enter {w : S.World} {o : Multiset (Site S)} {t : TaskId} {p : List S.Label}
    {l : S.Label} {f : S.World → Site S → Except S.Exn S.Reply → Bool} {g : S.World → S.Label → Bool} :
    (Check.of f g : Check sys).allows w o (.enter t p l) ↔ g w l = true := Iff.rfl

/-- The configuration in which the uninterrupted execution of a task stops. -/
def stopped (t : TaskId) (ws : List (Waiting S)) : S.World × Coro.Stop S (Flow S) → Config S
  | (w, .ended r) => ⟨w, ws, some (t, .ret r)⟩
  | (w, .waits p op k) => ⟨w, ⟨⟨t, p, op⟩, k⟩ :: ws, none⟩

/-- What is seen of the suspended tasks. -/
def sitesOf (ws : List (Waiting S)) : Multiset (Site S) := (ws.map Waiting.site : List (Site S))

variable (ok : Check sys)

/-- The check on the calls of the running task. -/
def Check.calls (t : TaskId) (ws : List (Waiting S)) : S.World → List S.Label → S.Label → Bool :=
  fun w p l => ok w (sitesOf ws) (.enter t p l)

/-- The check on the updates of the running task. -/
def Check.updates (t : TaskId) (ws : List (Waiting S)) : S.World → List S.Label → Bool :=
  fun w p => ok w (sitesOf ws) (.update t p)

/-- The uninterrupted execution of the running task is a run. -/
theorem exec_run {w : S.World} {ws : List (Waiting S)} {t : TaskId} (k : Coro S (Flow S))
    {x : S.World × Coro.Stop S (Flow S)} (h : k.exec (ok.updates t ws) (ok.calls t ws) w = some x) :
    Run sys ok.allows ⟨w, ws, some (t, k)⟩ (stopped t ws x) := by
  induction k generalizing w with
  | ret r =>
    obtain rfl := Option.some.inj h
    exact Relation.ReflTransGen.refl
  | get k ih => exact Relation.ReflTransGen.head ⟨_, .get, trivial⟩ (ih w h)
  | step p q w' k ih =>
    simp only [Coro.exec] at h
    split at h
    · rename_i hu
      exact Relation.ReflTransGen.head ⟨_, .step, hu⟩ (ih h)
    · cases h
  | enter p l w' k ih =>
    simp only [Coro.exec] at h
    split at h
    · rename_i hl
      exact Relation.ReflTransGen.head ⟨_, .enter, hl⟩ (ih h)
    · cases h
  | await p op k =>
    obtain rfl := Option.some.inj h
    exact Relation.ReflTransGen.single ⟨_, .await, trivial⟩

/-- One step of the running task, up to a suspension or its end. -/
def Sys.small (sys : Sys S) : Config S → Option (Action S sys.Env × Config S)
  | ⟨w, ws, some (t, .get k)⟩ => some (.silent t, ⟨w, ws, some (t, k w)⟩)
  | ⟨_, ws, some (t, .step p _ w' k)⟩ => some (.update t p, ⟨w', ws, some (t, k)⟩)
  | ⟨_, ws, some (t, .enter p l w' k)⟩ => some (.enter t p l, ⟨w', ws, some (t, k)⟩)
  | _ => none

theorem small_step {c d : Config S} {a : Action S sys.Env} (h : sys.small c = some (a, d)) :
    Step sys c a d := by
  obtain ⟨w, ws, _ | ⟨t, k⟩⟩ := c
  · cases h
  · cases k with
    | get | step | enter =>
      obtain ⟨rfl, rfl⟩ := Prod.mk.inj (Option.some.inj h)
      constructor
    | ret | await => cases h

/-- Some steps of the running task. -/
def Sys.smalls (sys : Sys S) : Nat → Config S → Option (Config S)
  | 0, c => some c
  | n + 1, c => (sys.small c).bind fun d => Sys.smalls sys n d.2

theorem smalls_run {n : Nat} {c d : Config S} (h : sys.smalls n c = some d) : Reaches sys c d := by
  induction n generalizing c with
  | zero =>
    obtain rfl := Option.some.inj h
    exact Relation.ReflTransGen.refl
  | succ n ih =>
    obtain ⟨⟨a, e⟩, he, hd⟩ := Option.bind_eq_some_iff.mp h
    exact Relation.ReflTransGen.head ⟨a, small_step he, trivial⟩ (ih hd)

/-- Execute the running task until it is suspended or has ended; `n` bounds the
number of its loop rounds. -/
def Sys.settle : Nat → Config S → Option (Config S)
  | 0, c => some c
  | n + 1, c =>
    match c.running with
    | none => some c
    | some (t, k) =>
      match k.exec (ok.updates t c.waiting) (ok.calls t c.waiting) c.world with
      | none => none
      | some (w, .waits p op k') => some ⟨w, ⟨⟨t, p, op⟩, k'⟩ :: c.waiting, none⟩
      | some (w, .ended (.ok (.next p))) => Sys.settle n ⟨w, c.waiting, some (t, sys.body t p)⟩
      | some (w, .ended (.ok .done)) => some ⟨sys.finish t (.ok ()) w, c.waiting, none⟩
      | some (w, .ended (.error e)) => some ⟨sys.finish t (.error e) w, c.waiting, none⟩

theorem settle_run {n : Nat} {c d : Config S} (h : Sys.settle ok n c = some d) :
    Run sys ok.allows c d := by
  induction n generalizing c with
  | zero =>
    obtain rfl := Option.some.inj h
    exact Relation.ReflTransGen.refl
  | succ n ih =>
    obtain ⟨w, ws, _ | ⟨t, k⟩⟩ := c
    · obtain rfl := Option.some.inj h
      exact Relation.ReflTransGen.refl
    · simp only [Sys.settle] at h
      rcases he : k.exec (ok.updates t ws) (ok.calls t ws) w with - | ⟨w', (e | p | _) | ⟨p, op, k'⟩⟩ <;>
        rw [he] at h
      · cases h
      · obtain rfl := Option.some.inj h
        exact (exec_run ok k he).tail ⟨_, .failed, trivial⟩
      · exact (exec_run ok k he).trans (Relation.ReflTransGen.head ⟨_, .next, trivial⟩ (ih h))
      · obtain rfl := Option.some.inj h
        exact (exec_run ok k he).tail ⟨_, .done, trivial⟩
      · obtain rfl := Option.some.inj h
        exact exec_run ok k he

/-- A line of a script. -/
inductive Cmd (sys : Sys S) where
  | start (t : TaskId)
  | resume (t : TaskId) (r : Except S.Exn S.Reply)
  | env (e : sys.Env)

/-- Split the list of suspended tasks at task `t`. -/
def splitAt (t : TaskId) : List (Waiting S) → Option (List (Waiting S) × Waiting S × List (Waiting S))
  | [] => none
  | x :: xs =>
    if x.site.task = t then some ([], x, xs)
    else (splitAt t xs).map fun (l₁, y, l₂) => (x :: l₁, y, l₂)

theorem splitAt_some {t : TaskId} {ws l₁ l₂ : List (Waiting S)} {x : Waiting S}
    (h : splitAt t ws = some (l₁, x, l₂)) : ws = l₁ ++ x :: l₂ := by
  induction ws generalizing l₁ with
  | nil => cases h
  | cons y ys ih =>
    simp only [splitAt] at h
    split at h
    · simp only [Option.some.injEq, Prod.mk.injEq] at h
      obtain ⟨rfl, rfl, rfl⟩ := h
      rfl
    · obtain ⟨⟨m₁, z, m₂⟩, hm, he⟩ := Option.map_eq_some_iff.mp h
      simp only [Prod.mk.injEq] at he
      obtain ⟨rfl, rfl, rfl⟩ := he
      rw [ih hm, List.cons_append]

/-- One line of a script, followed by the uninterrupted execution it starts. -/
def Sys.line (n : Nat) (c : Config S) : Cmd sys → Option (Config S)
  | .start t =>
    match c.running, sys.created c.world t with
    | none, some p =>
      if ok c.world (sitesOf c.waiting) (.start t p) then
        Sys.settle ok n ⟨sys.start t c.world, c.waiting, some (t, sys.body t p)⟩
      else none
    | _, _ => none
  | .resume t r =>
    match c.running, splitAt t c.waiting with
    | none, some (l₁, x, l₂) =>
      if sys.ready c.world x.site.task x.site.op r &&
          ok c.world (sitesOf c.waiting) (.resume x.site r) then
        Sys.settle ok n ⟨sys.resume x.site.task x.site.op r c.world, l₁ ++ l₂,
          some (x.site.task, x.k r)⟩
      else none
    | _, _ => none
  | .env e =>
    match c.running, sys.env e c.world with
    | none, some w =>
      if ok c.world (sitesOf c.waiting) (.env e) then some ⟨w, c.waiting, none⟩ else none
    | _, _ => none

theorem line_run {n : Nat} {c c' : Config S} {l : Cmd sys} (h : Sys.line ok n c l = some c') :
    Run sys ok.allows c c' := by
  obtain ⟨w, ws, rn⟩ := c
  cases l with
  | start t =>
    simp only [Sys.line] at h
    split at h
    · rename_i p hp
      split at h
      · rename_i ha
        exact Relation.ReflTransGen.head ⟨_, .start hp, ha⟩ (settle_run ok h)
      · cases h
    · cases h
  | resume t r =>
    simp only [Sys.line] at h
    split at h
    · rename_i l₁ x l₂ hs
      split at h
      · rename_i hb
        obtain rfl := splitAt_some hs
        have hb := Bool.and_eq_true_iff.mp hb
        exact Relation.ReflTransGen.head ⟨_, .resume hb.1, hb.2⟩ (settle_run ok h)
      · cases h
    · cases h
  | env e =>
    simp only [Sys.line] at h
    split at h
    · rename_i w' he
      split at h
      · rename_i ha
        obtain rfl := Option.some.inj h
        exact Relation.ReflTransGen.single ⟨_, .env e he, ha⟩
      · cases h
    · cases h

/-- Execute a script, with a check on its actions. -/
def Sys.playChecked (n : Nat) : List (Cmd sys) → Config S → Option (Config S)
  | [], c => some c
  | l :: ls, c => (Sys.line ok n c l).bind (Sys.playChecked n ls)

/-- What a checked script reaches is reachable by a run that passes the check. -/
theorem playChecked_run {n : Nat} {ls : List (Cmd sys)} {c c' : Config S}
    (h : Sys.playChecked ok n ls c = some c') : Run sys ok.allows c c' := by
  induction ls generalizing c with
  | nil =>
    obtain rfl := Option.some.inj h
    exact Relation.ReflTransGen.refl
  | cons l ls ih =>
    obtain ⟨d, hd, hp⟩ := Option.bind_eq_some_iff.mp h
    exact (line_run ok hd).trans (ih hp)

/-- Execute a script. -/
def Sys.play (sys : Sys S) (n : Nat) (ls : List (Cmd sys)) (c : Config S) : Option (Config S) :=
  Sys.playChecked (fun _ _ _ => true) n ls c

/-- What a script reaches is reachable. -/
theorem play_run {n : Nat} {ls : List (Cmd sys)} {c c' : Config S}
    (h : sys.play n ls c = some c') : Reaches sys c c' :=
  (playChecked_run _ h).mono fun _ _ _ _ => trivial

end KaroX2.Coop
