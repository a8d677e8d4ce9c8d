/-
KaroX2/Reporting.lean

The calls report by value, in the runs that spare them what they do not catch.

Three things are not caught: an argument that cannot be encoded, the time-out of
`wait_until_ready`, and a reader that cannot be joined after another task has closed its
client.  In a run without them every call of the API but `connect` and `close` ends with
a result, or by the cancellation of its task.  That a request ends in one of the ways of
the SDK holds in every run.
-/
import KaroX2.Raising
import KaroX2.Coop.Staging
import KaroX2.Lookup
import KaroX2.Aging

namespace KaroX2

open Coop

variable {σ : Setup} {w w' : World} {me t : TaskId}

/-! ### The futures of a run -/

/-- Every request that has ended has ended in a sound way. -/
def World.AllSound (w : World) : Prop := ∀ rid, (w.rpc.futures rid).sound = true

theorem World.AllSound.of_eq (h : w.AllSound) (hw : w'.sound = w.sound) : w'.AllSound :=
  fun rid => (congrFun hw rid).trans (h rid)

theorem env_sound {e : EnvStep} (h : World.env e w = some w') : w'.sound = w.sound := by
  rcases env_core h with hcore | ⟨seconds, epochMs, -, rfl⟩
  · exact World.sound_of_core hcore
  · rfl

theorem resume_sound {op : Op} {r : Except Exn Reply} : (w.resume t op r).sound = w.sound := by
  obtain ⟨ts, evt, h, -⟩ := resume_eq t op r w
  rw [h]
  rfl

theorem finish_sound {r : Except Exn Unit} : (w.finish t r).sound = w.sound := by
  obtain ⟨l, ts, h, -⟩ := finish_eq w t r
  rw [h]
  rfl

/-- The plan in which all tasks are still. -/
def stills : Plan Karo Unit where
  proto _ := still True
  begins _ _ _ _ := True
  ends _ _ := True

theorem stills_keeps {C : Constraint (robot σ)} :
    stills.Keeps (robot σ) C (fun _ _ => True) fun w _ _ => w.AllSound where
  body _ := by
    refine Coro.abides_mono ?_ (body_still (.inr trivial) _)
    rintro _ (e | p | -) _ _ <;> trivial
  env he _ h := h.of_eq (env_sound he)
  start _ _ h := ⟨(), trivial, h⟩
  resume _ _ _ h := ⟨trivial, h.of_eq resume_sound⟩
  update hu _ h := h.of_eq hu.2
  wait _ h := h
  finish _ _ h := h.of_eq finish_sound

/-- **A request ends in one of the ways of the SDK** in every run. -/
theorem allSound {clock : Clock} {C : Constraint (robot σ)} {c : Config Karo}
    (hr : Run (robot σ) C (initial clock) c) : c.world.AllSound := by
  -- at the beginning no request has been made
  have h₀ : (World.init clock).AllSound := fun rid => rfl
  obtain ⟨m, rfl, -, h⟩ := stills_keeps.run h₀ (fun _ _ _ _ _ => trivial) hr
  exact h

/-! ### Calls -/

/-- The calls that report by value. -/
def ApiCall.reports : ApiCall → Bool
  | .connect | .close => false
  | _ => true

/-- The text of the call can be encoded as UTF-8; an empty reason is not encoded. -/
def ApiCall.encodable : ApiCall → Bool
  | .emergencyStop _ reason => !reason.truthy || reason.encodable
  | .createNavTaskMarker m => m.encodable
  | .cancelTask i | .pauseTask i | .resumeTask i => i.encodable
  | _ => true

/-- How the body of a call ends: with a result, by a cancellation, or with one more round
of `wait_until_ready`. -/
structure Concluded (r : Except Exn (Flow Karo)) : Prop where
  unraised : Unraised r
  again : ∀ p, r = .ok (.next p) → ∃ timeout, p = .run (.api (.waitUntilReady timeout))

theorem Concluded.error {α : Type} {e : Exn} (h : Unraised (.error e : Except Exn α)) :
    Concluded (.error e) :=
  ⟨h.error, fun _ hp => by cases hp⟩

theorem returning_concluded {c : M ApiResult} {p : List Label}
    (hc : c.Ends Answered Unraised p w) : (returning me c).Ends Answered Concluded p w := by
  refine gentle_then hc (fun e he => .error he) fun r v => .modify_then ⟨unraised_ok, ?_⟩
  intro p hp
  cases hp

theorem map_gentle {α β : Type} {f : α → β} {c : M α} {p : List Label}
    (hc : c.Ends Answered Unraised p w) : (f <$> c).Ends Answered Unraised p w :=
  gentle_then hc (fun _ he => he) fun _ _ => unraised_ok

theorem waitUntilReady_concluded {timeout : Option ℚ} :
    (apiBody σ me (.waitUntilReady timeout)).Ends Answered Concluded [] w := by
  refine gentle_then (waitRound_gentle _ _) (fun e he => .error he) fun r v => ?_
  split
  -- the state is one to return in, or it is waited for once more
  · exact returning_concluded unraised_ok
  · refine ⟨unraised_ok, fun p hp => ?_⟩
    cases hp
    exact ⟨timeout, rfl⟩

theorem utf8_encodable {s : PyStr} (h : s.encodable = true) : utf8 s = .ok s := if_pos h

theorem encoder_ne {method : String} {i : PyStr} (h : i.encodable = true) (rid : Nat) (e : Exn) :
    encodeTaskCommand method rid i ≠ .error e := by
  rw [encodeTaskCommand, utf8_encodable h]
  intro he
  cases he

/-- The body of a call reports, if its text can be encoded or nothing is sent. -/
theorem apiBody_concluded {call : ApiCall} (hr : call.reports = true)
    (h : call.encodable = true ∨ w.conn.state ≠ .ready) :
    (apiBody σ me call).Ends Answered Concluded [] w := by
  cases call with
  | connect => cases hr
  | close => cases hr
  | waitUntilReady timeout => exact waitUntilReady_concluded
  | subscribe topic hz => exact returning_concluded (map_gentle (subscribeInternal_gentle _ _))
  | unsubscribe s => exact returning_concluded (map_gentle (unsubscribe_gentle _ _))
  | cmdVel vx vy wz => exact returning_concluded (map_gentle (cmdVel_gentle _ _))
  | emergencyStop engage reason =>
    refine returning_concluded (map_gentle (emergencyStop_gentle (h.imp_left fun he ht => ?_)))
    simpa [ApiCall.encodable, ht] using he
  | createNavTaskMarker m =>
    refine returning_concluded (map_gentle (createNavTask_gentle (h.imp_left fun he rid e => ?_)))
    rw [encodeCreateNavTaskMarker, utf8_encodable he]
    intro hm
    cases hm
  | createNavTaskPose x y theta =>
    refine returning_concluded (map_gentle (createNavTask_gentle (.inl fun rid e he => ?_)))
    cases he
  | cancelTask i =>
    exact returning_concluded (map_gentle (taskCommand_gentle (h.imp_left fun he => encoder_ne he)))
  | pauseTask i =>
    exact returning_concluded (map_gentle (taskCommand_gentle (h.imp_left fun he => encoder_ne he)))
  | resumeTask i =>
    exact returning_concluded (map_gentle (taskCommand_gentle (h.imp_left fun he => encoder_ne he)))
  | ping => exact returning_concluded (map_gentle (ping_gentle _ _))

/-! ### Runs -/

/-- The task is one of a call that reports. -/
def World.Reports (w : World) (t : TaskId) : Prop :=
  ∃ call, w.tasks.procOf t = some (.api call) ∧ call.reports = true

/-- What the calls do not catch does not happen to them. -/
def Spared (σ : Setup) : Constraint (robot σ)
  | w, _, .start _ (.run (.api call)) => call.encodable = true ∨ w.conn.state ≠ .ready
  | w, _, .resume s (.error e) => w.Reports s.task →
    (∀ timeout, s.op = .stateChanged timeout → e = .cancelled) ∧
    ∀ reader, s.op = .joinReader reader → ∀ c, .closeClient c ∈ s.path →
      (w.clients c).readTask ≠ none
  | _, _, _ => True

/-- The task has a job, and what is said holds if that is a call that reports. -/
def World.Bound (w : World) (t : TaskId) (P : Prop) : Prop :=
  ∃ j, w.tasks.procOf t = some j ∧ ((∃ call, j = .api call ∧ call.reports = true) → P)

theorem World.Bound.later {P Q : Prop} (h : w.Bound t P) (hl : Later w w')
    (hPQ : w.Reports t → P → Q) : w'.Bound t Q := by
  obtain ⟨j, hj, hP⟩ := h
  refine ⟨j, hl.proc t j hj, fun hcall => ?_⟩
  refine hPQ ?_ (hP hcall)
  obtain ⟨call, rfl, hr⟩ := hcall
  exact ⟨call, hj, hr⟩

/-- Every call in progress will report. -/
structure Concluding (c : Config Karo) : Prop where
  waiting : ∀ x ∈ c.waiting, c.world.Bound x.site.task
    (∀ r w, Answered x.site.path x.site.op r w → (x.k r).Ends Answered Concluded [] w)
  running : ∀ t k, c.running = some (t, k) →
    c.world.Bound t (k.Ends Answered Concluded [] c.world)

/-- The answers of the event loop are those that the calls rely on. -/
theorem answered_resume {s : Site Karo} {r : Except Exn Reply} {o : Multiset (Site Karo)}
    (hready : w.ready s.task s.op r = true) (hs : Spared σ w o (.resume s r))
    (hr : w.Reports s.task) (hsound : w.AllSound) :
    Answered s.path s.op r (w.resume s.task s.op r) := by
  obtain ⟨ts, evt, hw, -⟩ := resume_eq s.task s.op r w
  rw [hw]
  obtain ⟨task, path, op⟩ := s
  rcases r with e | rep
  · obtain ⟨hstate, hjoin⟩ := hs hr
    -- a request is ended by its future, and its wait only by a cancellation
    cases op with
    | future rid =>
      cases e with
      | cancelled => rfl
      | _ => simp [World.ready, World.mayEnd] at hready
    | stateChanged timeout => exact hstate timeout rfl
    | joinReader reader => exact hjoin reader rfl
    | _ => trivial
  · cases op with
    | future rid =>
      refine ⟨hsound rid, ?_⟩
      cases rep with
      | done => exact (Bool.and_eq_true_iff.mp hready).2
      | _ => simp [World.ready, World.mayEnd] at hready
    | _ => trivial

theorem start_concluded {q : Proc} {o : Multiset (Site Karo)} (hp : w.createdProc t = some q)
    (hs : Spared σ w o (.start t q)) : ({ w with tasks := w.tasks.begin t } : World).Bound t
      ((body σ t q).Ends Answered Concluded [] { w with tasks := w.tasks.begin t }) := by
  obtain ⟨x, hx, -, hproc⟩ := created_task hp
  refine ⟨x.proc, Tasks.procOf_begin.trans (by simp [Tasks.procOf, hx]), ?_⟩
  rintro ⟨call, hcall, hr⟩
  rcases hproc with rfl | rfl
  -- a task that was cancelled before its start raises that
  · exact .error (α := Unit) unraised_cancelled
  · rw [hcall] at hs ⊢
    exact apiBody_concluded hr hs

/-- **A step keeps it**, if the calls are spared. -/
theorem concluding_step {c d : Config Karo} {a : Action Karo (robot σ).Env} (h : Concluding c)
    (hs : Step (robot σ) c a d) (hl : Later c.world d.world) (ha : Spared σ c.world c.sites a)
    (hsound : c.world.AllSound) : Concluding d := by
  obtain ⟨hwaiting, hrunning⟩ := h
  have hkept : ∀ x ∈ c.waiting, d.world.Bound x.site.task
      (∀ r w, Answered x.site.path x.site.op r w → (x.k r).Ends Answered Concluded [] w) :=
    fun x hx => (hwaiting x hx).later hl fun _ hk => hk
  -- what waits is kept by every step; the task that runs has followed its own code
  cases hs with
  | env e he => exact ⟨hkept, fun _ _ h => by cases h⟩
  | @start w ws t q hp =>
    refine ⟨hkept, fun t' k hk => ?_⟩
    cases hk
    exact start_concluded hp ha
  | @resume w l₁ l₂ x r hready =>
    refine ⟨fun y hy => hkept y ?_, fun t' k hk => ?_⟩
    · exact ((List.sublist_cons_self x l₂).append_left l₁).subset hy
    · cases hk
      refine (hwaiting x (List.mem_append_right l₁ (List.mem_cons_self ..))).later hl ?_
      exact fun hr hx => hx r _ (answered_resume hready ha hr hsound)
  | @get w ws t k =>
    refine ⟨hkept, fun t' k' hk => ?_⟩
    cases hk
    exact (hrunning t (.get k) rfl).later hl fun _ hk => hk
  | @step w ws t p q w' k =>
    refine ⟨hkept, fun t' k' h => ?_⟩
    cases h
    exact (hrunning t _ rfl).later hl fun _ hk => hk
  | @enter w ws t p l w' k =>
    refine ⟨hkept, fun t' k' h => ?_⟩
    cases h
    exact (hrunning t _ rfl).later hl fun _ hk => hk
  | @await w ws t p op k =>
    refine ⟨List.forall_mem_cons.mpr ⟨?_, hkept⟩, fun t' k' h => by cases h⟩
    exact (hrunning t _ rfl).later hl fun _ hk => hk
  | @next w ws t q =>
    refine ⟨hkept, fun t' k hk => ?_⟩
    cases hk
    -- only `wait_until_ready` goes round again
    refine (hrunning t _ rfl).later hl fun _ hk => ?_
    obtain ⟨timeout, rfl⟩ := hk.again q rfl
    exact waitUntilReady_concluded (σ := σ)
  | done => exact ⟨hkept, fun _ _ h => by cases h⟩
  | failed => exact ⟨hkept, fun _ _ h => by cases h⟩

/-- The exception that ends a task next. -/
def raising (c : Config Karo) : Option (TaskId × Exn) :=
  match c.running with
  | some (t, .ret (.error e)) => some (t, e)
  | _ => none

theorem concluding {clock : Clock} {c : Config Karo}
    (hr : Run (robot σ) (Spared σ) (initial clock) c) : Concluding c := by
  induction hr with
  | refl => exact ⟨fun x hx => absurd hx List.not_mem_nil, fun t k h => by cases h⟩
  | tail hr hs ih =>
    obtain ⟨a, hs, ha⟩ := hs
    have htraced := outlined.traced_reaches hr
    have hlater := later_guaranteed.holds (A := fun _ _ _ => True) htraced hs trivial
    exact concluding_step ih hs hlater ha (allSound hr)

/-- The check that a run spares its calls. -/
def sparing : Check (robot .plain)
  | _, _, .start _ (.run (.api call)) => call.encodable
  | _, _, .resume s (.error e) =>
    match s.op with
    | .stateChanged _ => e = .cancelled
    | .joinReader _ => false
    | _ => true
  | _, _, _ => true

theorem sparing_spares {o : Multiset (Site Karo)} {a : Action Karo EnvStep}
    (h : sparing.allows w o a) : Spared .plain w o a := by
  cases a with
  | start t q =>
    cases q with
    | run job =>
      cases job with
      | api call => exact .inl h
      | _ => trivial
    | _ => trivial
  | resume s r =>
    cases r with
    | ok => trivial
    | error e =>
      obtain ⟨task, path, op⟩ := s
      rintro -
      refine ⟨?_, ?_⟩
      · rintro timeout rfl
        exact of_decide_eq_true h
      · rintro reader rfl
        exact absurd h Bool.false_ne_true
  | _ => trivial

/-- `wait_until_ready(1.0)` before `connect` -/
def waits : List (Cmd (robot .plain)) := [.env (.call (.waitUntilReady (some 1))), .start 0]

/-- A script, its last line, and the first `n` steps of the task that this resumes. -/
def upTo (ls : List (Cmd (robot .plain))) (last : Cmd (robot .plain)) (n : Nat) :
    Option (Config Karo) :=
  ((robot .plain).play 4 ls (initial ⟨0, 0⟩)).bind fun c =>
    ((robot .plain).play 0 [last] c).bind ((robot .plain).smalls n)

theorem upTo_run {ls : List (Cmd (robot .plain))} {last : Cmd (robot .plain)} {n : Nat}
    {c : Config Karo} (h : upTo ls last n = some c) :
    Reaches (robot .plain) (initial ⟨0, 0⟩) c := by
  obtain ⟨c₁, h₁, h⟩ := Option.bind_eq_some_iff.mp h
  obtain ⟨c₂, h₂, h⟩ := Option.bind_eq_some_iff.mp h
  exact ((play_run h₁).trans (play_run h₂)).trans (smalls_run h)

/-- The check on what such a script reaches. -/
theorem upTo_raises {ls : List (Cmd (robot .plain))} {last : Cmd (robot .plain)} {n : Nat}
    {t : TaskId} {call : ApiCall} {e : Exn} (hr : call.reports = true)
    (h : (upTo ls last n).any (fun c => c.world.tasks.procOf t = some (.api call) &&
      raising c = some (t, e)) = true) :
    ∃ c, Reaches (robot .plain) (initial ⟨0, 0⟩) c ∧ c.world.Reports t ∧
      raising c = some (t, e) := by
  obtain ⟨c, hc, h⟩ := (Option.any_eq_true _ _).mp h
  simp only [Bool.and_eq_true, decide_eq_true_eq] at h
  exact ⟨c, upTo_run hc, ⟨call, h.1, hr⟩, h.2⟩

/-- `cancel_task` with a lone surrogate, in `READY` -/
def cancels : List (Cmd (robot .plain)) := connected ++ [.env (.call (.cancelTask ⟨[0xD800]⟩))]

/-- The send of a subscribe request fails, and while the call waits for the reader, `close`
takes the reader away. -/
def subscribes : List (Cmd (robot .plain)) :=
  connected ++ [.env (.call (.subscribe "robot.events" ⟨1⟩)), .start 4,
    .resume 4 (.error (.other "send")), .resume 4 (.ok .done), .env (.call .close), .start 6,
    .resume 6 (.error (.timeout "")), .resume 2 (.error .cancelled), .resume 6 (.ok .done)]

end KaroX2
