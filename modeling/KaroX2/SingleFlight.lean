/-
KaroX2/SingleFlight.lean

One attempt to connect at a time.

Attempts turn into each other without an overlap, so there is one at most, as long as
`_on_transport_close` begins only when there is none.
-/
import KaroX2.Attempts
import Mathlib.Algebra.BigOperators.Group.Multiset.Basic
import Mathlib.Data.Multiset.Count

namespace KaroX2

open Coop

variable {σ : Setup} {w w' : World} {x : Running Karo} {q : List Label} {l : Label}

/-! ### One attempt at a time -/

/-- The attempts of the suspended tasks. -/
def suspendedAttempts (o : Multiset (Site Karo)) : Nat := (o.map fun s => attemptCount s.path).sum

/-- All attempts. -/
def load (w : World) (r : Option (Running Karo)) (o : Multiset (Site Karo)) : Nat :=
  w.planned + suspendedAttempts o + r.elim 0 fun x => x.load w

/-- There is one attempt at most, and none before `connect`. -/
structure OneAttempt (w : World) (r : Option (Running Karo)) (o : Multiset (Site Karo)) : Prop where
  few : load w r o ≤ 1
  fresh : w.conn.connectInvoked = false → load w r o = 0
  known : ∀ x, r = some x → ∃ j, w.tasks.procOf x.task = some j
  suspended : ∀ s ∈ o, ∃ j, w.tasks.procOf s.task = some j

/-- `_on_transport_close` begins after `connect`, when nothing else is scheduled, asleep or
under way to establish a connection; or in a terminal state. -/
def LosesAlone : Constraint (robot σ)
  | w, o, .enter _ p .onTransportClose => w.conn.state.terminal = true ∨
      w.conn.connectInvoked = true ∧ w.planned + suspendedAttempts o + attemptCount p = 0
  | _, _, _ => True

namespace OneAttempt

variable {r r' : Option (Running Karo)} {o o' : Multiset (Site Karo)} {y : Running Karo}

/-- A step that plans no attempt, of a task whose load does not grow. -/
theorem later (h : OneAttempt w r o) (hl : Later w w')
    (hu : w'.conn.connectInvoked = w.conn.connectInvoked)
    (hload : load w' r' o' ≤ load w r o)
    (hknown : ∀ x, r' = some x → ∃ j, w.tasks.procOf x.task = some j)
    (ho : ∀ s ∈ o', ∃ j, w.tasks.procOf s.task = some j) : OneAttempt w' r' o' where
  few := hload.trans h.few
  fresh hn := Nat.le_zero.mp (h.fresh (hu ▸ hn) ▸ hload)
  known x hx := by
    obtain ⟨j, hj⟩ := hknown x hx
    exact ⟨j, hl.proc _ j hj⟩
  suspended s hs := by
    obtain ⟨j, hj⟩ := ho s hs
    exact ⟨j, hl.proc _ j hj⟩

/-- What a task runs does not change, so neither does what it has just been started for. -/
theorem begins_later (h : OneAttempt w (some x) o) (hl : Later w w') (ht : y.task = x.task)
    (hs : y.since = x.since) : y.begins w' = x.begins w := by
  obtain ⟨j, hj⟩ := h.known x rfl
  have hj' : w'.tasks.procOf y.task = some j := ht ▸ hl.proc _ j hj
  unfold Running.begins
  rw [hs, hj, hj']

/-- The task goes on in another call stack. -/
theorem runs (h : OneAttempt w (some x) o) (hl : Later w w') (ht : y.task = x.task)
    (hu : w'.conn.connectInvoked = w.conn.connectInvoked)
    (hload : w'.planned + y.load w' ≤ w.planned + x.load w) : OneAttempt w' (some y) o := by
  refine h.later hl hu ?_ ?_ h.suspended
  · show w'.planned + suspendedAttempts o + y.load w' ≤ w.planned + suspendedAttempts o + x.load w
    omega
  · rintro _ ⟨⟩
    exact ht ▸ h.known x rfl

theorem moves (h : OneAttempt w (some x) o) (hm : Move σ x w w') :
    OneAttempt w' (some { x with path := x.path }) o := by
  have hbegins : x.begins w' = x.begins w := h.begins_later hm.later rfl rfl
  have hx : x.load w' ≤ x.load w := load_mono hbegins hm.ignored
  rcases hm.unplanned with hu | rfl
  · exact h.runs hm.later rfl hu.invoked (Nat.add_le_add hu.planned hx)
  by_cases hc : w.conn.connectInvoked = true
  · rwa [World.connect, if_pos hc]
  -- the first call of `connect` plans the only attempt
  · have hzero : w.planned + suspendedAttempts o + x.load w = 0 :=
      h.fresh (Bool.eq_false_of_not_eq_true hc)
    have hconnect : w.connect =
        { w.spawn .establishInitial with conn.connectInvoked := true } := if_neg hc
    have hplanned : w.connect.planned ≤ w.planned + 1 := by
      rw [hconnect]
      show (w.tasks.spawn .establishInitial).pending _ ≤ _
      rw [Tasks.pending_spawn]
      exact le_rfl
    refine ⟨?_, fun hn => ?_, ?_, fun s hs => ?_⟩
    · show w.connect.planned + suspendedAttempts o + x.load w.connect ≤ 1
      omega
    · rw [hconnect] at hn
      cases hn
    · rintro _ ⟨⟩
      obtain ⟨j, hj⟩ := h.known x rfl
      exact ⟨j, hm.later.proc _ j hj⟩
    · obtain ⟨j, hj⟩ := h.suspended s hs
      exact ⟨j, hm.later.proc _ j hj⟩

theorem leaves (h : OneAttempt w (some x) o) (hp : x.path = q ++ [l]) (hm : Leaves σ x q w l w') :
    OneAttempt w' (some { x with path := q }) o := by
  have hle : ({ x with path := q } : Running Karo).load w' ≤ attemptCount q + x.begins w :=
    (load_le (x := { x with path := q })).trans
      (Nat.add_le_add_left (h.begins_later hm.later rfl rfl).le _)
  rcases hm.unplanned with hu | hr
  · refine h.runs hm.later rfl hu.invoked (Nat.add_le_add hu.planned (hle.trans (load_ge hp)))
  -- the attempt of the call becomes a scheduled retry
  · have hx : x.load w = attemptCount q + 1 + x.begins w := by
      rw [load_eq (hr.heeded q hp), hp, attemptCount_append]
      simp [attemptCount, hr.attempts]
    have := hr.planned
    exact h.runs hm.later rfl hr.invoked (by omega)

theorem becomes (h : OneAttempt w (some x) o) (hm : Becomes σ x w q w') :
    OneAttempt w' (some { x with path := q }) o := by
  have hle : ({ x with path := q } : Running Karo).load w' ≤ attemptCount q + x.begins w :=
    (load_le (x := { x with path := q })).trans
      (Nat.add_le_add_left (h.begins_later hm.later rfl rfl).le _)
  -- the regions of an attempt follow each other
  obtain ⟨a, b, hp, rfl, ha, hb, hne⟩ : ∃ a b, x.path = [a] ∧ q = [b] ∧ a.attempts = true ∧
      b.attempts = true ∧ a ≠ .onTransportClose := by
    cases hm with
    | reconnects n ms rep hp | installs isR ep rep hp | begins isR ep c rid cmd resp hp
    | restores isR ep c s rest hp => exact ⟨_, _, hp, rfl, rfl, rfl, nofun⟩
  have hx : x.load w = attemptCount [b] + x.begins w := by
    rw [load_eq (ignores_false (by rw [hp]; simpa using hne)), hp]
    simp [attemptCount, ha, hb]
  obtain ⟨hplanned, hinvoked⟩ : w'.planned ≤ w.planned ∧
      w'.conn.connectInvoked = w.conn.connectInvoked := by
    rcases hm.unplanned with hu | ⟨n, ms, -, -, -, -, rfl⟩
    · exact ⟨hu.planned, hu.invoked⟩
    · unfold World.beginReconnect World.transition
      split <;> exact ⟨le_rfl, rfl⟩
  exact h.runs hm.later rfl hinvoked (Nat.add_le_add hplanned (hle.trans hx.ge))

theorem waits {op : Op} (h : OneAttempt w (some x) o) (hw : Waits x w op) :
    OneAttempt w none (⟨x.task, x.path, op⟩ ::ₘ o) := by
  refine h.later (Later.refl w) rfl ?_ (fun _ hx => by cases hx) ?_
  · have hx : attemptCount x.path ≤ x.load w := by
      rw [load_eq hw.heeded]
      exact Nat.le_add_right _ _
    have hcons : suspendedAttempts (⟨x.task, x.path, op⟩ ::ₘ o) =
        attemptCount x.path + suspendedAttempts o := by
      rw [suspendedAttempts, Multiset.map_cons, Multiset.sum_cons]
      rfl
    show w.planned + suspendedAttempts (⟨x.task, x.path, op⟩ ::ₘ o) + 0 ≤
      w.planned + suspendedAttempts o + x.load w
    omega
  · intro s hs
    rcases Multiset.mem_cons.mp hs with rfl | hs
    · exact h.known x rfl
    · exact h.suspended s hs

theorem resumes {s : Site Karo} {rep : Except Exn Reply} (h : OneAttempt w none (s ::ₘ o)) :
    OneAttempt (w.resume s.task s.op rep) (some ⟨s.task, s.path, .answered s rep⟩) o := by
  obtain ⟨ts, evt, heq, hts⟩ := resume_eq s.task s.op rep w
  have hplanned : (w.resume s.task s.op rep).planned ≤ w.planned := by
    rw [heq]
    rcases hts with rfl | rfl
    · exact le_rfl
    · exact Tasks.pending_served_le
  have hcons : suspendedAttempts (s ::ₘ o) = attemptCount s.path + suspendedAttempts o := by
    rw [suspendedAttempts, Multiset.map_cons, Multiset.sum_cons]
    rfl
  refine h.later resume_later (by rw [heq]) ?_ ?_
    fun s' hs' => h.suspended s' (Multiset.mem_cons_of_mem hs')
  · show (w.resume s.task s.op rep).planned + suspendedAttempts o + attemptCount s.path ≤
      w.planned + suspendedAttempts (s ::ₘ o) + 0
    omega
  · rintro _ ⟨⟩
    exact h.suspended s (Multiset.mem_cons_self s o)

theorem starts {t : TaskId} {p : Proc} (h : OneAttempt w none o) (hp : w.createdProc t = some p) :
    OneAttempt { w with tasks := w.tasks.begin t } (some ⟨t, [], .begun⟩) o := by
  obtain ⟨y, hy, hs, -⟩ := created_task hp
  have hproc : w.tasks.procOf t = some y.proc := by rw [Tasks.procOf, hy]; rfl
  have hproc' : (w.tasks.begin t).procOf t = some y.proc := Tasks.procOf_begin.trans hproc
  refine h.later begin_later rfl ?_ ?_ h.suspended
  · show (w.tasks.begin t).pending _ + suspendedAttempts o +
      (0 + (((w.tasks.begin t).procOf t).any Job.attempts).toNat) ≤
        w.tasks.pending _ + suspendedAttempts o + 0
    rw [hproc', Option.any_some]
    -- what was planned has begun
    cases hj : y.proc.attempts with
    | true =>
      have := Tasks.pending_begin hy hs hj
      simp only [Bool.toNat_true]
      omega
    | false =>
      have : (w.tasks.begin t).pending Job.attempts ≤ w.tasks.pending Job.attempts :=
        Tasks.pending_begin_le
      simp only [Bool.toNat_false]
      omega
  · rintro _ ⟨⟩
    exact ⟨y.proc, hproc⟩

theorem finishes {r : Except Exn Unit} (h : OneAttempt w (some x) o) :
    OneAttempt (w.finish x.task r) none o := by
  obtain ⟨l, ts, heq, -, hts⟩ := finish_eq w x.task r
  have hplanned : (w.finish x.task r).planned ≤ w.planned := by
    rw [heq]
    rcases hts with rfl | ⟨code, message, rfl⟩
    · exact Tasks.pending_finish_le
    · show ((w.tasks.finish x.task).spawn _).pending _ ≤ _
      rw [Tasks.pending_spawn]
      exact Tasks.pending_finish_le
  refine h.later finish_later (by rw [heq]) ?_ (fun _ hx => by cases hx) h.suspended
  show (w.finish x.task r).planned + suspendedAttempts o + 0 ≤
    w.planned + suspendedAttempts o + x.load w
  omega

theorem env {e : EnvStep} (h : OneAttempt w none o) (he : World.env e w = some w') :
    OneAttempt w' none o := by
  have hu : Unplanned w w' := env_unplanned he
  refine h.later (env_later he) hu.invoked ?_ (fun _ hx => by cases hx) h.suspended
  exact Nat.add_le_add_right (Nat.add_le_add_right hu.planned _) _

/-- A call of `_on_transport_close` is the only attempt when it begins, or is ignored. -/
theorem loses (h : OneAttempt w (some x) o) (he : Enters σ x w Label.onTransportClose w')
    (ha : LosesAlone (σ := σ) w o (.enter x.task x.path Label.onTransportClose)) :
    OneAttempt w' (some ⟨x.task, x.path ++ [Label.onTransportClose], .called⟩) o := by
  have hu := he.unplanned
  have hstate : w'.conn.state = w.conn.state := by
    cases he with
    | onTransportClose => rfl
    | sendFailed => rw [(Silent.unregisterSubscribe (q := fun _ => False)).conn]
    | replayFailed => rfl
  have hx : x.load w = attemptCount x.path + x.begins w := load_eq he.heeded
  rcases ha with ht | ⟨hinvoked, hzero⟩
  · refine h.runs he.later rfl hu.invoked (Nat.add_le_add hu.planned ?_)
    have hignores : (⟨x.task, x.path ++ [Label.onTransportClose], .called⟩ : Running Karo).ignores w'
        = true := by
      simp [Running.ignores, hstate, ht]
    rw [Running.load, hignores, hx]
    show attemptCount (x.path ++ [Label.onTransportClose]).dropLast ≤ _
    rw [List.dropLast_concat]
    exact Nat.le_add_right _ _
  · have hload : (⟨x.task, x.path ++ [Label.onTransportClose], .called⟩ : Running Karo).load w' ≤
        attemptCount x.path + 1 :=
      load_le.trans (by simp [Running.begins, attemptCount, Label.attempts])
    refine ⟨?_, fun hn => ?_, ?_, fun s hs => ?_⟩
    · show w'.planned + suspendedAttempts o + Running.load _ w' ≤ 1
      have := hu.planned
      omega
    · rw [hu.invoked, hinvoked] at hn
      cases hn
    · rintro _ ⟨⟩
      obtain ⟨j, hj⟩ := h.known x rfl
      exact ⟨j, he.later.proc _ j hj⟩
    · obtain ⟨j, hj⟩ := h.suspended s hs
      exact ⟨j, he.later.proc _ j hj⟩

theorem enters (h : OneAttempt w (some x) o) (ha : LosesAlone (σ := σ) w o (.enter x.task x.path l))
    (he : Enters σ x w l w') : OneAttempt w' (some ⟨x.task, x.path ++ [l], .called⟩) o := by
  by_cases hl : l = .onTransportClose
  · subst hl
    exact h.loses he ha
  · have hu := he.unplanned
    refine h.runs he.later rfl hu.invoked (Nat.add_le_add hu.planned ?_)
    have hle : (⟨x.task, x.path ++ [l], .called⟩ : Running Karo).load w' ≤
        attemptCount x.path + attemptCount [l] := load_le.trans (by simp [Running.begins])
    refine hle.trans ?_
    rw [load_eq he.heeded]
    -- who begins an attempt has been started to
    have hbegins : attemptCount [l] ≤ x.begins w := by
      have hnone (hn : l.attempts = false) : attemptCount [l] ≤ x.begins w := by
        simp [attemptCount, hn]
      have hone (hx : x.since = .begun) (j : Job) (hj : j.attempts = true)
          (ht : w.tasks.procOf x.task = some j) : attemptCount [l] ≤ x.begins w := by
        have hb : x.begins w = 1 := by simp [Running.begins, hx, ht, hj]
        rw [hb]
        exact List.countP_le_length
      cases he with
      | backoff n ms hp hx ht => exact hone hx _ rfl ht
      | establish hp hx ht => exact hone hx _ rfl ht
      | onTransportClose | sendFailed | replayFailed => exact absurd rfl hl
      | _ => exact hnone rfl
    exact Nat.add_le_add_left hbegins _

end OneAttempt

theorem oneAttempt_kept : Keeps (outline σ) LosesAlone .trivial OneAttempt where
  step {x q w w' o} _ hi hs _ := by
    rcases hs with ⟨rfl, hm⟩ | ⟨l, hp, hm⟩ | hm
    · exact hi.moves hm
    · exact hi.leaves hp hm
    · exact hi.becomes hm
  enter _ hi ha hs _ := hi.enters ha hs
  wait _ hi hs _ := hi.waits hs
  resume _ hi _ _ _ := hi.resumes
  start _ hi _ hp _ := hi.starts hp
  finish _ hi _ _ := hi.finishes
  env _ hi _ he _ := hi.env he

theorem oneAttempt_initial (clock : Clock) : OneAttempt (.init clock) none 0 where
  few := Nat.zero_le _
  fresh _ := rfl
  known _ hx := by cases hx
  suspended _ hs := absurd hs (Multiset.notMem_zero _)

/-! ### Runs -/

/-- The task is a retry. -/
def Job.reconnects : Job → Bool
  | .doReconnect _ _ => true
  | _ => false

/-- The call is one of `_establish`. -/
def Label.establishes : Label → Bool
  | .establish _ _ | .handshaking _ _ _ | .restoring _ _ _ _ => true
  | _ => false

/-- The retries that wait to start their attempt, those included that are not yet asleep. -/
def waitingRetries (c : Config Karo) : Nat :=
  c.world.tasks.pending Job.reconnects + c.sites.countP fun s => s.path = [.backoff]

/-- The calls of `_establish` that are suspended. -/
def establishing (c : Config Karo) : Nat := c.sites.countP fun s => s.path.any Label.establishes

/-- One retry waits at most, and none while a call of `_establish` is under way. -/
def SingleFlight (c : Config Karo) : Prop :=
  waitingRetries c ≤ 1 ∧ (0 < establishing c → waitingRetries c = 0)

/-- Both are attempts. -/
theorem waiting_add_establishing_le (c : Config Karo) :
    waitingRetries c + establishing c ≤ c.world.planned + suspendedAttempts c.sites := by
  have hplanned : c.world.tasks.pending Job.reconnects ≤ c.world.planned := by
    refine List.countP_mono_left fun x _ hx => ?_
    unfold Tasks.isPending at hx ⊢
    simp only [Bool.and_eq_true] at hx ⊢
    refine ⟨hx.1, ?_⟩
    revert hx
    cases x.proc <;> simp [Job.reconnects, Job.attempts]
  have hsite (p : List Label) : (if p = [.backoff] then 1 else 0) +
      (if p.any Label.establishes then 1 else 0) ≤ attemptCount p := by
    by_cases hp : p = [.backoff]
    · subst hp
      decide
    · rw [if_neg hp, Nat.zero_add]
      split
      · rename_i hany
        obtain ⟨l, hl, he⟩ := List.any_eq_true.mp hany
        refine List.countP_pos_iff.mpr ⟨l, hl, ?_⟩
        cases l <;> first | rfl | cases he
      · exact Nat.zero_le _
  have hsites (o : Multiset (Site Karo)) : o.countP (fun s => s.path = [.backoff]) +
      o.countP (fun s => s.path.any Label.establishes) ≤ suspendedAttempts o := by
    induction o using Multiset.induction_on with
    | empty => exact le_rfl
    | cons s o ih =>
      have := hsite s.path
      rw [Multiset.countP_cons, Multiset.countP_cons, suspendedAttempts, Multiset.map_cons,
        Multiset.sum_cons]
      unfold suspendedAttempts at ih
      omega
  have := hsites c.sites
  unfold waitingRetries establishing
  omega

/-- The check that a connection is lost alone. -/
def losingAlone : Check (robot σ)
  | w, o, .enter _ p .onTransportClose =>
    w.conn.connectInvoked && w.planned + suspendedAttempts o + attemptCount p = 0
  | _, _, _ => true

theorem losingAlone_losesAlone {o : Multiset (Site Karo)} {a : Action Karo EnvStep}
    (h : (losingAlone (σ := σ)).allows w o a) : LosesAlone (σ := σ) w o a := by
  cases a with
  | enter t p l =>
    cases l with
    | onTransportClose => exact .inr (by simpa [losingAlone, Check.allows] using h)
    | _ => trivial
  | _ => trivial

/-- The peer drops the connection in `READY`. -/
def dropped : List (Cmd (robot .plain)) :=
  connected ++ [.env (.peerClose 0), .resume 2 (.error (.connectionClosed 1006 "gone")), .start 4]

/-- The peer drops the connection while the handshake waits for its response. -/
def droppedHandshake : List (Cmd (robot σ)) :=
  [.env (.call .connect), .start 0, .start 1, .resume 1 (.ok .done), .resume 1 (.ok .done),
    .start 2, .env (.peerClose 0), .resume 2 (.error (.connectionClosed 1006 "gone")), .resume 1 (.ok .done),
    .start 3, .start 4]

end KaroX2
