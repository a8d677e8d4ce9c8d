/-
KaroX2/History.lean

The history of the connection.

Every try to reconnect uses up a retry that was scheduled with its number, and every
`READY` is the first one or is counted as a reconnect.  Both need an account of who is
about to make a try, or a first handshake: the tasks that are planned, those that sleep, and
the calls of `_establish`.
-/
import KaroX2.Milestones
import Mathlib.Algebra.BigOperators.Group.Multiset.Basic

namespace KaroX2

open Coop

variable {σ : Setup} {w w' : World} {x : Running Karo} {q : List Label} {l : Label}
  {r : Option (Running Karo)} {o : Multiset (Site Karo)} {clock : Clock} {n : Nat}
  {c : Config Karo}

/-! ### Who is about to make a try, or a first handshake -/

/-- The task has just been started. -/
def Coop.Running.fresh (x : Running Karo) : Bool :=
  match x.since with
  | .begun => true
  | _ => false

/-- The task is the retry with the number. -/
def World.retriesAs (w : World) (n : Nat) (t : TaskId) : Bool :=
  (w.tasks.procOf t).any (Job.retries n)

/-- The running task is about to make the try with the number. -/
def Coop.Running.tries (x : Running Karo) (n : Nat) (w : World) : Nat :=
  ((x.fresh || .backoff ∈ x.path) && w.retriesAs n x.task).toNat

/-- The suspended tasks that are about to make the try with the number. -/
def sleepingRetries (n : Nat) (w : World) (o : Multiset (Site Karo)) : Nat :=
  (o.map fun s => (decide (.backoff ∈ s.path) && w.retriesAs n s.task).toNat).sum

/-- The call may come to the handshake of the first connection. -/
def Label.greets : Label → Bool
  | .establish isReconnect _ | .handshaking isReconnect _ _ => !isReconnect
  | _ => false

/-- The calls that may come to the handshake of the first connection. -/
def greetings (r : Option (Running Karo)) (o : Multiset (Site Karo)) : Nat :=
  (o.map fun s => s.path.countP Label.greets).sum + r.elim 0 fun x => x.path.countP Label.greets

/-- The history is a chain, and accounts for all tries and sessions. -/
structure Chronicle (w : World) (r : Option (Running Karo)) (o : Multiset (Site Karo)) : Prop where
  leads : Leads w.log w.conn.state
  readied : w.log.countP Obs.readies ≤ w.log.countP Obs.greets + w.conn.reconnectTotalCount
  greeted : w.log.countP Obs.greets + greetings r o ≤ w.log.countP Obs.opens
  tried : ∀ n, w.log.countP (Obs.tries n) + (w.retries n + sleepingRetries n w o +
    r.elim 0 fun x => x.tries n w) ≤ w.log.countP (Obs.schedules n)
  known : ∀ x, r = some x → ∃ j, w.tasks.procOf x.task = some j
  suspended : ∀ s ∈ o, ∃ j, w.tasks.procOf s.task = some j

namespace Chronicle

variable {y : Running Karo} {g : Nat} {k : Nat → Nat} {s : Site Karo}

theorem retriesAs_later (hl : Later w w') {t : TaskId} (ht : ∃ j, w.tasks.procOf t = some j) :
    w'.retriesAs n t = w.retriesAs n t := by
  obtain ⟨j, hj⟩ := ht
  rw [World.retriesAs, World.retriesAs, hj, hl.proc _ _ hj]

theorem sleepingRetries_later (h : Chronicle w r o) (hl : Later w w') :
    sleepingRetries n w' o = sleepingRetries n w o := by
  refine congrArg Multiset.sum (Multiset.map_congr rfl fun s hs => ?_)
  rw [retriesAs_later hl (h.suspended s hs)]

@[simp] theorem sleepingRetries_cons :
    sleepingRetries n w (s ::ₘ o) = (decide (.backoff ∈ s.path) && w.retriesAs n s.task).toNat +
      sleepingRetries n w o := by
  rw [sleepingRetries, Multiset.map_cons, Multiset.sum_cons]
  rfl

/-- The task goes on in another call stack. -/
theorem runs (h : Chronicle w (some x) o) (hl : Later w w') (hc : Proceeds g k w w')
    (ht : y.task = x.task)
    (hgreets : g + y.path.countP Label.greets + w.log.countP Obs.opens ≤
      x.path.countP Label.greets + w'.log.countP Obs.opens)
    (htries : ∀ n, k n + y.tries n w ≤ x.tries n w) : Chronicle w' (some y) o where
  leads := hc.leads h.leads
  readied := by
    have := hc.readied
    have := h.readied
    omega
  greeted := by
    have hfew : w.log.countP Obs.greets + ((o.map fun s => s.path.countP Label.greets).sum +
      x.path.countP Label.greets) ≤ w.log.countP Obs.opens := h.greeted
    show w'.log.countP Obs.greets + ((o.map fun s => s.path.countP Label.greets).sum +
      y.path.countP Label.greets) ≤ w'.log.countP Obs.opens
    rw [hc.greets]
    omega
  tried n := by
    have hfew : w.log.countP (Obs.tries n) + (w.retries n + sleepingRetries n w o + x.tries n w) ≤
      w.log.countP (Obs.schedules n) := h.tried n
    have hy : y.tries n w' = y.tries n w := by
      rw [Running.tries, Running.tries, retriesAs_later hl (ht ▸ h.known x rfl)]
    show w'.log.countP (Obs.tries n) + (w'.retries n + sleepingRetries n w' o + y.tries n w') ≤ _
    rw [hc.tries, h.sleepingRetries_later hl, hy]
    have := hc.scheduled n
    have := htries n
    omega
  known := by
    rintro _ ⟨⟩
    obtain ⟨j, hj⟩ := h.known x rfl
    exact ⟨j, ht ▸ hl.proc _ j hj⟩
  suspended s hs := by
    obtain ⟨j, hj⟩ := h.suspended s hs
    exact ⟨j, hl.proc _ j hj⟩

theorem moves (h : Chronicle w (some x) o) (hm : Move σ x w w') :
    Chronicle w' (some { x with path := x.path }) o := by
  refine h.runs hm.later hm.untried rfl ?_ fun n => (Nat.zero_add _).le
  rw [Nat.zero_add]
  exact Nat.add_le_add_left hm.untried.opens _

theorem leaves (h : Chronicle w (some x) o) (hp : x.path = q ++ [l]) (hm : Leaves σ x q w l w') :
    Chronicle w' (some { x with path := q }) o := by
  refine h.runs hm.later hm.untried rfl ?_ fun n => ?_
  · have hle : q.countP Label.greets ≤ x.path.countP Label.greets := by
      rw [hp, List.countP_append]
      exact Nat.le_add_right _ _
    have := hm.untried.opens
    show 0 + q.countP Label.greets + _ ≤ _
    omega
  · show 0 + Running.tries { x with path := q } n w ≤ x.tries n w
    rw [Nat.zero_add]
    refine Bool.toNat_le_toNat fun ht => ?_
    simp only [Bool.and_eq_true, Bool.or_eq_true, decide_eq_true_eq] at ht ⊢
    refine ⟨ht.1.imp id fun hb => ?_, ht.2⟩
    rw [hp]
    exact List.mem_append_left _ hb

/-- A retry that has slept makes its try, and the first handshake ends its call. -/
theorem becomes (h : Chronicle w (some x) o) (hm : Becomes σ x w q w') :
    Chronicle w' (some { x with path := q }) o := by
  have htries (hb : .backoff ∉ q) (n : Nat) :
      Running.tries { x with path := q } n w ≤ x.tries n w := by
    refine Bool.toNat_le_toNat fun ht => ?_
    simp only [Bool.and_eq_true, Bool.or_eq_true, decide_eq_true_eq] at ht ⊢
    exact ⟨ht.1.imp id fun hq => absurd hq hb, ht.2⟩
  have hlater : Later w w' := hm.later
  cases hm with
  | reconnects m ms rep hp ht hx hs =>
    refine h.runs hlater (beginReconnect_proceeds hs) rfl ?_ fun n => ?_
    · show 0 + 0 + w.log.countP Obs.opens ≤ _
      have := (beginReconnect_proceeds (n := m) hs).opens
      omega
    · have hretries : w.retriesAs n x.task = decide (m = n) := by
        rw [World.retriesAs, ht]
        rfl
      have hfresh : x.fresh = false := by
        rw [Running.fresh]
        split
        · rename_i hbegun
          rw [Running.Got, hbegun] at hx
          cases hx
        · rfl
      rw [Running.tries, Running.tries, hretries, Pi.single_apply]
      simp only [Running.fresh] at hfresh ⊢
      simp [hfresh, hp, eq_comm]
      by_cases hm : m = n <;> simp [hm]
  | installs isR ep rep hp =>
    refine h.runs hlater install_untried rfl ?_ fun n => ?_
    · have := (install_untried (w := w)).opens
      rw [hp]
      show 0 + [Label.handshaking isR ep w.clientCount].countP Label.greets + _ ≤
        [Label.handshaking isR ep w.clientCount].countP Label.greets + _
      omega
    · rw [Pi.zero_apply, Nat.zero_add]
      exact htries (by simp) n
  | begins isR ep c rid cmd resp hp =>
    have hc : Proceeds (!isR).toNat 0 w (w.beginSession σ isR c resp) := .beginSession
    refine h.runs hlater hc rfl ?_ fun n => ?_
    · have hx : x.path.countP Label.greets = (!isR).toNat := by
        rw [hp]
        cases isR <;> rfl
      have := hc.opens
      rw [hx]
      show (!isR).toNat + 0 + _ ≤ _
      omega
    · rw [Pi.zero_apply, Nat.zero_add]
      exact htries (by simp) n
  | restores isR ep c s rest hp =>
    refine h.runs hlater .refl rfl ?_ fun n => ?_
    · rw [hp]
      show 0 + 0 + w.log.countP Obs.opens ≤ 0 + w.log.countP Obs.opens
      rw [Nat.zero_add]
    · rw [Pi.zero_apply, Nat.zero_add]
      exact htries (by simp) n

theorem enters (h : Chronicle w (some x) o) (he : Enters σ x w l w') :
    Chronicle w' (some ⟨x.task, x.path ++ [l], .called⟩) o := by
  refine h.runs he.later he.untried rfl ?_ fun n => ?_
  · show 0 + (x.path ++ [l]).countP Label.greets + _ ≤ _
    rw [List.countP_append]
    have := he.untried.opens
    by_cases hl : l.greets = true
    -- the first call leaves `IDLE`
    · cases he with
      | establish hp hx ht hs =>
        have hopens : (w.transition .connecting { reason := "connect()" }).log.countP
            Obs.opens = w.log.countP Obs.opens + 1 := by
          rw [transition_log, if_neg (by simp [hs]), List.countP_cons_of_pos rfl]
        rw [hopens]
        show 0 + (_ + 1) + _ ≤ _
        omega
      | _ => cases hl
    · rw [List.countP_singleton, if_neg hl]
      omega
  · rw [Pi.zero_apply, Nat.zero_add]
    refine Bool.toNat_le_toNat fun ht => ?_
    simp only [Running.fresh, Bool.false_or, Bool.and_eq_true, Bool.or_eq_true,
      decide_eq_true_eq] at ht ⊢
    refine ⟨?_, ht.2⟩
    rcases List.mem_append.mp ht.1 with hb | hb
    · exact .inr hb
    · obtain rfl := List.mem_singleton.mp hb
      cases he with
      | backoff n ms hp hx =>
        left
        rw [hx]

theorem waits {op : Op} (h : Chronicle w (some x) o) :
    Chronicle w none (⟨x.task, x.path, op⟩ ::ₘ o) where
  leads := h.leads
  readied := h.readied
  greeted := by
    have hfew : w.log.countP Obs.greets + ((o.map fun s => s.path.countP Label.greets).sum +
      x.path.countP Label.greets) ≤ w.log.countP Obs.opens := h.greeted
    rw [greetings, Multiset.map_cons, Multiset.sum_cons]
    show w.log.countP Obs.greets + (x.path.countP Label.greets +
      (o.map fun s => s.path.countP Label.greets).sum + 0) ≤ _
    omega
  tried n := by
    have hfew : w.log.countP (Obs.tries n) + (w.retries n + sleepingRetries n w o + x.tries n w) ≤
      w.log.countP (Obs.schedules n) := h.tried n
    have hle : (decide (.backoff ∈ x.path) && w.retriesAs n x.task).toNat ≤ x.tries n w := by
      refine Bool.toNat_le_toNat fun ht => ?_
      simp only [Bool.and_eq_true, Bool.or_eq_true] at ht ⊢
      exact ⟨.inr ht.1, ht.2⟩
    rw [sleepingRetries_cons]
    show w.log.countP (Obs.tries n) + (w.retries n + ((decide (.backoff ∈ x.path) &&
      w.retriesAs n x.task).toNat + sleepingRetries n w o) + 0) ≤ _
    omega
  known := fun _ hx => by cases hx
  suspended s hs := by
    rcases Multiset.mem_cons.mp hs with rfl | hs
    · exact h.known x rfl
    · exact h.suspended s hs

/-- Nobody runs, and the world goes on. -/
theorem later (h : Chronicle w none o) (hl : Later w w') (hc : Untried w w') :
    Chronicle w' none o where
  leads := hc.leads h.leads
  readied := by
    have := hc.readied
    have := h.readied
    omega
  greeted := by
    rw [hc.greets]
    exact h.greeted.trans hc.opens
  tried n := by
    have hfew : w.log.countP (Obs.tries n) + (w.retries n + sleepingRetries n w o + 0) ≤
      w.log.countP (Obs.schedules n) := h.tried n
    show w'.log.countP (Obs.tries n) + (w'.retries n + sleepingRetries n w' o + 0) ≤ _
    rw [hc.tries, h.sleepingRetries_later hl, Pi.zero_apply]
    have := hc.scheduled n
    omega
  known := fun _ hx => by cases hx
  suspended s hs := by
    obtain ⟨j, hj⟩ := h.suspended s hs
    exact ⟨j, hl.proc _ j hj⟩

/-- A suspended task goes on. -/
theorem serves {e : Since Karo} (h : Chronicle w none (s ::ₘ o))
    (he : Running.fresh ⟨s.task, s.path, e⟩ = false) :
    Chronicle w (some ⟨s.task, s.path, e⟩) o where
  leads := h.leads
  readied := h.readied
  greeted := by
    have hfew := h.greeted
    rw [greetings, Multiset.map_cons, Multiset.sum_cons] at hfew
    show w.log.countP Obs.greets + ((o.map fun s => s.path.countP Label.greets).sum +
      s.path.countP Label.greets) ≤ _
    simp only [Option.elim_none] at hfew
    omega
  tried n := by
    have hfew := h.tried n
    rw [sleepingRetries_cons] at hfew
    have hs : Running.tries ⟨s.task, s.path, e⟩ n w =
        (decide (.backoff ∈ s.path) && w.retriesAs n s.task).toNat := by
      rw [Running.tries, he, Bool.false_or]
    show w.log.countP (Obs.tries n) + (w.retries n + sleepingRetries n w o +
      Running.tries ⟨s.task, s.path, e⟩ n w) ≤ _
    simp only [Option.elim_none] at hfew
    rw [hs]
    omega
  known := by
    rintro _ ⟨⟩
    exact h.suspended s (Multiset.mem_cons_self s o)
  suspended u hu := h.suspended u (Multiset.mem_cons_of_mem hu)

theorem finishes {res : Except Exn Unit} (h : Chronicle w (some x) o) :
    Chronicle (w.finish x.task res) none o := by
  have hnone : Chronicle w none o := by
    refine ⟨h.leads, h.readied, ?_, fun n => ?_, (fun _ hx => by cases hx), h.suspended⟩
    · exact (Nat.add_le_add_left (Nat.add_le_add_left (Nat.zero_le _) _) _).trans h.greeted
    · exact (Nat.add_le_add_left (Nat.add_le_add_left (Nat.zero_le _) _) _).trans (h.tried n)
  exact hnone.later finish_later finish_untried

/-- A planned retry has been started. -/
theorem starts {t : TaskId} {p : Proc} (h : Chronicle w none o) (hp : w.createdProc t = some p) :
    Chronicle { w with tasks := w.tasks.begin t } (some ⟨t, [], .begun⟩) o := by
  obtain ⟨y, hy, hs, -⟩ := created_task hp
  have hproc : w.tasks.procOf t = some y.proc := by rw [Tasks.procOf, hy]; rfl
  have hl : Later w { w with tasks := w.tasks.begin t } := begin_later
  refine ⟨h.leads, h.readied, h.greeted, fun n => ?_, ?_, fun s hs => ?_⟩
  · have hfew : w.log.countP (Obs.tries n) + (w.retries n + sleepingRetries n w o + 0) ≤
      w.log.countP (Obs.schedules n) := h.tried n
    have hbegins : (w.tasks.begin t).pending (Job.retries n) + (y.proc.retries n).toNat ≤
        w.tasks.pending (Job.retries n) := by
      cases hj : y.proc.retries n with
      | true => exact (Tasks.pending_begin hy hs hj).le
      | false => exact Tasks.pending_begin_le
    have htries : Running.tries ⟨t, [], .begun⟩ n { w with tasks := w.tasks.begin t } =
        (y.proc.retries n).toNat := by
      rw [Running.tries, retriesAs_later hl ⟨_, hproc⟩, World.retriesAs, hproc]
      rfl
    show w.log.countP (Obs.tries n) + ((w.tasks.begin t).pending (Job.retries n) +
      sleepingRetries n { w with tasks := w.tasks.begin t } o +
      Running.tries ⟨t, [], .begun⟩ n { w with tasks := w.tasks.begin t }) ≤
        w.log.countP (Obs.schedules n)
    rw [htries, h.sleepingRetries_later hl]
    unfold World.retries at hfew
    omega
  · rintro _ ⟨⟩
    exact ⟨_, hl.proc _ _ hproc⟩
  · obtain ⟨j, hj⟩ := h.suspended s hs
    exact ⟨j, hl.proc _ j hj⟩

end Chronicle

theorem chronicle_kept : Keeps (outline σ) (fun _ _ _ => True) .trivial Chronicle where
  step {x q w w' o} _ hi hs _ := by
    rcases hs with ⟨rfl, hm⟩ | ⟨l, hp, hm⟩ | hm
    · exact hi.moves hm
    · exact hi.leaves hp hm
    · exact hi.becomes hm
  enter _ hi _ hs _ := hi.enters hs
  wait _ hi _ _ := hi.waits
  resume _ hi _ _ _ := (hi.later resume_later resume_untried).serves rfl
  start _ hi _ hp _ := hi.starts hp
  finish _ hi _ _ := hi.finishes
  env _ hi _ he _ := hi.later (env_later he) (env_untried he)

theorem chronicle_initial (clock : Clock) : Chronicle (.init clock) none 0 where
  leads := rfl
  readied := Nat.zero_le _
  greeted := Nat.zero_le _
  tried _ := Nat.zero_le _
  known _ hx := by cases hx
  suspended _ hs := absurd hs (Multiset.notMem_zero _)

/-! ### Runs -/

theorem chronicle (h : Reaches (robot σ) (initial clock) c) :
    ∃ r, Chronicle c.world r c.sites := by
  have htraced := outlined.traced_run chronicle_kept (.initial (chronicle_initial clock)) h
  rcases hrun : c.running with - | ⟨t, k⟩
  · exact ⟨none, htraced.idle hrun⟩
  · obtain ⟨x, -, hx, -⟩ := htraced.running t k hrun
    exact ⟨some x, hx⟩

/-- **The transitions form a chain** in every run: each begins in the state in which the last
one ended, and leads to another state that may follow it.  The client connects for the first
time at most once, and every other session is counted as a reconnect. -/
theorem transition_history (h : Reaches (robot σ) (initial clock) c) :
    Leads c.world.log c.world.conn.state ∧
    c.world.log.countP Obs.opens ≤ 1 ∧
    c.world.log.countP Obs.readies ≤ c.world.conn.reconnectTotalCount + 1 := by
  obtain ⟨r, hc⟩ := chronicle h
  have hopens : c.world.log.countP Obs.opens ≤ 1 := hc.leads.opens_le
  refine ⟨hc.leads, hopens, ?_⟩
  have := hc.readied
  have := hc.greeted
  omega

/-- **Every try was scheduled**: in every run, the tries with a number, the retries with this
number that have not begun and those that sleep are together no more than were scheduled. -/
theorem tries_scheduled (h : Reaches (robot σ) (initial clock) c) (n : Nat) :
    c.world.log.countP (Obs.tries n) + c.world.retries n + sleepingRetries n c.world c.sites ≤
      c.world.log.countP (Obs.schedules n) := by
  obtain ⟨r, hc⟩ := chronicle h
  have := hc.tried n
  omega

/-- The peer drops the connection, and the client tries to reconnect. -/
def droppedOnce : List (Cmd (robot .plain)) :=
  connected ++ [.env (.peerClose 0), .resume 2 (.error (.connectionClosed 1006 "gone")), .start 4,
    .resume 4 (.ok .done)]

theorem transition_history_dropped : ∃ c, Reaches (robot .plain) (initial ⟨0, 0⟩) c ∧
    c.world.conn.state = .reconnecting ∧ Leads c.world.log .reconnecting ∧
    c.world.log.countP Obs.opens ≤ 1 ∧
    c.world.log.countP Obs.readies ≤ c.world.conn.reconnectTotalCount + 1 := by
  have hplay : ((robot .plain).play 4 droppedOnce (initial ⟨0, 0⟩)).any
      (fun c => c.world.conn.state = .reconnecting) = true := by
    decide +kernel
  obtain ⟨c, hc, hs⟩ := (Option.any_eq_true _ _).mp hplay
  have hstate : c.world.conn.state = .reconnecting := of_decide_eq_true hs
  obtain ⟨hleads, hopens, hreadies⟩ := transition_history (play_run hc)
  exact ⟨c, play_run hc, hstate, hstate ▸ hleads, hopens, hreadies⟩

theorem tries_scheduled_dropped : ∃ c, Reaches (robot .plain) (initial ⟨0, 0⟩) c ∧
    c.world.log.countP (Obs.tries 1) = 1 ∧ 1 ≤ c.world.log.countP (Obs.schedules 1) := by
  have hplay : ((robot .plain).play 4 droppedOnce (initial ⟨0, 0⟩)).any
      (fun c => c.world.log.countP (Obs.tries 1) = 1) = true := by
    decide +kernel
  obtain ⟨c, hc, hs⟩ := (Option.any_eq_true _ _).mp hplay
  have htried : c.world.log.countP (Obs.tries 1) = 1 := of_decide_eq_true hs
  refine ⟨c, play_run hc, htried, ?_⟩
  have := tries_scheduled (play_run hc) 1
  omega

end KaroX2
