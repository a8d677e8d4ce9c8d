/-
KaroX2/Limit.lean

The limit of the tries to reconnect.

A retry carries the number of its attempt from when it is scheduled until it wakes up.  The
number is above the tries since the last `READY`, and is not above the limit.  As long as
there is one retry at a time, no try is made in between, so this still holds when the
retry makes its own.
-/
import KaroX2.SingleFlight
import KaroX2.Retrying
import KaroX2.Coop.Protocol
import KaroX2.Coop.Spin

namespace KaroX2

open Coop

variable {σ : Setup} {w w' : World} {x : Running Karo} {q : List Label} {l : Label}
  {r r' : Option (Running Karo)} {o o' : Multiset (Site Karo)} {t : TaskId} {clock : Clock}

/-! ### Retries that may still be made -/

variable (σ) in
/-- The number is above the tries so far, and the limit permits it. -/
def World.Due (w : World) (n : Nat) : Prop := tries w.log < n ∧ σ.Permits n

/-- The task may be a retry on its way to its try: it has just been started, or is in its
back-off. -/
def Retrying (r : Option (Running Karo)) (o : Multiset (Site Karo)) (t : TaskId) : Prop :=
  (∃ x, r = some x ∧ x.task = t ∧ (x.since = .begun ∨ .backoff ∈ x.path)) ∨
    ∃ s ∈ o, s.task = t ∧ .backoff ∈ s.path

theorem Setup.Permits.mono {m n : Nat} (h : σ.Permits n) (hle : m ≤ n) : σ.Permits m :=
  fun hlimit => (Int.ofNat_le.mpr hle).trans (h hlimit)

theorem World.Due.mono {n : Nat} (h : w.Due σ n) (hle : tries w'.log ≤ tries w.log) : w'.Due σ n :=
  ⟨hle.trans_lt h.1, h.2⟩

variable (σ) in
/-- The tries are within the limit, and so are the retries that are planned. -/
structure Limited (w : World) (r : Option (Running Karo)) (o : Multiset (Site Karo)) : Prop where
  limit : σ.Permits (tries w.log)
  tallied : w.Tallied
  created : ∀ t n ms, w.tasks.awaits t (.doReconnect n ms) → w.Due σ n
  due : ∀ t n ms, Retrying r o t → w.tasks.procOf t = some (.doReconnect n ms) → w.Due σ n

/-- A retry that sleeps is an attempt. -/
theorem attemptCount_pos (h : .backoff ∈ q) : 0 < attemptCount q :=
  List.countP_pos_iff.mpr ⟨_, h, rfl⟩

theorem attemptCount_le_suspended {s : Site Karo} (hs : s ∈ o) :
    attemptCount s.path ≤ suspendedAttempts o :=
  Multiset.le_sum_of_mem (Multiset.mem_map_of_mem (fun s => attemptCount s.path) hs)

theorem OneAttempt.retrying (h : OneAttempt w r o) (ht : Retrying r o t) :
    ∃ j, w.tasks.procOf t = some j := by
  rcases ht with ⟨x, hx, rfl, -⟩ | ⟨s, hs, rfl, -⟩
  · exact h.known x hx
  · exact h.suspended s hs

/-! ### Steps -/

theorem connect_recounts : Recounts σ w w.connect := by
  unfold World.connect
  split
  · exact Unplanned.refl.recounts
  · refine ⟨le_rfl, fun hw => ⟨hw.counted, hw.ready⟩, fun t n ms ht => ?_⟩
    rcases Tasks.awaits_spawn ht with ht | hj
    · exact .inl ht
    · cases hj

namespace Limited

/-- A step that keeps the tally, after which no task is on its way to a try that was not. -/
theorem later (h : Limited σ w r o) (hone : OneAttempt w r o) (hl : Later w w')
    (hc : Recounts σ w w') (hr : ∀ t, Retrying r' o' t → Retrying r o t) : Limited σ w' r' o' where
  limit := h.limit.mono hc.fewer
  tallied := hc.tallied h.tallied
  created t n ms ht := by
    rcases hc.created t n ms ht with ht | ⟨rfl, hp⟩
    · exact (h.created t n ms ht).mono hc.fewer
    · exact ⟨Nat.lt_succ_of_le (hc.fewer.trans h.tallied.counted), hp⟩
  due t n ms ht hj := by
    obtain ⟨j, hj'⟩ := hone.retrying (hr t ht)
    have he : some j = some (.doReconnect n ms) := (hl.proc _ _ hj').symm.trans hj
    exact (h.due t n ms (hr t ht) (hj'.trans he)).mono hc.fewer

theorem moves (h : Limited σ w (some x) o) (hone : OneAttempt w (some x) o) (hm : Move σ x w w') :
    Limited σ w' (some { x with path := x.path }) o := by
  rcases hm.unplanned with hu | rfl
  · exact h.later hone hm.later hu.recounts fun _ ht => ht
  · exact h.later hone hm.later connect_recounts fun _ ht => ht

theorem leaves (h : Limited σ w (some x) o) (hone : OneAttempt w (some x) o)
    (hp : x.path = q ++ [l]) (hm : Leaves σ x q w l w') :
    Limited σ w' (some { x with path := q }) o := by
  have hc : Recounts σ w w' := by
    rcases hm.unplanned with hu | hr
    · exact hu.recounts
    · exact hr.toRecounts
  refine h.later hone hm.later hc ?_
  rintro t (⟨_, ⟨⟩, rfl, hb | hb⟩ | ht)
  · exact .inl ⟨x, rfl, rfl, .inl hb⟩
  · exact .inl ⟨x, rfl, rfl, .inr (hp ▸ List.mem_append_left _ hb)⟩
  · exact .inr ht

/-- The only retry makes its try. -/
theorem reconnects {n ms : Nat} (h : Limited σ w (some x) o) (hone : OneAttempt w (some x) o)
    (hp : x.path = [.backoff]) (hx : x.since ≠ .begun)
    (ht : w.tasks.procOf x.task = some (.doReconnect n ms)) (hs : w.conn.state = .transientFailure)
    (hq : .backoff ∉ q) : Limited σ (w.beginReconnect n) (some { x with path := q }) o := by
  have hlog : ∃ info, w.beginReconnect n = { w with
      conn.state := .reconnecting
      conn.reconnectAttempt := n
      stateEvt := w.stateEvt.set
      log := .transition w.conn.state .reconnecting info :: w.log } := by
    unfold World.beginReconnect World.transition
    rw [if_neg (by simp [hs])]
    exact ⟨_, rfl⟩
  obtain ⟨info, heq⟩ := hlog
  obtain ⟨hlt, hpermits⟩ : w.Due σ n :=
    h.due x.task n ms (.inl ⟨x, rfl, rfl, .inr (by simp [hp])⟩) ht
  -- nobody else is on the way to a try
  have hload : 1 ≤ x.load w := by
    rw [load_eq (ignores_false (by simp [hp])), hp]
    exact Nat.le_add_right_of_le (attemptCount_pos (by simp))
  have hfew : w.planned + suspendedAttempts o + x.load w ≤ 1 := hone.few
  rw [heq]
  refine ⟨hpermits.mono hlt, ⟨hlt, fun hr => by cases hr⟩, fun t n' ms' hc => ?_,
    fun t n' ms' ht' _ => ?_⟩
  · have hpos : 0 < w.planned := Tasks.awaits_pending hc rfl
    omega
  · rcases ht' with ⟨_, ⟨⟩, rfl, hb | hb⟩ | ⟨s, hs', rfl, hb⟩
    · exact absurd hb hx
    · exact absurd hb hq
    · have := attemptCount_pos hb
      have := attemptCount_le_suspended hs'
      omega

theorem becomes (h : Limited σ w (some x) o) (hone : OneAttempt w (some x) o)
    (hm : Becomes σ x w q w') : Limited σ w' (some { x with path := q }) o := by
  have hbackoff : .backoff ∉ q := by
    cases hm <;> simp
  rcases hm.unplanned with hu | ⟨n, ms, hp, hx, ht, hs, rfl⟩
  · refine h.later hone hm.later hu.recounts ?_
    rintro t (⟨_, ⟨⟩, rfl, hb | hb⟩ | ht)
    · exact .inl ⟨x, rfl, rfl, .inl hb⟩
    · exact absurd hb hbackoff
    · exact .inr ht
  · exact h.reconnects hone hp hx ht hs hbackoff

theorem enters (h : Limited σ w (some x) o) (hone : OneAttempt w (some x) o)
    (he : Enters σ x w l w') : Limited σ w' (some ⟨x.task, x.path ++ [l], .called⟩) o := by
  refine h.later hone he.later he.unplanned.recounts ?_
  rintro t (⟨_, ⟨⟩, rfl, hb | hb⟩ | ht)
  · cases hb
  · rcases List.mem_append.mp hb with hb | hb
    · exact .inl ⟨x, rfl, rfl, .inr hb⟩
    · obtain rfl := List.mem_singleton.mp hb
      cases he with
      | backoff n ms hp hx => exact .inl ⟨x, rfl, rfl, .inl hx⟩
  · exact .inr ht

theorem waits {op : Op} (h : Limited σ w (some x) o) (hone : OneAttempt w (some x) o) :
    Limited σ w none (⟨x.task, x.path, op⟩ ::ₘ o) := by
  refine h.later hone (Later.refl w) Unplanned.refl.recounts ?_
  rintro t (⟨_, hx, -⟩ | ⟨s, hs, rfl, hb⟩)
  · cases hx
  · rcases Multiset.mem_cons.mp hs with rfl | hs
    · exact .inl ⟨x, rfl, rfl, .inr hb⟩
    · exact .inr ⟨s, hs, rfl, hb⟩

theorem resumes {s : Site Karo} {rep : Except Exn Reply} (h : Limited σ w none (s ::ₘ o))
    (hone : OneAttempt w none (s ::ₘ o)) :
    Limited σ (w.resume s.task s.op rep) (some ⟨s.task, s.path, .answered s rep⟩) o := by
  have hc : Recounts σ w (w.resume s.task s.op rep) := by
    obtain ⟨ts, evt, heq, hts⟩ := resume_eq s.task s.op rep w
    rw [heq]
    refine ⟨le_rfl, fun hw => ⟨hw.counted, hw.ready⟩, fun t n ms ht => .inl ?_⟩
    rcases hts with rfl | rfl
    · exact ht
    · exact Tasks.awaits_served ht
  refine h.later hone resume_later hc ?_
  rintro t (⟨_, ⟨⟩, rfl, hb | hb⟩ | ⟨s', hs', ht⟩)
  · cases hb
  · exact .inr ⟨s, Multiset.mem_cons_self s o, rfl, hb⟩
  · exact .inr ⟨s', Multiset.mem_cons_of_mem hs', ht⟩

theorem starts {p : Proc} (h : Limited σ w none o) (hp : w.createdProc t = some p) :
    Limited σ { w with tasks := w.tasks.begin t } (some ⟨t, [], .begun⟩) o := by
  obtain ⟨y, hy, hs, -⟩ := created_task hp
  refine ⟨h.limit, ⟨h.tallied.counted, h.tallied.ready⟩, fun u n ms hu => ?_,
    fun u n ms hu hj => ?_⟩
  · exact h.created u n ms (Tasks.awaits_begin hu)
  · have hj : w.tasks.procOf u = some (.doReconnect n ms) := Tasks.procOf_begin.symm.trans hj
    rcases hu with ⟨_, ⟨⟩, rfl, -⟩ | hu
    · have hproc : w.tasks.procOf t = some y.proc := by rw [Tasks.procOf, hy]; rfl
      exact h.created t n ms ⟨y, hy, hs, Option.some.inj (hproc.symm.trans hj)⟩
    · exact h.due u n ms (.inr hu) hj

theorem finishes {res : Except Exn Unit} (h : Limited σ w (some x) o)
    (hone : OneAttempt w (some x) o) : Limited σ (w.finish x.task res) none o := by
  have hc : Recounts σ w (w.finish x.task res) := by
    obtain ⟨l, ts, heq, hl, hts⟩ := finish_eq w x.task res
    have htries : tries (l ++ w.log) = tries w.log := by
      refine LogGrows.eq_of_routine ?_ ⟨l, rfl, hl⟩
      intro o l ho
      cases o <;> first | rfl | cases ho
    rw [heq]
    refine ⟨htries.le, fun hw => ?_, fun t n ms ht => .inl ?_⟩
    · exact ⟨htries.trans_le hw.counted, fun hr => htries.trans (hw.ready hr)⟩
    · rcases hts with rfl | ⟨code, message, rfl⟩
      · exact Tasks.awaits_finish ht
      · rcases Tasks.awaits_spawn ht with ht | hj
        · exact Tasks.awaits_finish ht
        · cases hj
  refine h.later hone finish_later hc ?_
  rintro t (⟨_, hx, -⟩ | ht)
  · cases hx
  · exact .inr ht

theorem env {e : EnvStep} (h : Limited σ w none o) (hone : OneAttempt w none o)
    (he : World.env e w = some w') : Limited σ w' none o :=
  h.later hone (env_later he) (env_unplanned he).recounts fun _ ht => ht

end Limited

theorem limited_kept : Keeps (outline σ) LosesAlone OneAttempt (Limited σ) where
  step {x q w w' o} hone hi hs _ := by
    rcases hs with ⟨rfl, hm⟩ | ⟨l, hp, hm⟩ | hm
    · exact hi.moves hone hm
    · exact hi.leaves hone hp hm
    · exact hi.becomes hone hm
  enter hone hi _ hs _ := hi.enters hone hs
  wait hone hi _ _ := hi.waits hone
  resume hone hi _ _ _ := hi.resumes hone
  start _ hi _ hp _ := hi.starts hp
  finish hone hi _ _ := hi.finishes hone
  env hone hi _ he _ := hi.env hone he

theorem limited_initial (clock : Clock) : Limited σ (.init clock) none 0 where
  limit := id
  tallied := ⟨le_rfl, fun _ => rfl⟩
  created t n ms h := by
    obtain ⟨x, hx, -⟩ := h
    cases hx
  due t n ms h := by
    rcases h with ⟨_, hx, -⟩ | ⟨s, hs, -⟩
    · cases hx
    · exact absurd hs (Multiset.notMem_zero s)

/-! ### Giving up -/

variable (σ) in
/-- `_schedule_reconnect` creates the task that aborts, and no retry. -/
structure GivesUp (w : World) : Prop where
  retry : w.conn.state.terminal = false →
    w.retry σ = w.spawn (.abortToFatal .transportFailure "reconnect_max_attempts reached")
  dialFailed : ∀ code message, w.dialFailed σ code message =
    (w.transientFailure σ "ws connect failed" code message).spawn
      (.abortToFatal .transportFailure "reconnect_max_attempts reached")

theorem retry_exhausted (h : ¬σ.Permits (w.conn.reconnectAttempt + 1))
    (ht : w.conn.state.terminal = false) :
    w.retry σ = w.spawn (.abortToFatal .transportFailure "reconnect_max_attempts reached") := by
  obtain ⟨hlimit, hlt⟩ := Classical.not_imp.mp h
  unfold World.retry World.scheduleReconnect
  rw [if_neg (Bool.eq_false_iff.mp ht), if_pos ⟨hlimit, not_le.mp hlt⟩]

theorem givesUp (h : ¬σ.Permits (w.conn.reconnectAttempt + 1)) : GivesUp σ w where
  retry := retry_exhausted h
  dialFailed code message := by
    refine retry_exhausted (by rwa [transientFailure_attempt]) ?_
    rw [transientFailure_conn]
    rfl

/-- All that a task may do, up to suspensions that are allowed or not. -/
def freely (suspended : Bool) : Protocol Karo Unit where
  update _ _ _ _ := True
  wait _ _ _ _ := suspended = true

theorem abides_freely {α : Type} {c : M α} {w : World} :
    c.Abides (freely true) (fun _ _ _ => True) () w := by
  induction c generalizing w with
  | ret r => trivial
  | get k ih => exact ih w
  | step p q w' k ih | enter p l w' k ih => exact ⟨(), trivial, ih⟩
  | await p op k ih => exact ⟨(), rfl, fun r v _ => ih r⟩

/-- `_abort_to_fatal` returns in `FATAL` only, and does so at once if there is no socket. -/
theorem abortToFatal_fatal {suspended : Bool} {code : ErrorCode} {message : String}
    (h : suspended = true ∨ w.conn.ws = none) :
    (abortToFatal t code message).Abides (freely suspended) (fun _ r v =>
      (r = .ok () → v.conn.state = .fatal) ∧ (suspended = false → r = .ok ())) () w := by
  have hfatal (v : World) : (v.fail code message).conn.state = .fatal := by
    rw [World.fail, transition_conn]
  refine Coro.abides_scope.mpr ⟨(), trivial, ?_⟩
  have hws : (w.abandon t code message).conn.ws = w.conn.ws := by rw [Silent.abandon.conn]
  rw [Coro.abides_bind]
  unfold closeWs
  rw [Coro.abides_read_then, hws]
  cases hc : w.conn.ws with
  | none =>
    exact ⟨(), trivial, (), trivial, fun _ => hfatal _, fun _ => rfl⟩
  | some c =>
    obtain rfl : suspended = true := by simpa [hc] using h
    refine Coro.abides_scope.mpr ⟨(), trivial, ?_⟩
    rw [Coro.abides_bind]
    refine Coro.abides_mono ?_ abides_freely
    rintro g (e | a) v -
    · refine ⟨(), trivial, (), trivial, ?_⟩
      constructor <;> intro h <;> cases h
    · refine ⟨(), trivial, (), trivial, fun _ => hfatal _, ?_⟩
      intro h
      cases h

variable (σ) in
/-- The task of `_abort_to_fatal` ends in `FATAL` if it ends without an exception, and does so
at once if there is no socket. -/
structure EndsFatal (t : TaskId) (code : ErrorCode) (message : String) (w : World) : Prop where
  returns : (body σ t (.run (.abortToFatal code message))).Abides (freely true)
    (fun _ r v => r = .ok .done → v.conn.state = .fatal) () w
  atOnce : w.conn.ws = none → ∃ v, (body σ t (.run (.abortToFatal code message))).segment w
    = (v, .ended (.ok .done)) ∧ v.conn.state = .fatal

theorem endsFatal {code : ErrorCode} {message : String} : EndsFatal σ t code message w where
  returns := by
    show (abortToFatal t code message >>= fun _ => (pure .done : M (Flow Karo))).Abides _ _ _ _
    rw [Coro.abides_bind]
    refine Coro.abides_mono ?_ (abortToFatal_fatal (.inl rfl))
    rintro g (e | a) v ⟨hfatal, -⟩
    · exact fun hr => by cases hr
    · exact fun _ => hfatal rfl
  atOnce hws := by
    have hbody : (body σ t (.run (.abortToFatal code message))).Abides (freely false)
        (fun _ r v => r = .ok .done ∧ v.conn.state = .fatal) () w := by
      show (abortToFatal t code message >>= fun _ => (pure .done : M (Flow Karo))).Abides _ _ _ _
      rw [Coro.abides_bind]
      refine Coro.abides_mono ?_ (abortToFatal_fatal (.inr hws))
      rintro g (e | a) v ⟨hfatal, hok⟩
      · cases hok rfl
      · exact ⟨rfl, hfatal rfl⟩
    obtain ⟨g, -, hended, hwaits⟩ := Coro.abides_segment hbody
    rcases hseg : (body σ t (.run (.abortToFatal code message))).segment w with ⟨v, r | ⟨p, op, k⟩⟩
    · rw [hseg] at hended
      obtain ⟨rfl, hfatal⟩ := hended r rfl
      exact ⟨v, rfl, hfatal⟩
    · rw [hseg] at hwaits
      obtain ⟨_, hw⟩ := hwaits p op k rfl
      cases hw

/-! ### Runs -/

/-- After the last try that is permitted, no retry waits. -/
theorem Limited.exhausted {c : Config Karo} (h : Limited σ c.world r c.sites)
    (hreach : Reaches (robot σ) (initial clock) c) (hm : ¬σ.Permits (tries c.world.log + 1)) :
    waitingRetries c = 0 := by
  have hdue (n : Nat) : ¬c.world.Due σ n := fun hd => hm (hd.2.mono hd.1)
  have hpending : c.world.tasks.pending Job.reconnects = 0 := by
    by_contra hne
    obtain ⟨t, j, ht, hj⟩ := Tasks.exists_awaits (Nat.pos_of_ne_zero hne)
    cases j with
    | doReconnect n ms => exact hdue n (h.created t n ms ht)
    | _ => cases hj
  have hsites : (c.sites.countP fun s => s.path = [.backoff]) = 0 := by
    refine Multiset.countP_eq_zero.mpr fun s hs hp => ?_
    obtain ⟨n, ms, hproc, -⟩ := sleeping hreach s hs hp
    exact hdue n (h.due s.task n ms (.inr ⟨s, hs, rfl, by simp [hp]⟩) hproc)
  rw [waitingRetries, hpending, hsites]

/-- Two tries to reconnect. -/
def Setup.limited : Setup where
  opts := { accessToken := [0x6b], reconnectMaxAttempts := 2 }
  valid := by decide +kernel
  random := Setup.plain.random
  random_mem := Setup.plain.random_mem
  pemToDer := Setup.plain.pemToDer
  sslContext := Setup.plain.sslContext

/-- The peer drops the connection in `READY` and refuses both tries. -/
def refusedTwice : List (Cmd (robot .limited)) :=
  connected ++ [.env (.peerClose 0), .resume 2 (.error (.connectionClosed 1006 "gone")), .start 4,
    .resume 4 (.ok .done), .resume 4 (.error (.os "refused")), .start 5, .resume 5 (.ok .done),
    .resume 5 (.error (.os "refused"))]

/-- Two retries are scheduled for one loss, and the first try is refused before the other retry
wakes up. -/
def triesInTurn : List (Cmd (robot .limited)) :=
  droppedHandshake ++ [.resume 3 (.ok .done), .resume 3 (.error (.os "refused")), .start 5,
    .resume 4 (.ok .done), .resume 4 (.error (.os "refused")), .start 6, .resume 5 (.ok .done)]

end KaroX2
