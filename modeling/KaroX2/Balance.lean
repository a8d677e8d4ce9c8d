/-
KaroX2/Balance.lean

The statistics of the requests and their balance.

Of a call that counts it matters how far it is: not counted yet or no longer (`closed`),
or counted and not failed (`pending`).  A call that is suspended is pending, one that has
ended is not, and the steps between keep the books: a call is counted when it becomes
pending, fails when it is closed again, and returns a success otherwise.  This is so for
`ping` in every run that cancels none of these calls; `emergency_stop` also has to be able
to encode its reason, and `cmd_vel`, which adds an error where it refuses a call that it has
not counted, has to be called in `READY` and within the rate limit.
-/
import KaroX2.Reporting
import KaroX2.Resumption

namespace KaroX2

open Coop

/-! ### The counters -/

/-- The keys of `_rpc_stats` -/
inductive RpcKind where
  | cmdVel | emergencyStop | ping
  deriving DecidableEq, Repr

variable {σ : Setup} {K : RpcKind} {w w' : World} {t : TaskId}

/-- The entry of `_rpc_stats` -/
def World.rpcStat (w : World) : RpcKind → RpcStat
  | .cmdVel => w.stats.cmdVel
  | .emergencyStop => w.stats.emergencyStop
  | .ping => w.stats.ping

/-- The entry that the call is counted in. -/
def ApiCall.kind? : ApiCall → Option RpcKind
  | .cmdVel _ _ _ => some .cmdVel
  | .emergencyStop _ _ => some .emergencyStop
  | .ping => some .ping
  | _ => none

/-- The entry that the call of the task is counted in. -/
def World.kind? (w : World) (t : TaskId) : Option RpcKind :=
  match w.tasks.procOf t with
  | some (.api call) => call.kind?
  | _ => none

/-- The call succeeded: `accepted`, `ok`, or a round-trip time. -/
def ApiResult.succeeds : ApiResult → Bool
  | .cmdVel r => r.accepted
  | .command r => r.ok
  | .ping rtt => 0 ≤ rtt
  | _ => false

/-- A call that is counted in the entry has returned a success. -/
def Obs.succeeds (w : World) (K : RpcKind) : Obs → Bool
  | .returned t r => w.kind? t = some K && r.succeeds
  | _ => false

/-- How many calls have finished successfully. -/
def World.succeeded (w : World) (K : RpcKind) : Nat := w.log.countP (Obs.succeeds w K)

/-- How many calls are in progress. -/
def inProgress (c : Config Karo) (K : RpcKind) : Nat :=
  c.waiting.countP fun x => c.world.kind? x.site.task = some K

/-! ### The stages of a call -/

/-- How far a call is with its account; other tasks have none. -/
inductive Account where
  | other
  | closed
  /-- counted at this time -/
  | pending (since : ℚ)

def Account.isPending : Account → Bool
  | .pending _ => true
  | _ => false

/-- What the account is about. -/
def World.books (w : World) (K : RpcKind) : RpcStat × Clock × List Obs :=
  (w.rpcStat K, w.clock, returns w.log)

/-- What is known of the reply to a pending call. -/
structure Replied (since : ℚ) (op : Op) (r : Except Exn Reply) (w : World) : Prop where
  clock : since ≤ w.clock.steady
  spared : r ≠ .error .cancelled
  resolved : ∀ rid, op = .future rid → (∃ rep, r = .ok rep) ∧
    (w.rpc.futures rid).sound = true ∧ (w.rpc.futures rid).done = true ∧
      w.rpc.futures rid ≠ .exception .cancelled

/-- The protocol of the entry `K` of the statistics. -/
def counting (K : RpcKind) (t : TaskId) : Protocol Karo Account where
  update g w w' g' :=
    w'.books K = w.books K ∧ g' = g ∨
    (g = .closed ∧ g' = .pending w.clock.steady ∧
      w'.books K = ((w.rpcStat K).counted, w.clock, returns w.log)) ∨
    (g.isPending = true ∧ g' = .closed ∧
      w'.books K = ((w.rpcStat K).failed, w.clock, returns w.log)) ∨
    ∃ r, w' = w.push (.returned t r) ∧ (g = .other ∧ g' = .other ∨
      g ≠ .other ∧ g' = .closed ∧ g.isPending = r.succeeds)
  wait g _ _ g' := g' = g ∧ g ≠ .closed
  resume g op r w := ∀ since, g = .pending since → Replied since op r w

/-- The call may be made: it is counted if it fails, and can be encoded. -/
def ApiCall.admitted (w : World) : ApiCall → Prop
  | .cmdVel _ _ _ => w.conn.state = .ready ∧ w.acquire.1 = true
  | .emergencyStop _ reason =>
    w.conn.state = .ready → reason.truthy = true → reason.encodable = true
  | _ => True

/-- The task goes on with no call that is counted in `K`. -/
def Flow.spares (K : RpcKind) : Flow Karo → Prop
  | .next (.run (.api call)) => call.kind? ≠ some K
  | _ => True

/-- The plan of all tasks. -/
def countings (K : RpcKind) : Plan Karo Account where
  proto := counting K
  begins _ p w g := match g with
    | .other => Flow.spares K (.next p)
    | .closed => p = .neverRun ∨ ∃ call, p = .run (.api call) ∧ call.kind? = some K ∧ call.admitted w
    | .pending _ => False
  ends _ g := g.isPending = false

/-! ### Other tasks -/

section Others

theorem counting_same {g : Account} (h : w'.books K = w.books K) :
    (counting K t).update g w w' g := .inl ⟨h, rfl⟩

theorem books_of_drift (h : Drift w w') : w'.books K = w.books K := by
  have hstat : w'.rpcStat K = w.rpcStat K := by
    unfold World.rpcStat
    rw [h.stats]
  exact Prod.ext hstat (Prod.ext h.clock h.returns)

theorem counting_drift {g : Account} (h : Drift w w') : (counting K t).update g w w' g :=
  counting_same (books_of_drift h)

theorem counting_ambient : Ambient (counting K t) .other where
  drift h := counting_drift h
  install _ := counting_same rfl
  wait _ _ := ⟨rfl, nofun⟩

theorem counting_hangsUp {c : WsId} : HangsUp (counting K t) .other c where
  ended _ _ := counting_same rfl
  latched _ := counting_same rfl
  fired _ := counting_same rfl

theorem returning_other {Q : ApiResult → Prop} {d : M ApiResult}
    (hd : d.Steady (counting K t) .other Q) :
    (returning t d).Steady (counting K t) .other (Flow.spares K) := by
  refine (hd.mono fun _ _ => trivial).andThen fun r => ?_
  refine (Coro.Steady.modify fun w => ?_).andThen fun _ => .pure trivial
  exact .inr (.inr (.inr ⟨r, rfl, .inl ⟨rfl, rfl⟩⟩))

theorem apiBody_other {call : ApiCall} (h : call.kind? ≠ some K) :
    (apiBody σ t call).Steady (counting K t) .other (Flow.spares K) := by
  have hcall {β : Type} {f : β → ApiResult} {d : M β}
      (hd : d.Steady (counting K t) .other fun _ => True) :
      (returning t (f <$> d)).Steady (counting K t) .other (Flow.spares K) :=
    returning_other (Q := fun _ => True) hd.map
  cases call with
  | waitUntilReady timeout =>
    have hround : (waitRound t timeout).Steady (counting K t) .other fun _ => True :=
      waitRound_steady (fun e w => counting_same rfl) fun w => ⟨rfl, nofun⟩
    refine hround.andThen fun r => ?_
    split
    · exact returning_other (Q := fun _ => True) (.pure trivial)
    · exact .pure nofun
  | cmdVel vx vy wz =>
    -- another entry of the statistics than `K`
    have hbooks : ∀ (f : Stats → Stats) (w : World),
        (∀ s, (f s).emergencyStop = s.emergencyStop ∧ (f s).ping = s.ping) →
          (World.books { w with stats := f w.stats } K) = w.books K := by
      intro f w hf
      cases K with
      | cmdVel => exact absurd rfl h
      | emergencyStop => exact Prod.ext (hf _).1 rfl
      | ping => exact Prod.ext (hf _).2 rfl
    refine hcall (counting_ambient.cmdVel ?_ ?_ ?_ ?_)
    · exact fun f w => counting_same (hbooks (fun s => { s with cmdVel := f s.cmdVel }) w
        fun _ => ⟨rfl, rfl⟩)
    · exact fun w => counting_same (hbooks (fun s => { s with cmdvelRate := _ }) w
        fun _ => ⟨rfl, rfl⟩)
    · exact fun w => counting_same (hbooks (fun s => { s with cmdvelSeq := _ }) w
        fun _ => ⟨rfl, rfl⟩)
    · exact fun _ _ _ => ⟨rfl, nofun⟩
  | emergencyStop engage reason =>
    refine hcall (counting_ambient.emergencyStop fun f w => counting_same ?_)
    cases K with
    | emergencyStop => exact absurd rfl h
    | cmdVel | ping => rfl
  | ping =>
    refine hcall (counting_ambient.ping fun f w => counting_same ?_)
    cases K with
    | ping => exact absurd rfl h
    | cmdVel | emergencyStop => rfl
  | _ =>
    refine (counting_ambient.apiBody rfl fun d hd => returning_other hd)

theorem body_other {p : Proc} (h : Flow.spares K (.next p)) :
    (body σ t p).Steady (counting K t) .other (Flow.spares K) := by
  by_cases hp : Flow.ambient (.next p)
  · refine (counting_ambient.body hp fun _ _ => counting_hangsUp).mono fun f hf => ?_
    have hf := Flow.ambient_of_stays hf
    unfold Flow.spares
    split
    · exact absurd hf id
    · trivial
  · obtain ⟨call, rfl⟩ := Flow.call_of_not_ambient hp
    exact apiBody_other h

end Others

/-! ### Requests -/

section Requests

variable {rid : Nat} {method : String} {cmd : SdkCommand} {since : ℚ}

/-- An exception that the calls count as an error. -/
def Exn.counted : Exn → Bool
  | .timeout _ | .sdk _ _ => true
  | _ => false

/-- How a request of a pending call ends. -/
def Requested {α : Type} (since : ℚ) (g : Account) (r : Except Exn α) (w : World) : Prop :=
  g = .pending since ∧ since ≤ w.clock.steady ∧ ∀ e, r = .error e → e.counted = true

theorem counting_waits {op : Op} :
    (counting K t).wait (.pending since) op w (.pending since) := ⟨rfl, nofun⟩

theorem awaitResponse_counted {c : WsId} :
    (awaitResponse c rid cmd).Abides (counting K t) (Requested since) (.pending since) w := by
  unfold awaitResponse
  rw [Coro.abides_attempt_then]
  refine ⟨.pending since, counting_waits, fun r v hr => ?_⟩
  obtain ⟨hclock, -, hresolved⟩ := hr since rfl
  obtain ⟨⟨rep, rfl⟩, hsound, hdone, hspared⟩ := hresolved rid rfl
  show (Coro.read >>= _).Abides _ _ _ _
  rw [Coro.abides_read_then]
  -- the future holds a response, a time-out, or an error of the SDK
  split
  · exact ⟨.pending since, counting_drift (.push rfl), rfl, hclock, nofun⟩
  · rename_i e hfut
    refine ⟨rfl, hclock, fun e' he' => ?_⟩
    cases he'
    rw [hfut] at hsound hspared
    cases e with
    | timeout | sdk => rfl
    | cancelled => exact absurd rfl hspared
    | _ => cases hsound
  · rename_i hfut
    rw [hfut] at hdone
    cases hdone

theorem sendRpcAndWait_counted (hsince : since ≤ w.clock.steady) :
    (sendRpcAndWait rid method cmd).Abides (counting K t) (Requested since) (.pending since) w := by
  have hfails : ∀ (v : World) msg, since ≤ v.clock.steady → Requested since (.pending since)
      (.error (.sdk .transportFailure msg) : Except Exn DecodedResponse) v := by
    intro v msg hv
    refine ⟨rfl, hv, fun e he => ?_⟩
    cases he
    rfl
  unfold sendRpcAndWait
  rw [Coro.abides_read_then]
  refine Coro.abides_call (fun _ _ => counting_same rfl) ?_
  split
  · exact hfails _ _ hsince
  · rename_i c hws
    refine Coro.abides_modify_then (counting_same rfl) ?_
    unfold wsSend
    rw [Coro.abides_bind, Coro.abides_read_then]
    split
    · rw [Coro.abides_attempt_then]
      refine ⟨.pending since, counting_waits, fun r v hr => ?_⟩
      obtain ⟨hclock, hspared, -⟩ := hr since rfl
      rcases r with e | rep
      · cases e with
        | cancelled => exact absurd rfl hspared
        | _ => exact Coro.abides_modify_then (counting_same rfl) (hfails _ _ hclock)
      · exact Coro.abides_modify_then (counting_drift (.push rfl)) awaitResponse_counted
    · exact Coro.abides_modify_then (counting_same rfl) (hfails _ _ hsince)

end Requests

/-! ### Calls -/

section Calls

variable {α : Type}

/-- How a call ends: it is pending if and only if it has succeeded. -/
def Concludes (succeeds : α → Bool) (g : Account) (r : Except Exn α) (_ : World) : Prop :=
  ∃ a, r = .ok a ∧ g ≠ .other ∧ g.isPending = succeeds a

/-- The handlers of the request of a call: it fails, or it has succeeded. -/
theorem attempt_counted {rid : Nat} {method : String} {cmd : SdkCommand}
    {Q : Account → Except Exn α → World → Prop} {k : Except Exn DecodedResponse → M α}
    (hok : ∀ resp v, w.clock.steady ≤ v.clock.steady →
      (k (.ok resp)).Abides (counting K t) Q (.pending w.clock.steady) v)
    (hfails : ∀ e v, e.counted = true →
      (k (.error e)).Abides (counting K t) Q (.pending w.clock.steady) v) :
    ((sendRpcAndWait rid method cmd).attempt >>= k).Abides (counting K t) Q
      (.pending w.clock.steady) w := by
  rw [Coro.abides_attempt_then]
  refine Coro.abides_mono ?_ (sendRpcAndWait_counted le_rfl)
  rintro g (e | resp) v ⟨rfl, hclock, hcounted⟩
  · exact hfails e v (hcounted e rfl)
  · exact hok resp v hclock

theorem counting_counted (h : w'.books K = ((w.rpcStat K).counted, w.clock, returns w.log)) :
    (counting K t).update .closed w w' (.pending w.clock.steady) := .inr (.inl ⟨rfl, rfl, h⟩)

theorem counting_failed {since : ℚ}
    (h : w'.books K = ((w.rpcStat K).failed, w.clock, returns w.log)) :
    (counting K t).update (.pending since) w w' .closed := .inr (.inr (.inl ⟨rfl, rfl, h⟩))

theorem cmdVelFailed_settles {since : ℚ} {code : ErrorCode} {message : String} :
    (cmdVelFailed code message).Abides (counting .cmdVel t) (Concludes CmdVelResult.accepted)
      (.pending since) w :=
  Coro.abides_modify_then (counting_failed rfl) ⟨_, rfl, nofun, rfl⟩

theorem cmdVel_settles {vx vy wz : PyFloat} (h : (ApiCall.cmdVel vx vy wz).admitted w) :
    (cmdVel vx vy wz).Abides (counting .cmdVel t) (Concludes CmdVelResult.accepted) .closed w := by
  obtain ⟨hready, hgranted⟩ := h
  refine Coro.abides_call (fun _ _ => counting_same rfl) ?_
  rw [Coro.abides_read_then, if_neg (not_not.mpr hready)]
  refine Coro.abides_update_then (counting_same rfl) ?_
  rw [hgranted, if_neg nofun]
  refine Coro.abides_modify_then (counting_counted rfl) ?_
  refine Coro.abides_update_then (counting_same rfl) ?_
  refine Coro.abides_update_then (counting_same rfl) ?_
  rw [Coro.abides_read_then]
  refine attempt_counted (fun resp v hclock => ?_) fun e v he => ?_
  · show (cmdVelAnswered _ resp).Abides _ _ _ _
    unfold cmdVelAnswered
    rw [Coro.abides_read_then]
    dsimp only
    split
    · exact Coro.abides_modify_then (counting_failed rfl) ⟨_, rfl, nofun, rfl⟩
    · exact ⟨_, rfl, nofun, rfl⟩
  · cases e with
    | timeout => exact cmdVelFailed_settles
    | sdk => exact cmdVelFailed_settles
    | _ => cases he

/-- A call that fails after it has been counted. -/
theorem emergencyStopFailed_settles {since : ℚ} {code : ErrorCode} {message : String}
    {Q : Account → Except Exn (CommandResult × (World → World)) → World → Prop}
    (hQ : ∀ r v, r.ok = false → Q .closed (.ok (r, id)) v) :
    (emergencyStopFailed code message >>= fun r => pure (r, id)).Abides
      (counting .emergencyStop t) Q (.pending since) w :=
  Coro.abides_modify_then (counting_failed rfl) (hQ _ _ rfl)

theorem emergencyStop_settles {engage : Bool} {reason : PyStr}
    (h : (ApiCall.emergencyStop engage reason).admitted w) :
    (emergencyStop engage reason).Abides (counting .emergencyStop t)
      (Concludes CommandResult.ok) .closed w := by
  unfold emergencyStop
  rw [Coro.abides_scope]
  refine ⟨.closed, counting_same rfl, ?_⟩
  rw [Coro.abides_read_then]
  split
  -- outside `READY` nothing is counted
  · exact ⟨_, counting_same rfl, _, rfl, nofun, rfl⟩
  · rename_i hready
    have hfails : ∀ (r : CommandResult) (v : World), r.ok = false →
        ∃ g', (counting .emergencyStop t).update .closed v v g' ∧
          Concludes CommandResult.ok g' (.ok r) v :=
      fun r v hr => ⟨_, counting_same rfl, _, rfl, nofun, hr.symm⟩
    refine Coro.abides_modify_then (counting_counted rfl) ?_
    refine Coro.abides_update_then (counting_same rfl) ?_
    split
    · rename_i e he
      exact absurd he (encodeEmergencyStop_ne (h (not_not.mp hready)))
    · refine attempt_counted (fun resp v hclock => ?_) fun e v he => ?_
      · show (emergencyStopAnswered engage reason resp).Abides _ _ _ _
        unfold emergencyStopAnswered
        split
        · exact emergencyStopFailed_settles hfails
        · exact ⟨_, counting_same rfl, _, rfl, nofun, rfl⟩
      · cases e with
        | timeout => exact emergencyStopFailed_settles hfails
        | sdk => exact emergencyStopFailed_settles hfails
        | _ => cases he

theorem ping_settles :
    ping.Abides (counting .ping t) (Concludes fun rtt => decide (0 ≤ rtt)) .closed w := by
  refine Coro.abides_call (fun _ _ => counting_same rfl) ?_
  rw [Coro.abides_read_then]
  split
  · exact ⟨_, rfl, nofun, rfl⟩
  · refine Coro.abides_modify_then (counting_counted rfl) ?_
    refine Coro.abides_update_then (counting_same rfl) ?_
    rw [Coro.abides_read_then]
    refine attempt_counted (fun resp v hclock => ?_) fun e v he => ?_
    -- time does not run backwards, so the round-trip time is told from `-1`
    · refine ⟨_, rfl, nofun, ?_⟩
      exact (decide_eq_true (sub_nonneg.mpr hclock)).symm
    · cases e with
      | timeout => exact Coro.abides_modify_then (counting_failed rfl) ⟨_, rfl, nofun, rfl⟩
      | sdk => exact Coro.abides_modify_then (counting_failed rfl) ⟨_, rfl, nofun, rfl⟩
      | _ => cases he

/-- The result of a settled call closes its account. -/
theorem returning_settles {f : α → ApiResult} {d : M α}
    (hd : d.Abides (counting K t) (Concludes fun a => (f a).succeeds) .closed w) :
    (returning t (f <$> d)).Abides (counting K t) ((countings K).exits t) .closed w := by
  unfold returning
  rw [Coro.abides_bind]
  show (d >>= fun a => pure (f a)).Abides _ _ _ _
  rw [Coro.abides_bind]
  refine Coro.abides_mono ?_ hd
  rintro g r v ⟨a, rfl, hother, hpending⟩
  refine ⟨.closed, .inr (.inr (.inr ⟨f a, rfl, .inr ⟨hother, rfl, hpending⟩⟩)), ?_⟩
  exact rfl

end Calls

/-- All bodies keep to the plan. -/
theorem body_counts {p : Proc} {g : Account} (h : (countings K).begins t p w g) :
    (body σ t p).Abides (counting K t) ((countings K).exits t) g w := by
  cases g with
  | other =>
    refine Coro.abides_mono ?_ (body_other (K := K) h w)
    rintro g (e | p | -) v ⟨rfl, hq⟩
    · rfl
    · exact hq _ rfl
    · rfl
  | closed =>
    rcases h with rfl | ⟨call, rfl, hkind, hadmitted⟩
    -- a task that was cancelled before its first step has not counted
    · exact rfl
    · cases call with
      | cmdVel vx vy wz =>
        obtain rfl := Option.some.inj hkind
        exact returning_settles (cmdVel_settles hadmitted)
      | emergencyStop engage reason =>
        obtain rfl := Option.some.inj hkind
        exact returning_settles (emergencyStop_settles hadmitted)
      | ping =>
        obtain rfl := Option.some.inj hkind
        exact returning_settles ping_settles
      | _ => cases hkind
  | pending since => exact absurd h id

/-! ### The balance -/

/-- The accounts of all tasks that are under way. -/
def accounts (ws : List (Site Karo × Account)) (run : Option (TaskId × Account)) :
    List (TaskId × Account) := run.toList ++ ws.map fun x => (x.1.task, x.2)

/-- The books balance, and the accounts are those of the right calls. -/
structure Balanced (K : RpcKind) (w : World) (ws : List (Site Karo × Account))
    (run : Option (TaskId × Account)) : Prop where
  count : (w.rpcStat K).count = (w.rpcStat K).errorCount + w.succeeded K +
    (accounts ws run).countP fun x => x.2.isPending
  kinds : ∀ x ∈ accounts ws run, w.kind? x.1 = some K ↔ x.2 ≠ .other
  known : ∀ x ∈ accounts ws run, ∃ j, w.tasks.procOf x.1 = some j
  logged : ∀ t r, .returned t r ∈ w.log → ∃ j, w.tasks.procOf t = some j
  since : ∀ x ∈ accounts ws run, ∀ s, x.2 = .pending s → s ≤ w.clock.steady
  suspended : ∀ x ∈ ws, x.2 ≠ .closed

theorem Later.kind? (hl : Later w w') (h : ∃ j, w.tasks.procOf t = some j) :
    w'.kind? t = w.kind? t := by
  obtain ⟨j, hj⟩ := h
  unfold World.kind?
  rw [hj, hl.proc t j hj]

theorem mem_returns {log : List Obs} {r : ApiResult} :
    .returned t r ∈ returns log ↔ .returned t r ∈ log := by
  simp [returns, Obs.returns]

/-- The successes are told by the results. -/
theorem succeeded_later (hl : Later w w')
    (hlogged : ∀ t r, .returned t r ∈ w.log → ∃ j, w.tasks.procOf t = some j)
    (hreturns : returns w'.log = returns w.log) : w'.succeeded K = w.succeeded K := by
  have hresults : ∀ v : World, v.succeeded K = (returns v.log).countP (Obs.succeeds v K) := by
    intro v
    rw [World.succeeded, returns, List.countP_filter]
    refine List.countP_congr fun o _ => ?_
    cases o <;> simp [Obs.succeeds, Obs.returns]
  rw [hresults, hresults, hreturns]
  refine List.countP_congr fun o ho => ?_
  cases o with
  | returned t r =>
    have hkind := hl.kind? (hlogged t r (mem_returns.mp ho))
    simp only [Obs.succeeds, hkind]
  | _ => rfl

namespace Balanced

variable {ws ws' : List (Site Karo × Account)} {run run' : Option (TaskId × Account)}
  {g g' : Account}

/-- Other tasks, time and the event loop leave the books alone. -/
theorem later (h : Balanced K w ws run) (hl : Later w w') (hstat : w'.rpcStat K = w.rpcStat K)
    (hclock : w.clock.steady ≤ w'.clock.steady) (hreturns : returns w'.log = returns w.log) :
    Balanced K w' ws run where
  count := by
    rw [hstat, succeeded_later hl h.logged hreturns]
    exact h.count
  kinds x hx := by
    rw [hl.kind? (h.known x hx)]
    exact h.kinds x hx
  known x hx := (h.known x hx).imp fun j => hl.proc x.1 j
  logged t r ht := by
    rw [← mem_returns, hreturns, mem_returns] at ht
    exact (h.logged t r ht).imp fun j => hl.proc t j
  since x hx s hs := (h.since x hx s hs).trans hclock
  suspended := h.suspended

theorem drifts (h : Balanced K w ws run) (hl : Later w w') (hd : Drift w w') :
    Balanced K w' ws run := by
  have hstat : w'.rpcStat K = w.rpcStat K := congrArg Prod.fst (books_of_drift hd)
  exact h.later hl hstat (hd.clock ▸ le_rfl) hd.returns

/-- The order of the accounts does not matter. -/
theorem perm (h : Balanced K w ws run) (hp : (accounts ws' run').Perm (accounts ws run))
    (hsuspended : ∀ x ∈ ws', x.2 ≠ .closed) : Balanced K w ws' run' where
  count := by
    rw [hp.countP_eq]
    exact h.count
  kinds x hx := h.kinds x (hp.subset hx)
  known x hx := h.known x (hp.subset hx)
  logged := h.logged
  since x hx := h.since x (hp.subset hx)
  suspended := hsuspended

/-- An update of the running task keeps the sum of the books. -/
theorem moves (h : Balanced K w ws (some (t, g))) (hl : Later w w')
    (hclock : w'.clock = w.clock) (hother : g' = .other ↔ g = .other)
    (hsince : ∀ s, g' = .pending s → s ≤ w.clock.steady)
    (hlogged : ∀ u r, .returned u r ∈ w'.log → .returned u r ∈ w.log ∨ u = t)
    (hcount : (w'.rpcStat K).count + ((w.rpcStat K).errorCount + w.succeeded K + g.isPending.toNat) =
      (w.rpcStat K).count + ((w'.rpcStat K).errorCount + w'.succeeded K + g'.isPending.toNat)) :
    Balanced K w' ws (some (t, g')) := by
  have hrest : ∀ x ∈ accounts ws (some (t, g')), x = (t, g') ∨ x ∈ accounts ws none := fun x hx =>
    List.mem_cons.mp hx
  have hmem : ∀ x ∈ accounts ws none, x ∈ accounts ws (some (t, g)) := fun x hx =>
    List.mem_cons_of_mem _ hx
  have htask : (t, g) ∈ accounts ws (some (t, g)) := List.mem_cons_self ..
  have hpending : ∀ g : Account, (accounts ws (some (t, g))).countP (fun x => x.2.isPending) =
      (accounts ws none).countP (fun x => x.2.isPending) + g.isPending.toNat := by
    intro g
    show ((t, g) :: accounts ws none).countP _ = _
    rw [List.countP_cons]
    cases g.isPending <;> rfl
  refine ⟨?_, fun x hx => ?_, fun x hx => ?_, fun u r hu => ?_, fun x hx s hs => ?_, h.suspended⟩
  · have hold := h.count
    rw [hpending] at hold ⊢
    omega
  · rcases hrest x hx with rfl | hx
    · rw [hl.kind? (h.known _ htask), h.kinds _ htask]
      exact not_congr hother.symm
    · rw [hl.kind? (h.known x (hmem x hx))]
      exact h.kinds x (hmem x hx)
  · rcases hrest x hx with rfl | hx
    · exact (h.known _ htask).imp fun j => hl.proc t j
    · exact (h.known x (hmem x hx)).imp fun j => hl.proc x.1 j
  · rcases hlogged u r hu with hu | rfl
    · exact (h.logged u r hu).imp fun j => hl.proc u j
    · exact (h.known _ htask).imp fun j => hl.proc u j
  · rw [hclock]
    rcases hrest x hx with rfl | hx
    · exact hsince s hs
    · exact h.since x (hmem x hx) s hs

theorem update (h : Balanced K w ws (some (t, g))) (hl : Later w w')
    (hu : (counting K t).update g w w' g') : Balanced K w' ws (some (t, g')) := by
  have hsince := h.since (t, g) (List.mem_cons_self ..)
  have hkind := h.kinds (t, g) (List.mem_cons_self ..)
  -- an update that returns nothing
  have hquiet : returns w'.log = returns w.log → w'.succeeded K = w.succeeded K ∧
      ∀ u r, .returned u r ∈ w'.log → .returned u r ∈ w.log ∨ u = t := by
    intro hreturns
    refine ⟨succeeded_later hl h.logged hreturns, fun u r hu => .inl ?_⟩
    rwa [← mem_returns, ← hreturns, mem_returns]
  rcases hu with ⟨hbooks, rfl⟩ | ⟨rfl, rfl, hbooks⟩ | ⟨hg, rfl, hbooks⟩ | ⟨r, rfl, hr⟩
  · obtain ⟨hstat, hclock, hreturns⟩ : _ ∧ _ ∧ _ := by simpa [World.books] using hbooks
    exact h.later hl hstat (hclock ▸ le_rfl) hreturns
  · obtain ⟨hstat, hclock, hreturns⟩ : _ ∧ _ ∧ _ := by simpa [World.books] using hbooks
    obtain ⟨hsucceeded, hlogged⟩ := hquiet hreturns
    refine h.moves hl hclock (by simp) ?_ hlogged ?_
    · rintro s ⟨⟩
      exact le_rfl
    · rw [hstat, hsucceeded]
      simp only [RpcStat.counted, Account.isPending, Bool.toNat_true, Bool.toNat_false]
      omega
  · obtain ⟨hstat, hclock, hreturns⟩ : _ ∧ _ ∧ _ := by simpa [World.books] using hbooks
    obtain ⟨hsucceeded, hlogged⟩ := hquiet hreturns
    refine h.moves hl hclock ?_ nofun hlogged ?_
    · refine ⟨nofun, fun hother => ?_⟩
      rw [hother] at hg
      cases hg
    · rw [hstat, hsucceeded, hg]
      simp only [RpcStat.failed, Account.isPending, Bool.toNat_true, Bool.toNat_false]
      omega
  · have hlogged : ∀ u r', .returned u r' ∈ (w.push (.returned t r)).log →
        .returned u r' ∈ w.log ∨ u = t := by
      intro u r' hu
      rcases List.mem_cons.mp hu with heq | hu
      · exact .inr (Obs.returned.inj heq).1
      · exact .inl hu
    have hsucceeded : (w.push (.returned t r)).succeeded K =
        w.succeeded K + (w.kind? t = some K && r.succeeds : Bool).toNat := by
      show (Obs.returned t r :: w.log).countP (Obs.succeeds w K) = _
      rw [List.countP_cons, World.succeeded]
      show _ + (if (w.kind? t = some K && r.succeeds : Bool) = true then 1 else 0) = _
      cases (w.kind? t = some K && r.succeeds : Bool) <;> rfl
    have hstat : (w.push (.returned t r)).rpcStat K = w.rpcStat K := by cases K <;> rfl
    rcases hr with ⟨rfl, rfl⟩ | ⟨hother, rfl, hpending⟩
    -- what other tasks return is not counted
    · have hno : ¬w.kind? t = some K := fun hk => hkind.mp hk rfl
      refine h.moves hl rfl Iff.rfl nofun hlogged ?_
      rw [hstat, hsucceeded]
      simp [hno]
    -- a call that returns was pending if and only if it has succeeded
    · have hyes : w.kind? t = some K := hkind.mpr hother
      refine h.moves hl rfl (by simp [hother]) nofun hlogged ?_
      rw [hstat, hsucceeded, hpending]
      simp [hyes, Account.isPending]
      omega

/-- A task begins with a closed account or with none. -/
theorem cons (h : Balanced K w ws none) (hg : g.isPending = false)
    (hkind : w.kind? t = some K ↔ g ≠ .other) (hknown : ∃ j, w.tasks.procOf t = some j) :
    Balanced K w ws (some (t, g)) where
  count := by
    show _ = _ + ((t, g) :: accounts ws none).countP _
    rw [List.countP_cons_of_neg (by simp [hg])]
    exact h.count
  kinds := List.forall_mem_cons.mpr ⟨hkind, h.kinds⟩
  known := List.forall_mem_cons.mpr ⟨hknown, h.known⟩
  logged := h.logged
  since := by
    refine List.forall_mem_cons.mpr ⟨fun s hs => ?_, h.since⟩
    rw [show g = .pending s from hs] at hg
    cases hg
  suspended := h.suspended

/-- So it ends. -/
theorem tail (h : Balanced K w ws (some (t, g))) (hg : g.isPending = false) :
    Balanced K w ws none where
  count := by
    have hcount : _ = _ + ((t, g) :: accounts ws none).countP _ := h.count
    rwa [List.countP_cons_of_neg (by simp [hg])] at hcount
  kinds := (List.forall_mem_cons.mp h.kinds).2
  known := (List.forall_mem_cons.mp h.known).2
  logged := h.logged
  since := (List.forall_mem_cons.mp h.since).2
  suspended := h.suspended

end Balanced

/-! ### Runs -/

/-- The calls of the kind are made when they are counted if they fail, and can be encoded;
and none of them is cancelled while it is in progress. -/
def Accounted (K : RpcKind) : Constraint (robot σ)
  | w, _, .start _ (.run (.api call)) => call.kind? = some K → call.admitted w
  | w, _, .resume s r => w.kind? s.task = some K → r ≠ .error .cancelled ∧
      ∀ rid, s.op = .future rid → w.rpc.futures rid ≠ .exception .cancelled
  | _, _, _ => True

section Steps

variable {ws l₁ l₂ : List (Site Karo × Account)} {g : Account} {s : Site Karo}
  {r : Except Exn Reply}

/-- What is known of the reply to a call that is not cancelled. -/
theorem replied {since : ℚ} (hready : w.ready s.task s.op r = true) (hsound : w.AllSound)
    (hsince : since ≤ w.clock.steady) (hspared : r ≠ .error .cancelled ∧
      ∀ rid, s.op = .future rid → w.rpc.futures rid ≠ .exception .cancelled) :
    Replied since s.op r (w.resume s.task s.op r) := by
  obtain ⟨ts, evt, heq, -⟩ := resume_eq s.task s.op r w
  rw [heq]
  refine ⟨hsince, hspared.1, fun rid hop => ?_⟩
  rw [hop] at hready
  rcases r with e | rep
  · cases e with
    | cancelled => exact absurd rfl hspared.1
    | _ => simp [World.ready, World.mayEnd] at hready
  · cases rep with
    | done =>
      refine ⟨⟨_, rfl⟩, hsound rid, ?_, hspared.2 rid hop⟩
      simp only [World.ready, World.mayEnd, Bool.and_eq_true] at hready
      exact hready.2
    | _ => simp [World.ready, World.mayEnd] at hready

/-- A created task is known. -/
theorem created_known {p : Proc} (h : w.createdProc t = some p) :
    ∃ j, w.tasks.procOf t = some j ∧ (p = .neverRun ∨ p = .run j) := by
  obtain ⟨x, hx, -, hp⟩ := created_task h
  exact ⟨x.proc, by rw [Tasks.procOf, hx]; rfl, hp⟩

theorem counts_kept : (countings K).Keeps (robot σ) (fun w o a => Accounted K w o a ∧ w.AllSound)
    Later (Balanced K) where
  body := body_counts
  env he hl h := by
    rcases Drift.env he with hd | ⟨seconds, epochMs, hpos, rfl⟩
    · exact h.drifts hl hd
    · refine h.later hl ?_ (le_add_of_nonneg_right hpos) rfl
      cases K <;> rfl
  start := by
    intro t p w ws hp hC h
    obtain ⟨j, hj, hproc⟩ := created_known hp
    let v : World := { w with tasks := w.tasks.begin t }
    have hlater : Later w v := begin_later
    have hv : Balanced K v ws none := h.drifts hlater .begin
    have hkind : v.kind? t = w.kind? t := hlater.kind? ⟨j, hj⟩
    have hknown : ∃ j, v.tasks.procOf t = some j := ⟨j, hlater.proc t j hj⟩
    by_cases hcounted : w.kind? t = some K
    · refine ⟨.closed, ?_, hv.cons rfl (by simp [hkind, hcounted]) hknown⟩
      -- the call is one that may be made
      refine hproc.imp id fun hrun => ?_
      unfold World.kind? at hcounted
      rw [hj] at hcounted
      cases j with
      | api call =>
        subst hrun
        exact ⟨call, rfl, hcounted, hC.1 hcounted⟩
      | _ => cases hcounted
    · refine ⟨.other, ?_, hv.cons rfl (by simp [hkind, hcounted]) hknown⟩
      show Flow.spares K (.next p)
      rcases hproc with rfl | rfl
      · trivial
      · unfold World.kind? at hcounted
        rw [hj] at hcounted
        cases j with
        | api call => exact hcounted
        | _ => trivial
  resume := by
    intro s g r w l₁ l₂ hready hC hl h
    have hmem : (s.task, g) ∈ accounts (l₁ ++ (s, g) :: l₂) none :=
      List.mem_map.mpr ⟨(s, g), List.mem_append_right l₁ (List.mem_cons_self ..), rfl⟩
    refine ⟨?_, ?_⟩
    · rintro since rfl
      exact replied hready hC.2 (h.since _ hmem since rfl) (hC.1 ((h.kinds _ hmem).mpr nofun))
    · obtain ⟨ts, evt, heq, -⟩ := resume_eq s.task s.op r w
      have hv : Balanced K (w.resume s.task s.op r) (l₁ ++ (s, g) :: l₂) none := by
        have hl : Later w (w.resume s.task s.op r) := hl
        rw [heq] at hl ⊢
        refine h.later hl ?_ le_rfl rfl
        cases K <;> rfl
      -- the account goes from those that are suspended to the one that runs
      refine hv.perm ?_ fun x hx => h.suspended x ?_
      · show ((s.task, g) :: (l₁ ++ l₂).map _).Perm ((l₁ ++ (s, g) :: l₂).map _)
        rw [List.map_append, List.map_append, List.map_cons]
        exact List.perm_middle.symm
      · exact ((List.sublist_cons_self (s, g) l₂).append_left l₁).subset hx
  update hu hl h := h.update hl hu
  wait := by
    rintro t p op g g' w ws ⟨rfl, hclosed⟩ h
    exact h.perm (List.Perm.refl _) (List.forall_mem_cons.mpr ⟨hclosed, h.suspended⟩)
  finish hends hl h := (h.tail hends).drifts hl .finish

end Steps

theorem balanced_initial (clock : Clock) : Balanced K (.init clock) [] none where
  count := by cases K <;> rfl
  kinds := nofun
  known := nofun
  logged := nofun
  since := nofun
  suspended := nofun

/-- The suspended calls are those with a pending account. -/
theorem inProgress_eq {m : Staged Karo Account} (h : Balanced K m.world m.sites none) :
    (accounts m.sites none).countP (fun x => x.2.isPending) = inProgress m.config K := by
  show (m.sites.map _).countP _ = (m.waiting.map Prod.fst).countP _
  rw [Staged.sites, List.map_map, List.countP_map, List.countP_map]
  refine List.countP_congr fun x hx => ?_
  have hsite : (x.1.site, x.2) ∈ m.sites := List.mem_map.mpr ⟨x, hx, rfl⟩
  have hkind := h.kinds (x.1.site.task, x.2) (List.mem_map.mpr ⟨_, hsite, rfl⟩)
  have hclosed := h.suspended _ hsite
  simp only [Function.comp, decide_eq_true_eq]
  show x.2.isPending = true ↔ m.world.kind? x.1.site.task = some K
  rw [hkind]
  cases hx : x.2 with
  | closed => exact absurd hx hclosed
  | other | pending => simp [Account.isPending]

/-- The balance of the entry: in every state for the errors, between two tasks for the sum. -/
def Balances (c : Config Karo) (K : RpcKind) : Prop :=
  (c.world.rpcStat K).errorCount ≤ (c.world.rpcStat K).count ∧
    (c.Idle → (c.world.rpcStat K).count - (c.world.rpcStat K).errorCount =
      c.world.succeeded K + inProgress c K)

/-- **The statistics balance** in every run that makes the calls of the kind when they are
counted if they fail, and cancels none of them. -/
theorem rpc_stats_balance (σ : Setup) (clock : Clock) (K : RpcKind) (c : Config Karo)
    (h : Run (robot σ) (Accounted K) (initial clock) c) : Balances c K := by
  have hrun : Run (robot σ) (fun w o a => Accounted K w o a ∧ w.AllSound) (initial clock) c :=
    h.assuming (fun _ hr => allSound hr) fun _ _ hsound hC => ⟨hC, hsound⟩
  have hlater : ∀ c₁ a c₂, Run (robot σ) (fun w o a => Accounted K w o a ∧ w.AllSound)
      (initial clock) c₁ → Step (robot σ) c₁ a c₂ → Later c₁.world c₂.world := by
    intro c₁ a c₂ hr hs
    have hreach : Reaches (robot σ) (initial clock) c₁ := hr.mono fun _ _ _ _ => trivial
    have htraced := outlined.traced_reaches hreach
    exact (later_guaranteed (A := fun _ _ _ => True)).holds htraced hs trivial
  obtain ⟨m, rfl, -, hI⟩ := counts_kept.run (balanced_initial clock) hlater hrun
  have hcount : (m.world.rpcStat K).count = (m.world.rpcStat K).errorCount + m.world.succeeded K +
    (accounts m.sites m.stage).countP fun x => x.2.isPending := hI.count
  refine ⟨?_, fun hidle => ?_⟩
  · show (m.world.rpcStat K).errorCount ≤ (m.world.rpcStat K).count
    omega
  · have hstage : m.stage = none := by
      rw [Staged.stage, Option.map_eq_none_iff.mp hidle, Option.map_none]
    rw [hstage] at hI hcount
    rw [inProgress_eq hI] at hcount
    show (m.world.rpcStat K).count - (m.world.rpcStat K).errorCount =
      m.world.succeeded K + inProgress m.config K
    omega

/-! ### Runs that balance, and runs that do not -/

/-- The calls of the kind: all, failed, successful, in progress. -/
def figures (c : Config Karo) (K : RpcKind) : Nat × Nat × Nat × Nat :=
  ((c.world.rpcStat K).count, (c.world.rpcStat K).errorCount, c.world.succeeded K, inProgress c K)

instance : (call : ApiCall) → Decidable (call.admitted w)
  | .cmdVel _ _ _ => inferInstanceAs (Decidable (_ ∧ _))
  | .emergencyStop _ _ => inferInstanceAs (Decidable (_ → _ → _))
  | .connect | .close | .waitUntilReady _ | .subscribe _ _ | .unsubscribe _
  | .createNavTaskMarker _ | .createNavTaskPose _ _ _ | .cancelTask _ | .pauseTask _
  | .resumeTask _ | .ping => .isTrue trivial

/-- The check that all calls are accounted. -/
def accounting : Check (robot .plain)
  | w, _, .start _ (.run (.api call)) => call.admitted w
  | _, _, .resume _ (.error .cancelled) => false
  | w, _, .resume s _ =>
    match s.op with
    | .future rid => w.rpc.futures rid ≠ .exception .cancelled
    | _ => true
  | _, _, _ => true

/-- One `cmd_vel` is accepted, one is rejected, and a third is in progress. -/
def threeVelocities : List (Cmd (robot .plain)) :=
  connected ++ [.env (.call (.cmdVel ⟨0⟩ ⟨0⟩ ⟨0⟩)), .start 4, .resume 4 (.ok .done),
    responds 2 0 { requestId := 2, success := true, hasRpc := true }, .resume 4 (.ok .done),
    .env (.tick 1 0), .env (.call (.cmdVel ⟨0⟩ ⟨0⟩ ⟨0⟩)), .start 5, .resume 5 (.ok .done),
    responds 2 0 { requestId := 3 }, .resume 5 (.ok .done),
    .env (.tick 1 0), .env (.call (.cmdVel ⟨0⟩ ⟨0⟩ ⟨0⟩)), .start 6, .resume 6 (.ok .done)]

theorem accounting_accounted {o : Multiset (Site Karo)} {a : Action Karo EnvStep}
    (h : accounting.allows w o a) : Accounted K (σ := .plain) w o a := by
  cases a with
  | start t q =>
    cases q with
    | run job =>
      cases job with
      | api call => exact fun _ => of_decide_eq_true h
      | _ => trivial
    | _ => trivial
  | resume s r =>
    obtain ⟨task, path, op⟩ := s
    intro _
    refine ⟨?_, ?_⟩
    · rintro rfl
      exact absurd h Bool.false_ne_true
    · rintro rid rfl
      rcases r with e | rep
      · cases e with
        | cancelled => exact absurd h Bool.false_ne_true
        | _ => exact of_decide_eq_true h
      · exact of_decide_eq_true h
  | _ => trivial

theorem rpc_stats_balance_velocities : ∃ c, Run (robot .plain) (Accounted .cmdVel) (initial ⟨0, 0⟩) c ∧
    figures c .cmdVel = (3, 1, 1, 1) ∧ Balances c .cmdVel := by
  have hplay : (Sys.playChecked accounting 4 threeVelocities (initial ⟨0, 0⟩)).any
      (fun c => figures c .cmdVel = (3, 1, 1, 1)) = true := by
    decide +kernel
  obtain ⟨c, hc, hs⟩ := (Option.any_eq_true _ _).mp hplay
  have hrun : Run (robot .plain) (Accounted .cmdVel) (initial ⟨0, 0⟩) c :=
    (playChecked_run _ hc).mono fun _ _ _ => accounting_accounted
  exact ⟨c, hrun, of_decide_eq_true hs, rpc_stats_balance .plain ⟨0, 0⟩ .cmdVel c hrun⟩

/-- `cmd_vel` before `connect` -/
def earlyVelocity : List (Cmd (robot .plain)) := [.env (.call (.cmdVel ⟨0⟩ ⟨0⟩ ⟨0⟩)), .start 0]

/-- `emergency_stop` with a lone surrogate, in `READY` -/
def unencodableStop : List (Cmd (robot .plain)) :=
  connected ++ [.env (.call (.emergencyStop true ⟨[0xD800]⟩)), .start 4]

/-- A call of `ping` is cancelled. -/
def cancelledPing : List (Cmd (robot .plain)) :=
  connected ++ [.env (.call .ping), .start 4, .resume 4 (.ok .done), .env (.cancelCall 4),
    .resume 4 (.error .cancelled)]

/-- The check on what a script reaches. -/
theorem play_unbalanced {ls : List (Cmd (robot .plain))} {count errors : Nat}
    (hne : count ≠ errors)
    (h : ((robot .plain).play 4 ls (initial ⟨0, 0⟩)).any
      (fun c => figures c K = (count, errors, 0, 0) && c.running.isNone) = true) :
    ∃ c, Reaches (robot .plain) (initial ⟨0, 0⟩) c ∧ c.Idle ∧
      figures c K = (count, errors, 0, 0) ∧ ¬Balances c K := by
  obtain ⟨c, hc, hs⟩ := (Option.any_eq_true _ _).mp h
  simp only [Bool.and_eq_true, decide_eq_true_eq, Option.isNone_iff_eq_none] at hs
  obtain ⟨hfigures, hidle⟩ := hs
  refine ⟨c, play_run hc, hidle, hfigures, fun ⟨hle, hsum⟩ => ?_⟩
  have hsum := hsum hidle
  simp only [figures, Prod.mk.injEq] at hfigures
  obtain ⟨hcount, herrors, hsucceeded, hprogress⟩ := hfigures
  rw [hcount, herrors] at hle hsum
  omega

/-- A velocity command that is refused is an error of no call; a call that is cancelled, and
a stop that cannot be encoded, are never an error. -/
theorem rpc_stats_unbalanced :
    (∃ c, Reaches (robot .plain) (initial ⟨0, 0⟩) c ∧ c.Idle ∧
      figures c .cmdVel = (0, 1, 0, 0) ∧ ¬Balances c .cmdVel) ∧
    (∃ c, Reaches (robot .plain) (initial ⟨0, 0⟩) c ∧ c.Idle ∧
      figures c .emergencyStop = (1, 0, 0, 0) ∧ ¬Balances c .emergencyStop) ∧
    ∃ c, Reaches (robot .plain) (initial ⟨0, 0⟩) c ∧ c.Idle ∧
      figures c .ping = (1, 0, 0, 0) ∧ ¬Balances c .ping := by
  have hearly : ((robot .plain).play 4 earlyVelocity (initial ⟨0, 0⟩)).any
      (fun c => figures c .cmdVel = (0, 1, 0, 0) && c.running.isNone) = true := by
    decide +kernel
  have hstop : ((robot .plain).play 4 unencodableStop (initial ⟨0, 0⟩)).any
      (fun c => figures c .emergencyStop = (1, 0, 0, 0) && c.running.isNone) = true := by
    decide +kernel
  have hping : ((robot .plain).play 4 cancelledPing (initial ⟨0, 0⟩)).any
      (fun c => figures c .ping = (1, 0, 0, 0) && c.running.isNone) = true := by
    decide +kernel
  exact ⟨play_unbalanced nofun hearly, play_unbalanced nofun hstop, play_unbalanced nofun hping⟩

end KaroX2
