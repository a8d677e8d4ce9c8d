/-
KaroX2/Steering.lean

Who touches the velocity: the rate limit, the sequence number and the frames of
`cmd_vel`.

A `cmd_vel` call goes through four stages without a suspension: it is fresh, the rate
limit has let it through, it has its number, and its frame is handed to the transport.
From then on, and in all other code from the start, the velocity is left alone.
-/
import KaroX2.Ambient

namespace KaroX2

open Coop

variable {σ : Setup} {w : World} {me : TaskId}

/-! ### The velocity -/

/-- The sequence number, the rate limit and the time that it reads. -/
def World.velocity (w : World) : Nat × TokenBucket × Clock :=
  (w.stats.cmdvelSeq, w.stats.cmdvelRate, w.clock)

/-- How far a call of `cmd_vel` has come. -/
inductive Stage where
  | fresh | granted | numbered | spent
  deriving DecidableEq, Repr

/-- The protocol of the velocity.  Up to the frame the connection stays as it is. -/
def steering : Protocol Karo Stage where
  update := fun g w w' g' =>
    w'.velocity = w.velocity ∧ (g ≠ .spent → w'.conn = w.conn) ∧ g' = g ∨
    g = .fresh ∧ w' = w.acquire.2 ∧ g' = (if w.acquire.1 then .granted else .spent) ∨
    g = .granted ∧ w' = w.nextSeq.2 ∧ g' = .numbered
  wait := fun g op w g' =>
    op.velocity? = none ∧ g = .spent ∧ g' = .spent ∨
    ∃ c cmd, op = .wsSend c cmd ∧ cmd.velocity? = some w.stats.cmdvelSeq ∧ g = .numbered ∧
      g' = .spent ∧ w.conn.state = .ready ∧ w.conn.ws = some c

theorem steering_same {w' : World} (h : w'.velocity = w.velocity) :
    steering.update .spent w w' .spent := .inl ⟨h, fun hne => absurd rfl hne, rfl⟩

theorem steering_quiet {g : Stage} {w' : World} (h : w'.velocity = w.velocity)
    (hc : w'.conn = w.conn) : steering.update g w w' g := .inl ⟨h, fun _ => hc, rfl⟩

theorem steering_waits {op : Op} (h : op.velocity? = none) : steering.wait .spent op w .spent :=
  .inl ⟨h, rfl, rfl⟩

/-- The coroutine leaves the velocity alone. -/
abbrev Aloof {α : Type} (Q : α → Prop) (c : M α) : Prop := c.Steady steering .spent Q

/-! ### Still code -/

/-- The velocity, and how the requests end. -/
def World.core (w : World) : (Nat × TokenBucket × Clock) × (Nat → Bool) := (w.velocity, w.sound)

/-- The protocol of all code; only a loud task may change the velocity. -/
def still (loud : Prop) : Protocol Karo Unit where
  update _ w w' _ := (w'.velocity = w.velocity ∨ loud) ∧ w'.sound = w.sound
  wait _ op _ _ := op.velocity? = none ∨ loud

/-- The coroutine leaves the core of the world alone, the velocity only if it is not loud. -/
abbrev Still {α : Type} (loud : Prop) (Q : α → Prop) (c : M α) : Prop :=
  c.Steady (still loud) () Q

section Still

variable {loud : Prop} {w' : World}

theorem World.velocity_of_core (h : w'.core = w.core) : w'.velocity = w.velocity :=
  congrArg Prod.fst h

theorem World.sound_of_core (h : w'.core = w.core) : w'.sound = w.sound := congrArg Prod.snd h

theorem still_same (h : w'.core = w.core) : (still loud).update () w w' () :=
  ⟨.inl (World.velocity_of_core h), World.sound_of_core h⟩

theorem Drift.core (h : Drift w w') : w'.core = w.core := by
  refine Prod.ext (Prod.ext ?_ (Prod.ext ?_ h.clock)) h.sound
  · exact congrArg Stats.cmdvelSeq h.stats
  · exact congrArg Stats.cmdvelRate h.stats

/-- The protocol is not about most of the code. -/
theorem still_ambient : Ambient (still loud) () where
  drift h := still_same h.core
  install _ := still_same rfl
  wait h _ := .inl h

theorem still_hangsUp {c : WsId} : HangsUp (still loud) () c where
  ended _ _ := still_same rfl
  latched _ := still_same rfl
  fired _ := still_same rfl

/-- Still code that is not loud keeps to the protocol of the velocity. -/
theorem Still.aloof {α : Type} {Q : α → Prop} {c : M α} (h : Still False Q c) : Aloof Q c := by
  refine Coro.Steady.through (fun w w' hu => ?_) (fun op w hw => ?_) (fun _ _ _ _ => trivial) h
  · exact steering_same (hu.1.resolve_right id)
  · exact steering_waits (hw.resolve_right id)

end Still

/-! ### Calls -/

section Bodies

variable {loud : Prop}

/-- The task goes on with no call of `cmd_vel`. -/
def Flow.aloof : Flow Karo → Prop
  | .next (.run (.api (.cmdVel _ _ _))) => False
  | _ => True

theorem Flow.aloof_of_ambient {f : Flow Karo} (h : Flow.ambient f) : Flow.aloof f := by
  unfold Flow.aloof
  split
  · exact h
  · trivial

theorem returning_still {Q : ApiResult → Prop} {d : M ApiResult} (hd : Still loud Q d) :
    Still loud Flow.aloof (returning me d) := by
  refine (hd.mono fun _ _ => trivial).andThen fun r => ?_
  exact (Coro.Steady.modify fun w => still_same rfl).andThen fun _ => .pure trivial

theorem map_still {β : Type} {f : β → ApiResult} {d : M β} (hd : Still loud (fun _ => True) d) :
    Still loud (fun _ => True) (f <$> d) := hd.map

theorem apiBody_still {call : ApiCall} (h : (∀ vx vy wz, call ≠ .cmdVel vx vy wz) ∨ loud) :
    Still loud Flow.aloof (apiBody σ me call) := by
  have hplain (hp : call.plain = true) : Still loud Flow.aloof (apiBody σ me call) :=
    still_ambient.apiBody hp fun d hd => returning_still hd
  cases call with
  | waitUntilReady timeout =>
    refine (waitRound_steady (fun e w => still_same rfl) fun w => .inl rfl).andThen fun r => ?_
    split
    · exact returning_still (Q := fun _ => True) (.pure trivial)
    · exact .pure trivial
  | cmdVel vx vy wz =>
    have hl : loud := h.resolve_left fun h => h vx vy wz rfl
    refine returning_still (map_still (still_ambient.cmdVel ?_ ?_ ?_ ?_))
    · exact fun f w => still_same rfl
    -- only the bucket, the sequence number and the frame are loud
    · exact fun w => ⟨.inr hl, rfl⟩
    · exact fun w => ⟨.inr hl, rfl⟩
    · exact fun _ _ _ => .inr hl
  | emergencyStop engage reason =>
    exact returning_still (map_still (still_ambient.emergencyStop fun f w => still_same rfl))
  | ping => exact returning_still (map_still (still_ambient.ping fun f w => still_same rfl))
  | _ => exact hplain rfl

/-- All code is still, and only `cmd_vel` is loud. -/
theorem body_still {p : Proc} (h : Flow.aloof (.next p) ∨ loud) :
    Still loud Flow.aloof (body σ me p) := by
  by_cases hp : Flow.ambient (.next p)
  · refine (still_ambient.body hp fun _ _ => still_hangsUp).mono fun _ hf => ?_
    exact Flow.aloof_of_ambient (Flow.ambient_of_stays hf)
  -- a call is loud exactly if it is a velocity command
  · obtain ⟨call, rfl⟩ := Flow.call_of_not_ambient hp
    refine apiBody_still (h.imp_left ?_)
    rintro h vx vy wz rfl
    exact h

/-- **Only `cmd_vel` steers.** -/
theorem body_aloof {p : Proc} (h : Flow.aloof (.next p)) : Aloof Flow.aloof (body σ me p) :=
  Still.aloof (body_still (.inl h))

end Bodies

/-! ### The environment -/

/-- The environment leaves the core alone, or time passes. -/
theorem env_core {e : EnvStep} {w' : World} (h : World.env e w = some w') : w'.core = w.core ∨
    ∃ seconds epochMs, 0 ≤ seconds ∧
      w' = { w with clock := ⟨w.clock.steady + seconds, epochMs⟩ } :=
  (Drift.env h).imp_left Drift.core

end KaroX2
