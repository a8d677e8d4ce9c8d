/-
KaroX2/Outcomes.lean

What the calls report when their request has ended in a given way.

The future of a request is the only thing that a call hears from outside, so the
protocol of this module assumes its value at the end of the wait and nothing else: the
rest of the world may be anything then.  A failure is `Honest` if it does not carry the
code OK; for honest outcomes every result says OK exactly if the call succeeded, and
`unsubscribe` says OK only for a success of the server.
-/
import KaroX2.System
import KaroX2.Coop.Protocol

namespace KaroX2

open Coop

variable {σ : Setup} {w : World} {me : TaskId} {x : Fut}

/-! ### Outcomes -/

/-- What awaiting the future gives. -/
def Fut.outcome : Fut → Except Exn DecodedResponse
  | .result resp => .ok resp
  | .exception e => .error e
  | .pending => .error (.other "invalid state")

/-- A failed request has a code other than OK. -/
def Fut.Honest : Fut → Prop
  | .result resp => resp.success = false → resp.sdkCode ≠ .ok
  | .exception (.sdk code _) => code ≠ .ok
  | _ => True

/-- The future of the request has the value `x` when the call goes on. -/
def hearing (x : Fut) : Protocol Karo Unit where
  update _ _ _ _ := True
  wait _ _ _ _ := True
  resume _ op r w := ∀ rid, op = .future rid →
    r = .error .cancelled ∨ r = .ok .done ∧ w.rpc.futures rid = x

/-- Every result of the call satisfies `Q` if its request ends with `x`. -/
abbrev Reports {α : Type} (x : Fut) (Q : α → Prop) (c : M α) : Prop := c.Steady (hearing x) () Q

/-- How a request ends: as its future does, or by a failure of its own. -/
def Fut.Brings (x : Fut) : Except Exn DecodedResponse → Prop
  | .ok resp => x = .result resp
  | .error (.sdk code msg) => x = .exception (.sdk code msg) ∨ code = .transportFailure
  | .error _ => True

theorem Fut.Brings.code_ne (hx : x.Honest) {code : ErrorCode} {msg : String}
    (h : x.Brings (.error (.sdk code msg))) : code ≠ .ok := by
  rcases h with rfl | rfl
  · exact hx
  · exact ErrorCode.noConfusion

theorem requireOk_ne {resp : DecodedResponse} {code : ErrorCode} {message : String}
    (hx : (Fut.result resp).Honest) (h : resp.requireOk = some (code, message)) : code ≠ .ok := by
  unfold DecodedResponse.requireOk at h
  split at h
  · rename_i hs
    cases h
    exact hx hs
  · split at h
    · cases h
      exact ErrorCode.noConfusion
    · split at h
      · rename_i hne
        cases h
        exact hne
      · cases h

/-! ### Requests -/

section Requests

variable {α : Type} {c : WsId} {rid : Nat} {method : String} {cmd : SdkCommand}

theorem awaitResponse_brings :
    (awaitResponse c rid cmd).Abides (hearing x) (fun _ r _ => x.Brings r) () w := by
  unfold awaitResponse
  rw [Coro.abides_attempt_then]
  refine ⟨(), trivial, fun r v hv => ?_⟩
  rcases r with e | rep
  · obtain h | ⟨h, -⟩ := hv rid rfl
    · cases h
      exact ⟨(), trivial, trivial⟩
    · cases h
  · obtain h | ⟨-, hfut⟩ := hv rid rfl
    · cases h
    · show Coro.Abides (hearing x) _ (match v.rpc.futures rid with
        | .result resp => _
        | .exception e => _
        | .pending => _) () v
      rw [hfut]
      cases x with
      | pending => trivial
      | result resp => exact ⟨(), trivial, rfl⟩
      | exception e =>
        cases e with
        | sdk code msg => exact .inl rfl
        | _ => trivial

theorem wsSend_hears : (wsSend c cmd).Abides (hearing x) (fun _ r _ => ∀ code msg,
    r ≠ .error (.sdk code msg)) () w := by
  unfold wsSend
  rw [Coro.abides_read_then]
  split
  · rw [Coro.abides_attempt_then]
    refine ⟨(), trivial, fun r v _ => ?_⟩
    rcases r with e | rep
    · cases e <;> exact fun _ _ => nofun
    · exact ⟨(), trivial, fun _ _ => nofun⟩
  · exact fun _ _ => nofun

theorem sendRpcAndWait_brings :
    (sendRpcAndWait rid method cmd).Abides (hearing x) (fun _ r _ => x.Brings r) () w := by
  unfold sendRpcAndWait
  rw [Coro.abides_read_then]
  refine Coro.abides_call (fun _ _ => trivial) ?_
  split
  · exact .inr rfl
  · refine Coro.abides_modify_iff.mpr ⟨(), trivial, ?_⟩
    rw [Coro.abides_bind]
    refine Coro.abides_mono ?_ wsSend_hears
    rintro ⟨⟩ (e | ok) v hr
    · cases e with
      | sdk code msg => exact absurd rfl (hr code msg)
      | _ => trivial
    · show (if ok = true then _ else _ : M DecodedResponse).Abides _ _ () v
      split
      · exact awaitResponse_brings
      · exact ⟨(), trivial, .inr rfl⟩

/-- The rule for a call that translates the outcome of its request. -/
theorem reports_request {k : Except Exn DecodedResponse → M α} {Q : α → Prop}
    (hk : ∀ r, x.Brings r → Reports x Q (k r)) :
    Reports x Q ((sendRpcAndWait rid method cmd).attempt >>= k) := by
  intro w
  rw [Coro.abides_attempt_then]
  exact Coro.abides_mono (fun _ r v hr => hk r hr v) sendRpcAndWait_brings

/-- On an open connection the request may end as the future does. -/
theorem outcome_of_abides (hws : w.conn.ws = some c) (ha : (w.clients c).attached = true)
    (ho : (w.clients c).isOpen = true) {Q : Unit → Except Exn DecodedResponse → World → Prop}
    (h : (sendRpcAndWait rid method cmd).Abides (hearing x) Q () w) : ∃ v, Q () x.outcome v := by
  unfold sendRpcAndWait at h
  rw [Coro.abides_read_then, hws] at h
  obtain ⟨⟨⟩, -, h⟩ := Coro.abides_call_iff.mp h
  obtain ⟨⟨⟩, -, h⟩ := Coro.abides_modify_iff.mp h
  -- the frame is sent
  have hopen : (((w.register rid method).clients c).attached
      && ((w.register rid method).clients c).isOpen) = true := by
    show ((w.clients c).attached && (w.clients c).isOpen) = true
    rw [ha, ho]
    rfl
  unfold wsSend at h
  rw [Coro.abides_bind, Coro.abides_read_then, if_pos hopen, Coro.abides_attempt_then] at h
  obtain ⟨⟨⟩, -, h⟩ := h
  obtain ⟨⟨⟩, -, h⟩ := Coro.abides_modify_iff.mp (h (.ok .done) w fun _ hop => by cases hop)
  -- and its future has the value `x`
  replace h : (awaitResponse c rid cmd).Abides (hearing x) _ () _ := h
  unfold awaitResponse at h
  rw [Coro.abides_attempt_then] at h
  obtain ⟨⟨⟩, -, h⟩ := h
  have hset : (w.setFuture rid x).rpc.futures rid = x := Function.update_self ..
  replace h := h (.ok .done) (w.setFuture rid x) fun r hop => by
    cases hop
    exact .inr ⟨rfl, hset⟩
  replace h : Coro.Abides (hearing x) _ (match (w.setFuture rid x).rpc.futures rid with
    | .result resp => _
    | .exception e => _
    | .pending => _) () _ := h
  rw [hset] at h
  cases x with
  | pending => exact ⟨_, h.choose_spec.2⟩
  | result resp =>
    obtain ⟨⟨⟩, -, ⟨⟩, -, h⟩ := h
    exact ⟨_, h⟩
  | exception e => exact ⟨_, h.choose_spec.2⟩

end Requests

/-! ### Results -/

/-- The result says OK exactly if it says success. -/
def CmdVelResult.Agrees (r : CmdVelResult) : Prop := r.accepted = true ↔ r.code = .ok

def CommandResult.Agrees (r : CommandResult) : Prop := r.ok = true ↔ r.code = .ok

def CreateTaskResult.Agrees (r : CreateTaskResult) : Prop := r.accepted = true ↔ r.code = .ok

section Results

variable {α : Type}

theorem reports_modify_then {Q : α → Prop} {f : World → World} {k : M α} (hk : Reports x Q k) :
    Reports x Q (Coro.modify (S := Karo) f >>= fun _ => k) :=
  (Coro.Steady.modify fun _ => trivial).andThen fun _ => hk

theorem reports_update_then {β : Type} {Q : β → Prop} {f : World → α × World} {k : α → M β}
    (hk : ∀ a, Reports x Q (k a)) : Reports x Q (Coro.update (S := Karo) f >>= k) :=
  (Coro.Steady.update fun _ => trivial).andThen hk

theorem cmdVelFailed_agrees {code : ErrorCode} {message : String} (h : code ≠ .ok) :
    Reports x CmdVelResult.Agrees (cmdVelFailed code message) :=
  reports_modify_then <| .pure (iff_of_false Bool.false_ne_true h)

theorem cmdVel_agrees (hx : x.Honest) {vx vy wz : PyFloat} :
    Reports x CmdVelResult.Agrees (cmdVel vx vy wz) := by
  refine .call (fun _ => trivial) (.read fun w => ?_)
  split
  · exact cmdVelFailed_agrees nofun
  · refine reports_update_then fun granted => ?_
    split
    · exact cmdVelFailed_agrees nofun
    · refine reports_modify_then <| reports_update_then fun rid => reports_update_then fun seq =>
        .read fun w => reports_request fun r hr => ?_
      split
      · rename_i resp
        obtain rfl : x = .result resp := hr
        refine .read fun w => ?_
        dsimp only
        split
        · rename_i code message h
          exact reports_modify_then <| .pure (iff_of_false Bool.false_ne_true (requireOk_ne hx h))
        · exact .pure (iff_of_true rfl rfl)
      · exact cmdVelFailed_agrees nofun
      · exact cmdVelFailed_agrees (hr.code_ne hx)
      · exact .raise

/-- In a session, with the rate limit open. -/
def World.readied : World :=
  { World.init ⟨0, 0⟩ with conn := { state := .ready, ws := some 0 } }

/-- A dishonest failure is reported as it is. -/
theorem honest_of_cmdVel {vx vy wz : PyFloat}
    (h : Reports x CmdVelResult.Agrees (cmdVel vx vy wz)) : x.Honest := by
  have hgranted : World.readied.acquire.1 = true := by decide +kernel
  have habides := h .readied
  obtain ⟨⟨⟩, -, habides⟩ := Coro.abides_call_iff.mp habides
  rw [Coro.abides_read_then, if_neg (by decide)] at habides
  obtain ⟨⟨⟩, -, habides⟩ := Coro.abides_update_iff.mp habides
  rw [if_neg (by simp [hgranted])] at habides
  obtain ⟨⟨⟩, -, habides⟩ := Coro.abides_modify_iff.mp habides
  obtain ⟨⟨⟩, -, habides⟩ := Coro.abides_update_iff.mp habides
  obtain ⟨⟨⟩, -, habides⟩ := Coro.abides_update_iff.mp habides
  rw [Coro.abides_read_then, Coro.abides_attempt_then] at habides
  obtain ⟨v, hv⟩ := outcome_of_abides (c := 0) rfl rfl rfl habides
  cases x with
  | pending => trivial
  | result resp =>
    intro hfail hcode
    have hrequire : resp.requireOk = some (.ok, resp.message) := by
      rw [DecodedResponse.requireOk, if_pos hfail, hcode]
    replace hv : (cmdVelAnswered _ resp).Abides (hearing _) _ () v := hv
    unfold cmdVelAnswered at hv
    rw [Coro.abides_read_then] at hv
    simp only [hrequire] at hv
    obtain ⟨⟨⟩, -, ⟨⟩, -, -, hres⟩ := hv
    exact Bool.false_ne_true ((hres _ rfl).mpr rfl)
  | exception e =>
    cases e with
    | sdk code msg =>
      obtain ⟨⟨⟩, -, ⟨⟩, -, -, hres⟩ := hv
      exact fun hcode => Bool.false_ne_true ((hres _ rfl).mpr hcode)
    | _ => trivial

theorem emergencyStopFailed_agrees {code : ErrorCode} {message : String} (h : code ≠ .ok) :
    Reports x CommandResult.Agrees (emergencyStopFailed code message) :=
  reports_modify_then <| .pure (iff_of_false Bool.false_ne_true h)

theorem emergencyStop_agrees (hx : x.Honest) {engage : Bool} {reason : PyStr} :
    Reports x CommandResult.Agrees (emergencyStop engage reason) := by
  refine .scope (fun _ => trivial) (fun _ => trivial) (.read fun w => ?_)
  have hfailed : ∀ code message, code ≠ .ok → Reports x (fun r : CommandResult × (World → World) =>
      r.1.Agrees ∧ ∀ w, (hearing x).update () w (r.2 w) ())
      (emergencyStopFailed code message >>= fun r => pure (r, id)) := fun code message h =>
    (emergencyStopFailed_agrees h).bind fun _ hr => .pure ⟨hr, fun _ => trivial⟩
  split
  · exact .pure ⟨iff_of_false Bool.false_ne_true nofun, fun _ => trivial⟩
  · refine reports_modify_then <| reports_update_then fun rid => ?_
    split
    · exact .raise
    · refine reports_request fun r hr => ?_
      split
      · rename_i resp
        obtain rfl : x = .result resp := hr
        unfold emergencyStopAnswered
        split
        · rename_i code message h
          exact hfailed code message (requireOk_ne hx h)
        · exact .pure ⟨iff_of_true rfl rfl, fun _ => trivial⟩
      · exact hfailed _ _ nofun
      · exact hfailed _ _ (hr.code_ne hx)
      · exact .raise

theorem createTaskAnswered_agrees {resp : DecodedResponse} (hx : (Fut.result resp).Honest) :
    (createTaskAnswered resp).Agrees := by
  unfold createTaskAnswered
  split
  · rename_i code message h
    exact iff_of_false Bool.false_ne_true (requireOk_ne hx h)
  · split
    · split
      · exact iff_of_false Bool.false_ne_true nofun
      · exact iff_of_true rfl rfl
    · exact iff_of_false Bool.false_ne_true nofun

theorem createNavTask_agrees (hx : x.Honest) {encode : Nat → Except Exn SdkCommand} :
    Reports x CreateTaskResult.Agrees (createNavTask encode) := by
  refine .read fun w => ?_
  split
  · exact .pure (iff_of_false Bool.false_ne_true nofun)
  · refine reports_update_then fun rid => ?_
    split
    · exact .raise
    · refine reports_request fun r hr => ?_
      split
      · rename_i resp
        obtain rfl : x = .result resp := hr
        exact .pure (createTaskAnswered_agrees hx)
      · exact .pure (iff_of_false Bool.false_ne_true nofun)
      · exact .pure (iff_of_false Bool.false_ne_true (hr.code_ne hx))
      · exact .raise

theorem taskCommandAnswered_agrees {resp : DecodedResponse} (hx : (Fut.result resp).Honest) :
    (taskCommandAnswered resp).Agrees := by
  unfold taskCommandAnswered
  split
  · rename_i code message h
    exact iff_of_false Bool.false_ne_true (requireOk_ne hx h)
  · exact iff_of_true rfl rfl

theorem taskCommand_agrees (hx : x.Honest) {method : String}
    {encoder : Nat → PyStr → Except Exn SdkCommand} {taskId : PyStr} :
    Reports x CommandResult.Agrees (taskCommand method encoder taskId) := by
  refine .read fun w => ?_
  split
  · exact .pure (iff_of_false Bool.false_ne_true nofun)
  · refine reports_update_then fun rid => ?_
    split
    · exact .raise
    · refine reports_request fun r hr => ?_
      split
      · rename_i resp
        obtain rfl : x = .result resp := hr
        exact .pure (taskCommandAnswered_agrees hx)
      · exact .pure (iff_of_false Bool.false_ne_true nofun)
      · exact .pure (iff_of_false Bool.false_ne_true (hr.code_ne hx))
      · exact .raise

/-! ### Unsubscribing -/

/-- The server has reported success. -/
def Fut.Succeeds (x : Fut) : Prop := ∃ resp, x = .result resp ∧ resp.success = true

theorem unsubscribeSlot_reports (hx : x.Honest) {topic : String} {s : SlotId} :
    Reports x (fun r => (r.1 = .ok → x.Succeeds) ∧ ∀ w, (hearing x).update () w (r.2 w) ())
      (unsubscribeSlot me topic s true) := by
  have hfailed : ∀ (code : ErrorCode) (last : World → World), code ≠ .ok →
      Reports x (fun r => (r.1 = .ok → x.Succeeds) ∧ ∀ w, (hearing x).update () w (r.2 w) ())
        (pure (code, last)) := fun _ _ h => .pure ⟨fun hc => absurd hc h, fun _ => trivial⟩
  refine .read fun w => ?_
  split
  · exact hfailed _ _ nofun
  · split
    · refine reports_update_then fun rid => ?_
      rw [if_pos rfl]
      refine reports_request fun r hr => ?_
      split
      · rename_i resp
        obtain rfl : x = .result resp := hr
        refine reports_modify_then <| .pure ⟨fun hc => ⟨resp, rfl, ?_⟩, fun _ => trivial⟩
        by_contra hs
        rw [Bool.not_eq_true] at hs
        simp only [hs] at hc
        exact hx hs hc
      · exact hfailed _ _ nofun
      · exact hfailed _ _ (hr.code_ne hx)
      · exact .raise
    · exact hfailed _ _ nofun

theorem unsubscribe_reports (hx : x.Honest) (h : SlotId) :
    (unsubscribe me h).Abides (hearing x) (fun _ r _ => r = .ok .ok →
      w.subs.subs.get? (w.subs.slots h).topic = none ∨ x.Succeeds) () w := by
  have htopic : ((w.markUserClosed h).subs.slots h).topic = (w.subs.slots h).topic := by
    simp [World.markUserClosed, World.setSlot]
  refine Coro.abides_modify_iff.mpr ⟨(), trivial, Coro.abides_call (fun _ _ => trivial) ?_⟩
  rw [Coro.abides_read_then]
  dsimp only
  rw [htopic]
  split
  · rename_i hnone
    exact fun _ => .inl hnone
  · refine Coro.abides_mono ?_ (Coro.Steady.scope (Q := fun c => c = .ok → x.Succeeds)
      (fun _ => trivial) (fun _ => trivial) (unsubscribeSlot_reports hx) _)
    exact fun _ r _ hr hok => .inr (hr.2 _ hok rfl)

/-- What the calls report when their request ends with `x`. -/
structure CallsAgree (x : Fut) : Prop where
  cmdVel : ∀ vx vy wz, Reports x CmdVelResult.Agrees (cmdVel vx vy wz)
  emergencyStop : ∀ engage reason, Reports x CommandResult.Agrees (emergencyStop engage reason)
  createNavTaskMarker : ∀ markerId, Reports x CreateTaskResult.Agrees (createNavTaskMarker markerId)
  createNavTaskPose : ∀ a b theta, Reports x CreateTaskResult.Agrees (createNavTaskPose a b theta)
  cancelTask : ∀ taskId, Reports x CommandResult.Agrees (cancelTask taskId)
  pauseTask : ∀ taskId, Reports x CommandResult.Agrees (pauseTask taskId)
  resumeTask : ∀ taskId, Reports x CommandResult.Agrees (resumeTask taskId)
  unsubscribe : ∀ me h w, (unsubscribe me h).Abides (hearing x) (fun _ r _ => r = .ok .ok →
    w.subs.subs.get? (w.subs.slots h).topic = none ∨ x.Succeeds) () w

theorem callsAgree_iff : CallsAgree x ↔ x.Honest := by
  refine ⟨fun h => honest_of_cmdVel (h.cmdVel ⟨0⟩ ⟨0⟩ ⟨0⟩), fun hx => ?_⟩
  exact {
    cmdVel := fun _ _ _ => cmdVel_agrees hx
    emergencyStop := fun _ _ => emergencyStop_agrees hx
    createNavTaskMarker := fun _ => createNavTask_agrees hx
    createNavTaskPose := fun _ _ _ => createNavTask_agrees hx
    cancelTask := fun _ => taskCommand_agrees hx
    pauseTask := fun _ => taskCommand_agrees hx
    resumeTask := fun _ => taskCommand_agrees hx
    unsubscribe := fun _ h _ => unsubscribe_reports hx h }

end Results

end KaroX2
