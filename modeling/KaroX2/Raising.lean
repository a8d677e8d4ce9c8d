/-
KaroX2/Raising.lean

What the public calls raise.

A call that reports by value may only raise the cancellation of its own task.  This is
so in every environment that answers as `Answered` says: a request ends in one of the
ways of the SDK, `wait_until_ready` does not time out, and a reader that cannot be
joined is still the reader of its client.  What is left is the encoding of the arguments:
it comes before the handlers.
-/
import KaroX2.Steering
import KaroX2.Coop.Answers

namespace KaroX2

open Coop

variable {σ : Setup} {w : World} {me : TaskId} {α : Type} {p : List Label}

/-! ### Answers and ends -/

/-- What the calls rely on. -/
def Answered (p : List Label) : Op → Except Exn Reply → World → Prop
  | .future rid, .ok _, w => (w.rpc.futures rid).sound = true ∧ (w.rpc.futures rid).done = true
  | .future _, .error e, _ => e = .cancelled
  | .stateChanged _, .error e, _ => e = .cancelled
  | .joinReader _, .error _, w => ∀ c, .closeClient c ∈ p → (w.clients c).readTask ≠ none
  | _, _, _ => True

/-- Nothing but a cancellation is raised. -/
def Unraised (r : Except Exn α) : Prop := ∀ e, r = .error e → e = .cancelled

/-- What a request may raise. -/
def Expected (r : Except Exn α) : Prop := ∀ e, r = .error e → (Fut.exception e).sound = true

theorem unraised_ok {a : α} : Unraised (.ok a : Except Exn α) := by
  intro e he
  cases he

theorem unraised_cancelled : Unraised (.error .cancelled : Except Exn α) := by
  intro e he
  exact (Except.error.inj he).symm

theorem Unraised.error {β : Type} {e : Exn} (h : Unraised (.error e : Except Exn α)) :
    Unraised (.error e : Except Exn β) := by
  intro e' he
  cases he
  exact h e rfl

theorem Unraised.map {β : Type} {r : Except Exn α} {f : α → β} (h : Unraised r) :
    Unraised (r.map f) := by
  cases r with
  | ok a => exact unraised_ok
  | error e => exact h.error

/-- The coroutine raises nothing but a cancellation. -/
abbrev Gentle (c : M α) : Prop := ∀ p w, c.Ends Answered Unraised p w

/-- What follows decides what is returned. -/
theorem gentle_then {β : Type} {c : M α} {f : α → M β} {Q : Except Exn β → Prop}
    (hc : c.Ends Answered Unraised p w) (he : ∀ e, Unraised (.error e : Except Exn β) → Q (.error e))
    (hf : ∀ a v, (f a).Ends Answered Q p v) : (c >>= f).Ends Answered Q p w :=
  hc.bind (fun e h => he e h.error) fun a _ v => hf a v

/-- `except Exception` lets only a cancellation pass. -/
theorem swallow_gentle {c : M Unit} : Gentle (swallow c) := by
  intro p w
  have hany : c.Ends Answered (fun _ => True) p w := by
    -- whatever the coroutine does, its end is caught
    induction c generalizing w with
    | ret r => trivial
    | get k ih => exact ih w w
    | step q q' w' k ih => exact ih w'
    | enter q l w' k ih => exact ih w'
    | await q op k ih => exact fun r v _ => ih r v
  refine hany.attempt_then fun r _ v => ?_
  split
  · exact unraised_cancelled
  · exact unraised_ok

/-! ### Requests -/

section Requests

variable {c : WsId} {rid : Nat} {method : String} {cmd : SdkCommand}

theorem wsSend_gentle : Gentle (wsSend c cmd) := by
  intro p w
  refine .read_then ?_
  split
  · refine .wait_then fun r v _ => ?_
    split
    · exact unraised_ok
    · exact unraised_cancelled
    · exact unraised_ok
  · exact unraised_ok

theorem awaitResponse_expected : (awaitResponse c rid cmd).Ends Answered Expected p w := by
  refine .wait_then fun r v hr => ?_
  rcases r with e | rep
  -- the wait itself is ended by a cancellation only
  · obtain rfl : e = .cancelled := hr
    intro e he
    cases he
    rfl
  · obtain ⟨hsound, hdone⟩ := hr
    refine .read_then ?_
    split
    -- the result of the future: a response, or one of the errors of the SDK
    · intro e he
      cases he
    · rename_i e hfut
      rw [hfut] at hsound
      intro e' he
      cases he
      exact hsound
    -- a wait that has ended has found its future done
    · rename_i hfut
      rw [hfut] at hdone
      cases hdone

theorem sendRpcAndWait_expected :
    (sendRpcAndWait rid method cmd).Ends Answered Expected p w := by
  have hsdk : ∀ msg, Expected (.error (.sdk .transportFailure msg) : Except Exn DecodedResponse) := by
    intro msg e he
    cases he
    rfl
  refine .read_then (.call ?_)
  split
  · exact hsdk _
  · refine .modify_then ?_
    refine (wsSend_gentle _ _).bind ?_ ?_
    · intro e he e' h
      cases h
      rw [he e rfl]
      rfl
    · intro ok _ v
      split
      · exact awaitResponse_expected
      · exact .modify_then (hsdk _)

/-- The handlers of a request: a response, a time-out, an error of the SDK. -/
theorem request_then {k : Except Exn DecodedResponse → M α}
    (hok : ∀ resp, Gentle (k (.ok resp))) (htimeout : ∀ m, Gentle (k (.error (.timeout m))))
    (hsdk : ∀ code m, Gentle (k (.error (.sdk code m)))) (hcancel : Gentle (k (.error .cancelled))) :
    Gentle ((sendRpcAndWait rid method cmd).attempt >>= k) := by
  intro p w
  refine sendRpcAndWait_expected.attempt_then fun r hr v => ?_
  rcases r with e | resp
  · have he := hr e rfl
    cases e with
    | cancelled => exact hcancel p v
    | timeout m => exact htimeout m p v
    | sdk code m => exact hsdk code m p v
    -- `Expected` leaves no other exception
    | _ => cases he
  · exact hok resp p v

end Requests

/-! ### The end of a connection -/

section Closing

variable {c : WsId}

theorem joinReader_gentle (hp : .closeClient c ∈ p) :
    (joinReader me c).Ends Answered Unraised p w := by
  refine .read_then ?_
  split
  · exact unraised_ok
  · split
    · exact unraised_ok
    · refine .wait_then fun r v hr => ?_
      rcases r with e | rep
      · refine .read_then ?_
        split
        -- `self._read_task` is read again after the time-out, and is still there
        · rename_i hnone
          exact absurd hnone (hr c hp)
        · refine .modify_then (.wait_then fun r v _ => ?_)
          exact .modify_then unraised_ok
      · exact .modify_then unraised_ok

theorem closeClient_gentle (hp : .closeClient c ∈ p) :
    (closeClient me c).Ends Answered Unraised p w := by
  refine .read_then (.when unraised_ok ?_)
  refine gentle_then (.when unraised_ok (.modify_then (swallow_gentle _ _))) ?_ ?_
  · exact fun e he => he
  · exact fun _ v => joinReader_gentle hp

theorem closeWs_gentle {last : World → World} : Gentle (closeWs me last) := by
  intro p w
  refine .read_then ?_
  split
  · exact .modify_then unraised_ok
  · refine .scope ?_
    refine gentle_then (closeClient_gentle (List.mem_append_right _ (List.mem_singleton_self _))) ?_ ?_
    · exact fun e he => he.error
    · exact fun _ v => unraised_ok

theorem onTransportCloseAfter_gentle {first : World → World} {reason : ErrorCode} {msg : String} :
    Gentle (onTransportCloseAfter σ first me reason msg) := by
  intro p w
  refine .scope (.read_then ?_)
  split
  · exact unraised_ok
  · refine .modify_then (gentle_then (closeWs_gentle _ _) ?_ ?_)
    · exact fun e he => he.error
    · exact fun _ v => unraised_ok

end Closing

/-! ### Subscriptions -/

section Subscriptions

variable {s : SlotId} {topic : String}

theorem nextRid_then {β : Type} {k : Nat → M β} {Q : Except Exn β → Prop}
    (h : ∀ rid v, (k rid).Ends Answered Q p v) : (nextRid >>= k).Ends Answered Q p w :=
  .update_then (h _ _)

theorem transmit_gentle {cmd : SdkCommand} : Gentle (transmit cmd) := by
  intro p w
  refine .read_then ?_
  split
  · exact unraised_ok
  · exact wsSend_gentle _ _

theorem sendSubscribe_gentle {since : Nat} : Gentle (sendSubscribe σ me s since) := by
  intro p w
  refine .call (nextRid_then fun rid v => .read_then ?_)
  dsimp only
  split
  · exact .scope unraised_ok
  · refine gentle_then (.scope (gentle_then (transmit_gentle _ _) ?_ ?_)) ?_ ?_
    · exact fun e he => he.error
    · exact fun ok u => unraised_ok
    · exact fun e he => he
    · exact fun ok u => .when unraised_ok (onTransportCloseAfter_gentle _ _)

theorem subscribeInternal_gentle {hz : PyFloat} : Gentle (subscribeInternal σ me topic hz) := by
  intro p w
  refine .read_then (.scope (gentle_then (.when unraised_ok (sendSubscribe_gentle _ _)) ?_ ?_))
  · exact fun e he => he.error
  · exact fun _ v => unraised_ok

theorem unsubscribe_gentle {h : SlotId} : Gentle (unsubscribe me h) := by
  intro p w
  refine .modify_then (.call (.read_then ?_))
  dsimp only
  split
  · exact unraised_ok
  · refine .scope (Coro.Ends.mono (fun r hr => Unraised.map hr) ?_)
    refine .read_then ?_
    split
    · exact unraised_ok
    · split
      -- the last reference to the topic asks the server
      · refine nextRid_then fun rid v => ?_
        rw [if_pos rfl]
        refine request_then ?_ ?_ ?_ ?_ _ _
        · exact fun resp p v => .modify_then unraised_ok
        · exact fun m p v => unraised_ok
        · exact fun code m p v => unraised_ok
        · exact fun p v => unraised_cancelled
      · exact unraised_ok

end Subscriptions

/-! ### Commands -/

section Commands

theorem cmdVelFailed_gentle {code : ErrorCode} {msg : String} : Gentle (cmdVelFailed code msg) := by
  intro p w
  exact .modify_then unraised_ok

theorem cmdVel_gentle {vx vy wz : PyFloat} : Gentle (cmdVel vx vy wz) := by
  intro p w
  refine .call (.read_then ?_)
  split
  · exact cmdVelFailed_gentle _ _
  · refine .update_then ?_
    split
    · exact cmdVelFailed_gentle _ _
    · refine .modify_then (nextRid_then fun rid v => .update_then (.read_then ?_))
      refine request_then ?_ ?_ ?_ ?_ _ _
      · intro resp p v
        refine .read_then ?_
        dsimp only
        split
        · exact .modify_then unraised_ok
        · exact unraised_ok
      · exact fun m => cmdVelFailed_gentle
      · exact fun code m => cmdVelFailed_gentle
      · exact fun p v => unraised_cancelled

/-- The reason is encoded only if it is not empty. -/
theorem encodeEmergencyStop_ne {rid : Nat} {engage : Bool} {reason : PyStr} {e : Exn}
    (h : reason.truthy = true → reason.encodable = true) :
    encodeEmergencyStop rid engage reason ≠ .error e := by
  intro he
  simp only [encodeEmergencyStop, utf8] at he
  split at he
  · rename_i ht
    rw [if_pos (h ht)] at he
    cases he
  · cases he

/-- The argument can be encoded, or the call ends before. -/
theorem emergencyStop_gentle {engage : Bool} {reason : PyStr}
    (h : (reason.truthy = true → reason.encodable = true) ∨ w.conn.state ≠ .ready) :
    (emergencyStop engage reason).Ends Answered Unraised p w := by
  have hfail : ∀ code msg, Gentle (emergencyStopFailed code msg) :=
    fun _ _ _ _ => .modify_then unraised_ok
  refine .scope (Coro.Ends.mono (fun r hr => Unraised.map hr) (.read_then ?_))
  split
  · exact unraised_ok
  · rename_i hready
    have henc := h.resolve_right hready
    refine .modify_then (nextRid_then fun rid v => ?_)
    split
    · rename_i e he
      exact absurd he (encodeEmergencyStop_ne henc)
    · refine request_then ?_ ?_ ?_ ?_ _ _
      · intro resp p v
        dsimp only [emergencyStopAnswered]
        split
        · exact gentle_then (hfail _ _ _ _) (fun e he => he) fun _ _ => unraised_ok
        · exact unraised_ok
      · exact fun m p v => gentle_then (hfail _ _ _ _) (fun e he => he) fun _ _ => unraised_ok
      · exact fun code m p v => gentle_then (hfail _ _ _ _) (fun e he => he) fun _ _ => unraised_ok
      · exact fun p v => unraised_cancelled

theorem createNavTask_gentle {encode : Nat → Except Exn SdkCommand}
    (h : (∀ rid e, encode rid ≠ .error e) ∨ w.conn.state ≠ .ready) :
    (createNavTask encode).Ends Answered Unraised p w := by
  refine .read_then ?_
  split
  · exact unraised_ok
  -- past the check of the state the argument can be encoded
  · rename_i hready
    refine nextRid_then fun rid v => ?_
    split
    · rename_i e he
      exact absurd he (h.resolve_right hready rid e)
    · refine request_then ?_ ?_ ?_ ?_ _ _
      · exact fun resp p v => unraised_ok
      · exact fun m p v => unraised_ok
      · exact fun code m p v => unraised_ok
      · exact fun p v => unraised_cancelled

theorem taskCommand_gentle {method : String} {encoder : Nat → PyStr → Except Exn SdkCommand}
    {taskId : PyStr} (h : (∀ rid e, encoder rid taskId ≠ .error e) ∨ w.conn.state ≠ .ready) :
    (taskCommand method encoder taskId).Ends Answered Unraised p w := by
  refine .read_then ?_
  split
  · exact unraised_ok
  · rename_i hready
    refine nextRid_then fun rid v => ?_
    split
    · rename_i e he
      exact absurd he (h.resolve_right hready rid e)
    · refine request_then ?_ ?_ ?_ ?_ _ _
      · exact fun resp p v => unraised_ok
      · exact fun m p v => unraised_ok
      · exact fun code m p v => unraised_ok
      · exact fun p v => unraised_cancelled

theorem ping_gentle : Gentle ping := by
  intro p w
  refine .call (.read_then ?_)
  split
  · exact unraised_ok
  · refine .modify_then (nextRid_then fun rid v => .read_then ?_)
    refine request_then ?_ ?_ ?_ ?_ _ _
    · exact fun resp p v => .read_then unraised_ok
    · exact fun m p v => .modify_then unraised_ok
    · exact fun code m p v => .modify_then unraised_ok
    · exact fun p v => unraised_cancelled

theorem waitRound_gentle {timeout : Option ℚ} : Gentle (waitRound me timeout) := by
  intro p w
  refine .modify_then (.read_then ?_)
  split
  · exact unraised_ok
  · split
    · exact unraised_ok
    · refine .modify_then (gentle_then (.wait fun r v hr => ?_) (fun e he => he) fun _ v => unraised_ok)
      intro e he
      subst he
      exact hr

end Commands

end KaroX2
