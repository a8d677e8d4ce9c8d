/-
KaroX2/Walk/Calls.lean

Requests and the ends of a connection follow the outline.

One lemma for each coroutine, along its code.  What a caller may use of a call
is the argument of `hQ`: how the call ended, what the task has been through since
(`a`), and the world then.  Nothing that was read before a suspension is used
after it, except for what `Later` keeps.
-/
import KaroX2.Progress

namespace KaroX2

open Coop Coro

variable {σ : Setup} {t : TaskId} {p : List Label} {a : Since Karo} {w : World} {α β : Type}

/-! ### Rules -/

theorem follows_read_then {x : Running Karo} {k : World → M α} {Q : Post Karo α} :
    (Coro.read >>= k).Follows (outline σ) p x Q w ↔ (k w).Follows (outline σ) p x Q w := Iff.rfl

theorem follows_attempt_then {c : M α} {k : Except Exn α → M β} {Q : Post Karo β} :
    (c.attempt >>= k).Follows (outline σ) p ⟨t, p, a⟩ Q w ↔
      c.Follows (outline σ) p ⟨t, p, a⟩ (fun r x w => (k r).Follows (outline σ) p x Q w) w := by
  rw [follows_bind, follows_attempt]
  rfl

theorem follows_within_then {l : Label} {c : M α} {k : Except Exn α → M β} {Q : Post Karo β} :
    (Coro.within l c >>= k).Follows (outline σ) p ⟨t, p ++ [l], a⟩ Q w ↔
      c.Follows (outline σ) (p ++ [l]) ⟨t, p ++ [l], a⟩
        (fun r x w => (k r).Follows (outline σ) p x Q w) w := by
  rw [follows_bind, follows_within]
  rfl

theorem follows_move {f : World → World} {Q : Post Karo Unit} (h : Move σ ⟨t, p, a⟩ w (f w))
    (hQ : Q (.ok ()) ⟨t, p, a⟩ (f w)) :
    (Coro.modify f).Follows (outline σ) p ⟨t, p, a⟩ Q w :=
  follows_modify.mpr ⟨.inl ⟨rfl, h⟩, hQ⟩

theorem follows_move_then {f : World → World} {k : M α} {Q : Post Karo α}
    (h : Move σ ⟨t, p, a⟩ w (f w)) (hk : k.Follows (outline σ) p ⟨t, p, a⟩ Q (f w)) :
    (Coro.modify f >>= fun _ => k).Follows (outline σ) p ⟨t, p, a⟩ Q w := by
  rw [follows_bind]
  exact follows_move h hk

theorem follows_quiet_then {f : World → World} {k : M α} {Q : Post Karo α} (h : Quiet w (f w))
    (hk : k.Follows (outline σ) p ⟨t, p, a⟩ Q (f w)) :
    (Coro.modify f >>= fun _ => k).Follows (outline σ) p ⟨t, p, a⟩ Q w :=
  follows_move_then (.quiet h) hk

theorem follows_update_by {f : World → α × World} {k : α → M β} {Q : Post Karo β}
    (h : Move σ ⟨t, p, a⟩ w (f w).2)
    (hk : (k (f w).1).Follows (outline σ) p ⟨t, p, a⟩ Q (f w).2) :
    (Coro.update f >>= k).Follows (outline σ) p ⟨t, p, a⟩ Q w := by
  rw [follows_bind, follows_update]
  exact ⟨.inl ⟨rfl, h⟩, hk⟩

theorem follows_update_then {f : World → α × World} {k : α → M β} {Q : Post Karo β}
    (h : Quiet w (f w).2) (hk : (k (f w).1).Follows (outline σ) p ⟨t, p, a⟩ Q (f w).2) :
    (Coro.update f >>= k).Follows (outline σ) p ⟨t, p, a⟩ Q w :=
  follows_update_by (.quiet h) hk

/-- A suspension. -/
theorem follows_suspend {op : Op} {Q : Post Karo Reply} (h : Waits ⟨t, p, a⟩ w op)
    (hQ : ∀ r w', Later w w' → w'.ready t op r = true →
      Q r ⟨t, p, .answered ⟨t, p, op⟩ r⟩ (w'.resume t op r)) :
    (suspend op).Follows (outline σ) p ⟨t, p, a⟩ Q w :=
  follows_wait.mpr ⟨h, hQ⟩

theorem follows_enter_then {l : Label} {f : World → World} {k : M α} {Q : Post Karo α}
    (h : Enters σ ⟨t, p, a⟩ w l (f w))
    (hk : k.Follows (outline σ) p ⟨t, p ++ [l], .called⟩ Q (f w)) :
    (Coro.enterBy l f >>= fun _ => k).Follows (outline σ) p ⟨t, p, a⟩ Q w := by
  rw [follows_bind, follows_enterBy]
  exact ⟨h, hk⟩

theorem follows_leave {l : Label} {f : World → World} {Q : Post Karo Unit}
    (h : Leaves σ ⟨t, p ++ [l], a⟩ p w l (f w)) (hQ : Q (.ok ()) ⟨t, p, a⟩ (f w)) :
    (Coro.leaveBy l f).Follows (outline σ) p ⟨t, p ++ [l], a⟩ Q w :=
  follows_leaveBy.mpr ⟨.inr (.inl ⟨l, rfl, h⟩), hQ⟩

theorem follows_leave_then {l : Label} {f : World → World} {k : M α} {Q : Post Karo α}
    (h : Leaves σ ⟨t, p ++ [l], a⟩ p w l (f w)) (hk : k.Follows (outline σ) p ⟨t, p, a⟩ Q (f w)) :
    (Coro.leaveBy l f >>= fun _ => k).Follows (outline σ) p ⟨t, p ++ [l], a⟩ Q w := by
  rw [follows_bind]
  exact follows_leave h hk

/-- A call that has nothing to do when it ends. -/
theorem follows_call_idle {l : Label} {c : M α} {Q : Post Karo α}
    (he : Enters σ ⟨t, p, a⟩ w l w) (hl : Idles l)
    (hc : c.Follows (outline σ) (p ++ [l]) ⟨t, p ++ [l], .called⟩
      (fun r x w => x.path = p ++ [l] ∧ Q r { x with path := p } w) w) :
    (Coro.call l c).Follows (outline σ) p ⟨t, p, a⟩ Q w := by
  refine follows_call he (follows_mono ?_ hc)
  rintro r x w' ⟨hp, hQ⟩
  exact ⟨hp, .inr (.inl ⟨l, hp, .idle hl⟩), hQ⟩

/-! ### Requests -/

/-- A send is answered, unless there is nothing to send with. -/
theorem wsSend_follows {c : WsId} {cmd : SdkCommand} {Q : Post Karo Bool}
    (hw : w.conn.ws = some c)
    (hp : (∃ q rid, p = q ++ [.sendRpcAndWait rid (some c)] ∧ cmd.requestId = rid) ∨
      (∃ q s rid, p = q ++ [.subscribing s rid]) ∨ p = [.heartbeat] ∨
      ∃ h topic s, p = [.unsubscribeRequest h false, .unsubscribing topic s])
    (sent : ∀ rep w', Later w w' →
      Q (.ok true) ⟨t, p, .answered ⟨t, p, .wsSend c cmd⟩ (.ok rep)⟩ w')
    (failed : ∀ e w', Later w w' → e ≠ .cancelled →
      Q (.ok false) ⟨t, p, .answered ⟨t, p, .wsSend c cmd⟩ (.error e)⟩ w')
    (cancelled : ∀ w', Later w w' →
      Q (.error .cancelled) ⟨t, p, .answered ⟨t, p, .wsSend c cmd⟩ (.error .cancelled)⟩ w')
    (unsent : w.Unconnected → Q (.ok false) ⟨t, p, a⟩ w) :
    (wsSend c cmd).Follows (outline σ) p ⟨t, p, a⟩ Q w := by
  rw [wsSend, follows_read_then]
  split
  · rename_i ho
    have ho := Bool.and_eq_true_iff.mp ho
    rw [follows_attempt_then]
    refine follows_suspend (.wsSend c cmd hw ho.1 ho.2 hp) fun r w' hl hr => ?_
    have hl' : Later w (w'.resume t (.wsSend c cmd) r) := hl.trans resume_later
    rcases r with e | rep
    · by_cases he : e = .cancelled
      · subst he
        exact cancelled _ hl'
      · have hf := failed e _ hl' he
        cases e <;> first | exact hf | exact absurd rfl he
    · exact follows_move_then (.sent c cmd rep rfl) (sent rep _ (hl'.trans Later.push))
  · rename_i ho
    refine unsent fun d hd => ?_
    obtain rfl : c = d := Option.some.inj (hw.symm.trans hd)
    exact Bool.eq_false_iff.mpr ho

/-- The future of a request has a result or an exception, unless the task was
cancelled. -/
theorem awaitResponse_follows {q : List Label} {rid : Nat} {c : WsId} {cmd : SdkCommand}
    {Q : Post Karo DecodedResponse} (hp : p = q ++ [.sendRpcAndWait rid (some c)])
    (took : ∀ rep resp w', Later w w' → w'.rpc.futures rid = .result resp →
      (∃ l, w'.log = .answered c cmd resp :: l) →
      Q (.ok resp) ⟨t, p, .answered ⟨t, p, .future rid⟩ (.ok rep)⟩ w')
    (lost : ∀ rep e w', Later w w' → w'.rpc.futures rid = .exception e →
      Q (.error e) ⟨t, p, .answered ⟨t, p, .future rid⟩ (.ok rep)⟩ w')
    (cancelled : ∀ w', Later w w' →
      Q (.error .cancelled) ⟨t, p, .answered ⟨t, p, .future rid⟩ (.error .cancelled)⟩ w') :
    (awaitResponse c rid cmd).Follows (outline σ) p ⟨t, p, a⟩ Q w := by
  rw [awaitResponse, follows_attempt_then]
  refine follows_suspend (.future q rid c hp) fun r w' hl hr => ?_
  have hl' : Later w (w'.resume t (.future rid) r) := hl.trans resume_later
  rcases r with e | rep
  · obtain rfl : e = .cancelled := by
      cases e <;> first | rfl | simp [World.ready, World.mayEnd] at hr
    exact follows_quiet_then .resolve (cancelled _ (hl'.trans Quiet.resolve.later))
  · have hd : (w'.rpc.futures rid).done = true := by
      simp only [World.ready, Bool.and_eq_true] at hr
      cases rep <;> simp_all [World.mayEnd]
    have hf : (w'.resume t (.future rid) (.ok rep)).rpc.futures rid = w'.rpc.futures rid :=
      resume_later.future rid hd
    rw [follows_read_then]
    split
    · rename_i resp hres
      refine follows_move_then (.answered q rid c cmd resp rep hp rfl hres) ?_
      exact took rep resp _ (hl'.trans Later.push) hres ⟨_, rfl⟩
    · rename_i e hres
      exact lost rep e _ hl' hres
    · rename_i hres
      rw [hf] at hres
      rw [hres] at hd
      cases hd

/-- What a request ends with. -/
theorem sendRpcAndWait_follows {rid : Nat} {method : String} {cmd : SdkCommand}
    {Q : Post Karo DecodedResponse} (hp : Requesting ⟨t, p, a⟩) (hr : rid + 1 = w.rpc.nextRequestId)
    (hc : cmd.requestId = rid)
    (took : ∀ a c resp w', Later w w' → w.conn.ws = some c →
      (⟨t, p, a⟩ : Running Karo).Took w' rid c cmd resp → Q (.ok resp) ⟨t, p, a⟩ w')
    (lost : ∀ a e w', Later w w' → (⟨t, p, a⟩ : Running Karo).Lost w' rid e →
      Q (.error e) ⟨t, p, a⟩ w')
    (cancelled : ∀ s r w', Later w w' → Q (.error .cancelled) ⟨t, p, .answered s r⟩ w')
    (unsent : ∀ w', Later w w' → w.Unconnected → w'.conn = w.conn →
      Q (.error (.sdk .transportFailure "ws send failed")) ⟨t, p, .called⟩ w' ∧
      Q (.error (.sdk .transportFailure "ws not open")) ⟨t, p, .called⟩ w') :
    (sendRpcAndWait rid method cmd).Follows (outline σ) p ⟨t, p, a⟩ Q w := by
  rw [sendRpcAndWait, follows_read_then]
  refine follows_call_idle (.sendRpcAndWait rid hp hr) (.sendRpcAndWait _ _) ?_
  split
  · rename_i hw
    exact ⟨rfl, (unsent w (.refl w) (fun c h => by rw [hw] at h; cases h) rfl).2⟩
  · rename_i c hw
    refine follows_quiet_then .register ?_
    have hreg : Later w (w.register rid method) := Quiet.register.later
    rw [hw, follows_bind]
    refine wsSend_follows (c := c) hw (.inl ⟨p, rid, rfl, hc⟩) ?_ ?_ ?_ ?_
    -- sent: the answer decides; not sent: the request is withdrawn
    · intro rep w₁ hl
      show (awaitResponse c rid cmd).Follows _ _ _ _ _
      refine awaitResponse_follows rfl ?_ ?_ ?_
      · intro rep resp w' hl' hf hlog
        exact ⟨rfl, took _ c resp w' ((hreg.trans hl).trans hl') hw ⟨⟨rep, rfl⟩, hf, hlog⟩⟩
      · intro rep e w' hl' hf
        exact ⟨rfl, lost _ e w' ((hreg.trans hl).trans hl') (.future c rep e rfl hf)⟩
      · intro w' hl'
        exact ⟨rfl, cancelled _ _ w' ((hreg.trans hl).trans hl')⟩
    · intro e w₁ hl he
      refine follows_quiet_then .withdraw ?_
      have hl' : Later w (w₁.withdraw rid) := (hreg.trans hl).trans Quiet.withdraw.later
      exact ⟨rfl, lost _ _ _ hl' (.send c cmd e rfl he)⟩
    · intro w₁ hl
      exact ⟨rfl, cancelled _ _ _ (hreg.trans hl)⟩
    · intro hu
      refine follows_quiet_then .withdraw ?_
      have hl' : Later w ((w.register rid method).withdraw rid) :=
        hreg.trans Quiet.withdraw.later
      exact ⟨rfl, (unsent _ hl' hu rfl).1⟩

/-! ### Closing a client -/

/-- Where the closing of a client is suspended, and that it has not failed. -/
def ClosedBy (t : TaskId) (p : List Label) (a : Since Karo) : Prop :=
  a = .called ∨ ∃ op r, (⟨t, p, a⟩ : Running Karo).Got p op r ∧ op.closes r = true

theorem ClosedBy.answered {op : Op} {r : Except Exn Reply} (h : op.closes r = true) :
    ClosedBy t p (.answered ⟨t, p, op⟩ r) := .inr ⟨op, r, rfl, h⟩

theorem ClosedBy.called : ClosedBy t p .called := .inl rfl

theorem joinReader_follows {q : List Label} {c : WsId} {Q : Post Karo Unit}
    (hp : p = q ++ [.closeClient c]) (ha : ClosedBy t p a)
    (ho : a = .called → (w.clients c).isOpen = false)
    (closed : ∀ b w', Later w w' → ClosedBy t p b → (b = .called → a = .called ∧ w'.conn = w.conn) →
      Q (.ok ()) ⟨t, p, b⟩ w')
    (raised : ∀ op r e w', Later w w' → Q (.error e) ⟨t, p, .answered ⟨t, p, op⟩ r⟩ w') :
    (joinReader t c).Follows (outline σ) p ⟨t, p, a⟩ Q w := by
  have hdetach : ∀ v : World, Later v (v.detach c) := fun v => Quiet.detach.later
  rw [joinReader, follows_read_then]
  split
  -- there is no reader any more, or it is the one that closes
  · exact follows_move (.quiet .detach) (closed a _ (hdetach w) ha fun h => ⟨h, rfl⟩)
  · rename_i reader hreader
    split
    · exact follows_move (.quiet .detach) (closed a _ (hdetach w) ha fun h => ⟨h, rfl⟩)
    · rw [follows_attempt_then]
      refine follows_suspend (.closing q c hp (.inr (.inl ⟨reader, rfl⟩)) ho) fun r w₁ hl₁ _ => ?_
      have hl : Later w (w₁.resume t (.joinReader reader) r) := hl₁.trans resume_later
      generalize w₁.resume t (.joinReader reader) r = w₁ at hl ⊢
      -- the reader did not end in time: it is cancelled, and joined without a limit
      rcases r with e | rep
      · rw [follows_read_then]
        split
        · exact raised _ _ _ _ hl
        · rename_i reader' hreader'
          refine follows_quiet_then (.cancelReader hreader') ?_
          rw [follows_attempt_then]
          refine follows_suspend (.closing q c hp (.inr (.inr ⟨reader', rfl⟩)) nofun)
            fun r w₂ hl₂ _ => ?_
          have hl' : Later w (w₂.resume t (.joinCancelled reader') r) :=
            ((hl.trans (Quiet.cancelReader hreader').later).trans hl₂).trans resume_later
          refine follows_move (.quiet .detach) ?_
          exact closed _ _ (hl'.trans (hdetach _)) (.answered rfl) nofun
      · refine follows_move (.quiet .detach) ?_
        exact closed _ _ (hl.trans (hdetach _)) (.answered rfl) nofun

theorem closeClient_follows {q : List Label} {c : WsId} {Q : Post Karo Unit}
    (hp : p = q ++ [.closeClient c])
    (closed : ∀ a w', Later w w' → ClosedBy t p a → (a = .called → w'.conn = w.conn) →
      Q (.ok ()) ⟨t, p, a⟩ w')
    (raised : ∀ op r e w', Later w w' → Q (.error e) ⟨t, p, .answered ⟨t, p, op⟩ r⟩ w') :
    (closeClient t c).Follows (outline σ) p ⟨t, p, .called⟩ Q w := by
  rw [closeClient, follows_read_then, follows_when]
  refine ⟨fun _ => ?_, fun _ => closed _ _ (.refl w) .called fun _ => rfl⟩
  rw [follows_bind, follows_when]
  refine ⟨fun _ => ?_, fun ho => ?_⟩
  · -- the socket is shut, and the library says when it is closed
    refine follows_quiet_then .shutSocket ?_
    have hs : Later w (w.shutSocket c) := Quiet.shutSocket.later
    have hshut : ((w.shutSocket c).clients c).isOpen = false := by
      simp [World.shutSocket, World.setClient]
    rw [swallow, follows_attempt_then, follows_bind]
    refine follows_suspend (.closing q c hp (.inl rfl) fun _ => hshut) fun r w₁ hl₁ _ => ?_
    have hl : Later w (w₁.resume t (.wsClose c) r) := (hs.trans hl₁).trans resume_later
    have join : ∀ v : World, Later w v → r ≠ .error .cancelled →
        (joinReader t c).Follows (outline σ) p ⟨t, p, .answered ⟨t, p, .wsClose c⟩ r⟩ Q v := by
      intro v hv hr
      refine joinReader_follows hp (.answered (by simpa [Op.closes] using hr)) (by simp) ?_ ?_
      · intro b w' hl' hb hcalled
        exact closed b w' (hv.trans hl') hb fun h => absurd (hcalled h).1 (by simp)
      · exact fun op r e w' hl' => raised op r e w' (hv.trans hl')
    rcases r with e | rep
    · cases e with
      | cancelled => exact raised _ _ _ _ hl
      | _ => exact join _ hl (by simp)
    · exact join _ hl (by simp)
  · refine joinReader_follows hp .called (fun _ => Bool.eq_false_iff.mpr ho) ?_ raised
    exact fun b w' hl hb hcalled => closed b w' hl hb fun h => (hcalled h).2

/-- `self._ws` is `None` when its closing has come to an end. -/
theorem closeWs_follows {q : List Label} {l : Label} {last : World → World} {Q : Post Karo Unit}
    (hp : p = q ++ [l]) (hx : a = .called ∨ ∃ isR ep c, p = [.handshaking isR ep c])
    (hl : l = .abortToFatal ∨ (l = .onTransportClose ∨ ∃ isR ep c, l = .handshaking isR ep c) ∧
      w.conn.state = .transientFailure ∨ l = .close ∧ w.conn.state = .shutdown)
    (hlast : l ≠ .abortToFatal ∧ last = id ∨
      l = .abortToFatal ∧ ∃ code message, last = World.fail code message)
    (hnone : w.conn.ws = none → Move σ ⟨t, p, a⟩ w (last w))
    (closed : ∀ b v, Later w v → Later v (last v) → v.conn.ws = none →
      (b = .called → v.conn.state = w.conn.state) → Q (.ok ()) ⟨t, p, b⟩ (last v))
    (raised : ∀ c op r e w', Later w w' →
      Q (.error e) ⟨t, p, .answered ⟨t, p ++ [.closeClient c], op⟩ r⟩ w') :
    (closeWs t last).Follows (outline σ) p ⟨t, p, a⟩ Q w := by
  rw [closeWs, follows_read_then]
  split
  -- no client: `last` comes at once
  · rename_i hw
    refine follows_move (hnone hw) ?_
    exact closed a w (.refl w) (hnone hw).later hw fun _ => rfl
  · rename_i c hw
    refine follows_scope (.closeClient q l c hp hw hx hl) ?_
    rw [follows_bind]
    refine closeClient_follows rfl ?_ ?_
    · intro b w' hlater hb hcalled
      have hleave : Leaves σ ⟨t, p ++ [.closeClient c], b⟩ p w' (.closeClient c)
          (last w'.clearWs) := .closed q l c last hp hb hlast
      refine ⟨rfl, .inr (.inl ⟨_, rfl, hleave⟩), ?_⟩
      have hclear : Later w' w'.clearWs := .of_eq rfl rfl rfl rfl rfl
      refine closed b w'.clearWs (hlater.trans hclear) ?_ rfl fun h => ?_
      · rcases hlast with ⟨-, rfl⟩ | ⟨-, code, message, rfl⟩
        · exact .refl _
        · exact Later.transition
      · have hc : w'.conn = w.conn := hcalled h
        show w'.conn.state = w.conn.state
        rw [hc]
    · intro op r e w' hlater
      exact ⟨rfl, .inr (.inl ⟨_, rfl, .idle (.closeClient c)⟩), raised c op r e w' hlater⟩

/-! ### The ways a connection ends -/

/-- Losing the transport ends the session. -/
theorem loseTransport_ends (σ : Setup) (w : World) (me : TaskId) (reason : ErrorCode)
    (msg : String) : epoch w.log < epoch (w.loseTransport σ me reason msg).log ∧
      (w.loseTransport σ me reason msg).conn.state = .transientFailure := by
  refine ⟨?_, by rw [World.loseTransport, transientFailure_conn]⟩
  have h₁ : epoch (w.push (.transportClose reason msg)).log = epoch w.log + 1 :=
    List.countP_cons_of_pos rfl
  have h₂ : Later (w.push (.transportClose reason msg)) (w.loseTransport σ me reason msg) :=
    Silent.dropSession.later.trans Later.transientFailure
  have := h₂.epoch_le
  omega

/-- After a loss the session is over, or the connection had ended before. -/
theorem onTransportCloseAfter_follows {first : World → World} {reason : ErrorCode} {msg : String}
    {Q : Post Karo Unit} (he : Enters σ ⟨t, p, a⟩ w .onTransportClose (first w))
    (ended : ∀ b w', Later w w' →
      epoch w.log < epoch w'.log ∨ w'.conn.state.terminal = true → Q (.ok ()) ⟨t, p, b⟩ w')
    (raised : ∀ s r e w', Later w w' → .onTransportClose ∈ s.path →
      Q (.error e) ⟨t, p, .answered s r⟩ w') :
    (onTransportCloseAfter σ first t reason msg).Follows (outline σ) p ⟨t, p, a⟩ Q w := by
  have hfirst : Later w (first w) := he.later
  refine follows_scope he ?_
  rw [follows_read_then]
  split
  -- a terminal state is left alone
  · rename_i hs
    exact ⟨rfl, .inr (.inl ⟨_, rfl, .lossIgnored hs rfl⟩), ended _ _ hfirst (.inr hs)⟩
  · rename_i hs
    have hs : (first w).conn.state.terminal = false := Bool.eq_false_iff.mpr hs
    obtain ⟨hep, hst⟩ := loseTransport_ends σ (first w) t reason msg
    refine follows_move_then (.lost p reason msg rfl rfl hs) ?_
    have hlost : Later w ((first w).loseTransport σ t reason msg) := hfirst.trans .loseTransport
    rw [follows_bind]
    refine closeWs_follows rfl (.inl rfl) (.inr (.inl ⟨.inl rfl, hst⟩)) (.inl ⟨nofun, rfl⟩)
      (fun _ => .quiet .refl) ?_ ?_
    -- the loss itself began a new epoch, whatever has happened since
    · intro b v hv _ hws hcalled
      have hretry : Later v (v.retry σ) := Later.retries (retry_retries v)
      refine ⟨rfl, .inr (.inl ⟨_, rfl, .lossHandled hws fun h => (hcalled h).trans hst⟩), ?_⟩
      refine ended b _ ((hlost.trans hv).trans hretry) (.inl ?_)
      have h₁ := hfirst.epoch_le
      have h₂ := (hv.trans hretry).epoch_le
      show epoch w.log < epoch (v.retry σ).log
      omega
    · intro c op r e w' hl
      refine ⟨rfl, .inr (.inl ⟨_, rfl, .lossRaised _ r rfl⟩), raised _ r e w' (hlost.trans hl) ?_⟩
      simp

theorem onTransportClose_follows {reason : ErrorCode} {msg : String} {Q : Post Karo Unit}
    (hp : Loses ⟨t, p, a⟩ w)
    (ended : ∀ b w', Later w w' →
      epoch w.log < epoch w'.log ∨ w'.conn.state.terminal = true → Q (.ok ()) ⟨t, p, b⟩ w')
    (raised : ∀ s r e w', Later w w' → .onTransportClose ∈ s.path →
      Q (.error e) ⟨t, p, .answered s r⟩ w') :
    (onTransportClose σ t reason msg).Follows (outline σ) p ⟨t, p, a⟩ Q w :=
  onTransportCloseAfter_follows (.onTransportClose hp) ended raised

theorem abortToFatal_follows {code : ErrorCode} {message : String} {Q : Post Karo Unit}
    (hp : Aborting ⟨t, p, a⟩)
    (ended : ∀ b w', Later w w' → w'.conn.state = .fatal → Q (.ok ()) ⟨t, p, b⟩ w')
    (raised : ∀ s r e w', Later w w' → Q (.error e) ⟨t, p, .answered s r⟩ w') :
    (abortToFatal t code message).Follows (outline σ) p ⟨t, p, a⟩ Q w := by
  have hfirst : Later w (w.abandon t code message) := Silent.abandon.later
  refine follows_scope (.abortToFatal code message hp) ?_
  rw [follows_bind]
  refine closeWs_follows rfl (.inl rfl) (.inl rfl) (.inr ⟨rfl, code, message, rfl⟩)
    (fun hw => .aborted p code message rfl rfl hw) ?_ ?_
  · intro b v hv hlast _ _
    refine ⟨rfl, .inr (.inl ⟨_, rfl, .idle .abortToFatal⟩), ended b _ ((hfirst.trans hv).trans hlast) ?_⟩
    show (World.fail code message v).conn.state = .fatal
    rw [World.fail, transition_conn]
  · intro c op r e w' hl
    exact ⟨rfl, .inr (.inl ⟨_, rfl, .idle .abortToFatal⟩), raised _ r e w' (hfirst.trans hl)⟩

theorem close_follows {Q : Post Karo Unit} (ht : w.tasks.procOf t = some (.api .close))
    (ended : ∀ r b w', Later w w' → Q r ⟨t, [], b⟩ w') :
    (close t).Follows (outline σ) [] ⟨t, [], a⟩ Q w := by
  refine follows_scope (.close rfl ht) ?_
  rw [follows_read_then]
  split
  -- the second call of `close` does nothing
  · exact ⟨rfl, .inr (.inl ⟨_, rfl, .idle .close⟩), ended _ _ _ (.refl w)⟩
  · rename_i hs
    refine follows_move_then (.shutDown rfl rfl ht hs) ?_
    have hdown : Later w (w.shutDown t) := .shutDown
    have hst : (w.shutDown t).conn.state = .shutdown := by
      rw [World.shutDown, Silent.closeDown.conn, transition_conn]
    rw [follows_bind]
    refine closeWs_follows rfl (.inl rfl) (.inr (.inr ⟨rfl, hst⟩)) (.inl ⟨nofun, rfl⟩)
      (fun _ => .quiet .refl) ?_ ?_
    · intro b v hv _ _ _
      exact ⟨rfl, .inr (.inl ⟨_, rfl, .idle .close⟩), ended _ _ _ (hdown.trans hv)⟩
    · intro c op r e w' hl
      exact ⟨rfl, .inr (.inl ⟨_, rfl, .idle .close⟩), ended _ _ _ (hdown.trans hl)⟩

end KaroX2
