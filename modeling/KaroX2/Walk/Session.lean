/-
KaroX2/Walk/Session.lean

Connecting, reconnecting and the replay of the emergency stop follow the
outline.
-/
import KaroX2.Walk.Subscriptions

namespace KaroX2

open Coop Coro

variable {σ : Setup} {t : TaskId} {a : Since Karo} {w w' : World} {isR : Bool} {ep : Nat}

/-! ### The dial -/

theorem wsConnect_follows {Q : Post Karo Unit}
    (ok : ∀ rep w', Later w w' → Q (.ok ())
      ⟨t, [.establish isR ep], .answered ⟨t, [.establish isR ep], .wsConnect⟩ (.ok rep)⟩ w')
    (refused : ∀ e e' w', Later w w' →
      (∀ code msg, e = .sdk code msg → classify code = .fatal ∨ e'.connectRetry = true) →
      Q (.error e)
        ⟨t, [.establish isR ep], .answered ⟨t, [.establish isR ep], .wsConnect⟩ (.error e')⟩ w')
    (cancelled : ∀ b w', Later w w' → Q (.error .cancelled) ⟨t, [.establish isR ep], b⟩ w')
    (noTls : ∀ e, σ.sslContext = .error e → Q (.error e) ⟨t, [.establish isR ep], a⟩ w) :
    (wsConnect σ).Follows (outline σ) [.establish isR ep] ⟨t, [.establish isR ep], a⟩ Q w := by
  rw [wsConnect]
  split
  · rename_i e he
    exact noTls e he
  · rw [follows_attempt_then]
    refine follows_suspend (.wsConnect isR ep rfl) fun r w₁ hl₁ hready => ?_
    have hl : Later w (w₁.resume t .wsConnect r) := hl₁.trans resume_later
    rcases r with e | rep
    · by_cases he : e = .cancelled
      · subst he
        exact cancelled _ _ hl
      · have hr := fun e' => refused e' e _ hl
        cases e with
        | sdk => simp [World.ready, World.mayEnd] at hready
        | cancelled => exact absurd rfl he
        | timeout | invalidHandshake | os => exact hr _ fun _ _ _ => .inr rfl
        | ssl =>
          refine hr _ fun code msg h => .inl ?_
          obtain ⟨rfl, -⟩ := Exn.sdk.inj h
          rfl
        | _ => exact hr _ (by simp)
    · exact ok rep _ hl

theorem dial_follows {Q : Post Karo (Attempt Unit)} (hep : ep = epoch w.log)
    (hs : w.conn.state = if isR then .reconnecting else .connecting)
    (goesOn : ∀ rep w', Later w w' → Q (.ok (.goesOn ()))
      ⟨t, [.establish isR ep], .answered ⟨t, [.establish isR ep], .wsConnect⟩ (.ok rep)⟩ w')
    (ended : ∀ f b w', Later w w' → Leaves σ ⟨t, [.establish isR ep], b⟩ [] w' (.establish isR ep) (f w') →
      Q (.ok (.ended f)) ⟨t, [.establish isR ep], b⟩ w')
    (raised : ∀ e b w', Later w w' → Q (.error e) ⟨t, [.establish isR ep], b⟩ w') :
    (dial σ t).Follows (outline σ) [.establish isR ep] ⟨t, [.establish isR ep], a⟩ Q w := by
  have hfail : ∀ e b w', Later w w' →
      (∀ code msg, e = .sdk code msg → classify code = .fatal ∨
        (∃ e, (⟨t, [.establish isR ep], b⟩ : Running Karo).Got [.establish isR ep] .wsConnect
          (.error e) ∧ e.connectRetry = true) ∨
        (∃ e, σ.sslContext = .error e) ∧ ep = epoch w'.log ∧
          w'.conn.state = if isR then .reconnecting else .connecting) →
      (dialed σ t (.error e)).Follows (outline σ) [.establish isR ep]
        ⟨t, [.establish isR ep], b⟩ Q w' := by
    intro e b w' hl hcause
    rw [dialed.eq_def]
    cases e with
    -- a fatal error of the TLS setup aborts, every other one is tried again
    | sdk code msg =>
      dsimp only
      split
      · rw [follows_bind]
        refine abortToFatal_follows (.dialing isR ep rfl) ?_ ?_
        · exact fun b' w'' hl' _ => ended id b' w'' (hl.trans hl') (.idle (.establish isR ep))
        · exact fun s r e w'' hl' => raised e _ w'' (hl.trans hl')
      · rename_i hcode
        exact ended _ b w' hl (.dialFailed isR ep code _ ((hcause code msg rfl).resolve_left hcode))
    | _ => exact raised _ b w' hl
  rw [dial, follows_attempt_then]
  refine wsConnect_follows goesOn ?_ ?_ ?_
  · intro e e' w' hl he
    refine hfail e _ w' hl fun code msg h => ?_
    exact (he code msg h).imp_right fun hr => .inl ⟨e', rfl, hr⟩
  · exact fun b w' hl => raised _ b w' hl
  · exact fun e he => hfail e a w (.refl w) fun _ _ _ => .inr (.inr ⟨⟨e, he⟩, hep, hs⟩)

/-! ### The handshake -/

section

variable {c : WsId} {Q : Post Karo (Attempt DecodedResponse)}

theorem retryLater_follows {rid : Nat} {reason message : String} {code : ErrorCode}
    (h : (∃ e, (⟨t, [.handshaking isR ep c], a⟩ : Running Karo).Lost w rid e ∧
        e.handshakeRetry = true) ∨
      ∃ c' cmd resp, (⟨t, [.handshaking isR ep c], a⟩ : Running Karo).Took w rid c' cmd resp ∧
        resp.accepted = false ∧ classify resp.handshakeCode ≠ .fatal)
    (ended : ∀ f b w', Later w w' →
      Leaves σ ⟨t, [.handshaking isR ep c], b⟩ [] w' (.handshaking isR ep c) (f w') →
      Q (.ok (.ended f)) ⟨t, [.handshaking isR ep c], b⟩ w')
    (raised : ∀ e b w', Later w w' → Q (.error e) ⟨t, [.handshaking isR ep c], b⟩ w') :
    (retryLater σ t reason code message).Follows (outline σ) [.handshaking isR ep c]
      ⟨t, [.handshaking isR ep c], a⟩ Q w := by
  have hdown : Later w (w.transientFailure σ reason code message) := .transientFailure
  have hst : (w.transientFailure σ reason code message).conn.state = .transientFailure := by
    rw [transientFailure_conn]
  rw [retryLater]
  refine follows_move_then (.turnedDown isR ep c rid reason code message rfl h) ?_
  rw [follows_bind]
  have hlabel : (Label.handshaking isR ep c = .onTransportClose ∨
      ∃ isR' ep' c', Label.handshaking isR ep c = .handshaking isR' ep' c') := .inr ⟨isR, ep, c, rfl⟩
  refine closeWs_follows (q := []) rfl (.inr ⟨isR, ep, c, rfl⟩) (.inr (.inl ⟨hlabel, hst⟩)) (.inl ⟨nofun, rfl⟩)
    (fun _ => .quiet .refl) ?_ ?_
  · exact fun b v hl _ _ _ => ended _ b v (hdown.trans hl) (.retried isR ep c)
  · exact fun c' op r e w' hl => raised e _ w' (hdown.trans hl)

theorem abort_handshake_follows {code : ErrorCode} {message : String}
    (ended : ∀ f b w', Later w w' →
      Leaves σ ⟨t, [.handshaking isR ep c], b⟩ [] w' (.handshaking isR ep c) (f w') →
      Q (.ok (.ended f)) ⟨t, [.handshaking isR ep c], b⟩ w')
    (raised : ∀ e b w', Later w w' → Q (.error e) ⟨t, [.handshaking isR ep c], b⟩ w') :
    (abortToFatal t code message >>= fun _ => pure (.ended id) :
      M (Attempt DecodedResponse)).Follows (outline σ) [.handshaking isR ep c]
      ⟨t, [.handshaking isR ep c], a⟩ Q w := by
  rw [follows_bind]
  refine abortToFatal_follows (.handshaking isR ep c rfl) ?_ ?_
  · exact fun b w' hl _ => ended id b w' hl (.idle (.handshaking isR ep c))
  · exact fun s r e w' hl => raised e _ w' hl

theorem handshakeCommand_requestId {rid : Nat} {cmd : SdkCommand}
    (h : handshakeCommand σ rid = .ok cmd) : cmd.requestId = rid := by
  have token : ∀ v cl tok, encodeHandshakeToken rid v cl tok = .ok cmd → cmd.requestId = rid := by
    intro v cl tok h
    simp only [encodeHandshakeToken, utf8] at h
    split at h <;> simp_all [bind, Except.bind, pure, Except.pure]
    split at h <;> simp_all
    rw [← h]
  have cert : ∀ v cl der, encodeHandshakeCert rid v cl der = .ok cmd → cmd.requestId = rid := by
    intro v cl der h
    simp only [encodeHandshakeCert, utf8] at h
    split at h <;> simp_all [bind, Except.bind, pure, Except.pure]
    split at h <;> simp_all
    rw [← h]
  unfold handshakeCommand at h
  dsimp only at h
  split at h
  · split at h
    · exact cert _ _ _ h
    · cases h
  · exact token _ _ _ h

theorem handshake_follows (hc : w.conn.ws = some c)
    (hopen : ((w.clients c).attached && (w.clients c).isOpen) = true)
    (goesOn : ∀ rid cmd resp b w', Later w w' →
      (⟨t, [.handshaking isR ep c], b⟩ : Running Karo).Took w' rid c cmd resp →
      resp.accepted = true → Q (.ok (.goesOn resp)) ⟨t, [.handshaking isR ep c], b⟩ w')
    (ended : ∀ f b w', Later w w' →
      Leaves σ ⟨t, [.handshaking isR ep c], b⟩ [] w' (.handshaking isR ep c) (f w') →
      Q (.ok (.ended f)) ⟨t, [.handshaking isR ep c], b⟩ w')
    (raised : ∀ e b w', Later w w' → Q (.error e) ⟨t, [.handshaking isR ep c], b⟩ w') :
    (handshake σ t).Follows (outline σ) [.handshaking isR ep c]
      ⟨t, [.handshaking isR ep c], a⟩ Q w := by
  have hbump : Later w w.bumpRid := Quiet.bumpRid.later
  rw [handshake, nextRid]
  refine follows_update_then .bumpRid ?_
  dsimp only
  split
  · refine abort_handshake_follows ?_ ?_
    · exact fun f b w' hl => ended f b w' (hbump.trans hl)
    · exact fun e b w' hl => raised e b w' (hbump.trans hl)
  · exact raised _ _ _ hbump
  · rename_i cmd hcmd
    rw [follows_attempt_then]
    refine sendRpcAndWait_follows (.handshaking isR ep c rfl) rfl (handshakeCommand_requestId hcmd) ?_ ?_ ?_ ?_
    · intro b c' resp w' hl hc' htook
      obtain rfl : c = c' := Option.some.inj (hc.symm.trans hc')
      have hl' := hbump.trans hl
      dsimp only
      rw [handshakeAnswered]
      split
      -- accepted, refused for good, or refused for now
      · rename_i hacc
        exact goesOn _ cmd resp b w' hl' htook hacc
      · rename_i hacc
        split
        · refine abort_handshake_follows ?_ ?_
          · exact fun f b w'' hl'' => ended f b w'' (hl'.trans hl'')
          · exact fun e b w'' hl'' => raised e b w'' (hl'.trans hl'')
        · rename_i hcode
          refine retryLater_follows
            (.inr ⟨c, cmd, resp, htook, Bool.eq_false_iff.mpr hacc, hcode⟩) ?_ ?_
          · exact fun f b w'' hl'' => ended f b w'' (hl'.trans hl'')
          · exact fun e b w'' hl'' => raised e b w'' (hl'.trans hl'')
    · intro b e w' hl hlost
      have hl' := hbump.trans hl
      have hretry : e.handshakeRetry = true → ∀ reason code message,
          (retryLater σ t reason code message).Follows (outline σ)
            [.handshaking isR ep c] ⟨t, [.handshaking isR ep c], b⟩ Q w' := by
        intro he reason code message
        refine retryLater_follows (.inl ⟨e, hlost, he⟩) ?_ ?_
        · exact fun f b w'' hl'' => ended f b w'' (hl'.trans hl'')
        · exact fun e b w'' hl'' => raised e b w'' (hl'.trans hl'')
      cases e with
      | timeout => exact hretry rfl _ _ _
      | sdk code msg =>
        dsimp only
        split
        · refine abort_handshake_follows ?_ ?_
          · exact fun f b w'' hl'' => ended f b w'' (hl'.trans hl'')
          · exact fun e b w'' hl'' => raised e b w'' (hl'.trans hl'')
        · rename_i hcode
          exact hretry (by simpa [Exn.handshakeRetry] using hcode) _ _ _
      | _ => exact raised _ _ _ hl'
    · exact fun s r w' hl => raised _ _ _ (hbump.trans hl)
    -- the client is the one that was just opened, so the command can be sent
    · intro w' _ hu _
      exact Bool.noConfusion (hopen.symm.trans (hu c hc))

end

/-! ### Restoring a session -/

theorem restoreSlot_follows {c : WsId} {s : SlotId} {rest : List SlotId} {Q : Post Karo Unit}
    (hQ : ∀ r b w', Later w w' → Q r ⟨t, [.restoring isR ep c (s :: rest)], b⟩ w') :
    (restoreSlot σ t isR s).Follows (outline σ) [.restoring isR ep c (s :: rest)]
      ⟨t, [.restoring isR ep c (s :: rest)], a⟩ Q w := by
  have hsend : ∀ since b v, Later w v → since = 0 ∨ since = (v.subs.slots s).lastSeq + 1 ∧
      0 < (v.subs.slots s).lastSeq → (sendSubscribe σ t s since).Follows (outline σ)
      [.restoring isR ep c (s :: rest)] ⟨t, [.restoring isR ep c (s :: rest)], b⟩ Q v := by
    intro since b v hv hsince
    refine sendSubscribe_follows (.restoring isR ep c rest) hsince ?_ ?_ ?_ ?_
    · exact fun rid c cmd rep w' hl => hQ _ _ w' (hv.trans hl)
    · exact fun w' hl _ _ _ => hQ _ _ w' (hv.trans hl)
    · exact fun b w' hl _ => hQ _ b w' (hv.trans hl)
    · exact fun s r e w' hl => hQ _ _ w' (hv.trans hl)
  cases isR with
  | true =>
    have hreset : Quiet w (w.setSlot s fun x => { x with freshRetryDone := false }) :=
      .setSlot fun _ => by rfl
    show (resubscribe σ t s).Follows _ _ _ _ _
    rw [resubscribe]
    refine follows_quiet_then hreset ?_
    rw [follows_read_then]
    refine hsend _ _ _ hreset.later ?_
    split
    · rename_i h
      -- an event slot that has accepted something resumes behind it
      exact .inr ⟨rfl, h.2.2⟩
    · exact .inl rfl
  | false =>
    show (sendPending σ t s).Follows _ _ _ _ _
    rw [sendPending, follows_read_then, follows_when]
    exact ⟨fun _ => hsend _ _ _ (.refl w) (.inl rfl), fun _ => hQ _ _ _ (.refl w)⟩

/-! ### `_establish` -/

/-- From the dial on an attempt may end in every way. -/
theorem attempt_follows {Q : Post Karo Unit} (hep : ep = epoch w.log)
    (hs : w.conn.state = if isR then .reconnecting else .connecting)
    (hQ : ∀ r b w', Later w w' → Q r ⟨t, [], b⟩ w') :
    (attempt σ t isR ep).Follows (outline σ) [] ⟨t, [.establish isR ep], a⟩ Q w := by
  rw [attempt]
  dsimp only
  refine follows_within_then.mpr (dial_follows hep hs ?_ ?_ ?_)
  · intro rep w₁ hl₁
    dsimp only
    rw [follows_read_then, follows_bind]
    have hinstall : Becomes σ ⟨t, [.establish isR ep],
        .answered ⟨t, [.establish isR ep], .wsConnect⟩ (.ok rep)⟩ w₁
        [.handshaking isR ep w₁.clientCount] w₁.install := .installs isR ep rep rfl rfl
    refine follows_become.mpr ⟨.inr (.inr hinstall), ?_⟩
    have hl₂ : Later w w₁.install := hl₁.trans .install
    have hws : w₁.install.conn.ws = some w₁.clientCount := rfl
    have hopen : ((w₁.install.clients w₁.clientCount).attached &&
        (w₁.install.clients w₁.clientCount).isOpen) = true := by
      simp [World.install, World.setClient]
    generalize w₁.clientCount = c at hws hopen ⊢
    generalize w₁.install = w₂ at hl₂ hws hopen ⊢
    refine follows_within_then.mpr (handshake_follows hws hopen ?_ ?_ ?_)
    · intro rid cmd resp b w₃ hl₃ htook hacc
      have hbegin : Becomes σ ⟨t, [.handshaking isR ep c], b⟩ w₃
          [.restoring isR ep c w₃.subs.subs.values] (w₃.beginSession σ isR c resp) :=
        .begins isR ep c rid cmd resp rfl htook hacc
      dsimp only
      rw [follows_read_then, follows_bind]
      refine follows_become.mpr ⟨.inr (.inr hbegin), ?_⟩
      have hl₄ : Later w (w₃.beginSession σ isR c resp) := (hl₂.trans hl₃).trans .beginSession
      refine follows_rounds (J := fun _ _ v => Later w v) hl₄ ?_ ?_
      · intro s rest b v hv
        refine restoreSlot_follows ?_
        rintro (e | -) b' w' hl
        · exact ⟨rfl, .inr (.inl ⟨_, rfl, .idle (.restoring isR ep c s rest)⟩),
            hQ _ _ _ (hv.trans hl)⟩
        · exact ⟨rfl, rfl, .inr (.inr (.restores isR ep c s rest rfl)), hv.trans hl⟩
      · intro b v hv
        have hleave : Leaves σ ⟨t, [.restoring isR ep c []], b⟩ [] v (.restoring isR ep c [])
            (v.restored isR) := .restored isR ep c
        exact ⟨.inr (.inl ⟨_, rfl, hleave⟩), hQ _ _ _ (hv.trans hleave.later)⟩
    · intro f b w₃ hl₃ hleave
      exact follows_leave hleave (hQ _ _ _ ((hl₂.trans hl₃).trans hleave.later))
    · intro e b w₃ hl₃
      exact follows_leave_then (.idle (.handshaking isR ep c)) (hQ _ _ _ (hl₂.trans hl₃))
  · intro f b w₁ hl₁ hleave
    exact follows_leave hleave (hQ _ _ _ (hl₁.trans hleave.later))
  · intro e b w₁ hl₁
    exact follows_leave_then (.idle (.establish isR ep)) (hQ _ _ _ hl₁)

/-- A transition to a state with an attempt leaves the epoch as it is. -/
theorem transition_epoch_eq {new : ConnectionState} {info : StateChangeInfo}
    (h : new = .connecting ∨ new = .reconnecting) :
    epoch (w.transition new info).log = epoch w.log := by
  rw [transition_log]
  split
  · rfl
  · rcases h with rfl | rfl <;> exact List.countP_cons_of_neg nofun

theorem establish_follows {Q : Post Karo Unit} (ht : w.tasks.procOf t = some .establishInitial)
    (hQ : ∀ r b w', Later w w' → Q r ⟨t, [], b⟩ w') :
    (establish σ t).Follows (outline σ) [] ⟨t, [], .begun⟩ Q w := by
  rw [establish, follows_read_then, follows_when]
  refine ⟨fun hidle => ?_, fun _ => hQ _ _ _ (.refl w)⟩
  refine follows_enter_then (.establish rfl rfl ht hidle) ?_
  refine attempt_follows (transition_epoch_eq (.inl rfl)).symm ?_ ?_
  · rw [transition_conn]
    rfl
  · exact fun r b w' hl => hQ r b w' (Later.transition.trans hl)

theorem doReconnect_follows {n ms : Nat} {Q : Post Karo Unit}
    (ht : w.tasks.procOf t = some (.doReconnect n ms))
    (hQ : ∀ r b w', Later w w' → Q r ⟨t, [], b⟩ w') :
    (doReconnect σ t n ms).Follows (outline σ) [] ⟨t, [], .begun⟩ Q w := by
  rw [doReconnect]
  refine follows_enter_then (.backoff n ms rfl rfl ht) ?_
  refine follows_within_then.mpr (follows_suspend (.sleep n ms rfl ht) fun r w₁ hl₁ _ => ?_)
  have hl : Later w (w₁.resume t (.sleep ms) r) := hl₁.trans resume_later
  generalize w₁.resume t (.sleep ms) r = w₁ at hl ⊢
  rcases r with e | rep
  · exact follows_leave (.idle .backoff) (hQ _ _ _ hl)
  · dsimp only
    rw [follows_read_then]
    split
    · rename_i hs
      have hbecome : Becomes σ ⟨t, [.backoff], .answered ⟨t, [.backoff], .sleep ms⟩ (.ok rep)⟩ w₁
          [.establish true (epoch w₁.log)] (w₁.beginReconnect n) :=
        .reconnects n ms rep rfl (hl.proc _ _ ht) rfl hs
      rw [follows_bind]
      refine follows_become.mpr ⟨.inr (.inr hbecome), ?_⟩
      refine attempt_follows ?_ ?_ ?_
      · rw [World.beginReconnect, transition_epoch_eq (.inr rfl)]
      · rw [World.beginReconnect, transition_conn]
        rfl
      · exact fun r b w' hl' => hQ r b w' ((hl.trans hbecome.later).trans hl')
    · exact follows_leave (.idle .backoff) (hQ _ _ _ hl)

/-! ### Replaying the emergency stop -/

theorem encodeEmergencyStop_ok {rid : Nat} {engage : Bool} {reason : PyStr} {cmd : SdkCommand}
    (h : encodeEmergencyStop rid engage reason = .ok cmd) :
    cmd.requestId = rid ∧ cmd.engages = engage ∧ cmd.releases = !engage := by
  simp only [encodeEmergencyStop, utf8] at h
  split at h
  · split at h <;> simp_all [bind, Except.bind, pure, Except.pure]
    rw [← h]
    exact ⟨rfl, rfl, rfl⟩
  · simp only [pure, Except.pure, Except.ok.injEq] at h
    rw [← h]
    exact ⟨rfl, rfl, rfl⟩

theorem estopReplay_follows {Q : Post Karo Unit} (ht : w.tasks.procOf t = some .estopReplay)
    (hQ : ∀ r b w', Later w w' → Q r ⟨t, [], b⟩ w') :
    (estopReplay σ t).Follows (outline σ) [] ⟨t, [], .begun⟩ Q w := by
  have hidle : ∀ b v, (outline σ).step ⟨t, [.estopReplay (epoch w.log)], b⟩ [] v v :=
    fun b v => .inr (.inl ⟨_, rfl, .idle (.estopReplay _)⟩)
  have hbump : Later w w.bumpRid := Quiet.bumpRid.later
  rw [estopReplay, follows_read_then]
  refine follows_scope (.estopReplay rfl rfl ht) ?_
  rw [nextRid]
  refine follows_update_then .bumpRid ?_
  dsimp only
  split
  · exact ⟨rfl, hidle _ _, hQ _ _ _ hbump⟩
  · rename_i cmd hcmd
    obtain ⟨hrid, hengage, -⟩ := encodeEmergencyStop_ok hcmd
    have hfail : ∀ reason msg b v, Later w v →
        (onTransportCloseAfter σ World.clearEstopPending t reason msg >>=
          fun _ => pure ((), id) : M (Unit × (World → World))).Follows (outline σ)
          [.estopReplay (epoch w.log)] ⟨t, [.estopReplay (epoch w.log)], b⟩
          (Post.leaving (outline σ) [] (.estopReplay (epoch w.log)) Q) v := by
      intro reason msg b v hv
      rw [follows_bind]
      refine onTransportCloseAfter_follows (.replayFailed _ rfl) ?_ ?_
      · exact fun b w' hl _ => ⟨rfl, hidle _ _, hQ _ _ _ (hv.trans hl)⟩
      · exact fun s r e w' hl _ => ⟨rfl, hidle _ _, hQ _ _ _ (hv.trans hl)⟩
    rw [follows_attempt_then]
    refine sendRpcAndWait_follows (.estopReplay _ rfl) rfl hrid ?_ ?_ ?_ ?_
    · intro b c resp w' hl _ htook
      have hl' := hbump.trans hl
      dsimp only
      split
      · rename_i hok
        have hleave : Leaves σ ⟨t, [.estopReplay (epoch w.log)], b⟩ [] w'
            (.estopReplay (epoch w.log)) w'.estopReplayed :=
          .replayed _ _ c cmd resp rfl htook hok hengage
        exact ⟨rfl, .inr (.inl ⟨_, rfl, hleave⟩), hQ _ _ _ (hl'.trans hleave.later)⟩
      · exact hfail _ _ b w' hl'
    · intro b e w' hl _
      have hl' := hbump.trans hl
      cases e with
      | timeout | sdk => exact hfail _ _ b w' hl'
      | _ => exact ⟨rfl, hidle _ _, hQ _ _ _ hl'⟩
    · exact fun s r w' hl => ⟨rfl, hidle _ _, hQ _ _ _ (hbump.trans hl)⟩
    · intro w' hl _ _
      exact ⟨hfail _ _ _ w' (hbump.trans hl), hfail _ _ _ w' (hbump.trans hl)⟩

end KaroX2
