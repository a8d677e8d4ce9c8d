/-
KaroX2/HangUp.lean

What becomes of the end of a stream.

The reader of a client hears the end of its stream, takes the latch of the client and
invokes `on_close`, and the connection is lost, all without a suspension.  A stream that
ends without an exception ends the reader and nothing else.

For one client, the tasks that hear it, those that are about to, and the ends of its
stream are one at most.  Until there is an end the latch is open and the handlers are
set, so the reader finds them so when it is told of the end.
-/
import KaroX2.Velocity
import KaroX2.Liveness
import KaroX2.Coop.Staging

namespace KaroX2

open Coop

variable {σ : Setup} {w w' : World} {t me : TaskId} {k : WsId}

/-! ### The history of one client -/

/-- The entry is about the end of the stream of the client. -/
def Obs.concerns (k : WsId) : Obs → Bool
  | .streamEnded c _ | .onClose c => c = k
  | _ => false

/-- What the history tells of the end of the stream. -/
def World.fate (k : WsId) (w : World) : List Obs := w.log.filter (Obs.concerns k)

/-- The end of the stream has not come, was silent, or was reported once. -/
inductive Told (k : WsId) : List Obs → Prop
  | before : Told k []
  | silent : Told k [.streamEnded k .normal]
  | reported {how : StreamEnd} (h : how ≠ .normal) : Told k [.onClose k, .streamEnded k how]

/-- What a task is to the client: a stranger, the reader, the reader that waits for the next
message, and the stages of the reader after the end. -/
inductive Hearing where
  | away | reading | listening
  | ended (how : StreamEnd)
  | latched (how : StreamEnd)
  | fired | gone
  deriving DecidableEq, Repr

/-- The task may yet hear the end of the stream. -/
def Hearing.hears : Hearing → Bool
  | .reading | .listening => true
  | _ => false

/-- The task may be suspended. -/
def Hearing.waits : Hearing → Bool
  | .away | .reading | .listening | .gone => true
  | _ => false

/-- The task may end. -/
def Hearing.rests (g : Hearing) : Bool := g.waits || g = .ended .normal

theorem Hearing.rests_of_hears {g : Hearing} (h : g.hears = true) : g.rests = true := by
  cases g with
  | reading | listening => rfl
  | _ => cases h

/-- The update is not about the client. -/
structure Passes (k : WsId) (w w' : World) : Prop where
  fate : w'.fate k = w.fate k
  clientCount : w'.clientCount = w.clientCount
  latch : w'.latches k = w.latches k
  readers : w'.tasks.pending (reads k) ≤ w.tasks.pending (reads k)

/-- What the tasks do about the client. -/
inductive Hears (k : WsId) : Hearing → World → World → Hearing → Prop
  | elsewhere {w w' : World} (h : Passes k w w' ∨ w' = w.install) : Hears k .away w w' .away
  | handles {g : Hearing} {w w' : World} (h : Passes k w w' ∨ w' = w.install)
      (hg : g.hears = true) : Hears k g w w' .reading
  | ends {w : World} (how : StreamEnd) :
      Hears k .listening w (w.push (.streamEnded k how)) (.ended how)
  | latches {w : World} {how : StreamEnd} (h : how ≠ .normal) :
      Hears k (.ended how) w (w.setClient k fun x => { x with closed := true }) (.latched how)
  | fires {w : World} {how : StreamEnd} (h : how ≠ .normal) :
      Hears k (.latched how) w (w.push (.onClose k)) .fired
  | enters {w : World} : Hears k .fired w w .fired
  | loses {w w' : World} (h : Passes k w w') (hs : w'.conn.state ≠ .ready) :
      Hears k .fired w w' .gone
  | leaves {w w' : World} (h : Passes k w w') (hs : w'.conn.state = w.conn.state) :
      Hears k .gone w w' .gone

/-- The protocol of the client; who listens is answered while the latch is open and the
handlers are set. -/
def hangingUp (k : WsId) : Protocol Karo Hearing where
  update := Hears k
  wait g op _ g' := g = .away ∧ g' = .away ∨ g = .gone ∧ g' = .gone ∨
    g.hears = true ∧ (g' = .reading ∨ op = .recv k ∧ g' = .listening)
  resume g _ _ w := g = .listening → w.latches k = (false, true)

/-- The reader of the client hears it, and nobody else does. -/
def Hearing.fits (k : WsId) (o : Option WsId) (g : Hearing) : Prop :=
  o = some k ∧ g.hears = true ∨ o ≠ some k ∧ g = .away

/-- The plan of all tasks. -/
def hangUps (k : WsId) : Plan Karo Hearing where
  proto _ := hangingUp k
  begins _ p _ g := g.fits k p.hears
  ends _ g := g.rests = true

/-! ### Updates that are not about the client -/

namespace Passes

theorem refl (w : World) : Passes k w w := ⟨rfl, rfl, rfl, le_rfl⟩

theorem same (hlog : w'.log = w.log) (hcount : w'.clientCount = w.clientCount)
    (hlatch : w'.latches = w.latches) (htasks : w'.tasks = w.tasks) : Passes k w w' :=
  ⟨congrArg (List.filter _) hlog, hcount, congrFun hlatch k, htasks ▸ le_rfl⟩

theorem push {o : Obs} (ho : o.concerns k = false) : Passes k w (w.push o) where
  fate := List.filter_cons_of_neg (by simp [ho])
  clientCount := rfl
  latch := rfl
  readers := le_rfl

theorem of_drift (h : Drift w w') : Passes k w w' := by
  have hfilter : ∀ log : List Obs, (conclusions log).filter (Obs.concerns k) = log.filter (Obs.concerns k) := by
    intro log
    rw [conclusions, List.filter_filter]
    congr
    funext o
    cases o <;> simp [Obs.concerns, Obs.concludes]
  refine ⟨?_, h.clientCount, congrFun h.latches k, h.readers k⟩
  rw [World.fate, World.fate, ← hfilter, h.conclusions, hfilter]

theorem setClient {c : WsId} (hc : c ≠ k) {f : WsClient → WsClient} :
    Passes k w (w.setClient c f) := by
  refine ⟨rfl, rfl, ?_, le_rfl⟩
  simp [World.latches, World.setClient, Ne.symm hc]

end Passes

/-! ### Strangers -/

theorem passes_away (h : Passes k w w') : (hangingUp k).update .away w w' .away :=
  .elsewhere (.inl h)

theorem away_ambient : Ambient (hangingUp k) .away where
  drift h := passes_away (.of_drift h)
  install _ := .elsewhere (.inr rfl)
  wait _ _ := .inl ⟨rfl, rfl⟩

/-- The reader of another client is a stranger to this one. -/
theorem away_hangsUp {c : WsId} (hc : c ≠ k) : HangsUp (hangingUp k) .away c where
  ended _ _ := passes_away (.push (by simp [Obs.concerns, hc]))
  latched _ := passes_away (.setClient hc)
  fired _ := passes_away (.push (by simp [Obs.concerns, hc]))

/-- The task goes on as the reader of the same client. -/
def Flow.follows (o : Option WsId) : Flow Karo → Prop
  | .next p => p.hears = o
  | _ => True

theorem Flow.follows_of_stays {o : Option WsId} {f : Flow Karo} (h : Flow.stays o f) :
    Flow.follows o f := by
  cases f with
  | next p => exact h.2
  | _ => trivial

theorem Flow.ambient_of_hears {p : Proc} {c : WsId} (h : p.hears = some c) : Flow.ambient (.next p) := by
  unfold Flow.ambient
  split
  · rename_i heq
    cases heq
    cases h
  · trivial

theorem returning_away {Q : ApiResult → Prop} {d : M ApiResult}
    (hd : d.Steady (hangingUp k) .away Q) :
    (returning me d).Steady (hangingUp k) .away (Flow.follows none) := by
  refine (hd.mono fun _ _ => trivial).andThen fun r => ?_
  exact (Coro.Steady.modify fun w => passes_away (.push rfl)).andThen fun _ => .pure trivial

theorem apiBody_away {call : ApiCall} :
    (apiBody σ t call).Steady (hangingUp k) .away (Flow.follows none) := by
  have hcall {β : Type} {f : β → ApiResult} {d : M β}
      (hd : d.Steady (hangingUp k) .away fun _ => True) :
      (returning t (f <$> d)).Steady (hangingUp k) .away (Flow.follows none) :=
    returning_away (Q := fun _ => True) hd.map
  have hsame {w' w : World} (hlog : w'.log = w.log) (hcount : w'.clientCount = w.clientCount)
      (hlatch : w'.latches = w.latches) (htasks : w'.tasks = w.tasks) :
      (hangingUp k).update .away w w' .away := passes_away (.same hlog hcount hlatch htasks)
  cases call with
  | waitUntilReady timeout =>
    have hround : (waitRound t timeout).Steady (hangingUp k) .away fun _ => True :=
      waitRound_steady (fun e w => hsame rfl rfl rfl rfl) fun w => .inl ⟨rfl, rfl⟩
    refine hround.andThen fun r => ?_
    split
    · exact returning_away (Q := fun _ => True) (.pure trivial)
    · exact .pure rfl
  | cmdVel vx vy wz =>
    refine hcall (away_ambient.cmdVel ?_ ?_ ?_ ?_)
    · exact fun f w => hsame rfl rfl rfl rfl
    · exact fun w => hsame rfl rfl rfl rfl
    · exact fun w => hsame rfl rfl rfl rfl
    · exact fun c cmd w => .inl ⟨rfl, rfl⟩
  | emergencyStop engage reason =>
    exact hcall (away_ambient.emergencyStop fun f w => hsame rfl rfl rfl rfl)
  | ping => exact hcall (away_ambient.ping fun f w => hsame rfl rfl rfl rfl)
  | _ => exact away_ambient.apiBody rfl fun d hd => returning_away hd

theorem body_away {p : Proc} (h : p.hears ≠ some k) :
    (body σ t p).Steady (hangingUp k) .away (Flow.follows p.hears) := by
  by_cases hp : Flow.ambient (.next p)
  · refine (away_ambient.body hp ?_).mono fun _ => Flow.follows_of_stays
    rintro c rfl
    exact away_hangsUp fun hc => h (congrArg some hc)
  · obtain ⟨call, rfl⟩ := Flow.call_of_not_ambient hp
    exact apiBody_away

/-! ### The reader -/

theorem reading_ambient : Ambient (hangingUp k) .reading where
  drift h := .handles (.inl (.of_drift h)) rfl
  install _ := .handles (.inr rfl) rfl
  wait _ _ := .inr (.inr ⟨rfl, .inl rfl⟩)

/-- A body that stays at its stage goes on as the plan says. -/
theorem exits_of_follows {o : Option WsId} {g : Hearing} {d : M (Flow Karo)}
    (ho : g.fits k o) (hd : d.Steady (hangingUp k) g (Flow.follows o)) :
    d.Abides (hangingUp k) ((hangUps k).exits t) g w := by
  have hrests : g.rests = true := by
    rcases ho with ⟨-, hg⟩ | ⟨-, rfl⟩
    · exact Hearing.rests_of_hears hg
    · rfl
  refine Coro.abides_mono ?_ (hd w)
  rintro g (e | p | -) v ⟨rfl, hf⟩
  · exact hrests
  · obtain rfl : p.hears = o := hf _ rfl
    exact ho
  · exact hrests

/-- Who listens may do all that the reader may. -/
theorem listening_of_reading {d : M (Flow Karo)}
    (hd : d.Abides (hangingUp k) ((hangUps k).exits t) .reading w) :
    d.Abides (hangingUp k) ((hangUps k).exits t) .listening w := by
  refine Coro.abides_from (fun w w' g' hu => ?_) (fun op w g' hw => ?_) (fun r w hQ => ?_) hd
  · cases hu with
    | handles h => exact .handles h rfl
  · rcases hw with ⟨hg, -⟩ | ⟨hg, -⟩ | ⟨-, hg⟩
    · cases hg
    · cases hg
    · exact .inr (.inr ⟨rfl, hg⟩)
  · rcases r with e | p | -
    · rfl
    · rcases hQ with ⟨hp, -⟩ | ⟨-, hg⟩
      · exact .inl ⟨hp, rfl⟩
      · cases hg
    · rfl

theorem leaves_drift (h : Drift w w') (hs : w'.conn.state = w.conn.state) :
    (hangingUp k).update .gone w w' .gone := .leaves (.of_drift h) hs

theorem gone_closable : Closable (hangingUp k) .gone where
  refl _ := leaves_drift (.refl _) rfl
  detach _ _ := leaves_drift (.client fun _ => ⟨rfl, rfl⟩) rfl
  shut _ _ := leaves_drift (.client fun _ => ⟨rfl, rfl⟩) rfl
  cancel _ _ := leaves_drift .cancel rfl
  close _ _ := .inr (.inl ⟨rfl, rfl⟩)
  join _ _ := .inr (.inl ⟨rfl, rfl⟩)
  joined _ _ := .inr (.inl ⟨rfl, rfl⟩)

/-- The state is not `READY` once the connection is lost, or was terminal before. -/
theorem onTransportClose_hears {reason : ErrorCode} {msg : String} :
    (onTransportClose σ me reason msg).Abides (hangingUp k) (fun g _ _ => g = .gone) .fired w := by
  refine Coro.abides_scope.mpr ⟨.fired, .enters, ?_⟩
  rw [Coro.abides_read_then]
  split
  · rename_i hterminal
    have hterminal : w.conn.state.terminal = true := hterminal
    refine ⟨.gone, .loses (.refl w) fun hready => ?_, rfl⟩
    have hready : w.conn.state = .ready := hready
    rw [hready] at hterminal
    cases hterminal
  · have hlost : (w.loseTransport σ me reason msg).conn.state ≠ .ready := by
      rw [(loseTransport_ends σ w me reason msg).2]
      exact nofun
    refine Coro.abides_modify_then (.loses (.of_drift (w := w) .loseTransport) hlost) ?_
    have hws : (closeWs me id).Steady (hangingUp k) .gone fun _ => True :=
      gone_closable.closeWs (fun _ => leaves_drift (.refl _) rfl) fun _ => leaves_drift (.same rfl) rfl
    refine Coro.abides_bind.mpr (Coro.abides_mono ?_ (hws _))
    rintro g (e | a) v ⟨rfl, -⟩
    · exact ⟨.gone, leaves_drift (.refl v) rfl, rfl⟩
    · exact ⟨.gone, leaves_drift .retry retry_state, rfl⟩

/-- An end that is an exception is reported through the open latch. -/
theorem fireClose_hears {reason : ErrorCode} {msg : String} {how : StreamEnd}
    (hhow : how ≠ .normal) (hlatch : w.latches k = (false, true)) :
    (fireClose σ t k reason msg >>= fun _ => pure .done).Abides (hangingUp k)
      ((hangUps k).exits t) (.ended how) w := by
  obtain ⟨hclosed, hhandlers⟩ := Prod.mk.inj hlatch
  rw [Coro.abides_bind]
  unfold fireClose
  rw [Coro.abides_read_then, Coro.when, if_pos hclosed]
  refine Coro.abides_modify_then (.latches hhow) ?_
  rw [Coro.when, if_pos hhandlers]
  refine Coro.abides_modify_then (.fires hhow) ?_
  unfold swallow
  rw [Coro.abides_attempt_then]
  refine Coro.abides_mono ?_ onTransportClose_hears
  rintro g (e | a) v rfl
  · cases e <;> rfl
  · rfl

/-- A round of the reader, which listens while it waits. -/
theorem readRound_hears :
    (readRound σ t k).Abides (hangingUp k) ((hangUps k).exits t) .reading w := by
  have hends : ∀ (e : Option Exn) (v : World), v.latches k = (false, true) →
      (streamEnds σ t k e).Abides (hangingUp k) ((hangUps k).exits t) .listening v := by
    intro e v hlatch
    unfold streamEnds
    split
    · exact Coro.abides_modify_then (.ends .normal) rfl
    · rfl
    · exact Coro.abides_modify_then (.ends _) (fireClose_hears nofun hlatch)
    · exact Coro.abides_modify_then (.ends _) (fireClose_hears nofun hlatch)
  unfold readRound
  rw [Coro.abides_attempt_then]
  refine ⟨.listening, .inr (.inr ⟨rfl, .inr ⟨rfl, rfl⟩⟩), fun r v hresume => ?_⟩
  have hlatch : v.latches k = (false, true) := hresume rfl
  -- a message, a clean end of the stream, or an exception
  rcases r with e | (_ | m | _)
  · exact hends (some e) v hlatch
  · exact hends none v hlatch
  · have hread : (readMessage σ t k m).Steady (hangingUp k) .reading (Flow.follows (some k)) :=
      reading_ambient.readMessage.mono fun _ => Flow.follows_of_stays
    exact listening_of_reading (exits_of_follows (.inl ⟨rfl, rfl⟩) hread)
  · exact hends none v hlatch

/-- **Every body keeps to the plan.** -/
theorem body_hears {p : Proc} {g : Hearing} (h : (hangUps k).begins t p w g) :
    (body σ t p).Abides (hangingUp k) ((hangUps k).exits t) g w := by
  rcases h with ⟨hp, hg⟩ | ⟨hp, rfl⟩
  · have hreading : (body σ t p).Abides (hangingUp k) ((hangUps k).exits t) .reading w := by
      by_cases hloop : p = .readLoop k
      · subst hloop
        exact readRound_hears
      · refine exits_of_follows (.inl ⟨hp, rfl⟩) ?_
        refine (reading_ambient.body (Flow.ambient_of_hears hp) ?_).mono fun _ => Flow.follows_of_stays
        rintro c rfl
        exact absurd (congrArg Proc.readLoop (Option.some.inj hp)) hloop
    cases g with
    | reading => exact hreading
    | listening => exact listening_of_reading hreading
    | _ => cases hg
  · exact exits_of_follows (.inr ⟨hp, rfl⟩) (body_away hp)

/-! ### The end of one stream -/

/-- The stages of all tasks. -/
def stages (ws : List (Site Karo × Hearing)) (run : Option (TaskId × Hearing)) : List Hearing :=
  run.toList.map Prod.snd ++ ws.map Prod.snd

/-- The tasks that may yet hear the end, and those that will be started to. -/
def hearers (k : WsId) (w : World) (ws : List (Site Karo × Hearing))
    (run : Option (TaskId × Hearing)) : Nat :=
  w.tasks.pending (reads k) + (stages ws run).countP Hearing.hears

/-- The history fits the stage of the running task. -/
def Hearing.tells (k : WsId) : Hearing → List Obs → Prop
  | .ended how, l | .latched how, l => l = [.streamEnded k how]
  | .fired, l => ∃ how, how ≠ .normal ∧ l = [.onClose k, .streamEnded k how]
  | _, l => Told k l

/-- What holds of one client, its history, and all tasks. -/
structure Heard (k : WsId) (w : World) (ws : List (Site Karo × Hearing))
    (run : Option (TaskId × Hearing)) : Prop where
  single : hearers k w ws run + min (w.fate k).length 1 ≤ 1
  unborn : w.clientCount ≤ k → hearers k w ws run = 0 ∧ w.fate k = []
  latch : k < w.clientCount → w.fate k = [] → w.latches k = (false, true)
  suspended : ∀ x ∈ ws, x.2.waits = true
  told : (run.elim .away Prod.snd).tells k (w.fate k)

namespace Heard

variable {ws ws' : List (Site Karo × Hearing)} {run run' : Option (TaskId × Hearing)}
  {g g' : Hearing}

theorem told_of_rests {l : List Obs} (hg : g.rests = true) (h : g.tells k l) : Told k l := by
  cases g with
  | ended how =>
    obtain rfl : how = .normal := by simpa [Hearing.rests, Hearing.waits] using hg
    exact h ▸ .silent
  | away | reading | listening | gone => exact h
  | latched | fired => cases hg

theorem tells_of_waits {l : List Obs} (hg : g.waits = true) (h : Told k l) : g.tells k l := by
  cases g with
  | away | reading | listening | gone => exact h
  | _ => cases hg

/-- An update that is not about the client. -/
theorem passes (h : Heard k w ws run) (hp : Passes k w w')
    (hle : (stages ws' run').countP Hearing.hears ≤ (stages ws run).countP Hearing.hears)
    (hws : ∀ x ∈ ws', x.2.waits = true) (hrun : (run'.elim .away Prod.snd).tells k (w.fate k)) :
    Heard k w' ws' run' := by
  have hhearers : hearers k w' ws' run' ≤ hearers k w ws run := Nat.add_le_add hp.readers hle
  refine ⟨?_, fun hk => ?_, fun hk hfate => ?_, hws, ?_⟩
  · rw [hp.fate]
    exact (Nat.add_le_add_right hhearers _).trans h.single
  · rw [hp.clientCount] at hk
    obtain ⟨hzero, hfate⟩ := h.unborn hk
    exact ⟨Nat.le_zero.mp (hzero ▸ hhearers), hp.fate.trans hfate⟩
  · rw [hp.clientCount] at hk
    exact hp.latch.trans (h.latch hk (hp.fate.symm.trans hfate))
  · rw [hp.fate]
    exact hrun

/-- A client is installed: this one, with an open latch and its reader, or another. -/
theorem install (h : Heard k w ws (some (t, g))) :
    Heard k w.install ws (some (t, g)) := by
  have hfate : w.install.fate k = w.fate k := rfl
  have htold : g.tells k (w.fate k) := h.told
  by_cases hk : w.clientCount = k
  · obtain ⟨hzero, hempty⟩ := h.unborn hk.le
    have hpending : w.install.tasks.pending (reads k) = w.tasks.pending (reads k) + 1 := by
      show (w.tasks.spawn (.reader w.clientCount)).pending _ = _
      rw [Tasks.pending_spawn, hk]
      simp [reads]
    have hone : hearers k w.install ws (some (t, g)) = 1 := by
      unfold hearers at hzero ⊢
      rw [hpending]
      omega
    refine ⟨?_, fun hle => ?_, fun _ _ => ?_, h.suspended, htold⟩
    · rw [hfate, hempty, hone]
      rfl
    · exact absurd hle (hk ▸ Nat.not_succ_le_self w.clientCount)
    · simp [World.latches, World.install, World.setClient, hk]
  · have hpending : w.install.tasks.pending (reads k) = w.tasks.pending (reads k) := by
      show (w.tasks.spawn (.reader w.clientCount)).pending _ = _
      rw [Tasks.pending_spawn]
      simp [reads, hk]
    have hsame : hearers k w.install ws (some (t, g)) = hearers k w ws (some (t, g)) := by
      rw [hearers, hearers, hpending]
    refine ⟨?_, fun hle => ?_, fun hlt hempty => ?_, h.suspended, htold⟩
    · rw [hfate, hsame]
      exact h.single
    · have hle : w.clientCount + 1 ≤ k := hle
      rw [hsame]
      exact h.unborn (by omega)
    · have hborn : k < w.clientCount := Nat.lt_of_le_of_ne (Nat.lt_succ_iff.mp hlt) (Ne.symm hk)
      have hlatch : w.install.latches k = w.latches k := by
        simp [World.latches, World.install, World.setClient, Ne.symm hk]
      exact hlatch.trans (h.latch hborn hempty)

/-- While a task may hear the end there has been none, and the latch is open. -/
theorem listened (h : Heard k w ws run) (hpos : 0 < hearers k w ws run) :
    w.fate k = [] ∧ w.latches k = (false, true) := by
  have hempty : w.fate k = [] := by
    have hsingle := h.single
    cases hfate : w.fate k with
    | nil => rfl
    | cons o l =>
      rw [hfate, List.length_cons] at hsingle
      omega
  refine ⟨hempty, h.latch ?_ hempty⟩
  by_contra hborn
  exact hpos.ne' (h.unborn (Nat.le_of_not_lt hborn)).1

theorem update (h : Heard k w ws (some (t, g))) (hu : Hears k g w w' g') :
    Heard k w' ws (some (t, g')) := by
  have htold : g.tells k (w.fate k) := h.told
  cases hu with
  | elsewhere hp =>
    rcases hp with hp | rfl
    · exact h.passes hp le_rfl h.suspended htold
    · exact h.install
  | handles hp hg =>
    -- the message is handled, and the task may hear as before
    have hreading : Heard k w ws (some (t, .reading)) := by
      have htold : Told k (w.fate k) := told_of_rests (Hearing.rests_of_hears hg) htold
      refine h.passes (.refl w) ?_ h.suspended (tells_of_waits rfl htold)
      show (.reading :: ws.map Prod.snd).countP _ ≤ (g :: ws.map Prod.snd).countP _
      rw [List.countP_cons_of_pos rfl, List.countP_cons_of_pos hg]
    rcases hp with hp | rfl
    · exact hreading.passes hp le_rfl h.suspended hreading.told
    · exact hreading.install
  | ends how =>
    have hcount : hearers k w ws (some (t, .listening)) =
        hearers k w ws (some (t, .ended how)) + 1 := by
      simp only [hearers, stages, Option.toList, List.map_cons, List.map_nil, List.cons_append,
        List.nil_append, List.countP_cons, Hearing.hears]
      rfl
    have hempty : w.fate k = [] := (h.listened (hcount ▸ Nat.succ_pos _)).1
    have hfate : (w.push (.streamEnded k how)).fate k = [.streamEnded k how] := by
      rw [← hempty]
      exact List.filter_cons_of_pos (by simp [Obs.concerns])
    refine ⟨?_, fun hk => ?_, fun _ hf => ?_, h.suspended, hfate⟩
    · have := h.single
      rw [hcount] at this
      have hsame : hearers k (w.push (.streamEnded k how)) ws (some (t, .ended how)) =
        hearers k w ws (some (t, .ended how)) := rfl
      rw [hfate, hsame]
      simp
      omega
    · have := (h.unborn hk).1
      omega
    · rw [hfate] at hf
      cases hf
  | @latches _ how hhow =>
    have hfate : (w.setClient k fun x => { x with closed := true }).fate k = w.fate k := rfl
    refine ⟨h.single, h.unborn, fun _ hf => ?_, h.suspended, htold⟩
    rw [hfate, show w.fate k = [.streamEnded k how] from htold] at hf
    cases hf
  | @fires _ how hhow =>
    have hfate : (w.push (.onClose k)).fate k = [.onClose k, .streamEnded k how] := by
      rw [← show w.fate k = [.streamEnded k how] from htold]
      exact List.filter_cons_of_pos (by simp [Obs.concerns])
    have hne : w.fate k ≠ [] := by
      rw [show w.fate k = [.streamEnded k how] from htold]
      exact List.cons_ne_nil _ _
    have hsingle : hearers k w ws (some (t, .latched how)) + min (w.fate k).length 1 ≤ 1 := h.single
    refine ⟨?_, fun hk => absurd (h.unborn hk).2 hne, fun _ hf => ?_, h.suspended, how, hhow, hfate⟩
    · have hsame : hearers k (w.push (.onClose k)) ws (some (t, .fired)) =
        hearers k w ws (some (t, .latched how)) := rfl
      rw [show w.fate k = [.streamEnded k how] from htold] at hsingle
      rw [hfate, hsame]
      exact hsingle
    · rw [hfate] at hf
      cases hf
  | enters => exact h
  | loses hp hs =>
    obtain ⟨how, hhow, hl⟩ : ∃ how : StreamEnd, how ≠ .normal ∧
      w.fate k = [.onClose k, .streamEnded k how] := htold
    exact h.passes hp le_rfl h.suspended (hl ▸ .reported hhow)
  | leaves hp => exact h.passes hp le_rfl h.suspended htold

theorem wait {p : List Label} {op : Op} (h : Heard k w ws (some (t, g)))
    (hw : (hangingUp k).wait g op w g') : Heard k w ((⟨t, p, op⟩, g') :: ws) none := by
  have htold : g.tells k (w.fate k) := h.told
  -- who may hear the end before the wait may hear it after
  obtain ⟨hg, hg', hsame⟩ : g.rests = true ∧ g'.waits = true ∧ g'.hears = g.hears := by
    rcases hw with ⟨rfl, rfl⟩ | ⟨rfl, rfl⟩ | ⟨hg, hg' | ⟨-, hg'⟩⟩
    · exact ⟨rfl, rfl, rfl⟩
    · exact ⟨rfl, rfl, rfl⟩
    · exact hg' ▸ ⟨Hearing.rests_of_hears hg, rfl, hg.symm⟩
    · exact hg' ▸ ⟨Hearing.rests_of_hears hg, rfl, hg.symm⟩
  refine h.passes (.refl w) ?_ (List.forall_mem_cons.mpr ⟨hg', h.suspended⟩) (told_of_rests hg htold)
  show (g' :: ws.map Prod.snd).countP _ ≤ (g :: ws.map Prod.snd).countP _
  rw [List.countP_cons, List.countP_cons, hsame]

theorem resume {s : Site Karo} {r : Except Exn Reply} {l₁ l₂ : List (Site Karo × Hearing)}
    (h : Heard k w (l₁ ++ (s, g) :: l₂) none) :
    Heard k (w.resume s.task s.op r) (l₁ ++ l₂) (some (s.task, g)) := by
  have hpasses : Passes k w (w.resume s.task s.op r) := by
    obtain ⟨ts, evt, heq, hts⟩ := resume_eq s.task s.op r w
    rw [heq]
    refine ⟨rfl, rfl, rfl, ?_⟩
    rcases hts with rfl | rfl
    · exact le_rfl
    · exact Tasks.pending_served_le
  have hmem : ∀ x ∈ l₁ ++ l₂, x ∈ l₁ ++ (s, g) :: l₂ := fun x hx =>
    ((List.sublist_cons_self (s, g) l₂).append_left l₁).subset hx
  have hg : g.waits = true :=
    h.suspended (s, g) (List.mem_append_right l₁ (List.mem_cons_self ..))
  refine h.passes hpasses ?_ (fun x hx => h.suspended x (hmem x hx)) (tells_of_waits hg h.told)
  show (g :: (l₁ ++ l₂).map Prod.snd).countP _ ≤ ((l₁ ++ (s, g) :: l₂).map Prod.snd).countP _
  rw [List.map_append, List.map_append, List.map_cons]
  exact (List.perm_middle.countP_eq _).ge

theorem env {e : EnvStep} (h : Heard k w ws none) (he : World.env e w = some w') :
    Heard k w' ws none := by
  rcases Drift.env he with hd | ⟨seconds, epochMs, -, rfl⟩
  · exact h.passes (.of_drift hd) le_rfl h.suspended h.told
  · exact h.passes (.same rfl rfl rfl rfl) le_rfl h.suspended h.told

theorem finish {r : Except Exn Unit} (h : Heard k w ws (some (t, g))) (hg : g.rests = true) :
    Heard k (w.finish t r) ws none := by
  have htold : g.tells k (w.fate k) := h.told
  refine h.passes (.of_drift .finish) ?_ h.suspended (told_of_rests hg htold)
  exact (List.sublist_cons_self g _).countP_le

/-- The reader of the client is started at most once. -/
theorem start {p : Proc} (h : Heard k w ws none) (hp : w.createdProc t = some p) :
    ∃ g : Hearing, g.fits k p.hears ∧ Heard k { w with tasks := w.tasks.begin t } ws (some (t, g)) := by
  obtain ⟨x, hx, hs, hproc⟩ := created_task hp
  by_cases hk : p.hears = some k
  · refine ⟨.reading, .inl ⟨hk, rfl⟩, ?_⟩
    have hq : reads k x.proc = true := by
      rcases hproc with rfl | rfl
      · cases hk
      · cases hj : x.proc with
        | reader c =>
          rw [hj] at hk
          simpa [reads, Proc.hears] using hk
        | _ => rw [hj] at hk; cases hk
    have hpending : (w.tasks.begin t).pending (reads k) + 1 = w.tasks.pending (reads k) :=
      Tasks.pending_begin hx hs hq
    have hhearers : hearers k { w with tasks := w.tasks.begin t } ws (some (t, .reading)) =
        hearers k w ws none := by
      show (w.tasks.begin t).pending (reads k) + (.reading :: ws.map Prod.snd).countP _ =
        w.tasks.pending (reads k) + (ws.map Prod.snd).countP _
      rw [List.countP_cons_of_pos rfl]
      omega
    refine ⟨?_, fun hle => ?_, h.latch, h.suspended, h.told⟩
    · rw [hhearers]
      exact h.single
    · rw [hhearers]
      exact h.unborn hle
  · exact ⟨.away, .inr ⟨hk, rfl⟩, h.passes (.of_drift .begin) le_rfl h.suspended h.told⟩

end Heard

/-! ### Runs -/

theorem heard_kept : (hangUps k).Keeps (robot σ) (fun _ _ _ => True) (fun _ _ => True) (Heard k) where
  body hbegins := body_hears hbegins
  env he _ h := h.env he
  start hp _ h := h.start hp
  resume := by
    intro s g r w l₁ l₂ _ _ _ h
    refine ⟨fun hg => ?_, h.resume⟩
    have hpos : 0 < hearers k w (l₁ ++ (s, g) :: l₂) none := by
      refine Nat.add_pos_right _ (List.countP_pos_iff.mpr ⟨g, ?_, by rw [hg]; rfl⟩)
      exact List.mem_map.mpr ⟨(s, g), List.mem_append_right l₁ (List.mem_cons_self ..), rfl⟩
    obtain ⟨ts, evt, heq, -⟩ := resume_eq s.task s.op r w
    rw [show (robot σ).resume s.task s.op r w = _ from heq]
    exact (h.listened hpos).2
  update hu _ h := h.update hu
  wait hw h := h.wait hw
  finish hends _ h := h.finish hends

theorem heard_initial (clock : Clock) : Heard k (.init clock) [] none where
  single := Nat.zero_le _
  unborn _ := ⟨rfl, rfl⟩
  latch hk := absurd hk (Nat.not_lt_zero k)
  suspended := nofun
  told := .before

/-! ### The execution that hears the end -/

/-- What the execution of a task has done about the client since the world `w₀`. -/
def Hearing.since (k : WsId) (w₀ : World) : Hearing → World → Prop
  | .away, w | .reading, w => w.fate k = w₀.fate k
  | .listening, w => w = w₀
  | .ended how, w => w.fate k = .streamEnded k how :: w₀.fate k ∧ w.conn.state = w₀.conn.state
  | .latched how, w => w.fate k = .streamEnded k how :: w₀.fate k
  | .fired, w => ∃ how : StreamEnd, how ≠ .normal ∧
      w.fate k = .onClose k :: .streamEnded k how :: w₀.fate k
  | .gone, w => w.fate k = w₀.fate k ∨ w.conn.state ≠ .ready ∧
      ∃ how : StreamEnd, how ≠ .normal ∧ w.fate k = .onClose k :: .streamEnded k how :: w₀.fate k

section Since

variable {w₀ : World} {g g' : Hearing}

theorem since_start (hg : g.waits = true) : g.since k w₀ w₀ := by
  cases g with
  | away | reading | listening => rfl
  | gone => exact .inl rfl
  | _ => cases hg

theorem since_step (h : g.since k w₀ w) (hu : Hears k g w w' g') : g'.since k w₀ w' := by
  have hfate : Passes k w w' ∨ w' = w.install → w'.fate k = w.fate k := by
    rintro (hp | rfl)
    · exact hp.fate
    · rfl
  cases hu with
  | elsewhere hp => exact (hfate hp).trans h
  | handles hp hg =>
    have h : w.fate k = w₀.fate k := by
      cases g with
      | reading => exact h
      | listening => exact congrArg (World.fate k) h
      | _ => cases hg
    exact (hfate hp).trans h
  | ends how =>
    obtain rfl : w = w₀ := h
    exact ⟨List.filter_cons_of_pos (by simp [Obs.concerns]), rfl⟩
  | latches => exact h.1
  | @fires _ how hhow =>
    have h : w.fate k = .streamEnded k how :: w₀.fate k := h
    refine ⟨how, hhow, ?_⟩
    rw [← h]
    exact List.filter_cons_of_pos (by simp [Obs.concerns])
  | enters => exact h
  | loses hp hs =>
    obtain ⟨how, hhow, hl⟩ := h
    exact .inr ⟨hs, how, hhow, hp.fate.trans hl⟩
  | leaves hp hs =>
    rcases h with h | ⟨hne, how, hhow, hl⟩
    · exact .inl (hp.fate.trans h)
    · exact .inr ⟨hs ▸ hne, how, hhow, hp.fate.trans hl⟩

theorem mem_fate {how : StreamEnd} : .streamEnded k how ∈ w.fate k ↔ .streamEnded k how ∈ w.log := by
  simp [World.fate, List.mem_filter, Obs.concerns]

/-- Where a task may stop, the state has left `READY` if and only if the end was no silent one. -/
theorem since_stop {how : StreamEnd} (h : g.since k w₀ w) (hg : g.rests = true)
    (hr : w₀.conn.state = .ready) (hnew : .streamEnded k how ∉ w₀.log)
    (hend : .streamEnded k how ∈ w.log) : w.conn.state ≠ .ready ↔ how ≠ .normal := by
  rw [← mem_fate] at hnew hend
  have hsame (hf : w.fate k = w₀.fate k) : w.conn.state ≠ .ready ↔ how ≠ .normal :=
    absurd (hf ▸ hend) hnew
  cases g with
  | away | reading => exact hsame h
  | listening => exact hsame (congrArg (World.fate k) h)
  | ended how' =>
    obtain rfl : how' = .normal := by simpa [Hearing.rests, Hearing.waits] using hg
    obtain ⟨hfate, hstate⟩ := h
    rw [hfate] at hend
    have hhow : how = .normal := by simpa [hnew] using hend
    exact iff_of_false (fun h => h (hstate.trans hr)) fun h => h hhow
  | gone =>
    rcases h with h | ⟨hs, how', hhow', hfate⟩
    · exact hsame h
    · rw [hfate] at hend
      have hhow : how = how' := by simpa [hnew] using hend
      exact iff_of_true hs (hhow ▸ hhow')
  | latched | fired => cases hg

end Since

/-- The world at the end of the execution that the reply begins. -/
def Coop.Waiting.after (x : Waiting Karo) (r : Except Exn Reply) (w : World) : World :=
  ((x.k r).segment (w.resume x.site.task x.site.op r)).1

/-- The execution leaves `READY` if and only if it hears an end that is no silent one. -/
theorem Heard.after {m : Staged Karo Hearing} (h : Heard k m.world m.sites none)
    (hkept : (hangUps k).Kept m) {x : Waiting Karo} (hx : x ∈ m.config.waiting)
    (r : Except Exn Reply) {how : StreamEnd} (hr : m.world.conn.state = .ready)
    (hnew : .streamEnded k how ∉ m.world.log)
    (hend : .streamEnded k how ∈ (x.after r m.world).log) :
    (x.after r m.world).conn.state ≠ .ready ↔ how ≠ .normal := by
  obtain ⟨⟨x, g⟩, hxg, rfl⟩ := List.mem_map.mp hx
  have hsite : (x.site, g) ∈ m.sites := List.mem_map.mpr ⟨(x, g), hxg, rfl⟩
  obtain ⟨ts, evt, heq, -⟩ := resume_eq x.site.task x.site.op r m.world
  -- a reader that waits is answered while the latch is open
  have hresume : (hangingUp k).resume g x.site.op r (m.world.resume x.site.task x.site.op r) := by
    rintro rfl
    have hpos : 0 < hearers k m.world m.sites none :=
      Nat.add_pos_right _ (List.countP_pos_iff.mpr ⟨_, List.mem_map.mpr ⟨_, hsite, rfl⟩, rfl⟩)
    rw [heq]
    exact (h.listened hpos).2
  obtain ⟨g', hrun, hended, hwaits⟩ := Coro.abides_segment (hkept.waiting (x, g) hxg r _ hresume)
  have hrests : g'.rests = true := by
    cases hstop : ((x.k r).segment (m.world.resume x.site.task x.site.op r)).2 with
    | ended res =>
      have hexits := hended res hstop
      rcases res with e | p | -
      · exact hexits
      · rcases hexits with ⟨-, hg⟩ | ⟨-, rfl⟩
        · exact Hearing.rests_of_hears hg
        · rfl
      · exact hexits
    | waits p op k =>
      obtain ⟨g'', ⟨rfl, -⟩ | ⟨rfl, -⟩ | ⟨hg, -⟩⟩ := hwaits p op k hstop
      · rfl
      · rfl
      · exact Hearing.rests_of_hears hg
  have hsince : g'.since k (m.world.resume x.site.task x.site.op r) (x.after r m.world) := by
    have hall : ∀ y : Hearing × World, Relation.ReflTransGen
        (fun y z : Hearing × World => (hangingUp k).update y.1 y.2 z.2 z.1)
        (g, m.world.resume x.site.task x.site.op r) y →
        y.1.since k (m.world.resume x.site.task x.site.op r) y.2 := by
      intro y hy
      induction hy with
      | refl => exact since_start (h.suspended _ hsite)
      | tail _ hs ih => exact since_step ih hs
    exact hall _ hrun
  rw [heq] at hsince
  exact since_stop hsince hrests hr hnew hend

/-! ### The heartbeat -/

/-- The heartbeat would look for the socket, and there is none that is open. -/
def World.Severed (σ : Setup) (w : World) : Prop :=
  σ.opts.heartbeatInterval ≤ w.clock.steady - w.hb.lastInbound ∧
    ∀ c, w.conn.ws = some c → ((w.clients c).attached && (w.clients c).isOpen) = false

/-- In `READY` the heartbeat ends if and only if it finds no open socket. -/
theorem heartbeatRound_done (hr : w.conn.state = .ready) :
    (heartbeatRound σ).segment w = (w, .ended (.ok .done)) ↔ w.Severed σ := by
  constructor
  · intro hdone
    have hdue : ¬w.clock.steady - w.hb.lastInbound < σ.opts.heartbeatInterval := by
      intro hi
      unfold heartbeatRound at hdone
      rw [untilCancelled_read] at hdone
      dsimp only at hdone
      rw [if_neg (not_not.mpr hr), if_pos hi] at hdone
      cases hdone
    refine ⟨not_lt.mp hdue, fun c hws => Bool.eq_false_iff.mpr fun hopen => ?_⟩
    rw [heartbeatRound_pings hr hdue hws hopen] at hdone
    cases hdone
  · rintro ⟨hdue, hshut⟩
    unfold heartbeatRound
    rw [untilCancelled_read]
    dsimp only
    rw [if_neg (not_not.mpr hr), if_neg (not_lt.mpr hdue)]
    cases hws : w.conn.ws with
    | none => rfl
    | some c =>
      dsimp only
      rw [if_neg (Bool.eq_false_iff.mp (hshut c hws))]
      rfl

/-! ### Ends of streams in all runs -/

theorem count_fate : (w.fate k).count (.onClose k) = w.log.count (.onClose k) :=
  List.count_filter (by simp [Obs.concerns])

/-- An end is reported once, unless it was silent. -/
theorem Told.count {l : List Obs} {how : StreamEnd} (h : Told k l) (hend : .streamEnded k how ∈ l) :
    l.count (.onClose k) = 1 ↔ how ≠ .normal := by
  cases h with
  | before => cases hend
  | silent =>
    obtain rfl : how = .normal := by simpa using hend
    simp
  | @reported how' hhow =>
    obtain rfl : how = how' := by simpa using hend
    simp [hhow]

/-- **The end of a stream is reported if and only if it is no silent one**: `on_close` is
invoked once, and the execution that hears the end leaves `READY`; and in `READY` the
heartbeat ends if and only if it finds no open socket. -/
theorem stream_end_reported (σ : Setup) (clock : Clock) (c : Config Karo)
    (h : Reaches (robot σ) (initial clock) c) (hidle : c.Idle) :
    (∀ k how, .streamEnded k how ∈ c.world.log →
      (c.world.log.count (.onClose k) = 1 ↔ how ≠ .normal)) ∧
    (∀ k how, ∀ x ∈ c.waiting, ∀ r, c.world.conn.state = .ready →
      .streamEnded k how ∉ c.world.log → .streamEnded k how ∈ (x.after r c.world).log →
        ((x.after r c.world).conn.state ≠ .ready ↔ how ≠ .normal)) ∧
    (c.world.conn.state = .ready →
      ((heartbeatRound σ).segment c.world = (c.world, .ended (.ok .done)) ↔ c.world.Severed σ)) := by
  have hheard (k : WsId) : ∃ m : Staged Karo Hearing, m.config = c ∧ (hangUps k).Kept m ∧
      Heard k m.world m.sites none := by
    obtain ⟨m, rfl, hkept, hI⟩ := heard_kept.run (heard_initial clock) (fun _ _ _ _ _ => trivial) h
    have hstage : m.stage = none := by
      rw [Staged.stage, Option.map_eq_none_iff.mp hidle, Option.map_none]
    exact ⟨m, rfl, hkept, hstage ▸ hI⟩
  refine ⟨fun k how hend => ?_, fun k how x hx r hr hnew hend => ?_, heartbeatRound_done⟩
  · obtain ⟨m, rfl, -, hI⟩ := hheard k
    have htold : Told k (m.world.fate k) := hI.told
    rw [← mem_fate] at hend
    exact count_fate ▸ htold.count hend
  · obtain ⟨m, rfl, hkept, hI⟩ := hheard k
    exact hI.after hkept hx r hr hnew hend

/-- `connect()` up to `READY`, and the peer closes the connection with the code 1006. -/
def droppedPeer : List (Cmd (robot .plain)) :=
  connected ++ [.env (.peerClose 0), .resume 2 (.error (.connectionClosed 1006 "gone"))]

theorem stream_end_reported_dropped : ∃ c, Reaches (robot .plain) (initial ⟨0, 0⟩) c ∧ c.Idle ∧
    c.world.conn.state = .transientFailure ∧ .streamEnded 0 (.closed 1006) ∈ c.world.log ∧
    c.world.log.count (.onClose 0) = 1 := by
  have hplay : ((robot .plain).play 4 droppedPeer (initial ⟨0, 0⟩)).any (fun c =>
      c.running.isNone && c.world.conn.state = .transientFailure &&
        c.world.log.contains (.streamEnded 0 (.closed 1006))) = true := by
    decide +kernel
  obtain ⟨c, hc, hs⟩ := (Option.any_eq_true _ _).mp hplay
  simp only [Bool.and_eq_true, Option.isNone_iff_eq_none, decide_eq_true_eq,
    List.contains_iff_mem] at hs
  obtain ⟨⟨hidle, hstate⟩, hend⟩ := hs
  have hreported := stream_end_reported .plain ⟨0, 0⟩ c (play_run hc) hidle
  exact ⟨c, play_run hc, hidle, hstate, hend, (hreported.1 0 _ hend).mpr nofun⟩

/-- The same, but the connection is closed with the code 1000 or 1001, and the heartbeat
looks at the socket after its interval. -/
def leavingPeer : List (Cmd (robot .plain)) :=
  connected ++ [.start 3, .env (.peerClose 0), .resume 2 (.ok .eof), .env (.tick 10 0),
    .resume 3 (.error (.timeout ""))]

/-- A stream that ends without an exception is not reported; the state stays `READY`, and
the heartbeat ends. -/
theorem stream_end_silent : ∃ c, Reaches (robot .plain) (initial ⟨0, 0⟩) c ∧ c.Idle ∧
    c.world.conn.state = .ready ∧ .streamEnded 0 .normal ∈ c.world.log ∧
    c.world.log.count (.onClose 0) = 0 ∧ c.waiting = [] ∧ c.world.tasks.done 3 = true := by
  have hplay : ((robot .plain).play 4 leavingPeer (initial ⟨0, 0⟩)).any (fun c =>
      c.running.isNone && c.world.conn.state = .ready &&
        c.world.log.contains (.streamEnded 0 .normal) && c.world.log.count (.onClose 0) = 0 &&
        c.waiting.isEmpty && c.world.tasks.done 3) = true := by
    decide +kernel
  obtain ⟨c, hc, hs⟩ := (Option.any_eq_true _ _).mp hplay
  simp only [Bool.and_eq_true, Option.isNone_iff_eq_none, decide_eq_true_eq,
    List.contains_iff_mem, List.isEmpty_iff] at hs
  obtain ⟨⟨⟨⟨⟨hidle, hstate⟩, hend⟩, hcount⟩, hwaiting⟩, hdone⟩ := hs
  exact ⟨c, play_run hc, hidle, hstate, hend, hcount, hwaiting, hdone⟩

end KaroX2
