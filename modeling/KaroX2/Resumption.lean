/-
KaroX2/Resumption.lean

Event streams across sessions.

A resumption asks for what follows `last_seq`, and the acknowledgement accounts for
what the robot cannot replay.  The account is right if the number that was asked for
is still the one after `last_seq` when the acknowledgement comes.
-/
import KaroX2.Accounts

namespace KaroX2

open Coop

variable {σ : Setup} {w w' : World} {x : Running Karo} {u : SlotId}

/-! ### The condition -/

/-- The acknowledgement that is being handled for the slot. -/
def World.handling (w : World) (u : SlotId) : Option DecodedResponse :=
  match trail u w.log with
  | .acknowledged _ resp :: _ => some resp
  | _ => none

theorem handling_of_trail {resp : DecodedResponse}
    (h : ∃ l, trail u w.log = .acknowledged u resp :: l) : w.handling u = some resp := by
  obtain ⟨l, hl⟩ := h
  unfold World.handling
  rw [hl]

/-- The topic delivers events, and every acknowledgement accepts the subscription with
a sequence number not below the one that was asked for. -/
def ResumesEvents (σ : Setup) (u : SlotId) : Constraint (robot σ)
  | _, _, .silent _ => True
  | w, _, _ => (w.life u).semantics = .event ∧ ∀ resp ∈ w.handling u,
      resp.success = true ∧ resp.subAccepted = true ∧ (w.life u).expectedResumeSeq ≤ resp.subNextSeq

/-- When an acknowledgement is handled, the number that was asked for is the one after
`last_seq`, or the acknowledgement confirms it. -/
def Continues (σ : Setup) (u : SlotId) : Constraint (robot σ)
  | _, _, .silent _ => True
  | w, _, _ => ∀ resp ∈ w.handling u,
      (w.life u).expectedResumeSeq = (w.life u).lastSeq + 1 ∨
        (w.life u).expectedResumeSeq = resp.subNextSeq ∧ (w.life u).expectedResumeSeq ≠ 0

/-! ### The account -/

/-- The losses that were reported, in a session or on its resumption. -/
def lostSum (l : List Obs) : Nat :=
  ((told l).map fun s => if s.kind = .gap ∨ s.kind = .resumed then s.gapCount.getD 0 else 0).sum

theorem lostSum_append (l l' : List Obs) : lostSum (l ++ l') = lostSum l + lostSum l' :=
  told_sum_append _ l l'

/-- From `last_seq = n` over the entries `l` to `last_seq = m`: the accepted sequence
numbers, newest first, go down from `m` and stay above `n`. -/
structure Counted (n : Nat) (l : List Obs) (m : Nat) : Prop where
  le : n ≤ m
  sorted : (seqs l).Pairwise (· > ·)
  between : ∀ k ∈ seqs l, n < k ∧ k ≤ m
  total : m = n + (seqs l).length + lostSum l

/-- Nothing is accepted. -/
theorem Counted.of_none {n m : Nat} {l : List Obs} (hs : seqs l = []) (hm : m = n + lostSum l) :
    Counted n l m := by
  refine ⟨?_, ?_, ?_, ?_⟩
  · omega
  · rw [hs]
    exact .nil
  · rw [hs]
    simp
  · rw [hs, List.length_nil]
    omega

theorem Counted.nil {n : Nat} : Counted n [] n := .of_none rfl rfl

theorem Counted.trans {n m k : Nat} {l l' : List Obs} (h : Counted n l m) (h' : Counted m l' k) :
    Counted n (l' ++ l) k := by
  have hle := h.le
  have hle' := h'.le
  refine ⟨hle.trans hle', ?_, ?_, ?_⟩
  · rw [seqs_append]
    refine List.pairwise_append.mpr ⟨h'.sorted, h.sorted, fun a ha b hb => ?_⟩
    have hab := (h'.between a ha).1
    have hbm := (h.between b hb).2
    omega
  · intro j hj
    rw [seqs_append] at hj
    rcases List.mem_append.mp hj with hj | hj
    · have := h'.between j hj
      omega
    · have := h.between j hj
      omega
  · rw [seqs_append, List.length_append, lostSum_append]
    have ht := h.total
    have ht' := h'.total
    omega

/-- A push that an event slot accepts once it knows where it is. -/
theorem counted_accepted {v : Life} {push : DecodedTopicPush} {n : Nat} {gap : Option Nat} {l : List Obs}
    (hs : v.semantics = .event) (hv : 1 ≤ v.lastSeq) (hc : v.checkSeq push.seq = .accept n gap)
    (hl : l = [] ∨ l = [.delivered u push]) :
    Counted v.lastSeq (l ++ .accepted u push :: gapStatus u gap) n := by
  have hseqs : seqs (l ++ .accepted u push :: gapStatus u gap) = _ := seqs_accepted hl
  have hlost : lostSum (l ++ .accepted u push :: gapStatus u gap) = gap.getD 0 :=
    told_sum_accepted _ hl fun _ => rfl
  obtain ⟨hz, rfl, rfl⟩ | ⟨hz, rfl, hcase⟩ := checkSeq_accepts hs hc
  · refine .of_none (hseqs.trans (if_pos hz)) ?_
    rw [hlost]
    rfl
  -- the first push is excluded, as `last_seq` is positive
  · rw [if_neg hz] at hseqs
    obtain ⟨hfirst, -⟩ | ⟨-, hnext⟩ := hcase
    · omega
    · have hlt : v.lastSeq < push.seq := by omega
      refine ⟨hlt.le, ?_, ?_, ?_⟩
      · rw [hseqs]
        exact List.pairwise_singleton _ _
      · rw [hseqs]
        intro k hk
        obtain rfl := List.mem_singleton.mp hk
        exact ⟨hlt, le_rfl⟩
      · rw [hseqs, hlost, List.length_singleton]
        omega

/-- An acknowledgement that resumes the stream. -/
theorem counted_resumed {v : Life} {K n : Nat} {kind : StreamStatusKind} {gap : Option Nat}
    (h : (n, kind, gap) = v.resumeAt K) (hK : v.expectedResumeSeq ≤ K)
    (he : v.expectedResumeSeq = v.lastSeq + 1 ∨ v.expectedResumeSeq = K ∧ v.expectedResumeSeq ≠ 0) :
    Counted v.lastSeq [.status u { kind := kind, gapCount := gap }] n := by
  refine .of_none rfl ?_
  unfold Life.resumeAt at h
  have hne : v.expectedResumeSeq ≠ 0 := by omega
  rw [if_neg hne] at h
  -- the server resumes where it was asked to, or later
  split at h
  · obtain ⟨rfl, rfl, rfl⟩ : n = v.lastSeq ∧ kind = .resumed ∧ gap = some 0 := by simpa using h
    rfl
  · rename_i hk
    rw [if_pos (by omega)] at h
    obtain ⟨rfl, rfl, rfl⟩ : n = K - 1 ∧ kind = .resumed ∧ gap = some (K - v.expectedResumeSeq) := by
      simpa using h
    show K - 1 = v.lastSeq + (K - v.expectedResumeSeq + 0)
    omega

/-! ### Steps -/

/-- The account of the slot over sessions. -/
structure Continued (u : SlotId) (w w' : World) : Prop where
  slotCount : w.subs.slotCount ≤ w'.subs.slotCount
  counted : ∃ l, trail u w'.log = l ++ trail u w.log ∧ (u < w.subs.slotCount →
    1 ≤ (w.life u).lastSeq → Counted (w.life u).lastSeq l (w'.life u).lastSeq)

theorem Continued.refl : Continued u w w := ⟨le_rfl, [], rfl, fun _ _ => .nil⟩

theorem Continued.trans {v : World} (h : Continued u w v) (h' : Continued u v w') :
    Continued u w w' := by
  obtain ⟨l, hl, hc⟩ := h.counted
  obtain ⟨l', hl', hc'⟩ := h'.counted
  refine ⟨h.slotCount.trans h'.slotCount, l' ++ l, by rw [hl', hl, List.append_assoc], ?_⟩
  intro hlt hn
  have hfirst := hc hlt hn
  exact hfirst.trans (hc' (hlt.trans_le h.slotCount) (hn.trans hfirst.le))

theorem Unmoved.continued (h : Unmoved u w w') (hl : Later w w') : Continued u w w' := by
  refine ⟨hl.slotCount, [], h.trail, fun _ _ => ?_⟩
  rw [h.life]
  exact .nil

/-- Statuses that report no loss. -/
theorem counted_status {n : Nat} {s : StreamStatus} (hg : s.kind ≠ .gap) (hr : s.kind ≠ .resumed) :
    Counted n [.status u s] n := by
  refine .of_none rfl ?_
  unfold lostSum
  simp [told, hg, hr]

/-- Both conditions hold. -/
def ContinuesEvents (σ : Setup) (u : SlotId) : Constraint (robot σ) :=
  fun w o a => ResumesEvents σ u w o a ∧ Continues σ u w o a

theorem step_continued {q : List Label} (h : (outline σ).step x q w w')
    (hr : (w.life u).semantics = .event ∧ ∀ resp ∈ w.handling u,
      resp.success = true ∧ resp.subAccepted = true ∧ (w.life u).expectedResumeSeq ≤ resp.subNextSeq)
    (hc : ∀ resp ∈ w.handling u, (w.life u).expectedResumeSeq = (w.life u).lastSeq + 1 ∨
        (w.life u).expectedResumeSeq = resp.subNextSeq ∧ (w.life u).expectedResumeSeq ≠ 0) :
    Continued u w w' := by
  obtain ⟨l, hl, hv⟩ := step_evolved (u := u) h
  obtain ⟨hev, hr⟩ := hr
  refine ⟨(outline_step_later h).slotCount, l, hl, fun hlt hn => ?_⟩
  generalize w'.life u = v at hv ⊢
  cases hv with
  | kept | retyped | buffered | skipped | acked => exact .nil
  | dispatched => exact .of_none rfl rfl
  | accepted push n gap b l hx hb hcheck hd => exact counted_accepted hev hn hcheck hd
  | activated n kind gap resp hx hlog ha hreg h =>
    have hm : resp ∈ w.handling u := handling_of_trail hlog
    exact counted_resumed (h.2 hev) (hr resp hm).2.2 (hc resp hm)
  | startedAfresh resp hx hlog ha =>
    have hm : resp ∈ w.handling u := handling_of_trail hlog
    -- an acknowledgement that accepts does not start afresh
    rw [(hr resp hm).2.1] at ha
    cases ha
  | paused s hk | closed s hk => exact counted_status (by simp [hk]) (by simp [hk])

theorem enter_continued {l : Label} (h : Enters σ x w l w') : Continued u w w' := by
  obtain ⟨l, hl, hv⟩ := h.started (u := u)
  refine ⟨(outlined.enter h).slotCount, l, hl, fun hlt hn => ?_⟩
  generalize w'.life u = v at hv ⊢
  cases hv with
  | kept | registered => exact .nil
  | acknowledged => exact .of_none rfl rfl
  | unsendable s hk | closed s hk => exact counted_status (by simp [hk]) (by simp [hk])
  | created v l hu => exact absurd hu hlt.ne

theorem continued_guaranteed : Guarantees (outline σ) (ContinuesEvents σ u) Enrolling
    fun _ => Continued u where
  refl := fun _ _ => .refl
  step := fun _ ha hs => step_continued hs ha.1 ha.2
  enter := fun _ _ hen => enter_continued hen
  start := fun _ => start_unmoved.continued outlined.begun
  resume := resume_unmoved.continued outlined.resume
  finish := fun _ _ => finish_unmoved.continued outlined.finish
  env := fun he => (env_unmoved he).continued (outlined.env he)

/-- The check that the topic of the slot delivers events, and that it is resumed. -/
def resuming (u : SlotId) : Check (robot σ) := fun w _ _ =>
  (w.life u).semantics = .event && (w.handling u).all fun resp =>
    resp.success && resp.subAccepted && (w.life u).expectedResumeSeq ≤ resp.subNextSeq

theorem resuming_resumes {o : Multiset (Site Karo)} {a : Action Karo EnvStep}
    (h : (resuming (σ := σ) u).allows w o a) : ResumesEvents σ u w o a := by
  cases a with
  | silent => trivial
  | _ =>
    have h : resuming (σ := σ) u w o _ = true := h
    simp only [resuming, Bool.and_eq_true, decide_eq_true_eq, Option.all_eq_true] at h
    exact ⟨h.1, fun resp hm => ⟨(h.2 resp hm).1.1, (h.2 resp hm).1.2, (h.2 resp hm).2⟩⟩

/-- The check that it goes on where it was asked to, as well. -/
def continuing (u : SlotId) : Check (robot σ) := fun w o a =>
  resuming u w o a && (w.handling u).all fun resp =>
    (w.life u).expectedResumeSeq = (w.life u).lastSeq + 1 ||
      (w.life u).expectedResumeSeq = resp.subNextSeq && (w.life u).expectedResumeSeq ≠ 0

theorem continuing_continues {o : Multiset (Site Karo)} {a : Action Karo EnvStep}
    (h : (continuing (σ := σ) u).allows w o a) : ContinuesEvents σ u w o a := by
  cases a with
  | silent => exact ⟨trivial, trivial⟩
  | _ =>
    obtain ⟨hr, hc⟩ := Bool.and_eq_true_iff.mp (show continuing (σ := σ) u w o _ = true from h)
    refine ⟨resuming_resumes hr, fun resp hm => ?_⟩
    simpa using (Option.all_eq_true _ _).mp hc resp hm

/-- A frame with a response, and a frame with a push. -/
def responds (t : TaskId) (c : WsId) (resp : DecodedResponse) : Cmd (robot σ) :=
  .resume t (.ok (.inbound (.frame c (some resp) none)))

def pushes (t : TaskId) (c : WsId) (n : Nat) : Cmd (robot σ) :=
  .resume t (.ok (.inbound (.frame c none (some (event n)))))

/-- The handshake response to the request `rid`. -/
def shaken (rid : Nat) : DecodedResponse :=
  { requestId := rid, success := true, hasHandshake := true,
    availableTopics := [⟨"robot.events", .event⟩] }

/-- The connection `c` ends, and the task `t` reconnects up to the handshake, which has
the request id `rid`; the reader is the task `t + 1`. -/
def reconnects (reader : TaskId) (c : WsId) (t : TaskId) (rid : Nat) : List (Cmd (robot σ)) :=
  [.env (.peerClose c), .resume reader (.error (.connectionClosed 1006 "")), .start t,
    .resume t (.ok .done), .resume t (.ok .done), .resume t (.ok .done), .start (t + 1),
    responds (t + 1) (c + 1) (shaken rid), .resume t (.ok .done)]

/-- An event slot that has accepted the push 2. -/
def acceptedOnce : List (Cmd (robot .plain)) :=
  subscribedEvents ++ [responds 2 0 (accepting 2), pushes 2 0 2]

/-- The next session resumes the slot at 5, and the push that follows is 6. -/
def resumedInGap : List (Cmd (robot .plain)) :=
  reconnects 2 0 6 3 ++ [.resume 6 (.ok .done),
    responds 7 1 { accepting 5 with requestId := 4 }, pushes 7 1 6]

/-- A loop of `_resubscribe_all_after_reconnect` waits for its first send while its
session ends.  In the next session the event slot is acknowledged, and its buffer is
being drained. -/
def drainedInCallback : List (Cmd (robot .inlined)) :=
  [.env (.call (.subscribe "robot.state" ⟨1⟩)), .start 0,
    .env (.call (.subscribe "robot.events" ⟨1⟩)), .start 1, .env (.call .connect), .start 2, .start 3,
    .resume 3 (.ok .done), .resume 3 (.ok .done), .start 4, responds 4 0 (shaken 1),
    .resume 3 (.ok .done), .resume 3 (.ok .done), .resume 3 (.ok .done)] ++
  reconnects 4 0 6 4 ++ reconnects 7 1 9 6 ++
  [.resume 9 (.ok .done), .resume 9 (.ok .done), pushes 10 2 5, pushes 10 2 6,
    responds 10 2 { accepting 5 with requestId := 8 }]

/-- The old loop goes on and asks for the event slot again, the drain accepts another
push, and the acknowledgement names a later one. -/
def resubscribedLate : List (Cmd (robot .inlined)) :=
  [.resume 6 (.ok .done), .resume 6 (.ok .done), .resume 10 (.ok .done), .resume 10 (.ok .done),
    responds 10 2 { accepting 8 with requestId := 9 }]

end KaroX2
