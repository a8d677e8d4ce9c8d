/-
KaroX2/Accounts.lean

What an event stream says about its losses.

Between two acknowledgements the account of a slot is simple: `last_seq` moves by
one for every accepted push with a sequence number, and by the gaps that were
reported.  The exception is `last_seq = 0`, which stands both for "nothing known"
and for "the server starts with 1": the first push is taken as it comes.
-/
import Mathlib.Algebra.GroupWithZero.Nat
import KaroX2.Statuses

namespace KaroX2

open Coop

variable {σ : Setup} {w w' : World} {x : Running Karo} {u : SlotId}

/-! ### The account -/

/-- The sequence numbers of the accepted pushes that have one, newest first. -/
def seqs (l : List Obs) : List Nat :=
  l.filterMap fun
    | .accepted _ push => if push.seq = 0 then none else some push.seq
    | _ => none

/-- The gaps that were reported while the slot was active. -/
def gapSum (l : List Obs) : Nat :=
  ((told l).map fun s => if s.kind = .gap then s.gapCount.getD 0 else 0).sum

/-- The entry is neither an acknowledgement nor a status other than a gap. -/
def Obs.inSession : Obs → Bool
  | .acknowledged _ _ => false
  | .status _ s => s.kind = .gap
  | _ => true

/-- No acknowledgement arrives, and only gaps are reported. -/
def InSession (l : List Obs) : Prop := ∀ o ∈ l, o.inSession = true

instance (l : List Obs) : Decidable (InSession l) := inferInstanceAs (Decidable (∀ o ∈ l, _))

/-- What the account starts from: after `last_seq = 0`, from what comes first. -/
def origin (n : Nat) (l : List Nat) : Nat := if n = 0 then l.getLast?.getD 1 - 1 else n

theorem seqs_append (l l' : List Obs) : seqs (l ++ l') = seqs l ++ seqs l' := List.filterMap_append

theorem told_sum_append (f : StreamStatus → Nat) (l l' : List Obs) :
    ((told (l ++ l')).map f).sum = ((told l).map f).sum + ((told l').map f).sum := by
  rw [told_append, List.map_append, List.sum_append]

/-- An accepted push tells at most the gap before it. -/
theorem told_sum_accepted (f : StreamStatus → Nat) {push : DecodedTopicPush} {gap : Option Nat}
    {l : List Obs} (hl : l = [] ∨ l = [.delivered u push])
    (hf : ∀ g, f { kind := .gap, gapCount := some g } = g) :
    ((told (l ++ .accepted u push :: gapStatus u gap)).map f).sum = gap.getD 0 := by
  rw [told_accepted hl]
  rcases gap with - | g
  · rfl
  · show f { kind := .gap, gapCount := some g } + 0 = g
    rw [hf, Nat.add_zero]

theorem gapSum_append (l l' : List Obs) : gapSum (l ++ l') = gapSum l + gapSum l' :=
  told_sum_append _ l l'

theorem InSession.of_append {l l' : List Obs} (h : InSession (l ++ l')) :
    InSession l ∧ InSession l' :=
  ⟨fun o ho => h o (List.mem_append_left l' ho), fun o ho => h o (List.mem_append_right l ho)⟩

theorem seqs_pos {l : List Obs} {n : Nat} (h : n ∈ seqs l) : n ≠ 0 := by
  obtain ⟨o, -, ho⟩ := List.mem_filterMap.mp h
  cases o with
  | accepted s push =>
    dsimp only at ho
    split at ho
    · cases ho
    · rename_i hn
      obtain rfl := Option.some.inj ho
      exact hn
  | _ => cases ho

/-- From `last_seq = n` over the entries `l` to `last_seq = m`. -/
structure Carried (n : Nat) (l : List Obs) (m : Nat) : Prop where
  still : seqs l = [] → gapSum l = 0 ∧ m = n
  moved : seqs l ≠ [] → m ≠ 0 ∧ m = origin n (seqs l) + gapSum l + (seqs l).length

theorem Carried.nil {n : Nat} : Carried n [] n := ⟨fun _ => ⟨rfl, rfl⟩, fun h => absurd rfl h⟩

theorem Carried.trans {n m k : Nat} {l l' : List Obs} (h : Carried n l m) (h' : Carried m l' k) :
    Carried n (l' ++ l) k := by
  rcases eq_or_ne (seqs l) [] with hl | hl
  · -- nothing was accepted yet
    obtain ⟨hg, rfl⟩ := h.still hl
    have hs : seqs (l' ++ l) = seqs l' := by rw [seqs_append, hl, List.append_nil]
    have hg' : gapSum (l' ++ l) = gapSum l' := by rw [gapSum_append, hg, Nat.add_zero]
    refine ⟨fun he => ?_, fun hne => ?_⟩
    · rw [hs] at he
      rw [hg']
      exact h'.still he
    · rw [hs] at hne ⊢
      rw [hg']
      exact h'.moved hne
  · obtain ⟨hm, he⟩ := h.moved hl
    refine ⟨fun hs => ?_, fun _ => ?_⟩
    · rw [seqs_append] at hs
      exact absurd (List.append_eq_nil_iff.mp hs).2 hl
    · have hlast : origin n (seqs (l' ++ l)) = origin n (seqs l) := by
        unfold origin
        rw [seqs_append, List.getLast?_append_of_ne_nil _ hl]
      rw [hlast, seqs_append, List.length_append, gapSum_append]
      rcases eq_or_ne (seqs l') [] with hl' | hl'
      · obtain ⟨hg', rfl⟩ := h'.still hl'
        rw [hl', hg']
        exact ⟨hm, by simpa using he⟩
      · obtain ⟨hk, he'⟩ := h'.moved hl'
        refine ⟨hk, ?_⟩
        rw [origin, if_neg hm] at he'
        omega

theorem Carried.eq {n m : Nat} {l : List Obs} (h : Carried n l m) :
    m = origin n (seqs l) + gapSum l + (seqs l).length := by
  rcases eq_or_ne (seqs l) [] with hl | hl
  · obtain ⟨hg, rfl⟩ := h.still hl
    rw [hl, hg]
    unfold origin
    split <;> simp_all
  · exact (h.moved hl).2

/-! ### Steps -/

/-- The topic of the slot delivers events. -/
def StaysEvent (σ : Setup) (u : SlotId) : Constraint (robot σ)
  | _, _, .silent _ => True
  | w, _, _ => (w.life u).semantics = .event

/-- The account of the slot between two acknowledgements. -/
structure Accounts (u : SlotId) (w w' : World) : Prop where
  slotCount : w.subs.slotCount ≤ w'.subs.slotCount
  grows : ∃ l, trail u w'.log = l ++ trail u w.log
  carried : ∀ l, trail u w'.log = l ++ trail u w.log → u < w.subs.slotCount → InSession l →
    (∀ resp r, trail u w.log ≠ .acknowledged u resp :: r) →
    Carried (w.life u).lastSeq l (w'.life u).lastSeq

/-- Within a session, no acknowledgement comes to the front of the trail. -/
theorem InSession.front {l r : List Obs} (h : InSession l)
    (hr : ∀ resp r', r ≠ .acknowledged u resp :: r') (resp : DecodedResponse) (r' : List Obs) :
    l ++ r ≠ .acknowledged u resp :: r' := by
  cases l with
  | nil => exact hr resp r'
  | cons o l =>
    rintro he
    obtain rfl : o = .acknowledged u resp := (List.cons.inj he).1
    have := h _ List.mem_cons_self
    cases this

theorem Accounts.of_eq (hs : w.subs.slotCount ≤ w'.subs.slotCount)
    (hn : (w'.life u).lastSeq = (w.life u).lastSeq) (ht : trail u w'.log = trail u w.log) :
    Accounts u w w' := by
  refine ⟨hs, ⟨[], ht⟩, fun l hl _ _ _ => ?_⟩
  obtain rfl : l = [] := List.append_left_eq_self.mp (hl.symm.trans ht)
  rw [hn]
  exact .nil

theorem Accounts.refl : Accounts u w w := .of_eq le_rfl rfl rfl

theorem Accounts.trans {v : World} (h : Accounts u w v) (h' : Accounts u v w') : Accounts u w w' where
  slotCount := h.slotCount.trans h'.slotCount
  grows := by
    obtain ⟨l, hl⟩ := h.grows
    obtain ⟨l', hl'⟩ := h'.grows
    exact ⟨l' ++ l, by rw [hl', hl, List.append_assoc]⟩
  carried := fun m hm hlt hin hfront => by
    obtain ⟨l, hl⟩ := h.grows
    obtain ⟨l', hl'⟩ := h'.grows
    obtain rfl : m = l' ++ l := by
      rw [hl', hl, ← List.append_assoc] at hm
      exact (List.append_cancel_right hm).symm
    obtain ⟨hin', hin⟩ := hin.of_append
    refine (h.carried l hl hlt hin hfront).trans (h'.carried l' hl' (hlt.trans_le h.slotCount) hin' ?_)
    rw [hl]
    exact hin.front hfront

theorem Unmoved.accounts (h : Unmoved u w w') (hl : Later w w') : Accounts u w w' :=
  .of_eq hl.slotCount (by rw [h.life]) h.trail

/-- What an event slot accepts: a push without a sequence number, the first one, or one
that comes after `last_seq`, with what is missing between. -/
theorem checkSeq_accepts {v : Life} {seq n : Nat} {gap : Option Nat} (hs : v.semantics = .event)
    (hc : v.checkSeq seq = .accept n gap) :
    seq = 0 ∧ v.lastSeq = n ∧ none = gap ∨
    seq ≠ 0 ∧ seq = n ∧ (v.lastSeq = 0 ∧ none = gap ∨
      v.lastSeq ≠ 0 ∧ seq = v.lastSeq + gap.getD 0 + 1) := by
  simp only [Life.checkSeq, hs] at hc
  split at hc
  · obtain ⟨hn, hg⟩ := SubSlot.SeqCheck.accept.inj hc
    exact .inl ⟨‹_›, hn, hg⟩
  · refine .inr ⟨‹_›, ?_⟩
    split at hc
    · obtain ⟨hn, hg⟩ := SubSlot.SeqCheck.accept.inj hc
      exact ⟨hn, .inl ⟨‹_›, hg⟩⟩
    · split at hc
      · obtain ⟨hn, rfl⟩ := SubSlot.SeqCheck.accept.inj hc
        exact ⟨hn, .inr ⟨‹_›, ‹_›⟩⟩
      · split at hc
        · obtain ⟨hn, rfl⟩ := SubSlot.SeqCheck.accept.inj hc
          refine ⟨hn, .inr ⟨‹_›, ?_⟩⟩
          rw [Option.getD_some]
          omega
        · split at hc <;> cases hc

theorem seqs_accepted {push : DecodedTopicPush} {gap : Option Nat} {l : List Obs}
    (hl : l = [] ∨ l = [.delivered u push]) :
    seqs (l ++ .accepted u push :: gapStatus u gap) = if push.seq = 0 then [] else [push.seq] := by
  split <;> cases gap <;> rcases hl with rfl | rfl <;> simp_all [seqs, gapStatus]

/-- A push that an event slot accepts. -/
theorem carried_accepted {v : Life} {push : DecodedTopicPush} {n : Nat} {gap : Option Nat} {l : List Obs}
    (hs : v.semantics = .event) (hc : v.checkSeq push.seq = .accept n gap)
    (hl : l = [] ∨ l = [.delivered u push]) :
    Carried v.lastSeq (l ++ .accepted u push :: gapStatus u gap) n := by
  have hseqs : seqs (l ++ .accepted u push :: gapStatus u gap) = _ := seqs_accepted hl
  have hgap : gapSum (l ++ .accepted u push :: gapStatus u gap) = gap.getD 0 :=
    told_sum_accepted _ hl fun _ => rfl
  obtain ⟨hz, rfl, rfl⟩ | ⟨hz, rfl, hcase⟩ := checkSeq_accepts hs hc
  · -- a push without a sequence number
    refine ⟨fun _ => ⟨hgap, rfl⟩, fun hne => absurd ?_ hne⟩
    rw [hseqs, if_pos hz]
  · rw [if_neg hz] at hseqs
    refine ⟨fun he => absurd (hseqs.symm.trans he) (List.cons_ne_nil _ _), fun _ => ⟨hz, ?_⟩⟩
    rw [hseqs, hgap, List.length_singleton]
    unfold origin
    obtain ⟨hfirst, rfl⟩ | ⟨hfirst, hnext⟩ := hcase
    · rw [if_pos hfirst]
      show push.seq = push.seq - 1 + 0 + 1
      omega
    · rw [if_neg hfirst]
      omega

theorem step_accounts {q : List Label} (h : (outline σ).step x q w w')
    (hev : (w.life u).semantics = .event) : Accounts u w w' := by
  obtain ⟨l, hl, hv⟩ := step_evolved (u := u) h
  refine ⟨(outline_step_later h).slotCount, ⟨l, hl⟩, fun m hm hlt hin hfront => ?_⟩
  obtain rfl : m = l := List.append_cancel_right (hm.symm.trans hl)
  generalize w'.life u = v at hv ⊢
  cases hv with
  | kept | retyped | buffered | skipped | acked => exact .nil
  | dispatched push hs => exact ⟨fun _ => ⟨rfl, rfl⟩, fun hne => absurd rfl hne⟩
  | accepted push n gap b l hx hb hc hd => exact carried_accepted hev hc hd
  | activated n kind gap resp hx hlog ha hr h =>
    have hgap : kind = .gap := of_decide_eq_true (hin _ List.mem_cons_self)
    rcases resumeAt_kind _ _ (h.2 hev) with rfl | ⟨rfl, -⟩ <;> cases hgap
  | startedAfresh resp hx hlog ha =>
    obtain ⟨r, hr⟩ := hlog
    exact absurd hr (hfront resp r)
  | paused s hk | closed s hk =>
    have hgap : s.kind = .gap := of_decide_eq_true (hin _ List.mem_cons_self)
    rw [hk] at hgap
    cases hgap

theorem enter_accounts {l : Label} (h : Enters σ x w l w') : Accounts u w w' := by
  obtain ⟨l, hl, hv⟩ := h.started (u := u)
  refine ⟨(outlined.enter h).slotCount, ⟨l, hl⟩, fun m hm hlt hin hfront => ?_⟩
  obtain rfl : m = l := List.append_cancel_right (hm.symm.trans hl)
  generalize w'.life u = v at hv ⊢
  cases hv with
  | kept | registered => exact .nil
  | acknowledged phase ep resp =>
    have := hin _ List.mem_cons_self
    cases this
  | unsendable s hk | closed s hk =>
    have hgap : s.kind = .gap := of_decide_eq_true (hin _ List.mem_cons_self)
    rw [hk] at hgap
    cases hgap
  | created v l hu => exact absurd hu hlt.ne

theorem accounts_guaranteed : Guarantees (outline σ) (StaysEvent σ u) Enrolling
    fun _ => Accounts u where
  refl := fun _ _ => .refl
  step := fun _ ha hs => step_accounts hs ha
  enter := fun _ _ hen => enter_accounts hen
  start := fun _ => start_unmoved.accounts outlined.begun
  resume := resume_unmoved.accounts outlined.resume
  finish := fun _ _ => finish_unmoved.accounts outlined.finish
  env := fun he => (env_unmoved he).accounts (outlined.env he)

/-! ### The acknowledgement -/

/-- What an accepted acknowledgement makes of `last_seq`, where the step shows one. -/
def Activates (u : SlotId) (w w' : World) : Prop :=
  ∀ st resp r, (st.kind = .started ∨ st.kind = .resumed) → (w.life u).semantics = .event →
    trail u w'.log = .status u st :: trail u w.log → trail u w.log = .acknowledged u resp :: r →
    (w'.life u).lastSeq = ((w.life u).resumeAt resp.subNextSeq).1

theorem Unmoved.activates (h : Unmoved u w w') : Activates u w w' := by
  intro st resp r _ _ ht _
  rw [h.trail] at ht
  exact absurd ht (List.cons_ne_self _ _).symm

theorem step_activates {q : List Label} (h : (outline σ).step x q w w') : Activates u w w' := by
  obtain ⟨l, hl, hv⟩ := step_evolved (u := u) h
  intro st resp r hk hev ht hresp
  obtain rfl : l = [.status u st] := List.append_cancel_right (hl.symm.trans ht)
  generalize w'.life u = v at hv ⊢
  generalize hl' : [Obs.status u st] = l at hv
  -- only an activation can have recorded this status
  cases hv with
  | kept | retyped | buffered | skipped | startedAfresh | acked => cases hl'
  | dispatched => simp at hl'
  | accepted push n gap b l hx hb hc hd =>
    rcases hd with rfl | rfl <;> simp at hl'
  | activated n kind gap resp' hx hlog ha hr h =>
    obtain ⟨r', hr'⟩ := hlog
    obtain ⟨-, rfl⟩ := Obs.acknowledged.inj (List.cons.inj (hresp.symm.trans hr')).1
    exact congrArg Prod.fst (h.2 hev)
  | paused s hs | closed s hs =>
    obtain ⟨-, rfl⟩ := Obs.status.inj (List.cons.inj hl').1
    simp [hs] at hk

theorem enter_activates {l : Label} (h : Enters σ x w l w') : Activates u w w' := by
  obtain ⟨m, hm, hv⟩ := h.started (u := u)
  intro st resp r hk hev ht hresp
  obtain rfl : m = [.status u st] := List.append_cancel_right (hm.symm.trans ht)
  generalize w'.life u = v at hv ⊢
  generalize hl' : [Obs.status u st] = m at hv
  cases hv with
  | kept | registered => cases hl'
  | acknowledged => simp at hl'
  | unsendable s hs | closed s hs =>
    obtain ⟨-, rfl⟩ := Obs.status.inj (List.cons.inj hl').1
    simp [hs] at hk
  | created v l hu hv hl =>
    rcases hl with ⟨-, rfl⟩ | ⟨-, s, hs, rfl⟩
    · cases hl'
    · obtain ⟨-, rfl⟩ := Obs.status.inj (List.cons.inj hl').1
      simp [hs] at hk

theorem activates_guaranteed : Guarantees (outline σ) (fun _ _ _ => True) Enrolling
    fun _ => Activates u where
  refl := fun _ _ => Unmoved.refl.activates
  step := fun _ _ hs => step_activates hs
  enter := fun _ _ hen => enter_activates hen
  start := fun _ => start_unmoved.activates
  resume := resume_unmoved.activates
  finish := fun _ _ => finish_unmoved.activates
  env := fun he => (env_unmoved he).activates

/-- The account starts with the sequence number that the acknowledgement names.
Where it confirms the number that was asked for, `last_seq` stays and has to be the
one before; and after `last_seq = 0` the first push has to be the one named. -/
def Agrees (v : Life) (K : Nat) (l : List Nat) : Prop :=
  if v.expectedResumeSeq = K ∧ v.lastSeq ≠ 0 then v.lastSeq + 1 = K
  else if v.expectedResumeSeq = K ∨ K = 1 then l.getLast?.getD 1 = K
  else True

theorem agrees_iff {v : Life} {K : Nat} {l : List Obs} (hK : 1 ≤ K) :
    Agrees v K (seqs l) ↔ origin (v.resumeAt K).1 (seqs l) + 1 = K := by
  -- sequence numbers of events begin at one
  have hfirst : 1 ≤ (seqs l).getLast?.getD 1 := by
    cases hl : (seqs l).getLast? with
    | none => exact le_rfl
    | some s => exact Nat.one_le_iff_ne_zero.mpr (seqs_pos (List.mem_of_getLast? hl))
  have hn : (v.resumeAt K).1 = if v.expectedResumeSeq = K then v.lastSeq else K - 1 := by
    unfold Life.resumeAt
    repeat' split
    all_goals first | rfl | omega
  rw [hn]
  unfold Agrees origin
  generalize (seqs l).getLast?.getD 1 = f at *
  -- the three cases of `Agrees`, in which `last_seq` is kept, zero, or `K - 1`
  by_cases he : v.expectedResumeSeq = K
  · by_cases hz : v.lastSeq = 0
    · simp only [he, hz, ne_eq, not_true, and_false, if_false, if_true, true_or]
      omega
    · simp only [he, hz, ne_eq, not_false_eq_true, and_self, if_true, if_false]
  · by_cases h1 : K = 1
    · subst h1
      simp only [he, false_and, if_false, or_true, if_true, Nat.sub_self]
      omega
    · have hk : K - 1 ≠ 0 := by omega
      simp only [he, h1, hk, false_and, if_false, or_self, true_iff]
      omega

/-- **Loss at the start of an event stream**: after an accepted acknowledgement that
names `K`, the reported gaps add up to what `last_seq` has moved by beyond the accepted
pushes, if and only if the account starts with `K`. -/
theorem losses_accounted {clock : Clock} {c₀ c d : Config Karo} {a : Action Karo EnvStep}
    {st : StreamStatus} {resp : DecodedResponse} {r l : List Obs}
    (hc₀ : Reaches (robot σ) (initial clock) c₀) (hs : Step (robot σ) c₀ a c)
    (hu : u < c.world.subs.slotCount) (hev : (c₀.world.life u).semantics = .event)
    (hresp : trail u c₀.world.log = .acknowledged u resp :: r)
    (hack : trail u c.world.log = .status u st :: trail u c₀.world.log)
    (hst : st.kind = .started ∨ st.kind = .resumed) (hK : 1 ≤ resp.subNextSeq)
    (hd : Run (robot σ) (StaysEvent σ u) c d)
    (hl : trail u d.world.log = l ++ trail u c.world.log) (hin : InSession l) :
    (gapSum l : Int) = (d.world.life u).lastSeq + 1 - resp.subNextSeq - (seqs l).length ↔
      Agrees (c₀.world.life u) resp.subNextSeq (seqs l) := by
  have hkept : Keeps (outline σ) (fun _ _ _ => True) .trivial Enrolling := enrolling_kept
  have hc₀ := outlined.traced_run hkept (.initial enrolling_initial) hc₀
  have hc := outlined.traced_step hkept hc₀ hs trivial
  have hn : (c.world.life u).lastSeq = ((c₀.world.life u).resumeAt resp.subNextSeq).1 :=
    activates_guaranteed.holds hc₀ hs trivial st resp r hst hev hack hresp
  let R : World → World → Prop := Accounts u
  have hrel : R c.world d.world :=
    accounts_guaranteed.along outlined (hkept.mono fun _ _ _ _ => trivial) (fun _ => Accounts.refl)
      Accounts.trans id hc hd
  -- the status is in front, so the next acknowledgement is a later one
  have hfront : ∀ resp' r', trail u c.world.log ≠ .acknowledged u resp' :: r' := by
    intro resp' r' he
    rw [hack] at he
    cases he
  have hm := (Accounts.carried hrel l hl hu hin hfront).eq
  rw [agrees_iff hK, ← hn]
  omega

/-! ### Scripts -/

/-- A subscription to a topic that delivers events waits for its acknowledgement. -/
def subscribedEvents : List (Cmd (robot σ)) :=
  connectedTo [⟨"robot.events", .event⟩] ++
  [.env (.call (.subscribe "robot.events" ⟨1⟩)), .start 4, .resume 4 (.ok .done)]

/-- The acknowledgement that accepts the subscription and names `K`. -/
def accepting (K : Nat) : DecodedResponse :=
  { requestId := 2, success := true, hasSubscribe := true, subAccepted := true, subNextSeq := K }

/-- A push of the topic. -/
def event (n : Nat) : DecodedTopicPush := { topic := "robot.events", seq := n }

/-- The reader has the acknowledgement, and is about to activate the slot. -/
def acknowledging (K : Nat) : Option (Config Karo) :=
  ((robot .plain).play 4 subscribedEvents (initial ⟨0, 0⟩)).bind fun c =>
    ((robot .plain).play 0 [.resume 2 (.ok (.inbound (.frame 0 (some (accepting K)) none)))] c).bind
      ((robot .plain).smalls 8)

theorem acknowledging_run {K : Nat} {c : Config Karo} (h : acknowledging K = some c) :
    Reaches (robot .plain) (initial ⟨0, 0⟩) c := by
  obtain ⟨c₁, h₁, h⟩ := Option.bind_eq_some_iff.mp h
  obtain ⟨c₂, h₂, h⟩ := Option.bind_eq_some_iff.mp h
  exact ((play_run h₁).trans (play_run h₂)).trans (smalls_run h)

/-- The check that the topic delivers events. -/
def eventsOnly : Check (robot .plain) := fun w _ _ => (w.life 0).semantics = .event

theorem eventsOnly_stays {w : World} {o : Multiset (Site Karo)} {a : Action Karo EnvStep}
    (h : eventsOnly.allows w o a) : StaysEvent .plain 0 w o a := by
  cases a with
  | silent => trivial
  | _ =>
    show (w.life 0).semantics = .event
    exact of_decide_eq_true h

/-- After an acknowledgement that names `K`, the pushes with these sequence numbers
arrive. -/
def received (K : Nat) (ns : List Nat) : Option (Config Karo × Config Karo × Config Karo) :=
  (acknowledging K).bind fun c₀ => ((robot .plain).small c₀).bind fun (_, c) =>
    ((Sys.settle eventsOnly 8 c).bind (Sys.playChecked eventsOnly 4
      (ns.map fun n => .resume 2 (.ok (.inbound (.frame 0 none (some (event n)))))))).map
      fun d => (c₀, c, d)

theorem received_run {K : Nat} {ns : List Nat} {c₀ c d : Config Karo}
    (h : received K ns = some (c₀, c, d)) : Reaches (robot .plain) (initial ⟨0, 0⟩) c₀ ∧
      (∃ a, Step (robot .plain) c₀ a c) ∧ Run (robot .plain) (StaysEvent .plain 0) c d := by
  obtain ⟨e₀, h₀, h⟩ := Option.bind_eq_some_iff.mp h
  obtain ⟨⟨a, e⟩, h₁, h⟩ := Option.bind_eq_some_iff.mp h
  obtain ⟨f, hf, he⟩ := Option.map_eq_some_iff.mp h
  obtain ⟨g, hg, hd⟩ := Option.bind_eq_some_iff.mp hf
  obtain ⟨rfl, rfl, rfl⟩ : e₀ = c₀ ∧ e = c ∧ f = d := by simpa using he
  refine ⟨acknowledging_run h₀, ⟨a, small_step h₁⟩, ?_⟩
  exact ((settle_run _ hg).trans (playChecked_run _ hd)).mono fun _ _ _ => eventsOnly_stays

theorem losses_accounted_second : ∃ c d : Config Karo, Reaches (robot .plain) (initial ⟨0, 0⟩) c ∧
    (d.world.life 0).lastSeq = 4 ∧ ∃ l, trail 0 d.world.log = l ++ trail 0 c.world.log ∧
      seqs l = [4, 2] ∧ (gapSum l : Int) = (d.world.life 0).lastSeq + 1 - 2 - (seqs l).length := by
  let l : List Obs := [.accepted 0 (event 4), .status 0 { kind := .gap, gapCount := some 1 },
    .accepted 0 (event 2)]
  have hplay : (received 2 [2, 4]).any (fun (c₀, c, d) => c.world.subs.slotCount = 1 &&
      (c₀.world.life 0).semantics = .event && (c₀.world.life 0).expectedResumeSeq = 0 &&
      trail 0 c₀.world.log = [.acknowledged 0 (accepting 2)] &&
      trail 0 c.world.log = .status 0 { kind := .started } :: trail 0 c₀.world.log &&
      trail 0 d.world.log = l ++ trail 0 c.world.log && (d.world.life 0).lastSeq = 4) = true := by
    decide +kernel
  obtain ⟨⟨c₀, c, d⟩, hr, hs⟩ := (Option.any_eq_true _ _).mp hplay
  simp only [Bool.and_eq_true, decide_eq_true_eq] at hs
  obtain ⟨⟨⟨⟨⟨⟨hn, hev⟩, he⟩, h₀⟩, hc⟩, hd⟩, hlast⟩ := hs
  obtain ⟨hreach, ⟨a, hstep⟩, hrun⟩ := received_run hr
  refine ⟨c, d, hreach.tail ⟨a, hstep, trivial⟩, hlast, l, hd, rfl, ?_⟩
  refine (losses_accounted hreach hstep (by rw [hn]; exact one_pos) hev h₀ hc (.inl rfl)
    (by decide) hrun hd (by decide)).mpr ?_
  simp [Agrees, he, accepting]

theorem first_loss_unreported : ∃ c₀ c d : Config Karo,
    Reaches (robot .plain) (initial ⟨0, 0⟩) c₀ ∧ (∃ a, Step (robot .plain) c₀ a c) ∧
    Run (robot .plain) (StaysEvent .plain 0) c d ∧
    trail 0 c₀.world.log = [.acknowledged 0 (accepting 1)] ∧
    trail 0 c.world.log = .status 0 { kind := .started } :: trail 0 c₀.world.log ∧
    ∃ l, trail 0 d.world.log = l ++ trail 0 c.world.log ∧ InSession l ∧
      (gapSum l : Int) ≠ (d.world.life 0).lastSeq + 1 - 1 - (seqs l).length := by
  let l : List Obs := [.accepted 0 (event 3)]
  have hplay : (received 1 [3]).any (fun (c₀, c, d) =>
      trail 0 c₀.world.log = [.acknowledged 0 (accepting 1)] &&
      trail 0 c.world.log = .status 0 { kind := .started } :: trail 0 c₀.world.log &&
      trail 0 d.world.log = l ++ trail 0 c.world.log && (d.world.life 0).lastSeq = 3) = true := by
    decide +kernel
  obtain ⟨⟨c₀, c, d⟩, hr, hs⟩ := (Option.any_eq_true _ _).mp hplay
  simp only [Bool.and_eq_true, decide_eq_true_eq] at hs
  obtain ⟨⟨⟨h₀, hc⟩, hd⟩, hlast⟩ := hs
  obtain ⟨hreach, hstep, hrun⟩ := received_run hr
  refine ⟨c₀, c, d, hreach, hstep, hrun, h₀, hc, l, hd, by decide, ?_⟩
  rw [hlast]
  decide

end KaroX2
