/-
KaroX2/Requests.lean

Requests and their responses, in every run.

The tables of requests and the stages of all tasks fit together (`Requests`): every page
is sound, different tasks hold different requests, and the dealings with the peer are in
order.  From this, whatever the peer sends and the scheduler does: the five tables agree;
an id is sent at most once; a caller gets the response to the command that it has sent,
and only if one was received; and a caller that waits for a response has its timer armed.
-/
import KaroX2.Walk.Requests
import KaroX2.Coop.Staging
import KaroX2.Lookup

namespace KaroX2

open Coop Py

variable {σ : Setup} {w w' : World} {Q : DecodedResponse → Prop} {t : TaskId} {g g' : Stake}

/-! ### Dealings -/

/-- The ids of the commands that were sent. -/
def sentIds (log : List Obs) : List Nat :=
  log.filterMap fun
    | .sent _ cmd => some cmd.requestId
    | _ => none

/-- The ids of the commands whose callers have got a response. -/
def answeredIds (log : List Obs) : List Nat :=
  log.filterMap fun
    | .answered _ cmd _ => some cmd.requestId
    | _ => none

/-- Each id is sent once, and answered once, after it was sent, by a response to it that
satisfies `Q`. -/
def InOrder (Q : DecodedResponse → Prop) : List Obs → Prop
  | [] => True
  | .sent _ cmd :: l => cmd.requestId ∉ sentIds l ∧ InOrder Q l
  | .answered c cmd resp :: l => resp.requestId = cmd.requestId ∧ Q resp ∧ .sent c cmd ∈ l ∧
      cmd.requestId ∉ answeredIds l ∧ InOrder Q l
  | _ :: l => InOrder Q l

theorem mem_sentIds {log : List Obs} {rid : Nat} :
    rid ∈ sentIds log ↔ ∃ c cmd, .sent c cmd ∈ log ∧ cmd.requestId = rid := by
  simp only [sentIds, List.mem_filterMap]
  constructor
  · rintro ⟨o, ho, h⟩
    cases o with
    | sent c cmd => exact ⟨c, cmd, ho, Option.some.inj h⟩
    | _ => cases h
  · rintro ⟨c, cmd, ho, rfl⟩
    exact ⟨_, ho, rfl⟩

theorem mem_answeredIds {log : List Obs} {rid : Nat} :
    rid ∈ answeredIds log ↔ ∃ c cmd resp, .answered c cmd resp ∈ log ∧ cmd.requestId = rid := by
  simp only [answeredIds, List.mem_filterMap]
  constructor
  · rintro ⟨o, ho, h⟩
    cases o with
    | answered c cmd resp => exact ⟨c, cmd, resp, ho, Option.some.inj h⟩
    | _ => cases h
  · rintro ⟨c, cmd, resp, ho, rfl⟩
    exact ⟨_, ho, rfl⟩

theorem InOrder.of_append {l l' : List Obs} (h : InOrder Q (l ++ l')) : InOrder Q l' := by
  induction l with
  | nil => exact h
  | cons o l ih =>
    refine ih ?_
    cases o with
    | sent => exact h.2
    | answered => exact h.2.2.2.2
    | _ => exact h

/-- What was answered was sent. -/
theorem InOrder.sent_of_answered {log : List Obs} (h : InOrder Q log) {rid : Nat}
    (hr : rid ∈ answeredIds log) : rid ∈ sentIds log := by
  obtain ⟨c, cmd, resp, ho, rfl⟩ := mem_answeredIds.mp hr
  obtain ⟨l, l', rfl⟩ := List.append_of_mem ho
  have hsent : Obs.sent c cmd ∈ l' := h.of_append.2.2.1
  refine mem_sentIds.mpr ⟨c, cmd, ?_, rfl⟩
  exact List.mem_append_right l (List.mem_cons_of_mem _ hsent)

/-! ### Stages and the world -/

/-- The request that the task holds. -/
def Stake.rid? : Stake → Option Nat
  | .drawn rid => some rid
  | g => g.owned.map Prod.snd

/-- What the holder of a request knows. -/
def Stake.Stands (w : World) : Stake → Prop
  | .idle => True
  | .drawn rid => rid < w.rpc.nextRequestId ∧ w.page rid = {} ∧ rid ∉ sentIds (dealings w.log) ∧
      rid ∉ answeredIds (dealings w.log)
  | .opened k rid => rid < w.rpc.nextRequestId ∧ k.Fits rid (w.page rid) ∧
      rid ∉ sentIds (dealings w.log) ∧ rid ∉ answeredIds (dealings w.log)
  | .sending k _ cmd => cmd.requestId < w.rpc.nextRequestId ∧
      k.Fits cmd.requestId (w.page cmd.requestId) ∧ cmd.requestId ∉ sentIds (dealings w.log) ∧
      cmd.requestId ∉ answeredIds (dealings w.log)
  | .sent k c cmd => cmd.requestId < w.rpc.nextRequestId ∧
      k.Fits cmd.requestId (w.page cmd.requestId) ∧ .sent c cmd ∈ dealings w.log ∧
      cmd.requestId ∉ answeredIds (dealings w.log)

theorem Kind.Fits.ages {k : Kind} {rid : Nat} {p p' : Page} (h : k.Fits rid p) (ha : p.Ages p') :
    k.Fits rid p' := by
  have htopic : p.topic = none → p'.topic = none := fun ht => ha.topic.elim (·.trans ht) id
  cases k with
  | plain => trivial
  | call =>
    obtain ⟨ht, hh, hr⟩ := h
    refine ⟨htopic ht, fun x hx => ?_, ?_⟩
    · rcases ha.request with hreq | ⟨hnone, -⟩
      · exact hh x (hreq ▸ hx)
      · cases hnone.symm.trans hx
    · rcases hr with hr | hd
      · rcases ha.request with hreq | ⟨-, hdone⟩
        · exact .inl (hreq ▸ hr)
        · exact .inr (hdone hr)
      · exact .inr (ha.future hd ▸ hd)
  | ping =>
    refine ⟨htopic h.1, fun x hx => ?_⟩
    rcases ha.request with hreq | ⟨hnone, -⟩
    · exact h.2 x (hreq ▸ hx)
    · cases hnone.symm.trans hx
  | subscription =>
    have hnone : p.request = none := h
    exact ha.request.elim (·.trans hnone) And.left

/-- What happens to other requests does not matter to the holder of one. -/
theorem Stake.Stands.later (h : g.Stands w) (hn : w.rpc.nextRequestId ≤ w'.rpc.nextRequestId)
    (hp : ∀ rid, g.rid? = some rid → (w.page rid).Ages (w'.page rid))
    (hd : dealings w'.log = dealings w.log ∨ ∃ o, dealings w'.log = o :: dealings w.log ∧
      ∀ rid, g.rid? = some rid → rid ∉ sentIds [o] ∧ rid ∉ answeredIds [o]) : g.Stands w' := by
  have hmem : ∀ o ∈ dealings w.log, o ∈ dealings w'.log := by
    intro o ho
    rcases hd with hd | ⟨x, hd, -⟩
    · rw [hd]
      exact ho
    · rw [hd]
      exact List.mem_cons_of_mem x ho
  have hsent : ∀ rid, g.rid? = some rid → rid ∉ sentIds (dealings w.log) →
      rid ∉ sentIds (dealings w'.log) := by
    intro rid hg hno hin
    rcases hd with hd | ⟨x, hd, hx⟩
    · exact hno (hd ▸ hin)
    · rw [hd, ← List.singleton_append, sentIds, List.filterMap_append] at hin
      exact (List.mem_append.mp hin).elim (hx rid hg).1 hno
  have hanswered : ∀ rid, g.rid? = some rid → rid ∉ answeredIds (dealings w.log) →
      rid ∉ answeredIds (dealings w'.log) := by
    intro rid hg hno hin
    rcases hd with hd | ⟨x, hd, hx⟩
    · exact hno (hd ▸ hin)
    · rw [hd, ← List.singleton_append, answeredIds, List.filterMap_append] at hin
      exact (List.mem_append.mp hin).elim (hx rid hg).2 hno
  cases g with
  | idle => trivial
  | drawn rid =>
    exact ⟨h.1.trans_le hn, (hp rid rfl).blank h.2.1, hsent _ rfl h.2.2.1, hanswered _ rfl h.2.2.2⟩
  | opened k rid =>
    exact ⟨h.1.trans_le hn, h.2.1.ages (hp rid rfl), hsent _ rfl h.2.2.1, hanswered _ rfl h.2.2.2⟩
  | sending k c cmd =>
    exact ⟨h.1.trans_le hn, h.2.1.ages (hp _ rfl), hsent _ rfl h.2.2.1, hanswered _ rfl h.2.2.2⟩
  | sent k c cmd =>
    exact ⟨h.1.trans_le hn, h.2.1.ages (hp _ rfl), hmem _ h.2.2.1, hanswered _ rfl h.2.2.2⟩

theorem Stake.Stands.lt (h : g.Stands w) {rid : Nat} (hr : g.rid? = some rid) :
    rid < w.rpc.nextRequestId := by
  cases g with
  | idle => cases hr
  | drawn | opened | sending | sent =>
    cases hr
    exact h.1

/-- What is known of a request that is registered. -/
theorem Stake.Stands.owned (h : g.Stands w) {k : Kind} {rid : Nat} (hr : g.owned = some (k, rid)) :
    k.Fits rid (w.page rid) ∧ g.rid? = some rid := by
  cases g with
  | idle | drawn => cases hr
  | opened | sending | sent =>
    cases hr
    exact ⟨h.2.1, rfl⟩

/-! ### The ledger -/

/-- The stages of all tasks. -/
def stakes (ws : List (Site Karo × Stake)) (run : Option (TaskId × Stake)) : List Stake :=
  (run.map Prod.snd).toList ++ ws.map Prod.snd

/-- The tables, the dealings and the stages of all tasks fit together. -/
structure Requests (Q : DecodedResponse → Prop) (w : World) (ws : List (Site Karo × Stake))
    (run : Option (TaskId × Stake)) : Prop where
  sorted : w.Sorted Q
  blank : ∀ rid, w.rpc.nextRequestId ≤ rid → w.page rid = {}
  below : ∀ rid ∈ sentIds (dealings w.log), rid < w.rpc.nextRequestId
  inOrder : InOrder Q (dealings w.log)
  stands : ∀ g ∈ stakes ws run, g.Stands w
  distinct : ((stakes ws run).filterMap Stake.rid?).Nodup
  parked : ∀ x ∈ ws, ∀ rid, x.1.op = .future rid → ∃ c cmd, x.2 = .sent .call c cmd ∧
    cmd.requestId = rid

namespace Requests

variable {ws ws' : List (Site Karo × Stake)} {run run' : Option (TaskId × Stake)}

/-- The tasks go on in other stages, with no requests but those that they had. -/
theorem restake (h : Requests Q w ws run) (hsub : ∀ g ∈ stakes ws' run', g.Stands w)
    (hd : ((stakes ws' run').filterMap Stake.rid?).Subperm ((stakes ws run).filterMap Stake.rid?))
    (hp : ∀ x ∈ ws', ∀ rid, x.1.op = .future rid → ∃ c cmd, x.2 = .sent .call c cmd ∧
      cmd.requestId = rid) : Requests Q w ws' run' where
  sorted := h.sorted
  blank := h.blank
  below := h.below
  inOrder := h.inOrder
  stands := hsub
  distinct := by
    obtain ⟨l, hperm, hl⟩ := hd
    exact hperm.nodup_iff.mp (h.distinct.sublist hl)
  parked := hp

/-- The update leaves all pages and dealings alone. -/
theorem aside (h : Requests Q w ws run) (ha : Aside w w') : Requests Q w' ws run := by
  have hn : w'.rpc.nextRequestId = w.rpc.nextRequestId := congrArg Prod.fst ha.account
  have hd : dealings w'.log = dealings w.log := congrArg Prod.snd ha.account
  refine ⟨fun r => ?_, fun r hr => ?_, ?_, ?_, fun g hg => ?_, h.distinct, h.parked⟩
  · rw [ha.page]
    exact h.sorted r
  · rw [ha.page]
    exact h.blank r (hn ▸ hr)
  · rw [hd, hn]
    exact h.below
  · rw [hd]
    exact h.inOrder
  · refine (h.stands g hg).later hn.ge (fun r _ => ?_) (.inl hd)
    rw [ha.page]
    exact .refl

/-- Pages are settled, and nothing else happens. -/
theorem settles (h : Requests Q w ws run) (ha : w'.account = w.account) (hs : Ageing Q w w') :
    Requests Q w' ws run := by
  have hn : w'.rpc.nextRequestId = w.rpc.nextRequestId := congrArg Prod.fst ha
  have hd : dealings w'.log = dealings w.log := congrArg Prod.snd ha
  refine ⟨hs.sorted, fun r hr => (hs.ages r).blank (h.blank r (hn ▸ hr)), ?_, hd ▸ h.inOrder,
    fun g hg => (h.stands g hg).later hn.ge (fun r _ => hs.ages r) (.inl hd), h.distinct, h.parked⟩
  rw [hd, hn]
  exact h.below

/-- A stage whose request is none of the others'. -/
theorem others (h : Requests Q w ws (some (t, g))) {rid : Nat} (hr : g.rid? = some rid)
    {x : Stake} (hx : x ∈ ws.map Prod.snd) {r : Nat} (hxr : x.rid? = some r) : r ≠ rid := by
  rintro rfl
  have hnodup : (r :: (ws.map Prod.snd).filterMap Stake.rid?).Nodup := by
    have hd := h.distinct
    simp only [stakes, Option.map_some, Option.toList_some, List.singleton_append,
      List.filterMap_cons, hr] at hd
    exact hd
  exact (List.nodup_cons.mp hnodup).1 (List.mem_filterMap.mpr ⟨x, hx, hxr⟩)

/-- The running task writes the page of its request. -/
theorem writes (h : Requests Q w ws (some (t, g))) {rid : Nat} {p : Page}
    (ha : w'.account = w.account) (hr : g.rid? = some rid) (hw : Writes w w' rid p)
    (hp : p.Sound Q rid) (hg : g'.rid? = some rid ∨ g'.rid? = none) (hs : g'.Stands w') :
    Requests Q w' ws (some (t, g')) := by
  have hn : w'.rpc.nextRequestId = w.rpc.nextRequestId := congrArg Prod.fst ha
  have hd : dealings w'.log = dealings w.log := congrArg Prod.snd ha
  have hlt : rid < w.rpc.nextRequestId := (h.stands g (List.mem_cons_self ..)).lt hr
  refine ⟨hw.sorted h.sorted hp, fun r hge => ?_, ?_, hd ▸ h.inOrder, ?_, ?_, h.parked⟩
  · rw [hw.other r (by omega)]
    exact h.blank r (hn ▸ hge)
  · rw [hd, hn]
    exact h.below
  · refine List.forall_mem_cons.mpr ⟨hs, fun x hx => ?_⟩
    refine (h.stands x (List.mem_cons_of_mem g hx)).later hn.ge (fun r hxr => ?_) (.inl hd)
    rw [hw.other r (h.others hr hx hxr)]
    exact .refl
  · have hdist := h.distinct
    simp only [stakes, Option.map_some, Option.toList_some, List.singleton_append,
      List.filterMap_cons, hr] at hdist ⊢
    rcases hg with hg | hg
    · rw [hg]
      exact hdist
    · rw [hg]
      exact (List.nodup_cons.mp hdist).2

/-- The running task deals with the peer, for its request. -/
theorem deals (h : Requests Q w ws (some (t, g))) {o : Obs} (ho : o.deals = true) {rid : Nat}
    (hr : g.rid? = some rid) (hin : InOrder Q (o :: dealings w.log))
    (hids : ∀ r, r ∈ sentIds [o] ∨ r ∈ answeredIds [o] → r = rid)
    (hg : g'.rid? = some rid ∨ g'.rid? = none) (hs : g'.Stands (w.push o)) :
    Requests Q (w.push o) ws (some (t, g')) := by
  have hd : dealings (w.push o).log = o :: dealings w.log := List.filter_cons_of_pos ho
  have hlt : rid < w.rpc.nextRequestId := (h.stands g (List.mem_cons_self ..)).lt hr
  refine ⟨h.sorted, h.blank, fun r hin' => ?_, hd ▸ hin, ?_, ?_, h.parked⟩
  · rw [hd, ← List.singleton_append, sentIds, List.filterMap_append] at hin'
    rcases List.mem_append.mp hin' with hone | hold
    · obtain rfl := hids r (.inl hone)
      exact hlt
    · exact h.below r hold
  · refine List.forall_mem_cons.mpr ⟨hs, fun x hx => ?_⟩
    refine (h.stands x (List.mem_cons_of_mem g hx)).later le_rfl (fun r _ => .refl) ?_
    refine .inr ⟨o, hd, fun r hxr => ⟨fun hin => ?_, fun hin => ?_⟩⟩
    · exact h.others hr hx hxr (hids r (.inl hin))
    · exact h.others hr hx hxr (hids r (.inr hin))
  · have hdist := h.distinct
    simp only [stakes, Option.map_some, Option.toList_some, List.singleton_append,
      List.filterMap_cons, hr] at hdist ⊢
    rcases hg with hg | hg
    · rw [hg]
      exact hdist
    · rw [hg]
      exact (List.nodup_cons.mp hdist).2

/-- The running task goes on in a stage without a request. -/
theorem frees (h : Requests Q w ws (some (t, g))) : Requests Q w ws (some (t, .idle)) := by
  refine h.restake (List.forall_mem_cons.mpr ⟨trivial, fun x hx => ?_⟩) ?_ h.parked
  · exact h.stands x (List.mem_cons_of_mem g hx)
  · exact ((List.sublist_cons_self g (ws.map Prod.snd)).filterMap Stake.rid?).subperm

end Requests

/-! ### Every step keeps it -/

section Steps

variable {ws : List (Site Karo × Stake)}

/-- The next id is drawn. -/
theorem Requests.draws (h : Requests Q w ws (some (t, .idle))) :
    Requests Q w.bumpRid ws (some (t, .drawn w.rpc.nextRequestId)) := by
  have hfresh : ∀ rid ∈ sentIds (dealings w.log), rid ≠ w.rpc.nextRequestId :=
    fun rid hr => (h.below rid hr).ne
  refine ⟨h.sorted, fun r hr => h.blank r (Nat.le_of_succ_le hr),
    fun r hr => Nat.lt_succ_of_lt (h.below r hr), h.inOrder, ?_, ?_, h.parked⟩
  · refine List.forall_mem_cons.mpr ⟨⟨Nat.lt_succ_self _, h.blank _ le_rfl,
      fun hin => hfresh _ hin rfl, fun hin => hfresh _ (h.inOrder.sent_of_answered hin) rfl⟩, ?_⟩
    intro x hx
    exact (h.stands x (List.mem_cons_of_mem _ hx)).later (Nat.le_succ _) (fun r _ => .refl)
      (.inl rfl)
  · -- all other ids are smaller
    have hdist : ((ws.map Prod.snd).filterMap Stake.rid?).Nodup := h.distinct
    refine List.nodup_cons.mpr ⟨fun hin => ?_, hdist⟩
    obtain ⟨x, hx, hxr⟩ := List.mem_filterMap.mp hin
    exact absurd ((h.stands x (List.mem_cons_of_mem _ hx)).lt hxr) (lt_irrefl _)

/-- **Updates of the protocol keep the requests in order.** -/
theorem Requests.books (h : Requests Q w ws (some (t, g))) (hb : Books Q g w w' g') :
    Requests Q w' ws (some (t, g')) := by
  have hstands : g.Stands w := h.stands g (List.mem_cons_self ..)
  cases hb with
  | still ha => exact h.aside ha
  | gives ha => exact h.frees.aside ha
  | draws => exact h.draws
  | @opens k _ _ rid p ha hw hp =>
    obtain ⟨hlt, hblank, hsent, hanswered⟩ := hstands
    have hd : dealings w'.log = dealings w.log := congrArg Prod.snd ha
    obtain ⟨hsound, hfits⟩ := hp hblank
    refine h.writes ha rfl hw hsound (.inl rfl) ⟨?_, hw.self ▸ hfits, hd ▸ hsent, hd ▸ hanswered⟩
    exact hlt.trans_eq (congrArg Prod.fst ha).symm
  | @sent k c cmd _ =>
    obtain ⟨hlt, hfits, hsent, hanswered⟩ := hstands
    have hd : dealings (w.push (.sent c cmd)).log = .sent c cmd :: dealings w.log := rfl
    refine h.deals rfl rfl ⟨hsent, h.inOrder⟩ ?_ (.inl rfl) ⟨hlt, hfits, ?_, ?_⟩
    · rintro r (hr | hr)
      · exact List.mem_singleton.mp hr
      · cases hr
    · rw [hd]
      exact List.mem_cons_self ..
    · rw [hd]
      exact hanswered
  | @closes _ k _ _ rid p ha hg hw hp =>
    obtain ⟨hfits, hrid⟩ := hstands.owned hg
    exact h.writes ha hrid hw (hp (h.sorted rid) hfits) (.inr rfl) trivial
  | @answered c cmd resp _ hf =>
    obtain ⟨hlt, hfits, hsent, hanswered⟩ := hstands
    have hresp : resp.requestId = cmd.requestId ∧ Q resp := by
      have hp := h.sorted cmd.requestId
      have hfuture : (w.page cmd.requestId).future = .result resp := hf
      generalize w.page cmd.requestId = p at hp hfuture
      cases hp with
      | closed f hclosed => exact hclosed resp hfuture
      | calls method f hcall =>
        rcases hcall with rfl | rfl <;> cases hfuture
      | pings | subscribes => cases hfuture
    refine h.deals rfl rfl ⟨hresp.1, hresp.2, hsent, hanswered, h.inOrder⟩ ?_ (.inr rfl) trivial
    rintro r (hr | hr)
    · cases hr
    · exact List.mem_singleton.mp hr
  | settles _ ha hs => exact h.frees.settles ha (hs h.sorted)

/-- **Suspensions of the protocol** leave the requests with their tasks. -/
theorem Requests.parks (h : Requests Q w ws (some (t, g))) {p : List Label} {op : Op}
    (hp : Parks g op w g') : Requests Q w ((⟨t, p, op⟩, g') :: ws) none := by
  have hrid : g'.rid? = g.rid? := by
    cases hp with
    | mails heq | plain heq =>
      subst heq
      rfl
    | answer | pong | idles => rfl
  have hstands : g'.Stands w := by
    have hold := h.stands g (List.mem_cons_self ..)
    cases hp with
    | mails heq =>
      subst heq
      exact hold
    | plain heq =>
      subst heq
      exact ⟨hold.1, trivial, hold.2.2⟩
    | answer | pong | idles => exact hold
  refine h.restake (List.forall_mem_cons.mpr ⟨hstands, fun x hx => ?_⟩) ?_ ?_
  · exact h.stands x (List.mem_cons_of_mem g hx)
  · have heq : (stakes ((⟨t, p, op⟩, g') :: ws) none).filterMap Stake.rid? =
        (stakes ws (some (t, g))).filterMap Stake.rid? := by
      simp only [stakes, Option.map_none, Option.toList_none, List.nil_append, List.map_cons,
        Option.map_some, Option.toList_some, List.singleton_append, List.filterMap_cons, hrid]
    rw [heq]
  · refine List.forall_mem_cons.mpr ⟨fun rid hop => ?_, h.parked⟩
    obtain rfl : op = .future rid := hop
    cases hp with
    | answer heq => exact ⟨_, _, rfl, heq⟩
    | idles hno => cases hno

end Steps

theorem finish_aside {r : Except Exn Unit} : Aside w (w.finish t r) := by
  obtain ⟨l, ts, h, hl, -⟩ := finish_eq w t r
  have hgrows : LogGrows w.log (l ++ w.log) := ⟨l, rfl, hl⟩
  have hd : dealings (l ++ w.log) = dealings w.log :=
    hgrows.filter_eq fun o ho => by cases o <;> first | rfl | cases ho
  rw [h]
  exact Prod.ext rfl (Prod.ext rfl (Prod.ext rfl hd))

theorem resume_aside {op : Op} {r : Except Exn Reply} : Aside w (w.resume t op r) := by
  obtain ⟨ts, evt, h, -⟩ := resume_eq t op r w
  rw [h]
  rfl

/-- The environment leaves the requests alone, or a timer fires. -/
theorem env_aside {e : EnvStep} (h : World.env e w = some w') :
    Aside w w' ∨ ∃ rid, w.fireTimer rid = some w' := by
  unfold World.env at h
  split at h
  · split at h
    · obtain rfl := Option.some.inj h
      exact .inl rfl
    · cases h
  · split at h
    · obtain rfl := Option.some.inj h
      exact .inl rfl
    · cases h
  · exact .inr ⟨_, h⟩
  · split at h
    · obtain rfl := Option.some.inj h
      exact .inl rfl
    · cases h
  · obtain rfl := Option.some.inj h
    exact .inl rfl
  · split at h
    · obtain rfl := Option.some.inj h
      exact .inl rfl
    · cases h
  · split at h
    · obtain rfl := Option.some.inj h
      left
      unfold World.dropHandle
      dsimp only
      split <;> rfl
    · cases h

theorem fireTimer_account {rid : Nat} (h : w.fireTimer rid = some w') : w'.account = w.account := by
  unfold World.fireTimer at h
  split at h
  · cases h
  · obtain rfl := Option.some.inj h
    split
    · unfold World.resolve
      split <;> rfl
    · rfl
  · obtain rfl := Option.some.inj h
    rfl

/-! ### Runs -/

/-- A task begins its bodies without a request. -/
def requesting (Q : DecodedResponse → Prop) : Plan Karo Stake where
  proto _ := booking Q
  begins _ _ _ g := g = .idle
  ends _ _ := True

/-- What the peer sends is decoded to responses that satisfy `Q`. -/
def Responds (Q : DecodedResponse → Prop) : Constraint (robot σ)
  | _, _, .resume s r => Received Q s.op r
  | _, _, _ => True

theorem requests_keeps : (requesting Q).Keeps (robot σ) (Responds Q) (fun _ _ => True)
    (Requests Q) where
  body := by
    rintro t p w g rfl
    refine Coro.abides_mono ?_ body_books
    rintro g (e | p | _) v hg
    · trivial
    · exact hg p rfl
    · trivial
  env := by
    intro e w w' ws he _ h
    rcases env_aside he with ha | ⟨rid, hf⟩
    · exact h.aside ha
    · exact h.settles (fireTimer_account hf) (Ageing.fireTimer h.sorted hf)
  start := by
    intro t p w ws _ _ h
    refine ⟨.idle, rfl, Requests.aside (w := w) ?_ rfl⟩
    refine h.restake (List.forall_mem_cons.mpr ⟨trivial, h.stands⟩) ?_ h.parked
    exact List.Subperm.refl _
  resume := by
    intro s g r w l₁ l₂ _ hC _ h
    refine ⟨hC, Requests.aside (w := w) ?_ resume_aside⟩
    have hperm : (stakes (l₁ ++ l₂) (some (s.task, g))).Perm
        (stakes (l₁ ++ (s, g) :: l₂) none) := by
      show (g :: (l₁ ++ l₂).map Prod.snd).Perm ((l₁ ++ (s, g) :: l₂).map Prod.snd)
      rw [List.map_append, List.map_append]
      exact List.perm_middle.symm
    refine h.restake (fun x hx => h.stands x (hperm.subset hx)) (hperm.filterMap _).subperm ?_
    intro x hx
    refine h.parked x ?_
    rcases List.mem_append.mp hx with hx | hx
    · exact List.mem_append_left _ hx
    · exact List.mem_append_right _ (List.mem_cons_of_mem _ hx)
  update := fun hu _ h => h.books hu
  wait := fun hw h => h.parks hw
  finish := by
    intro t g r w ws _ _ h
    refine Requests.aside (w := w) ?_ finish_aside
    refine h.restake (fun x hx => h.stands x (List.mem_cons_of_mem g hx)) ?_ h.parked
    exact ((List.sublist_cons_self g (ws.map Prod.snd)).filterMap Stake.rid?).subperm

theorem requests_initial (clock : Clock) : Requests Q (.init clock) [] none where
  sorted _ := Page.sound_blank
  blank _ _ := rfl
  below _ hr := absurd hr List.not_mem_nil
  inOrder := trivial
  stands _ hg := absurd hg List.not_mem_nil
  distinct := .nil
  parked _ hx := absurd hx List.not_mem_nil

/-- **Requests are in order in every run.** -/
theorem requests_run {clock : Clock} {c : Config Karo}
    (h : Run (robot σ) (Responds Q) (initial clock) c) : ∃ ws run,
      Requests Q c.world ws run ∧ ∀ x ∈ c.waiting, ∃ y ∈ ws, y.1 = x.site := by
  obtain ⟨m, rfl, -, hm⟩ := requests_keeps.run (requests_initial clock) (fun _ _ _ _ _ => trivial) h
  refine ⟨_, _, hm, fun x hx => ?_⟩
  obtain ⟨y, hy, rfl⟩ := List.mem_map.mp hx
  exact ⟨_, List.mem_map.mpr ⟨y, hy, rfl⟩, rfl⟩

theorem responds_true {c d : Config Karo} (h : Reaches (robot σ) c d) :
    Run (robot σ) (Responds fun _ => True) c d := by
  refine h.mono fun w o a _ => ?_
  cases a with
  | resume s r => exact fun _ _ _ _ _ _ => trivial
  | _ => trivial

/-! ### Scripts -/

/-- A call of `cmd_vel` waits for its response. -/
def velocityWaits : List (Cmd (robot .plain)) :=
  connected ++ [.env (.call (.cmdVel ⟨0⟩ ⟨0⟩ ⟨0⟩)), .start 4, .resume 4 (.ok .done)]

/-- Its command, and the response to it -/
def velocityCommand : SdkCommand := encodeCmdVel 2 ⟨0⟩ ⟨0⟩ ⟨0⟩ 1 0

def velocityResponse : DecodedResponse := { requestId := 2, success := true, hasRpc := true }

/-- The peer answers with success only. -/
def succeeding : Check (robot .plain)
  | _, _, .resume _ (.ok (.inbound (.frame _ (some resp) _))) => resp.success
  | _, _, _ => true

theorem succeeding_responds {o : Multiset (Site Karo)} {a : Action Karo EnvStep}
    (h : succeeding.allows w o a) :
    Responds (σ := .plain) (fun resp => resp.success = true) w o a := by
  cases a with
  | resume s r =>
    rintro c len resp push - rfl
    exact h
  | _ => trivial

/-! ### Results -/

section Results

variable {clock : Clock} {c : Config Karo}

/-- **The tables of requests agree** in every reachable state: each request is in one of
the four shapes, and nothing is registered under an id that has not been drawn. -/
theorem request_tables_agree (h : Reaches (robot σ) (initial clock) c) (rid : Nat) :
    (c.world.page rid).Sound (fun _ => True) rid ∧
      (c.world.rpc.nextRequestId ≤ rid → c.world.page rid = {}) := by
  obtain ⟨ws, run, hreq, -⟩ := requests_run (responds_true h)
  exact ⟨hreq.sorted rid, hreq.blank rid⟩

theorem request_tables_agree_velocity : ∃ c, Reaches (robot .plain) (initial ⟨0, 0⟩) c ∧
    c.world.rpc.inflight.has 2 = true ∧ (c.world.page 2).Sound (fun _ => True) 2 := by
  have hplay : ((robot .plain).play 4 velocityWaits (initial ⟨0, 0⟩)).any
      (fun c => c.world.rpc.inflight.has 2) = true := by
    decide +kernel
  obtain ⟨c, hc, hs⟩ := (Option.any_eq_true _ _).mp hplay
  exact ⟨c, play_run hc, hs, (request_tables_agree (play_run hc) 2).1⟩

/-- **No caller waits in vain**: where a task waits for the response to a request, its
future is done, or the request is in flight and its timer is armed, and the future is
done once the timer has fired. -/
theorem waiting_caller_armed (h : Reaches (robot σ) (initial clock) c) {x : Waiting Karo}
    (hx : x ∈ c.waiting) {rid : Nat} (hop : x.site.op = .future rid) :
    (c.world.rpc.futures rid).done = true ∨
      c.world.rpc.inflight.has rid = true ∧ ∃ w, c.world.fireTimer rid = some w ∧
        (w.rpc.futures rid).done = true := by
  obtain ⟨ws, run, hreq, hws⟩ := requests_run (responds_true h)
  obtain ⟨y, hy, hsite⟩ := hws x hx
  obtain ⟨ws', cmd, hstage, rfl⟩ := hreq.parked y hy rid (hsite ▸ hop)
  have hmem : y.2 ∈ stakes ws run := List.mem_append_right _ (List.mem_map_of_mem hy)
  have hstands : y.2.Stands c.world := hreq.stands y.2 hmem
  rw [hstage] at hstands
  obtain ⟨-, ⟨-, hhandle, hopen⟩, -⟩ := hstands
  rcases hopen with hsome | hdone
  · refine .inr ⟨Dict.has_eq_isSome.trans hsome, ?_⟩
    obtain ⟨e, he⟩ := Option.isSome_iff_exists.mp hsome
    -- the handle is that of a call, whose timer is armed
    have htimer : c.world.rpc.timers.get? cmd.requestId = some (.rpcTimeout cmd.requestId) := by
      rcases (hreq.sorted cmd.requestId).handle he with ⟨hn, -⟩ | ⟨-, ht⟩
      · cases hn.symm.trans (hhandle e he)
      · exact ht
    have hfire : ∃ w, c.world.fireTimer cmd.requestId = some w := by
      unfold World.fireTimer
      rw [htimer]
      exact ⟨_, rfl⟩
    obtain ⟨w, hw⟩ := hfire
    refine ⟨w, hw, ?_⟩
    have hages := (Ageing.fireTimer hreq.sorted hw).ages cmd.requestId
    rcases hages.request with hsame | ⟨-, hd⟩
    · -- the timer takes the request out of the table
      unfold World.fireTimer at hw
      rw [htimer] at hw
      obtain rfl := Option.some.inj hw
      have hhas : (c.world.cancelTimer cmd.requestId).rpc.inflight.has cmd.requestId = true :=
        Dict.has_eq_isSome.trans hsome
      rw [if_pos hhas] at hsame ⊢
      unfold World.resolve
      split
      · assumption
      · simp [World.setFuture, Fut.done]
    · exact hd hsome
  · exact .inl hdone

theorem waiting_caller_armed_velocity : ∃ c, Reaches (robot .plain) (initial ⟨0, 0⟩) c ∧
    ((c.world.rpc.futures 2).done = true ∨ c.world.rpc.inflight.has 2 = true ∧
      ∃ w, c.world.fireTimer 2 = some w ∧ (w.rpc.futures 2).done = true) := by
  have hplay : ((robot .plain).play 4 velocityWaits (initial ⟨0, 0⟩)).any
      (fun c => c.waiting.any fun x => x.site.op = .future 2) = true := by
    decide +kernel
  obtain ⟨c, hc, hs⟩ := (Option.any_eq_true _ _).mp hplay
  obtain ⟨x, hx, hop⟩ := List.any_eq_true.mp hs
  exact ⟨c, play_run hc, waiting_caller_armed (play_run hc) hx (of_decide_eq_true hop)⟩

/-- **Responses are matched to their requests**: whoever takes a response takes the one to
the command that it has sent, over the same client; a response is taken once, and only
responses that were received are taken (`Q` holds of what was received). -/
theorem response_correlation (h : Run (robot σ) (Responds Q) (initial clock) c)
    {l l' : List Obs} {ws : WsId} {cmd : SdkCommand} {resp : DecodedResponse}
    (hl : c.world.log = l ++ .answered ws cmd resp :: l') :
    resp.requestId = cmd.requestId ∧ Q resp ∧ .sent ws cmd ∈ l' ∧
      ∀ ws' cmd' resp', .answered ws' cmd' resp' ∈ l' → cmd'.requestId ≠ cmd.requestId := by
  obtain ⟨_, _, hreq, -⟩ := requests_run h
  have hd : dealings c.world.log = dealings l ++ .answered ws cmd resp :: dealings l' := by
    rw [hl, dealings, List.filter_append]
    rfl
  have hin : InOrder Q (.answered ws cmd resp :: dealings l') := (hd ▸ hreq.inOrder).of_append
  obtain ⟨hid, hq, hsent, honce, -⟩ := hin
  refine ⟨hid, hq, List.mem_of_mem_filter hsent, fun ws' cmd' resp' hmem heq => honce ?_⟩
  exact mem_answeredIds.mpr ⟨ws', cmd', resp', List.mem_filter.mpr ⟨hmem, rfl⟩, heq⟩

theorem response_correlation_velocity : ∃ c l l', Run (robot .plain)
    (Responds fun resp => resp.success = true) (initial ⟨0, 0⟩) c ∧
    c.world.log = l ++ .answered 0 velocityCommand velocityResponse :: l' ∧
    velocityResponse.requestId = velocityCommand.requestId ∧ .sent 0 velocityCommand ∈ l' := by
  have hplay : (Sys.playChecked succeeding 4 (velocityWaits ++
      [.resume 2 (.ok (.inbound (.frame 0 (some velocityResponse) none))), .resume 4 (.ok .done)])
      (initial ⟨0, 0⟩)).any
      (fun c => .answered 0 velocityCommand velocityResponse ∈ c.world.log) = true := by
    decide +kernel
  obtain ⟨c, hc, hs⟩ := (Option.any_eq_true _ _).mp hplay
  have hrun : Run (robot .plain) (Responds fun resp => resp.success = true) (initial ⟨0, 0⟩) c :=
    (playChecked_run _ hc).mono fun _ _ _ => succeeding_responds
  obtain ⟨l, l', hl⟩ := List.append_of_mem (of_decide_eq_true hs)
  have hcorrelated := response_correlation hrun hl
  exact ⟨c, l, l', hrun, hl, hcorrelated.1, hcorrelated.2.2.1⟩

/-- **A request id is sent once**, whatever client it goes to, and after it was drawn. -/
theorem request_id_sent_once (h : Reaches (robot σ) (initial clock) c) {l l' : List Obs}
    {ws : WsId} {cmd : SdkCommand} (hl : c.world.log = l ++ .sent ws cmd :: l') :
    cmd.requestId < c.world.rpc.nextRequestId ∧
      ∀ ws' cmd', .sent ws' cmd' ∈ l' → cmd'.requestId ≠ cmd.requestId := by
  obtain ⟨_, _, hreq, -⟩ := requests_run (responds_true h)
  have hd : dealings c.world.log = dealings l ++ .sent ws cmd :: dealings l' := by
    rw [hl, dealings, List.filter_append]
    rfl
  have hin : InOrder _ (.sent ws cmd :: dealings l') := (hd ▸ hreq.inOrder).of_append
  refine ⟨hreq.below _ ?_, fun ws' cmd' hmem heq => hin.1 ?_⟩
  · rw [hd]
    exact mem_sentIds.mpr ⟨ws, cmd, List.mem_append_right _ (List.mem_cons_self ..), rfl⟩
  · exact mem_sentIds.mpr ⟨ws', cmd', List.mem_filter.mpr ⟨hmem, rfl⟩, heq⟩

theorem request_id_sent_once_velocity : ∃ c l l', Reaches (robot .plain) (initial ⟨0, 0⟩) c ∧
    c.world.log = l ++ .sent 0 velocityCommand :: l' ∧
    ∀ ws' cmd', .sent ws' cmd' ∈ l' → cmd'.requestId ≠ velocityCommand.requestId := by
  have hplay : ((robot .plain).play 4 velocityWaits (initial ⟨0, 0⟩)).any
      (fun c => .sent 0 velocityCommand ∈ c.world.log) = true := by
    decide +kernel
  obtain ⟨c, hc, hs⟩ := (Option.any_eq_true _ _).mp hplay
  obtain ⟨l, l', hl⟩ := List.append_of_mem (of_decide_eq_true hs)
  exact ⟨c, l, l', play_run hc, hl, (request_id_sent_once (play_run hc) hl).2⟩

end Results

end KaroX2
