/-
KaroX2/Lookup.lean

Slots are looked up by their topics.

A registered slot is registered under its own topic and not closed; this holds in
every run.  `unsubscribe_request` closes the slot that it has looked up, possibly
after a suspension: its call stacks, and what its tasks may rely on as long as no
answer makes them close a slot whose topic has become another slot's.
-/
import KaroX2.Slots
import KaroX2.Walk.Tasks

namespace KaroX2

open Coop Py

variable {σ : Setup} {w w' : World} {x : Running Karo}

/-! ### Registered slots -/

/-- Registered slots exist, under their topics, and are not closed. -/
def Enrolled (w : World) : Prop :=
  ∀ topic s, w.subs.subs.get? topic = some s →
    s < w.subs.slotCount ∧ (w.subs.slots s).topic = topic ∧ (w.subs.slots s).state ≠ .closed

/-- The topics of the slots are as before. -/
def KeepsTopics (w w' : World) : Prop :=
  ∀ s < w.subs.slotCount, (w'.subs.slots s).topic = (w.subs.slots s).topic

namespace Enrolled

theorem same (h : Enrolled w) (hw : Same w w') (ht : KeepsTopics w w') : Enrolled w' := by
  intro topic s hs
  rw [hw.registry] at hs
  obtain ⟨hlt, htopic, hstate⟩ := h topic s hs
  exact ⟨hw.slotCount ▸ hlt, (ht s hlt).trans htopic, by rwa [hw.state]⟩

theorem paused (h : Enrolled w) (hw : Paused w w') (ht : KeepsTopics w w') : Enrolled w' := by
  intro topic s hs
  rw [hw.registry] at hs
  obtain ⟨hlt, htopic, hstate⟩ := h topic s hs
  refine ⟨hw.slotCount ▸ hlt, (ht s hlt).trans htopic, ?_⟩
  rcases hw.state s with he | ⟨he, -⟩
  · rwa [he]
  · simp [he]

theorem opened {s : SlotId} (h : Enrolled w) (hw : Opened s w w') (ht : KeepsTopics w w') :
    Enrolled w' := by
  intro topic u hu
  rw [hw.registry] at hu
  obtain ⟨hlt, htopic, hstate⟩ := h topic u hu
  refine ⟨hw.slotCount ▸ hlt, (ht u hlt).trans htopic, ?_⟩
  rcases eq_or_ne u s with rfl | hne
  · exact hw.opened
  · rwa [hw.state u hne]

theorem shut {topic : String} {s : SlotId} (h : Enrolled w) (hw : Shut topic s w w')
    (ht : KeepsTopics w w') (hn : s < w.subs.slotCount → (w.subs.slots s).topic = topic) :
    Enrolled w' := by
  intro topic' u hu
  rw [hw.registry, Dict.get?_erase] at hu
  split at hu
  · cases hu
  · rename_i hne
    obtain ⟨hlt, htopic, hstate⟩ := h topic' u hu
    have hus : u ≠ s := by
      rintro rfl
      exact hne (htopic.symm.trans (hn hlt))
    exact ⟨hw.slotCount ▸ hlt, (ht u hlt).trans htopic, by rwa [hw.state u hus]⟩

theorem cleared (hw : Cleared w w') : Enrolled w' := by
  intro topic s hs
  rw [hw.registry] at hs
  cases hs

theorem created {topic : String} (h : Enrolled w) (hw : Created topic w.subs.slotCount w w') :
    Enrolled w' := by
  intro topic' s hs
  have hold : ∀ u, w.subs.subs.get? topic' = some u → u < w'.subs.slotCount ∧
      (w'.subs.slots u).topic = topic' ∧ (w'.subs.slots u).state ≠ .closed := by
    intro u hu
    obtain ⟨hlt, htopic, hstate⟩ := h topic' u hu
    rw [hw.slotCount, hw.other u (Nat.ne_of_lt hlt)]
    exact ⟨Nat.lt_succ_of_lt hlt, htopic, hstate⟩
  rw [hw.registry] at hs
  -- a topic that is taken keeps its slot
  split at hs
  · exact hold s hs
  · rename_i hfree
    rw [Dict.get?_insert] at hs
    split at hs
    · rename_i he
      obtain rfl := Option.some.inj hs
      refine ⟨hw.slotCount ▸ Nat.lt_succ_self _, hw.named.trans he.symm, fun hc => ?_⟩
      exact hfree (hw.closed.mp hc)
    · exact hold s hs

theorem initial {clock : Clock} : Enrolled (initial clock).world := by
  intro _ _ h
  simp [KaroX2.initial, World.init] at h

end Enrolled

/-! ### Call stacks of `unsubscribe_request` -/

/-- The calls that take a slot out of the registry for a handle. -/
def Label.unsub : Label → Bool
  | .unsubscribeRequest _ _ | .unsubscribing _ _ => true
  | _ => false

/-- The call stacks under `unsubscribe_request`. -/
inductive UnsubStack : List Label → Prop
  | request (h : SlotId) (b : Bool) : UnsubStack [.unsubscribeRequest h b]
  | slot (h : SlotId) (b : Bool) (topic : String) (s : SlotId) :
      UnsubStack [.unsubscribeRequest h b, .unsubscribing topic s]
  | rpc (h : SlotId) (b : Bool) (topic : String) (s : SlotId) (rid : Nat) (ws : Option WsId) :
      UnsubStack [.unsubscribeRequest h b, .unsubscribing topic s, .sendRpcAndWait rid ws]

/-- Only these call stacks contain `unsubscribe_request`. -/
def Stacked (p : List Label) : Prop := (∃ l ∈ p, l.unsub = true) → UnsubStack p

/-- The call stack of a handle does not end in other calls. -/
theorem UnsubStack.last {p q : List Label} {l : Label} (hu : UnsubStack p) (hp : p = q ++ [l]) :
    l.unsub = true ∨ ∃ rid ws, l = .sendRpcAndWait rid ws := by
  have hlast : p.getLast? = some l := by simp [hp]
  cases hu with
  | request | slot =>
    obtain rfl := Option.some.inj hlast
    exact .inl rfl
  | rpc =>
    obtain rfl := Option.some.inj hlast
    exact .inr ⟨_, _, rfl⟩

theorem Stacked.of_none {p : List Label} (h : ∀ l ∈ p, l.unsub = false) : Stacked p := by
  rintro ⟨l, hl, hu⟩
  simp [h l hl] at hu

/-- The call stack does not end in this label. -/
theorem Stacked.not_last {q : List Label} {l : Label} (h : Stacked (q ++ [l]))
    (hl : l.unsub = false ∧ ∀ rid ws, l ≠ .sendRpcAndWait rid ws) :
    ∀ m ∈ q, m.unsub = false := by
  intro m hm
  by_contra hu
  have hu : m.unsub = true := by simpa using hu
  generalize hp : q ++ [l] = p at h
  have hlast : p.getLast? = some l := by simp [← hp]
  cases h ⟨m, by simp [← hp, hm], hu⟩ with
  | request | slot =>
    obtain rfl := Option.some.inj hlast
    simp [Label.unsub] at hl
  | rpc =>
    obtain rfl := Option.some.inj hlast
    exact hl.2 _ _ rfl

theorem Subscribes.unsub_append {q q' : List Label} {s : SlotId} {m : Label}
    (h : Subscribes w s q) (hm : m ∈ q ++ q') (hq : ∀ l ∈ q', l.unsub = false) : m.unsub = false := by
  rcases List.mem_append.mp hm with hm | hm
  · cases h <;>
    · obtain rfl := List.mem_singleton.mp hm
      rfl
  · exact hq m hm

theorem enter_stacked {l : Label} (h : Enters σ x w l w') (hx : Stacked x.path) :
    Stacked (x.path ++ [l]) := by
  cases h with
  | unsubscribeRequest h b hp =>
    rw [hp]
    exact fun _ => .request h b
  | unsubscribing h b s hp =>
    rw [hp]
    exact fun _ => .slot h b _ s
  | sendRpcAndWait rid hp =>
    cases hp with
    | unsubscribing h topic s hp =>
      rw [hp]
      exact fun _ => .rpc h true topic s rid _
    | _ => exact .of_none (by simp_all [Label.unsub])
  | sendSubscribe s h => exact .of_none fun m hm => h.unsub_append hm (by simp [Label.unsub])
  | subscribing q s rid since hp hc h =>
    rw [hp, List.append_assoc]
    exact .of_none fun m hm => h.unsub_append hm (by simp [Label.unsub])
  | unsendable q s reason hp hc h =>
    rw [hp, List.append_assoc]
    exact .of_none fun m hm => h.unsub_append hm (by simp [Label.unsub])
  | sendFailed q s rid hp hq =>
    obtain ⟨v, h⟩ := hq
    rw [hp, List.append_assoc]
    exact .of_none fun m hm => h.unsub_append hm (by simp [Label.unsub])
  | onTransportClose hp => cases hp <;> exact .of_none (by simp_all [Label.unsub])
  | abortToFatal code message hp => cases hp <;> exact .of_none (by simp_all [Label.unsub])
  | closeClient q l c hp hc hx' hl =>
    have hl' : l.unsub = false ∧ ∀ rid ws, l ≠ .sendRpcAndWait rid ws := by
      rcases hl with rfl | ⟨rfl | ⟨isR, ep, d, rfl⟩, -⟩ | ⟨rfl, -⟩ <;> simp [Label.unsub]
    rw [hp] at hx ⊢
    refine .of_none fun m hm => ?_
    rw [List.append_assoc] at hm
    rcases List.mem_append.mp hm with hm | hm
    · exact hx.not_last hl' m hm
    · simp only [List.cons_append, List.nil_append, List.mem_cons, List.not_mem_nil] at hm
      rcases hm with rfl | rfl | hm
      · exact hl'.1
      · rfl
      · exact hm.elim
  | _ => exact .of_none (by simp_all [Label.unsub])

theorem step_stacked {q : List Label} (h : (outline σ).step x q w w') (hx : Stacked x.path) :
    Stacked q := by
  rcases h with ⟨rfl, -⟩ | ⟨l, hp, -⟩ | h
  · exact hx
  · rw [hp] at hx
    -- a call that returns leaves one of the three stacks, and the rest is a shorter one
    rintro ⟨m, hm, hu⟩
    generalize hp' : q ++ [l] = p at hx
    cases hx ⟨m, by simp [← hp', hm], hu⟩ with
    | request =>
      obtain rfl : q = [] := by
        have := congrArg List.dropLast hp'
        simpa using this
      cases hm
    | slot h b =>
      obtain rfl : q = [.unsubscribeRequest h b] := by
        have := congrArg List.dropLast hp'
        simpa using this
      exact .request h b
    | rpc h b topic s =>
      obtain rfl : q = [.unsubscribeRequest h b, .unsubscribing topic s] := by
        have := congrArg List.dropLast hp'
        simpa using this
      exact .slot h b topic s
  · cases h <;> exact .of_none (by simp [Label.unsub])

/-! ### Lookups -/

theorem step_unsubscribing {q : List Label} {topic : String} {s : SlotId}
    (h : (outline σ).step x q w w') (hm : .unsubscribing topic s ∈ q) : q <+: x.path := by
  rcases h with ⟨rfl, -⟩ | ⟨l, hp, -⟩ | h
  · exact List.prefix_rfl
  · exact ⟨_, hp.symm⟩
  · cases h <;> simp at hm

theorem append_eq_pair {α : Type} {p : List α} {l a b : α} (h : p ++ [l] = [a, b]) :
    p = [a] ∧ l = b := by
  have := congrArg List.reverse h
  simp only [List.reverse_append, List.reverse_cons, List.reverse_nil, List.nil_append,
    List.cons_append, List.cons.injEq] at this
  exact ⟨by simpa using congrArg List.reverse this.2, this.1⟩

theorem append_eq_triple {α : Type} {p : List α} {l a b c : α} (h : p ++ [l] = [a, b, c]) :
    p = [a, b] ∧ l = c := by
  have := congrArg List.reverse h
  simp only [List.reverse_append, List.reverse_cons, List.reverse_nil, List.nil_append,
    List.cons_append, List.cons.injEq] at this
  exact ⟨by simpa using congrArg List.reverse this.2, this.1⟩

/-- A slot is looked up for a handle where it is registered. -/
theorem enter_unsubscribing {l : Label} {topic : String} {s : SlotId} (h : Enters σ x w l w')
    (hst : Stacked x.path) (hm : .unsubscribing topic s ∈ x.path ++ [l]) :
    w' = w ∧ (w.subs.subs.get? topic = some s ∨
      .unsubscribing topic s ∈ x.path ∧ x.since = .called) := by
  have hp := enter_stacked h hst
  generalize he : x.path ++ [l] = p at hp hm
  cases hp ⟨_, hm, rfl⟩ with
  | request => simp at hm
  | slot handle b topic' s' =>
    obtain ⟨hpath, rfl⟩ := append_eq_pair he
    obtain ⟨rfl, rfl⟩ : topic = topic' ∧ s = s' := by simpa using hm
    cases h with
    | unsubscribing _ _ _ hp' hs =>
      exact ⟨rfl, .inl hs⟩
  | rpc handle b topic' s' rid ws =>
    obtain ⟨hpath, rfl⟩ := append_eq_triple he
    cases h with
    | sendRpcAndWait _ hp' =>
      refine ⟨rfl, .inr ⟨?_, ?_⟩⟩
      · rw [hpath]
        simpa using hm
      · cases hp' with
        | unsubscribing _ _ _ _ hx => exact hx
        | _ => simp_all

/-- The slots that the code has looked up exist under their topics. -/
def Named (w : World) (p : List Label) : Prop :=
  ∀ topic s, .unsubscribing topic s ∈ p → s < w.subs.slotCount ∧ (w.subs.slots s).topic = topic

theorem Named.later {p : List Label} (h : Named w p) (hw : Later w w') : Named w' p := by
  intro topic s hm
  obtain ⟨hlt, ht⟩ := h topic s hm
  exact ⟨hlt.trans_le hw.slotCount, (hw.topic s hlt).trans ht⟩

theorem enter_named {l : Label} (h : Enters σ x w l w') (hw : Enrolled w) (hst : Stacked x.path)
    (hn : Named w x.path) : Named w' (x.path ++ [l]) := by
  intro topic s hm
  obtain ⟨rfl, hs | ⟨hm', -⟩⟩ := enter_unsubscribing h hst hm
  · obtain ⟨hlt, ht, -⟩ := hw topic s hs
    exact ⟨hlt, ht⟩
  · exact hn topic s hm'

/-- Registered slots are not closed, and the tasks have the call stacks of
`unsubscribe_request`. -/
structure Enrolling (w : World) (r : Option (Running Karo)) (o : Multiset (Site Karo)) : Prop where
  enrolled : Enrolled w
  running : ∀ x, r = some x → Stacked x.path ∧ Named w x.path
  suspended : ∀ s ∈ o, Stacked s.path ∧ Named w s.path

theorem suspended_later {o : Multiset (Site Karo)} (hw : Later w w')
    (h : ∀ s ∈ o, Stacked s.path ∧ Named w s.path) :
    ∀ s ∈ o, Stacked s.path ∧ Named w' s.path :=
  fun s hs => ⟨(h s hs).1, (h s hs).2.later hw⟩

theorem Alters.enrolled (h : Alters x w w') (hw : Enrolled w) (ht : KeepsTopics w w')
    (hn : Named w x.path) : Enrolled w' := by
  cases h with
  | kept h => exact hw.same h ht
  | closes topic s hx h =>
    refine hw.shut h ht fun _ => ?_
    -- the slot was found under its topic, in the registry or by the task that looked it up
    cases hx with
    | acking q phase ep hp hx hs => exact (hw topic s hs).2.1
    | unsubscribed handle b hp hx => exact (hn topic s (by simp [hp])).2
  | activates s phase ep hp hs h => exact hw.opened h ht
  | pauses q hp h => exact hw.paused h ht
  | clears hp h => exact .cleared h

theorem Begins.enrolled {l : Label} (h : Begins x w w' l) (hw : Enrolled w)
    (ht : KeepsTopics w w') : Enrolled w' := by
  cases h with
  | kept h => exact hw.same h ht
  | closes q s hp h => exact hw.shut h ht fun _ => rfl
  | registers q s rid hp h => exact hw.opened h ht
  | clears hp h => exact .cleared h
  | subscribes topic hp h => exact hw.created h

theorem enrolling_kept : Keeps (outline σ) (fun _ _ _ => True) .trivial Enrolling where
  step := by
    rintro x q w w' o - ⟨hw, hx, hs⟩ h -
    obtain ⟨hst, hn⟩ := hx x rfl
    have hl := outline_step_later h
    refine ⟨(step_alters h).enrolled hw hl.topic hn, ?_, suspended_later hl hs⟩
    rintro y ⟨rfl⟩
    refine ⟨step_stacked h hst, fun topic s hm => ?_⟩
    exact hn.later hl topic s ((step_unsubscribing h hm).mem hm)
  enter := by
    rintro x l w w' o - ⟨hw, hx, hs⟩ - h -
    obtain ⟨hst, hn⟩ := hx x rfl
    have hl : Later w w' := h.later
    refine ⟨h.begins.enrolled hw hl.topic, ?_, suspended_later hl hs⟩
    rintro y ⟨rfl⟩
    exact ⟨enter_stacked h hst, enter_named h hw hst hn⟩
  wait := by
    rintro x op w o - ⟨hw, hx, hs⟩ - -
    refine ⟨hw, by simp, fun s hm => ?_⟩
    rcases Multiset.mem_cons.mp hm with rfl | hm
    · exact hx x rfl
    · exact hs s hm
  resume := by
    rintro s r w o - ⟨hw, -, hs⟩ - - -
    have hl : Later w ((robot σ).resume s.task s.op r w) := resume_later
    have hlater := suspended_later hl hs
    refine ⟨hw.same resume_same hl.topic, ?_, fun y hy => hlater y (Multiset.mem_cons_of_mem hy)⟩
    rintro y ⟨rfl⟩
    exact hlater s (Multiset.mem_cons_self s o)
  start := by
    rintro t q w o - ⟨hw, -, hs⟩ - - -
    have hl : Later w ((robot σ).start t w) := begin_later
    refine ⟨hw.same start_same hl.topic, ?_, suspended_later hl hs⟩
    rintro y ⟨rfl⟩
    exact ⟨.of_none (by simp), fun _ _ hm => by simp at hm⟩
  finish := by
    rintro x r w o - ⟨hw, -, hs⟩ - -
    have hl : Later w ((robot σ).finish x.task r w) := finish_later
    exact ⟨hw.same finish_same hl.topic, by simp, suspended_later hl hs⟩
  env := by
    rintro e w w' o - ⟨hw, -, hs⟩ - h -
    have hl : Later w w' := env_later h
    exact ⟨hw.same (env_same h) hl.topic, by simp, suspended_later hl hs⟩

theorem enrolling_initial {clock : Clock} : Enrolling (initial clock).world none 0 :=
  ⟨.initial, by simp, by simp⟩

/-! ### What has been looked up -/

/-- What the code relies on where it closes a slot that it has looked up: it holds
of registered slots, and as long as slots and registry are as they are. -/
structure Relied (P : World → String → SlotId → Prop) : Prop where
  registered : ∀ {w topic s}, Enrolled w → w.subs.subs.get? topic = some s → P w topic s
  same : ∀ {w w' topic s}, Same w w' → P w topic s → P w' topic s

/-- No other slot is registered under the topic. -/
def World.Yields (w : World) (topic : String) (s : SlotId) : Prop :=
  ∀ u, w.subs.subs.get? topic = some u → u = s

theorem yields_relied : Relied World.Yields where
  registered := fun _ hs u hu => Option.some.inj (hu.symm.trans hs)
  same := fun hw h u hu => h u (by rwa [hw.registry] at hu)

variable {P : World → String → SlotId → Prop}

/-- An answer makes `unsubscribe_request` close the slot that it had looked up only
if `P` holds of it by then. -/
def LooksUp (σ : Setup) (P : World → String → SlotId → Prop) : Constraint (robot σ)
  | w, _, .resume site r =>
    ∀ topic s, .unsubscribing topic s ∈ site.path → Unsubscribes w site r → P w topic s
  | _, _, _ => True

/-- What the running task may rely on where it closes a slot for a handle. -/
def Due (P : World → String → SlotId → Prop) (w : World) (x : Running Karo) : Prop :=
  match x.since with
  | .begun => True
  | .called => ∀ topic s, .unsubscribing topic s ∈ x.path → P w topic s
  | .answered site r =>
    (∀ rid rep, site.op = .future rid → r = .ok rep → (w.rpc.futures rid).done = true) ∧
    ∀ topic s, .unsubscribing topic s ∈ x.path →
      x.path <+: site.path ∧ (Unsubscribes w site r → P w topic s)

theorem Unsubscribes.of_later {site : Site Karo} {r : Except Exn Reply} (hw : Later w w')
    (hf : ∀ rid rep, site.op = .future rid → r = .ok rep → (w.rpc.futures rid).done = true)
    (h : Unsubscribes w' site r) : Unsubscribes w site r := by
  unfold Unsubscribes at h ⊢
  split
  · simpa [*] using h
  · simpa [*] using h
  · rename_i rid rep ho
    rw [← hw.future rid (hf rid rep ho rfl)]
    simpa [*] using h
  · split at h <;> simp_all

/-- Moves under `unsubscribe_request` leave slots and registry alone. -/
theorem Move.unsub_same (h : Move σ x w w') (hu : UnsubStack x.path) : Same w w' := by
  cases h with
  | quiet hq => exact .of_quiet hq
  | sent | answered => exact .of_subs rfl
  | lost q reason msg hp | aborted q code message hp =>
    exact absurd (hu.last hp) (by simp [Label.unsub])
  | _ =>
    generalize x.path = p at *
    cases hu <;> simp_all

/-- A step that stays in, or returns to, the call for a slot. -/
theorem step_unsub_same {q : List Label} {topic : String} {s : SlotId}
    (h : (outline σ).step x q w w') (hst : Stacked x.path) (hm : .unsubscribing topic s ∈ q) :
    Same w w' := by
  have hpre := step_unsubscribing h hm
  have hu : UnsubStack x.path := hst ⟨_, hpre.mem hm, rfl⟩
  rcases h with ⟨-, h⟩ | ⟨l, hp, h⟩ | h
  · exact h.unsub_same hu
  · -- only the request returns to it
    obtain ⟨rid, ws, rfl⟩ : ∃ rid ws, l = .sendRpcAndWait rid ws := by
      generalize x.path = p at hp hu
      cases hu with
      | request =>
        obtain rfl : q = [] := by
          have := congrArg List.dropLast hp
          simpa using this.symm
        cases hm
      | slot h b topic' s' =>
        obtain ⟨rfl, -⟩ := append_eq_pair hp.symm
        simp at hm
      | rpc h b topic' s' rid ws => exact ⟨rid, ws, (append_eq_triple hp.symm).2⟩
    cases h
    exact .refl
  · cases h <;> simp at hm

theorem step_due {q : List Label} (hP : Relied P) (h : (outline σ).step x q w w')
    (hst : Stacked x.path) (hd : Due P w x) : Due P w' { x with path := q } := by
  have hlater := outline_step_later h
  unfold Due at hd ⊢
  cases hs : x.since with
  | begun => trivial
  | called =>
    rw [hs] at hd
    intro topic s hm
    exact hP.same (step_unsub_same h hst hm) (hd topic s ((step_unsubscribing h hm).mem hm))
  | answered site r =>
    rw [hs] at hd
    refine ⟨fun rid rep ho hr => ?_, fun topic s hm => ?_⟩
    · rw [hlater.future rid (hd.1 rid rep ho hr)]
      exact hd.1 rid rep ho hr
    · have hpre := step_unsubscribing h hm
      obtain ⟨hp, hy⟩ := hd.2 topic s (hpre.mem hm)
      exact ⟨hpre.trans hp, fun hu =>
        hP.same (step_unsub_same h hst hm) (hy (hu.of_later hlater hd.1))⟩

theorem enter_due {l : Label} (hP : Relied P) (h : Enters σ x w l w') (he : Enrolled w)
    (hst : Stacked x.path) (hd : Due P w x) : Due P w' ⟨x.task, x.path ++ [l], .called⟩ := by
  intro topic s hm
  obtain ⟨rfl, hs | ⟨hm', hx⟩⟩ := enter_unsubscribing h hst hm
  · exact hP.registered he hs
  · unfold Due at hd
    rw [hx] at hd
    exact hd topic s hm'

/-- The running task may close what it has looked up. -/
def Looking (P : World → String → SlotId → Prop) (w : World) (r : Option (Running Karo))
    (_ : Multiset (Site Karo)) : Prop :=
  ∀ x, r = some x → Due P w x

theorem looking_kept (hP : Relied P) :
    Keeps (outline σ) (LooksUp σ P) Enrolling (Looking P) where
  step := by
    rintro x q w w' o hk hx h - y ⟨rfl⟩
    exact step_due hP h (hk.running x rfl).1 (hx x rfl)
  enter := by
    rintro x l w w' o hk hx - h - y ⟨rfl⟩
    exact enter_due hP h hk.enrolled (hk.running x rfl).1 (hx x rfl)
  wait := by
    rintro x op w o - - - - y h
    cases h
  resume := by
    rintro s r w o - - ha hr - y ⟨rfl⟩
    have hl : Later w ((robot σ).resume s.task s.op r w) := resume_later
    have hf : ∀ rid rep, s.op = .future rid → r = .ok rep → (w.rpc.futures rid).done = true := by
      rintro rid rep ho rfl
      rw [ho] at hr
      change World.ready w s.task (.future rid) (.ok rep) = true at hr
      cases rep <;> simp_all [World.ready, World.mayEnd]
    refine ⟨fun rid rep ho he => ?_, fun topic u hm => ⟨List.prefix_rfl, fun hu => ?_⟩⟩
    · rw [hl.future rid (hf rid rep ho he)]
      exact hf rid rep ho he
    · exact hP.same resume_same (ha topic u hm (hu.of_later hl hf))
  start := by
    rintro t q w o - - - - - y ⟨rfl⟩
    trivial
  finish := by
    rintro x r w o - - - - y h
    cases h
  env := by
    rintro e w w' o - - - - - y h
    cases h

theorem looked_kept (hP : Relied P) :
    Keeps (outline σ) (LooksUp σ P) .trivial (Invariant.and Enrolling (Looking P)) :=
  (enrolling_kept.mono fun _ _ _ _ => trivial).and (looking_kept hP)

theorem looked_initial {clock : Clock} :
    Invariant.and Enrolling (Looking P) (initial clock).world none 0 :=
  ⟨enrolling_initial, fun _ h => by cases h⟩

/-! ### Scripts -/

/-- The slot that a subscribe request is recorded for. -/
def Label.subscribes : Label → Option SlotId
  | .subscribing s _ => some s
  | _ => none

/-- The slot that has been looked up for a handle. -/
def Label.lookedUp : Label → Option SlotId
  | .unsubscribing _ s => some s
  | _ => none

/-- The task waits for a callback of the user. -/
def Op.inCallback : Op → Bool
  | .callback _ _ => true
  | _ => false

/-- `connect()` up to `READY`, to a robot with these topics. -/
def connectedTo (topics : List TopicDescriptor) : List (Cmd (robot σ)) :=
  [.env (.call .connect), .start 0, .start 1, .resume 1 (.ok .done), .resume 1 (.ok .done), .start 2,
    .resume 2 (.ok (.inbound (.frame 0
      (some { requestId := 1, success := true, hasHandshake := true, availableTopics := topics })
      none))),
    .resume 1 (.ok .done)]

/-- `connect()` up to `READY`. -/
def connected : List (Cmd (robot σ)) := connectedTo []

end KaroX2
