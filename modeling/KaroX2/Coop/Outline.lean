/-
KaroX2/Coop/Outline.lean

What the tasks of a system do, and what every run of it keeps.

The two questions are separated.  An `Outline` says what a task may do at which
place of its code: which updates it makes, which calls it begins, where it is
suspended and how it ends.  A running task is seen as a `Running`: its call
stack, and what it has been through since it began to run.  `Coro.Follows` says
that a coroutine follows an outline; it is proved once, coroutine by coroutine,
with the rules of this file.

An invariant speaks about the world, the running task and the sites of the
suspended ones.  `Keeps` collects what has to be shown of it: one clause for
each kind of event, none of which mentions a coroutine.  `Outlined.run` is the
soundness theorem: if the bodies of a system follow an outline and an invariant
is kept by the events of the outline, then it holds along every run.

While a task is suspended nothing is known of the world but that it is `later`,
a preorder that all events respect; what a coroutine has to remember across a
suspension is a fact that is stable under it.
-/
import KaroX2.Coop.Loop

namespace KaroX2.Coop

variable {S : Sig} {α β : Type}

/-- What a running task has been through last: it has just been started, it has
been answered at a site and begun no call since, or it has begun a call. -/
inductive Since (S : Sig) where
  | begun
  | answered (s : Site S) (r : Except S.Exn S.Reply)
  | called

/-- The running task, its call stack, and what it has been through. -/
structure Running (S : Sig) where
  task : TaskId
  path : List S.Label
  since : Since S

/-- What tasks do. -/
structure Outline (sys : Sys S) where
  /-- the task updates the world and goes on in another call stack -/
  step : Running S → List S.Label → S.World → S.World → Prop
  /-- the task begins a call with an update of the world -/
  enter : Running S → S.Label → S.World → S.World → Prop
  /-- the task is suspended -/
  wait : Running S → S.Op → S.World → Prop
  /-- the task ends -/
  finish : Running S → Except S.Exn Unit → S.World → Prop
  /-- how the world may change in between -/
  later : S.World → S.World → Prop

/-- A postcondition: how a coroutine ended, the running task, the world. -/
abbrev Post (S : Sig) (α : Type) := Except S.Exn α → Running S → S.World → Prop

variable {sys : Sys S} (O : Outline sys)

/-! ### Following an outline -/

/-- The coroutine, under the call stack `p` and run as `x` from the world `w`,
follows the outline and ends in the postcondition. -/
def Coro.Follows (p : List S.Label) : Coro S α → Running S → Post S α → S.World → Prop
  | .ret r, x, Q, w => Q r x w
  | .get k, x, Q, w => (k w).Follows p x Q w
  | .step q q' w' k, x, Q, w =>
      x.path = p ++ q ∧ O.step x (p ++ q') w w' ∧ k.Follows p { x with path := p ++ q' } Q w'
  | .enter q l w' k, x, Q, w =>
      x.path = p ++ q ∧ O.enter x l w w' ∧ k.Follows p ⟨x.task, p ++ q ++ [l], .called⟩ Q w'
  | .await q op k, x, Q, w =>
      x.path = p ++ q ∧ O.wait x op w ∧
      ∀ r w', O.later w w' → sys.ready w' x.task op r = true →
        (k r).Follows p ⟨x.task, x.path, .answered ⟨x.task, x.path, op⟩ r⟩ Q
          (sys.resume x.task op r w')

/-- The postcondition of `c` in `c >>= f`. -/
def Post.andThen (p : List S.Label) (f : α → Coro S β) (Q : Post S β) : Post S α
  | .ok a, x, w => (f a).Follows O p x Q w
  | .error e, x, w => Q (.error e) x w

/-- The postcondition of `c` in a call of it under the label `l`: what is left
to do is to leave the label. -/
def Post.leaving (p : List S.Label) (l : S.Label) (Q : Post S α) :
    Post S (α × (S.World → S.World))
  | .ok (a, g), x, w =>
      x.path = p ++ [l] ∧ O.step x p w (g w) ∧ Q (.ok a) { x with path := p } (g w)
  | .error e, x, w => x.path = p ++ [l] ∧ O.step x p w w ∧ Q (.error e) { x with path := p } w

/-- The postcondition of a round of a loop, with the loop invariant `J`. -/
def Post.looping (t : TaskId) (p : List S.Label) (here next : S.Label)
    (J : Since S → S.World → Prop) (Q : Post S Unit) : Post S Unit
  | .ok _, x, w =>
      x.task = t ∧ x.path = p ++ [here] ∧ O.step x (p ++ [next]) w w ∧ J x.since w
  | .error e, x, w =>
      x.path = p ++ [here] ∧ O.step x p w w ∧ Q (.error e) { x with path := p } w

variable {O} {p : List S.Label} {t : TaskId} {w : S.World} {x : Running S}
  {a : Since S}

@[simp] theorem Post.andThen_ok {f : α → Coro S β} {Q : Post S β} {b : α} :
    Post.andThen O p f Q (.ok b) x w ↔ (f b).Follows O p x Q w := Iff.rfl

@[simp] theorem Post.andThen_error {f : α → Coro S β} {Q : Post S β} {e : S.Exn} :
    Post.andThen O p f Q (.error e) x w ↔ Q (.error e) x w := Iff.rfl

namespace Coro

@[simp] theorem follows_ret {r : Except S.Exn α} {Q : Post S α} :
    (ret r).Follows O p x Q w ↔ Q r x w := Iff.rfl

@[simp] theorem follows_pure {b : α} {Q : Post S α} :
    (pure b : Coro S α).Follows O p x Q w ↔ Q (.ok b) x w := Iff.rfl

@[simp] theorem follows_raise {e : S.Exn} {Q : Post S α} :
    (raise e : Coro S α).Follows O p x Q w ↔ Q (.error e) x w := Iff.rfl

@[simp] theorem follows_read {Q : Post S S.World} :
    (read : Coro S S.World).Follows O p x Q w ↔ Q (.ok w) x w := Iff.rfl

theorem follows_modify {f : S.World → S.World} {Q : Post S Unit} :
    (modify f).Follows O p ⟨t, p, a⟩ Q w ↔
      O.step ⟨t, p, a⟩ p w (f w) ∧ Q (.ok ()) ⟨t, p, a⟩ (f w) := by
  simp only [modify, Follows, List.append_nil, true_and]

theorem follows_update {f : S.World → α × S.World} {Q : Post S α} :
    (update f).Follows O p ⟨t, p, a⟩ Q w ↔
      O.step ⟨t, p, a⟩ p w (f w).2 ∧ Q (.ok (f w).1) ⟨t, p, a⟩ (f w).2 := by
  simp only [update, Follows, List.append_nil, true_and]

theorem follows_wait {op : S.Op} {Q : Post S S.Reply} :
    (wait op).Follows O p ⟨t, p, a⟩ Q w ↔
      O.wait ⟨t, p, a⟩ op w ∧
      ∀ r w', O.later w w' → sys.ready w' t op r = true →
        Q r ⟨t, p, .answered ⟨t, p, op⟩ r⟩ (sys.resume t op r w') := by
  simp only [wait, Follows, List.append_nil, true_and]

@[simp] theorem follows_bind {c : Coro S α} {f : α → Coro S β} {Q : Post S β} :
    (c >>= f).Follows O p x Q w ↔ c.Follows O p x (Post.andThen O p f Q) w := by
  show (c.bind f).Follows O p x Q w ↔ _
  induction c generalizing x w with
  | ret r => cases r <;> rfl
  | get k ih => exact ih w
  | step q q' w' k ih => simp only [Coro.bind, Follows, ih]
  | enter q l w' k ih => simp only [Coro.bind, Follows, ih]
  | await q op k ih => simp only [Coro.bind, Follows, ih]

@[simp] theorem follows_attempt {c : Coro S α} {Q : Post S (Except S.Exn α)} :
    c.attempt.Follows O p x Q w ↔ c.Follows O p x (fun r => Q (.ok r)) w := by
  induction c generalizing x w with
  | ret r => rfl
  | get k ih => exact ih w
  | step q q' w' k ih => simp only [attempt, Follows, ih]
  | enter q l w' k ih => simp only [attempt, Follows, ih]
  | await q op k ih => simp only [attempt, Follows, ih]

theorem follows_under {l : S.Label} {c : Coro S α} {Q : Post S α} :
    (c.under l).Follows O p x Q w ↔ c.Follows O (p ++ [l]) x Q w := by
  induction c generalizing x w with
  | ret r => rfl
  | get k ih => exact ih w
  | step q q' w' k ih =>
    simp only [under, Follows, ih, List.append_assoc, List.singleton_append]
  | enter q m w' k ih =>
    simp only [under, Follows, ih, List.append_assoc, List.singleton_append]
  | await q op k ih =>
    simp only [under, Follows, ih, List.append_assoc, List.singleton_append]

theorem follows_within {l : S.Label} {c : Coro S α} {Q : Post S (Except S.Exn α)} :
    (within l c).Follows O p x Q w ↔ c.Follows O (p ++ [l]) x (fun r => Q (.ok r)) w := by
  rw [within, follows_attempt, follows_under]

@[simp] theorem follows_when {b : Prop} [Decidable b] {c : Coro S Unit} {Q : Post S Unit} :
    (when b c).Follows O p x Q w ↔ (b → c.Follows O p x Q w) ∧ (¬b → Q (.ok ()) x w) := by
  unfold when
  split <;> simp_all

theorem follows_enterBy {l : S.Label} {f : S.World → S.World} {Q : Post S Unit} :
    (enterBy l f).Follows O p ⟨t, p, a⟩ Q w ↔
      O.enter ⟨t, p, a⟩ l w (f w) ∧ Q (.ok ()) ⟨t, p ++ [l], .called⟩ (f w) := by
  simp only [enterBy, Follows, List.append_nil, true_and]

theorem follows_become {l m : S.Label} {f : S.World → S.World} {Q : Post S Unit} :
    (become l m f).Follows O p ⟨t, p ++ [l], a⟩ Q w ↔
      O.step ⟨t, p ++ [l], a⟩ (p ++ [m]) w (f w) ∧ Q (.ok ()) ⟨t, p ++ [m], a⟩ (f w) := by
  simp only [become, Follows, true_and]

theorem follows_leaveBy {l : S.Label} {f : S.World → S.World} {Q : Post S Unit} :
    (leaveBy l f).Follows O p ⟨t, p ++ [l], a⟩ Q w ↔
      O.step ⟨t, p ++ [l], a⟩ p w (f w) ∧ Q (.ok ()) ⟨t, p, a⟩ (f w) := by
  simp only [leaveBy, Follows, List.append_nil, true_and]

theorem follows_mono {c : Coro S α} {Q Q' : Post S α} (h : ∀ r x w, Q r x w → Q' r x w)
    (hc : c.Follows O p x Q w) : c.Follows O p x Q' w := by
  induction c generalizing x w with
  | ret r => exact h r x w hc
  | get k ih => exact ih w hc
  | step q q' w' k ih => exact ⟨hc.1, hc.2.1, ih hc.2.2⟩
  | enter q l w' k ih => exact ⟨hc.1, hc.2.1, ih hc.2.2⟩
  | await q op k ih =>
    exact ⟨hc.1, hc.2.1, fun r w' h₁ h₂ => ih r (hc.2.2 r w' h₁ h₂)⟩

/-- The rule of calls with updates. -/
theorem follows_scope {l : S.Label} {f : S.World → S.World}
    {c : Coro S (α × (S.World → S.World))} {Q : Post S α}
    (he : O.enter ⟨t, p, a⟩ l w (f w))
    (hc : c.Follows O (p ++ [l]) ⟨t, p ++ [l], .called⟩ (Post.leaving O p l Q) (f w)) :
    (scope l f c).Follows O p ⟨t, p, a⟩ Q w := by
  simp only [scope, follows_bind, follows_enterBy, Post.andThen_ok, follows_within]
  refine ⟨he, follows_mono ?_ hc⟩
  rintro (e | ⟨b, g⟩) ⟨u, q, d⟩ w' ⟨hq, hs, hQ⟩
  · obtain rfl : q = p ++ [l] := hq
    simp only [Post.andThen_ok, follows_bind, follows_leaveBy]
    exact ⟨hs, hQ⟩
  · obtain rfl : q = p ++ [l] := hq
    simp only [Post.andThen_ok, follows_bind, follows_leaveBy]
    exact ⟨hs, hQ⟩

/-- The rule of calls. -/
theorem follows_call {l : S.Label} {c : Coro S α} {Q : Post S α}
    (he : O.enter ⟨t, p, a⟩ l w w)
    (hc : c.Follows O (p ++ [l]) ⟨t, p ++ [l], .called⟩
      (fun r x w => x.path = p ++ [l] ∧ O.step x p w w ∧ Q r { x with path := p } w) w) :
    (call l c).Follows O p ⟨t, p, a⟩ Q w := by
  refine follows_scope he ?_
  rw [follows_bind]
  refine follows_mono ?_ hc
  rintro (e | b) x w' ⟨hq, hs, hQ⟩
  · exact ⟨hq, hs, hQ⟩
  · exact ⟨hq, hs, hQ⟩

/-- The rule of loops, with a loop invariant for each rest of the list. -/
theorem follows_rounds {lab : List β → S.Label} {last : S.World → S.World} {c : β → Coro S Unit}
    {l : List β} {J : List β → Since S → S.World → Prop} {Q : Post S Unit} (hJ : J l a w)
    (hround : ∀ b l a w, J (b :: l) a w →
      (c b).Follows O (p ++ [lab (b :: l)]) ⟨t, p ++ [lab (b :: l)], a⟩
        (Post.looping O t p (lab (b :: l)) (lab l) (J l) Q) w)
    (hdone : ∀ a w, J [] a w →
      O.step ⟨t, p ++ [lab []], a⟩ p w (last w) ∧ Q (.ok ()) ⟨t, p, a⟩ (last w)) :
    (rounds lab last c l).Follows O p ⟨t, p ++ [lab l], a⟩ Q w := by
  induction l generalizing a w with
  | nil =>
    rw [rounds, follows_leaveBy]
    exact hdone a w hJ
  | cons b l ih =>
    rw [rounds, follows_bind, follows_within]
    refine follows_mono ?_ (hround b l a w hJ)
    rintro (e | _) ⟨u, q, d⟩ w' hr
    · obtain ⟨hq, hs, hQ⟩ := hr
      obtain rfl : q = p ++ [lab (b :: l)] := hq
      rw [Post.andThen_ok, follows_bind, follows_leaveBy]
      exact ⟨hs, hQ⟩
    · obtain ⟨hu, hq, hs, hJ'⟩ := hr
      obtain rfl : u = t := hu
      obtain rfl : q = p ++ [lab (b :: l)] := hq
      rw [Post.andThen_ok, follows_bind, follows_become]
      exact ⟨hs, ih hJ'⟩

end Coro

/-! ### Systems that follow an outline -/

/-- What has to hold when a body ends: the precondition of the next body, or
that the task may end so. -/
def exitPost (O : Outline sys) (Pre : S.Proc → Running S → S.World → Prop) : Post S (Flow S)
  | .ok (.next q), x, w => Pre q x w
  | .ok .done, x, w => O.finish x (.ok ()) w
  | .error e, x, w => O.finish x (.error e) w

/-- The bodies of the system follow the outline: `Pre` holds where a body is
entered, and every body follows the outline from there. -/
structure Outlined (O : Outline sys) (Pre : S.Proc → Running S → S.World → Prop) : Prop where
  start : ∀ {t q w}, sys.created w t = some q → Pre q ⟨t, [], .begun⟩ (sys.start t w)
  body : ∀ {q x w}, Pre q x w → (sys.body x.task q).Follows O [] x (exitPost O Pre) w
  refl : ∀ w, O.later w w
  trans : ∀ {w₁ w₂ w₃}, O.later w₁ w₂ → O.later w₂ w₃ → O.later w₁ w₃
  step : ∀ {x q w w'}, O.step x q w w' → O.later w w'
  enter : ∀ {x l w w'}, O.enter x l w w' → O.later w w'
  begun : ∀ {t w}, O.later w (sys.start t w)
  resume : ∀ {t op r w}, O.later w (sys.resume t op r w)
  finish : ∀ {t r w}, O.later w (sys.finish t r w)
  env : ∀ {e w w'}, sys.env e w = some w' → O.later w w'

/-! ### Invariants -/

/-- A statement about the world, the running task and the suspended ones. -/
abbrev Invariant (S : Sig) := S.World → Option (Running S) → Multiset (Site S) → Prop

/-- `I` is kept by every event of the outline that the constraint allows, where
`K` is known to hold. -/
structure Keeps (O : Outline sys) (A : Constraint sys) (K I : Invariant S) : Prop where
  step : ∀ {x q w w' o}, K w (some x) o → I w (some x) o → O.step x q w w' →
    K w' (some { x with path := q }) o → I w' (some { x with path := q }) o
  enter : ∀ {x l w w' o}, K w (some x) o → I w (some x) o → A w o (.enter x.task x.path l) →
    O.enter x l w w' → K w' (some ⟨x.task, x.path ++ [l], .called⟩) o →
    I w' (some ⟨x.task, x.path ++ [l], .called⟩) o
  wait : ∀ {x op w o}, K w (some x) o → I w (some x) o → O.wait x op w →
    K w none (⟨x.task, x.path, op⟩ ::ₘ o) → I w none (⟨x.task, x.path, op⟩ ::ₘ o)
  resume : ∀ {s r w o}, K w none (s ::ₘ o) → I w none (s ::ₘ o) → A w (s ::ₘ o) (.resume s r) →
    sys.ready w s.task s.op r = true →
    K (sys.resume s.task s.op r w) (some ⟨s.task, s.path, .answered s r⟩) o →
    I (sys.resume s.task s.op r w) (some ⟨s.task, s.path, .answered s r⟩) o
  start : ∀ {t q w o}, K w none o → I w none o → A w o (.start t q) → sys.created w t = some q →
    K (sys.start t w) (some ⟨t, [], .begun⟩) o → I (sys.start t w) (some ⟨t, [], .begun⟩) o
  finish : ∀ {x r w o}, K w (some x) o → I w (some x) o → O.finish x r w →
    K (sys.finish x.task r w) none o → I (sys.finish x.task r w) none o
  env : ∀ {e w w' o}, K w none o → I w none o → A w o (.env e) → sys.env e w = some w' →
    K w' none o → I w' none o

/-- The invariant that always holds. -/
def Invariant.trivial : Invariant S := fun _ _ _ => True

/-- Both invariants. -/
def Invariant.and (K I : Invariant S) : Invariant S := fun w r o => K w r o ∧ I w r o

/-- An invariant that is kept where another one holds adds to it. -/
theorem Keeps.and {A : Constraint sys} {K I : Invariant S} (hK : Keeps O A .trivial K)
    (hI : Keeps O A K I) : Keeps O A .trivial (K.and I) where
  step := fun _ h hs _ =>
    have hk := hK.step True.intro h.1 hs True.intro
    ⟨hk, hI.step h.1 h.2 hs hk⟩
  enter := fun _ h ha hs _ =>
    have hk := hK.enter True.intro h.1 ha hs True.intro
    ⟨hk, hI.enter h.1 h.2 ha hs hk⟩
  wait := fun _ h hs _ =>
    have hk := hK.wait True.intro h.1 hs True.intro
    ⟨hk, hI.wait h.1 h.2 hs hk⟩
  resume := fun _ h ha hr _ =>
    have hk := hK.resume True.intro h.1 ha hr True.intro
    ⟨hk, hI.resume h.1 h.2 ha hr hk⟩
  start := fun _ h ha hc _ =>
    have hk := hK.start True.intro h.1 ha hc True.intro
    ⟨hk, hI.start h.1 h.2 ha hc hk⟩
  finish := fun _ h hs _ =>
    have hk := hK.finish True.intro h.1 hs True.intro
    ⟨hk, hI.finish h.1 h.2 hs hk⟩
  env := fun _ h ha he _ =>
    have hk := hK.env True.intro h.1 ha he True.intro
    ⟨hk, hI.env h.1 h.2 ha he hk⟩

/-- Of what is known, not all may be needed. -/
theorem Keeps.under {A : Constraint sys} {K K' I : Invariant S} (h : Keeps O A K I)
    (hK : ∀ {w r o}, K' w r o → K w r o) : Keeps O A K' I where
  step := fun hk hi hs hk' => h.step (hK hk) hi hs (hK hk')
  enter := fun hk hi ha hs hk' => h.enter (hK hk) hi ha hs (hK hk')
  wait := fun hk hi hs hk' => h.wait (hK hk) hi hs (hK hk')
  resume := fun hk hi ha hr hk' => h.resume (hK hk) hi ha hr (hK hk')
  start := fun hk hi ha hc hk' => h.start (hK hk) hi ha hc (hK hk')
  finish := fun hk hi hs hk' => h.finish (hK hk) hi hs (hK hk')
  env := fun hk hi ha he hk' => h.env (hK hk) hi ha he (hK hk')

/-- A stronger constraint keeps more. -/
theorem Keeps.mono {A B : Constraint sys} {K I : Invariant S} (h : Keeps O A K I)
    (hAB : ∀ w o a, B w o a → A w o a) : Keeps O B K I where
  step := h.step
  enter := fun hk hi ha => h.enter hk hi (hAB _ _ _ ha)
  wait := h.wait
  resume := fun hk hi ha => h.resume hk hi (hAB _ _ _ ha)
  start := fun hk hi ha => h.start hk hi (hAB _ _ _ ha)
  finish := h.finish
  env := fun hk hi ha => h.env hk hi (hAB _ _ _ ha)

/-! ### Soundness -/

variable {Pre : S.Proc → Running S → S.World → Prop} {I : Invariant S} {A : Constraint sys}

/-- The rest of a suspended task follows the outline, whenever it is answered. -/
def Waiting.Follows (O : Outline sys) (Pre : S.Proc → Running S → S.World → Prop)
    (y : Waiting S) (w : S.World) : Prop :=
  ∀ r w', O.later w w' → sys.ready w' y.site.task y.site.op r = true →
    (y.k r).Follows O [] ⟨y.site.task, y.site.path, .answered y.site r⟩ (exitPost O Pre)
      (sys.resume y.site.task y.site.op r w')

/-- The configuration is one that the outline and the invariant admit. -/
structure Config.Traced (O : Outline sys) (Pre : S.Proc → Running S → S.World → Prop)
    (I : Invariant S) (c : Config S) : Prop where
  waiting : ∀ y ∈ c.waiting, y.Follows O Pre c.world
  idle : c.Idle → I c.world none c.sites
  running : ∀ t k, c.running = some (t, k) → ∃ x : Running S, x.task = t ∧
    I c.world (some x) c.sites ∧ k.Follows O [] x (exitPost O Pre) c.world

theorem Config.Traced.initial {w : S.World} (h : I w none 0) :
    Config.Traced O Pre I ⟨w, [], none⟩ where
  waiting := fun _ hy => absurd hy List.not_mem_nil
  idle := fun _ => h
  running := fun _ _ h => nomatch h

theorem sites_middle {w : S.World} {l₁ l₂ : List (Waiting S)} {y : Waiting S}
    {r : Option (TaskId × Coro S (Flow S))} :
    (⟨w, l₁ ++ y :: l₂, r⟩ : Config S).sites
      = y.site ::ₘ (⟨w, l₁ ++ l₂, r⟩ : Config S).sites := by
  simp only [Config.sites, List.map_append, List.map_cons, Multiset.cons_coe, Multiset.coe_eq_coe]
  exact List.perm_middle

/-- Suspended tasks stay within the outline while the world moves on. -/
theorem Outlined.waiting_later (P : Outlined O Pre) {ws : List (Waiting S)} {w w' : S.World}
    (h : ∀ y ∈ ws, y.Follows O Pre w) (hw : O.later w w') : ∀ y ∈ ws, y.Follows O Pre w' := by
  intro y hy r w'' hl hr
  exact h y hy r w'' (P.trans hw hl) hr

/-- One step keeps the configuration within what is admitted. -/
theorem Outlined.traced_step (P : Outlined O Pre) (hI : Keeps O A .trivial I) {c c' : Config S}
    {a : Action S sys.Env} (hc : c.Traced O Pre I) (hs : Step sys c a c')
    (ha : A c.world c.sites a) : c'.Traced O Pre I := by
  cases hs with
  | env e h =>
      have hi := hI.env True.intro (hc.idle rfl) ha h True.intro
      exact ⟨P.waiting_later hc.waiting (P.env h), fun _ => hi, fun _ _ h => nomatch h⟩
  | @start w ws t q h =>
      have hi := hI.start True.intro (hc.idle rfl) ha h True.intro
      refine ⟨P.waiting_later hc.waiting P.begun, fun h => (nomatch h), ?_⟩
      rintro _ _ ⟨rfl, rfl⟩
      exact ⟨⟨t, [], .begun⟩, rfl, hi, P.body (P.start h)⟩
  | @resume w l₁ l₂ y r h =>
      have hsites := @sites_middle S w l₁ l₂ y none
      have hi := hc.idle rfl
      rw [hsites] at hi ha
      have hi' := hI.resume True.intro hi ha h True.intro
      refine ⟨P.waiting_later (fun z hz => hc.waiting z ?_) P.resume, fun h => (nomatch h), ?_⟩
      · simp only [List.mem_append, List.mem_cons] at hz ⊢
        tauto
      · rintro _ _ ⟨rfl, rfl⟩
        exact ⟨_, rfl, hi', hc.waiting y (by simp) r w (P.refl w) h⟩
  | get =>
      obtain ⟨x, hx, hi, hk⟩ := hc.running _ _ rfl
      refine ⟨hc.waiting, fun h => (nomatch h), ?_⟩
      rintro _ _ ⟨rfl, rfl⟩
      exact ⟨x, hx, hi, hk⟩
  | @step w ws t q q' w' k =>
      obtain ⟨x, hx, hi, -, hs, hk⟩ := hc.running _ _ rfl
      have hi' := hI.step True.intro hi hs True.intro
      refine ⟨P.waiting_later hc.waiting (P.step hs), fun h => (nomatch h), ?_⟩
      rintro _ _ ⟨rfl, rfl⟩
      exact ⟨⟨x.task, [] ++ q', x.since⟩, hx, hi', hk⟩
  | @enter w ws t q l w' k =>
      obtain ⟨⟨_, q₁, b⟩, rfl, hi, hq, hs, hk⟩ := hc.running _ _ rfl
      obtain rfl : q₁ = q := hq
      have hi' := hI.enter True.intro hi ha hs True.intro
      refine ⟨P.waiting_later hc.waiting (P.enter hs), fun h => (nomatch h), ?_⟩
      rintro _ _ ⟨rfl, rfl⟩
      exact ⟨⟨_, q₁ ++ [l], .called⟩, rfl, hi', hk⟩
  | await =>
      obtain ⟨⟨t, q, b⟩, rfl, hi, hq, hs, hk⟩ := hc.running _ _ rfl
      obtain rfl : q = _ := hq
      have hi' := hI.wait True.intro hi hs True.intro
      refine ⟨?_, fun _ => hi', fun _ _ h => nomatch h⟩
      intro y hy
      rcases List.mem_cons.mp hy with rfl | hy
      · exact fun r w' hl hr => hk r w' hl hr
      · exact hc.waiting y hy
  | next =>
      obtain ⟨x, rfl, hi, hk⟩ := hc.running _ _ rfl
      refine ⟨hc.waiting, fun h => (nomatch h), ?_⟩
      rintro _ _ ⟨rfl, rfl⟩
      exact ⟨x, rfl, hi, P.body hk⟩
  | done | failed =>
      obtain ⟨x, rfl, hi, hk⟩ := hc.running _ _ rfl
      have hi' := hI.finish True.intro hi hk True.intro
      exact ⟨P.waiting_later hc.waiting P.finish, fun _ => hi', fun _ _ h => nomatch h⟩

/-- **Soundness**: every run under the constraint stays within what the outline
and the invariant admit. -/
theorem Outlined.traced_run (P : Outlined O Pre) (hI : Keeps O A .trivial I) {c c' : Config S}
    (hc : c.Traced O Pre I) (hr : Run sys A c c') : c'.Traced O Pre I := by
  induction hr with
  | refl => exact hc
  | tail _ hs ih =>
      obtain ⟨a, hs, ha⟩ := hs
      exact P.traced_step hI ih hs ha

/-- Every run can be traced, also where no invariant is known. -/
theorem Outlined.traced_reaches (P : Outlined O Pre) {w : S.World} {c : Config S}
    (hr : Run sys A ⟨w, [], none⟩ c) : c.Traced O Pre .trivial := by
  have hkept : Keeps O A .trivial .trivial :=
    ⟨fun _ _ _ _ => trivial, fun _ _ _ _ _ => trivial, fun _ _ _ _ => trivial,
      fun _ _ _ _ _ => trivial, fun _ _ _ _ _ => trivial, fun _ _ _ _ => trivial,
      fun _ _ _ _ _ => trivial⟩
  exact P.traced_run hkept (.initial trivial) hr

/-- The invariant holds along every run, whenever no task is running. -/
theorem Outlined.run (P : Outlined O Pre) (hI : Keeps O A .trivial I) {w : S.World}
    {c : Config S} (h : I w none 0) (hr : Run sys A ⟨w, [], none⟩ c) (hc : c.Idle) :
    I c.world none c.sites :=
  (P.traced_run hI (.initial h) hr).idle hc

/-! ### What single steps do -/

/-- Every event of the outline that the constraint allows is in the relation `R`
where `K` is known to hold. -/
structure Guarantees (O : Outline sys) (A : Constraint sys) (K : Invariant S)
    (R : Action S sys.Env → S.World → S.World → Prop) : Prop where
  refl : ∀ a w, R a w w
  step : ∀ {x q w w' o}, K w (some x) o → A w o (.update x.task x.path) → O.step x q w w' →
    R (.update x.task x.path) w w'
  enter : ∀ {x l w w' o}, K w (some x) o → A w o (.enter x.task x.path l) → O.enter x l w w' →
    R (.enter x.task x.path l) w w'
  start : ∀ {t q w}, sys.created w t = some q → R (.start t q) w (sys.start t w)
  resume : ∀ {s r w}, R (.resume s r) w (sys.resume s.task s.op r w)
  finish : ∀ {x r w o}, K w (some x) o → O.finish x r w →
    R (.silent x.task) w (sys.finish x.task r w)
  env : ∀ {e w w'}, sys.env e w = some w' → R (.env e) w w'

/-- Every step of a run is in the relation. -/
theorem Guarantees.holds {R : Action S sys.Env → S.World → S.World → Prop}
    (hR : Guarantees O A I R) {c c' : Config S} {a : Action S sys.Env} (hc : c.Traced O Pre I)
    (hs : Step sys c a c') (ha : A c.world c.sites a) : R a c.world c'.world := by
  cases hs with
  | env e h => exact hR.env h
  | start h => exact hR.start h
  | resume h => exact hR.resume
  | get | await | next => exact hR.refl _ _
  | @step w ws t q q' w' k =>
      obtain ⟨⟨_, q₁, b⟩, rfl, hi, hq, hs, -⟩ := hc.running _ _ rfl
      obtain rfl : q₁ = q := hq
      exact hR.step hi ha hs
  | @enter w ws t q l w' k =>
      obtain ⟨⟨_, q₁, b⟩, rfl, hi, hq, hs, -⟩ := hc.running _ _ rfl
      obtain rfl : q₁ = q := hq
      exact hR.enter hi ha hs
  | done | failed =>
      obtain ⟨x, rfl, hi, hk⟩ := hc.running _ _ rfl
      exact hR.finish hi hk

/-- A preorder that the steps respect holds between the ends of every run. -/
theorem Guarantees.along {R : Action S sys.Env → S.World → S.World → Prop}
    (hR : Guarantees O A I R) (P : Outlined O Pre) (hI : Keeps O A .trivial I)
    {Rel : S.World → S.World → Prop} (hrefl : ∀ w, Rel w w)
    (htrans : ∀ {a b c}, Rel a b → Rel b c → Rel a c) (hle : ∀ {a w w'}, R a w w' → Rel w w')
    {c d : Config S} (hc : c.Traced O Pre I) (hr : Run sys A c d) : Rel c.world d.world := by
  induction hr with
  | refl => exact hrefl _
  | tail hr hs ih =>
      obtain ⟨a, hs, ha⟩ := hs
      exact htrans ih (hle (hR.holds (P.traced_run hI hc hr) hs ha))

end KaroX2.Coop
