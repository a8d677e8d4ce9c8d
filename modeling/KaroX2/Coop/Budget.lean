/-
KaroX2/Coop/Budget.lean

Budgets: what is spent along a run, and what was earned for it.

A budget reads off the world how much was spent and how much was earned, and says which
calls owe: they have been paid for, and have not spent it yet.  An update `Pays` for itself if
it spends no more than it earns and the calls that owe make good:

    spent' + debts' + earned  ≤  spent + debts + earned'.

If all events of an outline do so, the budget is `Balanced` along every run: what was
spent, and what the calls of all tasks still owe, was earned before.  A task that is suspended
or answered takes its debts along, so nothing has to be shown of these events but of what
they do to the world.
-/
import KaroX2.Coop.Outline
import Mathlib.Algebra.BigOperators.Group.Multiset.Basic

namespace KaroX2.Coop

variable {S : Sig}

structure Budget (S : Sig) where
  spent : S.World → Nat
  earned : S.World → Nat
  owes : S.Label → Bool

namespace Budget

variable (L : Budget S)

/-- The calls of a stack that owe. -/
def debts (p : List S.Label) : Nat := p.countP L.owes

/-- The calls of all tasks that owe. -/
def owed (r : Option (Running S)) (o : Multiset (Site S)) : Nat :=
  (o.map fun s => L.debts s.path).sum + r.elim 0 fun x => L.debts x.path

/-- What was spent and is owed was earned. -/
def Balanced : Invariant S := fun w r o => L.spent w + L.owed r o ≤ L.earned w

/-- An update where the calls in `p` go on in those in `q`. -/
def Pays (p q : List S.Label) (w w' : S.World) : Prop :=
  L.spent w' + L.debts q + L.earned w ≤ L.spent w + L.debts p + L.earned w'

variable {L} {p q p' : List S.Label} {l : S.Label} {w w' v : S.World} {x : Running S}
  {r : Option (Running S)} {o : Multiset (Site S)}

theorem debts_append : L.debts (p ++ q) = L.debts p + L.debts q := List.countP_append

theorem debts_singleton : L.debts [l] = (L.owes l).toNat := by
  rw [debts, List.countP_singleton]
  cases L.owes l <;> rfl

theorem Pays.trans (h : L.Pays p q w v) (h' : L.Pays q p' v w') : L.Pays p p' w w' := by
  unfold Pays at h h' ⊢
  omega

/-- Calls below those that go on keep their debts. -/
theorem Pays.below (h : L.Pays p q w w') : L.Pays (p' ++ p) (p' ++ q) w w' := by
  unfold Pays at h ⊢
  rw [debts_append, debts_append]
  omega

/-- A call ends, and is released from what it owes. -/
theorem Pays.leaves : L.Pays (p ++ [l]) p w w := by
  unfold Pays
  rw [debts_append]
  omega

theorem owed_suspended {t : TaskId} {op : S.Op} {e : Since S} :
    L.owed none (⟨t, p, op⟩ ::ₘ o) = L.owed (some ⟨t, p, e⟩) o := by
  rw [owed, Multiset.map_cons, Multiset.sum_cons]
  show L.debts p + (o.map fun s => L.debts s.path).sum + 0 =
    (o.map fun s => L.debts s.path).sum + L.debts p
  omega

/-- The running task pays for its update. -/
theorem Balanced.pays {y : Running S} (h : L.Balanced w (some x) o)
    (hp : L.Pays x.path y.path w w') : L.Balanced w' (some y) o := by
  have hw : L.spent w + ((o.map fun s => L.debts s.path).sum + L.debts x.path) ≤ L.earned w := h
  unfold Pays at hp
  show L.spent w' + ((o.map fun s => L.debts s.path).sum + L.debts y.path) ≤ L.earned w'
  omega

/-- Nobody's calls change. -/
theorem Balanced.later (h : L.Balanced w r o) (hp : L.Pays [] [] w w') : L.Balanced w' r o := by
  unfold Pays at hp
  unfold Balanced at h ⊢
  omega

variable (L) {sys : Sys S} {O : Outline sys} {A : Constraint sys}

/-- All events pay. -/
structure Settles (O : Outline sys) : Prop where
  step : ∀ {x q w w'}, O.step x q w w' → L.Pays x.path q w w'
  enter : ∀ {x l w w'}, O.enter x l w w' → L.Pays x.path (x.path ++ [l]) w w'
  resume : ∀ t op r w, L.Pays [] [] w (sys.resume t op r w)
  start : ∀ t w, L.Pays [] [] w (sys.start t w)
  finish : ∀ t r w, L.Pays [] [] w (sys.finish t r w)
  env : ∀ {e w w'}, sys.env e w = some w' → L.Pays [] [] w w'

variable {L}

theorem Settles.kept (h : L.Settles O) : Keeps O A .trivial L.Balanced where
  step _ hi hs _ := hi.pays (h.step hs)
  enter _ hi _ hs _ := hi.pays (h.enter hs)
  wait {x op w o} _ hi _ _ := by
    show L.spent w + L.owed none (⟨x.task, x.path, op⟩ ::ₘ o) ≤ L.earned w
    rw [owed_suspended (e := x.since)]
    exact hi
  resume {s r w o} _ hi _ _ _ := by
    have hrun : L.Balanced w (some ⟨s.task, s.path, .answered s r⟩) o := by
      have hsame : L.owed none (s ::ₘ o) = L.owed (some ⟨s.task, s.path, .answered s r⟩) o :=
        owed_suspended
      show L.spent w + _ ≤ L.earned w
      rw [← hsame]
      exact hi
    exact hrun.later (h.resume _ _ _ _)
  start {t q w o} _ hi _ _ _ := by
    have hrun : L.Balanced w (some ⟨t, [], .begun⟩) o := hi
    exact hrun.later (h.start _ _)
  finish {x r w o} _ hi _ _ := by
    have hnone : L.Balanced w none o :=
      (Nat.add_le_add_left (Nat.add_le_add_left (Nat.zero_le _) _) _).trans hi
    exact hnone.later (h.finish _ _ _)
  env _ hi _ he _ := hi.later (h.env he)

/-- **The budget is balanced along every run.** -/
theorem Settles.run {Pre : S.Proc → Running S → S.World → Prop} {c : Config S} (h : L.Settles O)
    (P : Outlined O Pre) (hw : L.spent w ≤ L.earned w) (hr : Run sys A ⟨w, [], none⟩ c) :
    L.spent c.world + (c.sites.map fun s => L.debts s.path).sum ≤ L.earned c.world := by
  have hinit : L.Balanced w none 0 := hw
  have htraced := P.traced_run h.kept (.initial hinit) hr
  rcases hrun : c.running with - | ⟨t, k⟩
  · exact htraced.idle hrun
  · obtain ⟨x, -, hx, -⟩ := htraced.running t k hrun
    have hx : L.spent c.world + ((c.sites.map fun s => L.debts s.path).sum + L.debts x.path) ≤
      L.earned c.world := hx
    omega

end Budget

end KaroX2.Coop
