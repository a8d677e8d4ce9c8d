/-
KaroX2/Coop/Tasks.lean

The table of tasks of an event loop.

A task is created with a body, is started once, and finishes once.  A request
to cancel it is a flag: it is served when the task is started or answered the
next time.  Tasks are never removed, so a `TaskId` stays valid and the table
grows at its end only.

`Tasks.pending q` counts the tasks that have yet to be started and whose body
satisfies `q`; `Tasks.awaits t p` says that the task `t` is one of them, with the
body `p`.
-/
import KaroX2.Coop.Coro
import Mathlib.Data.List.Count

namespace KaroX2.Coop

inductive Status where
  | created | started | finished
  deriving DecidableEq, Repr

structure Task (P : Type) where
  proc : P
  status : Status
  cancelled : Bool

/-- All tasks, in the order of their creation. -/
structure Tasks (P : Type) where
  list : List (Task P)

namespace Tasks

variable {P : Type}

def empty : Tasks P := ⟨[]⟩

def get? (ts : Tasks P) (t : TaskId) : Option (Task P) := ts.list[t]?

/-- The id that the next task will get. -/
def next (ts : Tasks P) : TaskId := ts.list.length

def spawn (ts : Tasks P) (p : P) : Tasks P := ⟨ts.list ++ [⟨p, .created, false⟩]⟩

def update (ts : Tasks P) (t : TaskId) (f : Task P → Task P) : Tasks P := ⟨ts.list.modify t f⟩

def begin (ts : Tasks P) (t : TaskId) : Tasks P :=
  ts.update t fun x => { x with status := .started }

def finish (ts : Tasks P) (t : TaskId) : Tasks P :=
  ts.update t fun x => { x with status := .finished }

/-- `task.cancel()`: no effect on a finished task. -/
def cancel (ts : Tasks P) (t : TaskId) : Tasks P :=
  ts.update t fun x => if x.status = .finished then x else { x with cancelled := true }

/-- The request to cancel has been served. -/
def served (ts : Tasks P) (t : TaskId) : Tasks P :=
  ts.update t fun x => { x with cancelled := false }

/-- `task.done()` -/
def done (ts : Tasks P) (t : TaskId) : Bool :=
  match ts.get? t with
  | some x => x.status = .finished
  | none => false

def isCancelled (ts : Tasks P) (t : TaskId) : Bool :=
  match ts.get? t with
  | some x => x.cancelled
  | none => false

def status? (ts : Tasks P) (t : TaskId) : Option Status := (ts.get? t).map Task.status

def procOf (ts : Tasks P) (t : TaskId) : Option P := (ts.get? t).map Task.proc

def isPending (q : P → Bool) (x : Task P) : Bool :=
  x.status = .created && q x.proc

/-- How many tasks are created and not yet started, with a body in `q`. -/
def pending (q : P → Bool) (ts : Tasks P) : Nat := ts.list.countP (isPending q)

/-! ### The table grows at its end -/

variable {ts : Tasks P} {t u : TaskId} {p : P} {f : Task P → Task P}

theorem get?_update : (ts.update u f).get? t = if u = t then (ts.get? t).map f else ts.get? t := by
  simp only [get?, update, List.getElem?_modify]
  split <;> cases ts.list[t]? <;> simp_all

theorem get?_spawn : (ts.spawn p).get? t
    = if t = ts.next then some ⟨p, .created, false⟩ else ts.get? t := by
  by_cases h : t = ts.next
  · rw [if_pos h]
    subst h
    simp [get?, spawn, next]
  · rw [if_neg h]
    simp only [get?, spawn, List.getElem?_append]
    split
    · rfl
    · have hlt : ts.list.length < t :=
        lt_of_le_of_ne (Nat.le_of_not_lt ‹_›) fun e => h e.symm
      rw [List.getElem?_eq_none (by simp; omega), List.getElem?_eq_none (by omega)]

theorem get?_spawn_of_some {x : Task P} (h : ts.get? t = some x) :
    (ts.spawn p).get? t = some x := by
  rw [get?_spawn, if_neg, h]
  rintro rfl
  simp [get?, next] at h

/-- The body of a task never changes. -/
theorem procOf_update (hf : ∀ x, (f x).proc = x.proc) : (ts.update u f).procOf t = ts.procOf t := by
  simp only [procOf, get?_update]
  split
  · cases ts.get? t <;> simp [hf]
  · rfl

@[simp] theorem procOf_begin : (ts.begin u).procOf t = ts.procOf t := procOf_update fun _ => rfl

@[simp] theorem procOf_finish : (ts.finish u).procOf t = ts.procOf t := procOf_update fun _ => rfl

@[simp] theorem procOf_served : (ts.served u).procOf t = ts.procOf t := procOf_update fun _ => rfl

@[simp] theorem procOf_cancel : (ts.cancel u).procOf t = ts.procOf t :=
  procOf_update fun x => by split <;> rfl

theorem procOf_spawn {q : P} (h : ts.procOf t = some q) : (ts.spawn p).procOf t = some q := by
  obtain ⟨x, hx, rfl⟩ := Option.map_eq_some_iff.mp h
  rw [procOf, get?_spawn_of_some hx]
  rfl

theorem procOf_spawn_next : (ts.spawn p).procOf ts.next = some p := by
  rw [procOf, get?_spawn, if_pos rfl]
  rfl

/-! ### Counting the tasks that are still to be started -/

variable {q : P → Bool}

theorem countP_modify_le {α : Type} {r : α → Bool} {g : α → α} (hg : ∀ x, r (g x) → r x)
    (l : List α) (n : Nat) : (l.modify n g).countP r ≤ l.countP r := by
  induction l generalizing n with
  | nil => simp
  | cons x l ih =>
    cases n with
    | zero =>
      simp only [List.modify_zero_cons, List.countP_cons]
      have := hg x
      split <;> simp_all
    | succ n =>
      simp only [List.modify_succ_cons, List.countP_cons]
      have := ih n
      omega

theorem countP_modify_lt {α : Type} {r : α → Bool} {g : α → α} {x : α} (hx : r x = true)
    (hg : r (g x) = false) {l : List α} {n : Nat} (hn : l[n]? = some x) :
    (l.modify n g).countP r + 1 = l.countP r := by
  induction l generalizing n with
  | nil => cases hn
  | cons y l ih =>
    cases n with
    | zero =>
      obtain rfl : y = x := by simpa using hn
      rw [List.modify_zero_cons, List.countP_cons_of_neg (by simp [hg]), List.countP_cons_of_pos hx]
    | succ n =>
      simp only [List.modify_succ_cons, List.countP_cons]
      have := ih (n := n) (by simpa using hn)
      omega

theorem pending_spawn : (ts.spawn p).pending q = ts.pending q + (q p).toNat := by
  simp only [pending, spawn, List.countP_append, List.countP_cons, List.countP_nil, isPending]
  cases q p <;> simp

theorem pending_update_le (hf : ∀ x, isPending q (f x) → isPending q x) :
    (ts.update u f).pending q ≤ ts.pending q := countP_modify_le hf _ _

theorem pending_cancel_le : (ts.cancel u).pending q ≤ ts.pending q := by
  refine pending_update_le fun x h => ?_
  split at h
  · exact h
  · exact h

theorem pending_finish_le : (ts.finish u).pending q ≤ ts.pending q :=
  pending_update_le fun x h => by simp [isPending] at h

theorem pending_served_le : (ts.served u).pending q ≤ ts.pending q :=
  pending_update_le fun _ h => h

theorem pending_begin_le : (ts.begin u).pending q ≤ ts.pending q :=
  pending_update_le fun x h => by simp [isPending] at h

/-- A task that is started is no longer pending. -/
theorem pending_begin {x : Task P} (hx : ts.get? u = some x) (hs : x.status = .created)
    (hq : q x.proc = true) : (ts.begin u).pending q + 1 = ts.pending q := by
  refine countP_modify_lt ?_ ?_ hx
  · simp [isPending, hs, hq]
  · simp [isPending]

/-! ### Tasks that are still to be started -/

/-- The task is created with the body, and not yet started. -/
def awaits (ts : Tasks P) (t : TaskId) (p : P) : Prop :=
  ∃ x, ts.get? t = some x ∧ x.status = .created ∧ x.proc = p

theorem awaits_pending (h : ts.awaits t p) (hq : q p = true) : 0 < ts.pending q := by
  obtain ⟨x, hx, hs, rfl⟩ := h
  exact List.countP_pos_iff.mpr ⟨x, List.mem_of_getElem? hx, by simp [isPending, hs, hq]⟩

theorem exists_awaits (h : 0 < ts.pending q) : ∃ t p, ts.awaits t p ∧ q p = true := by
  obtain ⟨x, hx, hp⟩ := List.countP_pos_iff.mp h
  obtain ⟨t, ht⟩ := List.getElem?_of_mem hx
  simp only [isPending, Bool.and_eq_true, decide_eq_true_eq] at hp
  exact ⟨t, x.proc, ⟨x, ht, hp.1, rfl⟩, hp.2⟩

theorem awaits_spawn {p' : P} (h : (ts.spawn p').awaits t p) : ts.awaits t p ∨ p = p' := by
  obtain ⟨x, hx, hs, rfl⟩ := h
  rw [get?_spawn] at hx
  split at hx
  · obtain rfl := Option.some.inj hx
    exact .inr rfl
  · exact .inl ⟨x, hx, hs, rfl⟩

/-- An update of a task creates none. -/
theorem awaits_update (hf : ∀ x, (f x).proc = x.proc)
    (hs : ∀ x, (f x).status = .created → x.status = .created) (h : (ts.update u f).awaits t p) :
    ts.awaits t p := by
  obtain ⟨y, hy, hc, rfl⟩ := h
  rw [get?_update] at hy
  split at hy
  · obtain ⟨x, hx, rfl⟩ := Option.map_eq_some_iff.mp hy
    exact ⟨x, hx, hs x hc, (hf x).symm⟩
  · exact ⟨y, hy, hc, rfl⟩

theorem awaits_cancel (h : (ts.cancel u).awaits t p) : ts.awaits t p := by
  refine awaits_update ?_ ?_ h <;> intro x
  · split <;> rfl
  · intro hc
    split at hc
    · exact hc
    · exact hc

theorem awaits_served (h : (ts.served u).awaits t p) : ts.awaits t p := by
  refine awaits_update ?_ ?_ h <;> intro x
  · rfl
  · exact id

theorem awaits_finish (h : (ts.finish u).awaits t p) : ts.awaits t p := by
  refine awaits_update ?_ ?_ h <;> intro x
  · rfl
  · intro hc
    cases hc

theorem awaits_begin (h : (ts.begin u).awaits t p) : ts.awaits t p := by
  refine awaits_update ?_ ?_ h <;> intro x
  · rfl
  · intro hc
    cases hc

/-! ### Requests to cancel -/

/-- `ts'` is `ts` after some requests to cancel, all of them for tasks in `q`. -/
inductive Cancels (q : TaskId → Prop) : Tasks P → Tasks P → Prop
  | refl {ts : Tasks P} : Cancels q ts ts
  | cancel {ts ts' : Tasks P} {t : TaskId} : q t → Cancels q ts ts' → Cancels q ts (ts'.cancel t)

namespace Cancels

variable {a b c : Tasks P} {q r : TaskId → Prop}

theorem trans (h : Cancels q a b) (h' : Cancels q b c) : Cancels q a c := by
  induction h' with
  | refl => exact h
  | cancel ht _ ih => exact ih.cancel ht

theorem single {t : TaskId} (ht : q t) : Cancels q a (a.cancel t) := refl.cancel ht

theorem awaits {t : TaskId} {p : P} (h : Cancels q a b) (hb : b.awaits t p) : a.awaits t p := by
  induction h with
  | refl => exact hb
  | cancel _ _ ih => exact ih (awaits_cancel hb)

theorem mono (hqr : ∀ t, q t → r t) (h : Cancels q a b) : Cancels r a b := by
  induction h with
  | refl => exact refl
  | cancel ht _ ih => exact ih.cancel (hqr _ ht)

theorem procOf_eq (h : Cancels q a b) (t : TaskId) : b.procOf t = a.procOf t := by
  induction h with
  | refl => rfl
  | cancel _ _ ih => rw [procOf_cancel, ih]

end Cancels

end Tasks

end KaroX2.Coop
