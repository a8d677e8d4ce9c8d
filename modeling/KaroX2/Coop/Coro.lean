/-
KaroX2/Coop/Coro.lean

Coroutines of a single-threaded cooperative scheduler, as a type of programs.

A coroutine reads and writes a shared world in atomic pieces and gives up
control only at an `await`.  The type is a free monad over four effects:

* `get`          read the shared world;
* `step`         replace it;
* `enter`        begin a named call, an effect that an observer sees;
* `await`        suspend on an operation and go on with its reply.

The last three record the stack of the calls they are under, so an observer can
tell where in its code a task is although the rest of the code is a function.
A `step` says in which stack the task goes on; that is how a call is left, and
how a loop shows what is left of it.  Exceptions are results: every coroutine
ends in an `Except`, and an `await` may be answered by an exception.

Nothing here is about a particular program: the world, the operations, the
replies, the exceptions, the call labels and the task bodies are parameters,
bundled in a `Sig`.
-/
import Mathlib.Data.Multiset.Basic

namespace KaroX2.Coop

/-- Tasks are numbered in the order of their creation. -/
abbrev TaskId := Nat

/-- The parameters of a coroutine language. -/
structure Sig where
  /-- the shared state -/
  World : Type
  /-- what a task can be suspended on -/
  Op : Type
  /-- what the environment answers a suspended task -/
  Reply : Type
  /-- exceptions -/
  Exn : Type
  /-- names of calls, with the arguments that an observer may see -/
  Label : Type
  /-- task bodies and loops -/
  Proc : Type

variable {S : Sig} {α β : Type}

/-- A coroutine with results in `α`. -/
inductive Coro (S : Sig) (α : Type) : Type where
  | ret (r : Except S.Exn α)
  | get (k : S.World → Coro S α)
  | step (src dst : List S.Label) (w : S.World) (k : Coro S α)
  | enter (path : List S.Label) (l : S.Label) (w : S.World) (k : Coro S α)
  | await (path : List S.Label) (op : S.Op) (k : Except S.Exn S.Reply → Coro S α)

/-- How a task body ends: go on with another body (a loop), or stop. -/
inductive Flow (S : Sig) where
  | next (p : S.Proc)
  | done

/-- A suspended task as an observer sees it. -/
structure Site (S : Sig) where
  task : TaskId
  path : List S.Label
  op : S.Op

namespace Coro

/-! ### The monad -/

/-- Sequencing: an exception skips the rest. -/
protected def bind : Coro S α → (α → Coro S β) → Coro S β
  | ret (.ok a), f => f a
  | ret (.error e), _ => ret (.error e)
  | get k, f => get fun w => (k w).bind f
  | step p q w k, f => step p q w (k.bind f)
  | enter p l w k, f => enter p l w (k.bind f)
  | await p op k, f => await p op fun r => (k r).bind f

instance : Monad (Coro S) where
  pure a := ret (.ok a)
  bind := Coro.bind

/-- Raise an exception. -/
def raise (e : S.Exn) : Coro S α := ret (.error e)

/-- Run `c` and return how it ended: the `try` of the host language. -/
def attempt : Coro S α → Coro S (Except S.Exn α)
  | ret r => ret (.ok r)
  | get k => get fun w => (k w).attempt
  | step p q w k => step p q w k.attempt
  | enter p l w k => enter p l w k.attempt
  | await p op k => await p op fun r => (k r).attempt

/-! ### The effects -/

/-- Read the world. -/
def read : Coro S S.World := get fun w => ret (.ok w)

/-- Update the world. -/
def modify (f : S.World → S.World) : Coro S Unit :=
  get fun w => step [] [] (f w) (ret (.ok ()))

/-- Update the world and return a value computed from the old one. -/
def update (f : S.World → α × S.World) : Coro S α :=
  get fun w => step [] [] (f w).2 (ret (.ok (f w).1))

/-- Suspend on `op`. -/
def wait (op : S.Op) : Coro S S.Reply := await [] op ret

/-- Run `c` if `b` holds. -/
def when (b : Prop) [Decidable b] (c : Coro S Unit) : Coro S Unit := if b then c else ret (.ok ())

/-! ### Calls -/

/-- Put everything that `c` does under the label `l`. -/
def under (l : S.Label) : Coro S α → Coro S α
  | ret r => ret r
  | get k => get fun w => (k w).under l
  | step p q w k => step (l :: p) (l :: q) w (k.under l)
  | enter p m w k => enter (l :: p) m w (k.under l)
  | await p op k => await (l :: p) op fun r => (k r).under l

/-- Begin a call, with an update of the world. -/
def enterBy (l : S.Label) (f : S.World → S.World) : Coro S Unit :=
  get fun w => enter [] l (f w) (ret (.ok ()))

/-- Go from one label to another, with an update of the world. -/
def become (l m : S.Label) (f : S.World → S.World) : Coro S Unit :=
  get fun w => step [l] [m] (f w) (ret (.ok ()))

/-- End a call, with an update of the world. -/
def leaveBy (l : S.Label) (f : S.World → S.World) : Coro S Unit :=
  get fun w => step [l] [] (f w) (ret (.ok ()))

/-- Run `c` inside a call that has begun, and return how it ended. -/
def within (l : S.Label) (c : Coro S α) : Coro S (Except S.Exn α) := (c.under l).attempt

/-- Call `c` under the name `l`.  The call begins with the update `f`, and it
ends with the update that `c` returns. -/
def scope (l : S.Label) (f : S.World → S.World) (c : Coro S (α × (S.World → S.World))) :
    Coro S α := do
  enterBy l f
  match ← within l c with
  | .ok (a, g) => do
    leaveBy l g
    pure a
  | .error e => do
    leaveBy l id
    raise e

/-- Call `c` under the name `l`. -/
def call (l : S.Label) (c : Coro S α) : Coro S α := scope l id do
  let a ← c
  pure (a, id)

/-- A loop over a list, inside a label that shows what is left of it.  The label
is left with the update `last`. -/
def rounds (lab : List β → S.Label) (last : S.World → S.World) (c : β → Coro S Unit) :
    List β → Coro S Unit
  | [] => leaveBy (lab []) last
  | b :: l => do
    match ← within (lab (b :: l)) (c b) with
    | .ok _ => do
      become (lab (b :: l)) (lab l) id
      rounds lab last c l
    | .error e => do
      leaveBy (lab (b :: l)) id
      raise e

/-! ### Running up to the next suspension -/

/-- Where an uninterrupted execution stops. -/
inductive Stop (S : Sig) (α : Type) where
  | ended (r : Except S.Exn α)
  | waits (path : List S.Label) (op : S.Op) (k : Except S.Exn S.Reply → Coro S α)

/-- Execute `c` from the world `w` without interruption, if `upd` and `ok` let it make
its updates and its calls. -/
def exec (upd : S.World → List S.Label → Bool) (ok : S.World → List S.Label → S.Label → Bool) :
    Coro S α → S.World → Option (S.World × Stop S α)
  | ret r, w => some (w, .ended r)
  | get k, w => (k w).exec upd ok w
  | step p _ w' k, w => if upd w p then k.exec upd ok w' else none
  | enter p l w' k, w => if ok w p l then k.exec upd ok w' else none
  | await p op k, w => some (w, .waits p op k)

/-- The world after the first update. -/
def first : Coro S α → S.World → Option S.World
  | ret _, _ => none
  | get k, w => (k w).first w
  | step _ _ w' _, _ => some w'
  | enter _ _ w' _, _ => some w'
  | await _ _ _, _ => none

end Coro

end KaroX2.Coop
