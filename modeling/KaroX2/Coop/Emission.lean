/-
KaroX2/Coop/Emission.lean

What a run emits.

An observer reads something off some of the configurations that a run goes through.
`Emits` collects what was read, newest first; an invariant that speaks about it is shown
step by step (`Emits.invariant`).
-/
import KaroX2.Coop.Loop

namespace KaroX2.Coop

variable {S : Sig} {β : Type}

/-- A run from `c`, and what is read off the configurations that it has left. -/
inductive Emits (sys : Sys S) (out : Config S → Option β) (c : Config S) :
    List β → Config S → Prop
  | refl : Emits sys out c [] c
  | tail {l : List β} {d e : Config S} (h : Emits sys out c l d) (a : Action S sys.Env)
      (hs : Step sys d a e) : Emits sys out c ((out d).toList ++ l) e

variable {sys : Sys S} {out : Config S → Option β} {c d e : Config S} {l m : List β}

theorem Emits.reaches (h : Emits sys out c l d) : Reaches sys c d := by
  induction h with
  | refl => exact Relation.ReflTransGen.refl
  | tail _ a hs ih => exact ih.tail ⟨a, hs, trivial⟩

theorem Emits.trans (h : Emits sys out c l d) (h' : Emits sys out d m e) :
    Emits sys out c (m ++ l) e := by
  induction h' with
  | refl => exact h
  | tail _ a hs ih =>
    rw [List.append_assoc]
    exact ih.tail a hs

/-- What holds at the start and is kept by every step holds along the run. -/
theorem Emits.invariant {I : List β → Config S → Prop} (h₀ : I [] c)
    (hstep : ∀ l d a e, Reaches sys c d → I l d → Step sys d a e → I ((out d).toList ++ l) e)
    (h : Emits sys out c l d) : I l d := by
  induction h with
  | refl => exact h₀
  | tail h a hs ih => exact hstep _ _ _ _ h.reaches ih hs

end KaroX2.Coop
