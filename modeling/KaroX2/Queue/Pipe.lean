/-
KaroX2/Queue/Pipe.lean

Two bounded buffers in a row, and what becomes of the items that enter them.

The first buffer holds items back until a gate opens, the second one waits for a
consumer.  A full buffer drops its oldest item or the new one, and counts it.  A step
may also refuse an item, or lose it to the counter, before it reaches a buffer.

Every item that entered is accounted for: it has left, it is in a buffer, it was
counted as dropped, or it was refused.  The items that leave are in the order in which
they entered, and no buffer grows beyond its capacity.
-/
import Mathlib.Data.List.Basic

namespace KaroX2.Queue

variable {α : Type} {cap : Nat} {keepNew : Bool}

/-! ### A bounded buffer -/

/-- Put an item into a buffer; the number says how many were dropped. -/
def offer (cap : Nat) (keepNew : Bool) (q : List α) (a : α) : List α × Nat :=
  if cap ≤ q.length then
    if keepNew then (q.tail ++ [a], 1) else (q, 1)
  else (q ++ [a], 0)

variable {q : List α} {a : α}

theorem offer_count (h : 0 < cap) :
    (offer cap keepNew q a).1.length + (offer cap keepNew q a).2 = q.length + 1 := by
  unfold offer
  split
  · split
    · simp only [List.length_append, List.length_tail, List.length_singleton]
      omega
    · rfl
  · simp

theorem offer_length_le (h : 0 < cap) (hq : q.length ≤ cap) :
    (offer cap keepNew q a).1.length ≤ cap := by
  unfold offer
  split
  · split
    · simp only [List.length_append, List.length_tail, List.length_singleton]
      omega
    · exact hq
  · simp only [List.length_append, List.length_singleton]
    omega

theorem offer_sublist : (offer cap keepNew q a).1.Sublist (q ++ [a]) := by
  unfold offer
  split
  · split
    · exact (List.tail_sublist q).append_right [a]
    · exact List.sublist_append_left q [a]
  · exact List.Sublist.refl _

/-! ### The two buffers -/

/-- The buffers, the one before the gate first, and the number of dropped items. -/
structure Pipe (α : Type) where
  front : List α
  back : List α
  drops : Nat

/-- What enters and leaves, and how many items are refused. -/
structure Traffic (α : Type) where
  ins : List α := []
  outs : List α := []
  refused : Nat := 0

def Traffic.append (t t' : Traffic α) : Traffic α :=
  ⟨t.ins ++ t'.ins, t.outs ++ t'.outs, t.refused + t'.refused⟩

/-- A step of the pipe. -/
inductive Pipe.Step (cap : Nat) (keepNew : Bool) : Pipe α → Traffic α → Pipe α → Prop
  /-- an item enters before the gate -/
  | held {p : Pipe α} (a : α) : Step cap keepNew p { ins := [a] }
      ⟨(offer cap keepNew p.front a).1, p.back, p.drops + (offer cap keepNew p.front a).2⟩
  /-- an item enters through the open gate -/
  | passed {p : Pipe α} (a : α) (h : p.front = []) : Step cap keepNew p { ins := [a] }
      ⟨p.front, (offer cap keepNew p.back a).1, p.drops + (offer cap keepNew p.back a).2⟩
  /-- an item does not enter -/
  | refused {p : Pipe α} (a : α) : Step cap keepNew p { ins := [a], refused := 1 } p
  | lost {p : Pipe α} (a : α) : Step cap keepNew p { ins := [a] } { p with drops := p.drops + 1 }
  /-- an item goes through the gate, or does not get through -/
  | moved {p : Pipe α} (a : α) (rest : List α) (h : p.front = a :: rest) :
      Step cap keepNew p {}
        ⟨rest, (offer cap keepNew p.back a).1, p.drops + (offer cap keepNew p.back a).2⟩
  | moveRefused {p : Pipe α} (a : α) (rest : List α) (h : p.front = a :: rest) :
      Step cap keepNew p { refused := 1 } { p with front := rest }
  | moveLost {p : Pipe α} (a : α) (rest : List α) (h : p.front = a :: rest) :
      Step cap keepNew p {} { p with front := rest, drops := p.drops + 1 }
  /-- an item leaves -/
  | taken {p : Pipe α} (a : α) (rest : List α) (h : p.back = a :: rest) :
      Step cap keepNew p { outs := [a] } { p with back := rest }

/-- A run of the pipe, with all its traffic. -/
inductive Pipe.Run (cap : Nat) (keepNew : Bool) : Pipe α → Traffic α → Pipe α → Prop
  | refl {p : Pipe α} : Run cap keepNew p {} p
  | tail {p p' p'' : Pipe α} {t t' : Traffic α} (h : Run cap keepNew p t p')
      (hs : Step cap keepNew p' t' p'') : Run cap keepNew p (t.append t') p''

variable {p p' : Pipe α} {t t' : Traffic α}

theorem Traffic.nil_append : ({} : Traffic α).append t = t := by
  simp [Traffic.append]

theorem Traffic.append_nil : t.append {} = t := by
  simp [Traffic.append]

theorem Traffic.append_assoc {t'' : Traffic α} :
    (t.append t').append t'' = t.append (t'.append t'') := by
  simp [Traffic.append, Nat.add_assoc]

theorem Pipe.Run.single (h : Pipe.Step cap keepNew p t p') : Pipe.Run cap keepNew p t p' := by
  have hrun := Pipe.Run.tail (.refl (p := p)) h
  rwa [Traffic.nil_append] at hrun

theorem Pipe.Run.trans {p'' : Pipe α} (h : Pipe.Run cap keepNew p t p')
    (h' : Pipe.Run cap keepNew p' t' p'') : Pipe.Run cap keepNew p (t.append t') p'' := by
  induction h' with
  | refl => rwa [Traffic.append_nil]
  | tail _ hs ih =>
    rw [← Traffic.append_assoc]
    exact ih.tail hs

/-- No buffer is larger than its capacity. -/
structure Pipe.Bounded (cap : Nat) (p : Pipe α) : Prop where
  front : p.front.length ≤ cap
  back : p.back.length ≤ cap

/-- Every item is accounted for, and the order is kept. -/
structure Pipe.Conserves (p : Pipe α) (t : Traffic α) (p' : Pipe α) : Prop where
  count : p.back.length + p.front.length + t.ins.length + p.drops =
    t.outs.length + p'.back.length + p'.front.length + p'.drops + t.refused
  order : (t.outs ++ (p'.back ++ p'.front)).Sublist (p.back ++ p.front ++ t.ins)

/-! ### What a step keeps -/

theorem Pipe.Step.bounded (hcap : 0 < cap) (hs : Pipe.Step cap keepNew p t p')
    (h : p.Bounded cap) : p'.Bounded cap := by
  obtain ⟨hf, hb⟩ := h
  have hrest : ∀ {a : α} {rest q : List α}, q = a :: rest → q.length ≤ cap → rest.length ≤ cap := by
    rintro a rest q rfl hq
    exact Nat.le_of_succ_le hq
  -- an offer keeps the bound by itself, and the other steps only shorten the buffers
  cases hs with
  | held a => exact ⟨offer_length_le hcap hf, hb⟩
  | passed a h => exact ⟨hf, offer_length_le hcap hb⟩
  | refused a => exact ⟨hf, hb⟩
  | lost a => exact ⟨hf, hb⟩
  | moved a rest h => exact ⟨hrest h hf, offer_length_le hcap hb⟩
  | moveRefused a rest h => exact ⟨hrest h hf, hb⟩
  | moveLost a rest h => exact ⟨hrest h hf, hb⟩
  | taken a rest h => exact ⟨hf, hrest h hb⟩

theorem Pipe.Step.conserves (hcap : 0 < cap) (hs : Pipe.Step cap keepNew p t p') :
    p.Conserves t p' := by
  constructor
  -- first the numbers: the items that are offered are in the buffer or counted
  · cases hs with
    | held a =>
      have hc : (offer cap keepNew p.front a).1.length + _ = _ := offer_count hcap
      simp only [List.length_singleton, List.length_nil]
      omega
    | passed a h =>
      have hc : (offer cap keepNew p.back a).1.length + _ = _ := offer_count hcap
      simp only [List.length_singleton, List.length_nil]
      omega
    | refused a =>
      simp only [List.length_singleton, List.length_nil]
      omega
    | lost a =>
      simp only [List.length_singleton, List.length_nil]
      omega
    | moved a rest h =>
      have hc : (offer cap keepNew p.back a).1.length + _ = _ := offer_count hcap
      simp only [h, List.length_cons, List.length_nil]
      omega
    | moveRefused a rest h =>
      simp only [h, List.length_cons, List.length_nil]
      omega
    | moveLost a rest h =>
      simp only [h, List.length_cons, List.length_nil]
      omega
    | taken a rest h =>
      simp only [h, List.length_cons, List.length_nil]
      omega
  -- then the order: an item never overtakes one that entered before it, since it passes the
  -- gate only where nothing waits there
  · cases hs with
    | held a =>
      rw [List.append_assoc]
      exact offer_sublist.append_left p.back
    | passed a h =>
      simp only [h, List.append_nil, List.nil_append]
      exact offer_sublist
    | refused a => exact List.sublist_append_left _ _
    | lost a => exact List.sublist_append_left _ _
    | moved a rest h =>
      simp only [h, List.append_nil, List.nil_append]
      rw [← List.singleton_append, ← List.append_assoc]
      exact offer_sublist.append_right rest
    | moveRefused a rest h =>
      simp only [h, List.append_nil, List.nil_append]
      exact (List.sublist_cons_self a rest).append_left p.back
    | moveLost a rest h =>
      simp only [h, List.append_nil, List.nil_append]
      exact (List.sublist_cons_self a rest).append_left p.back
    | taken a rest h =>
      simp only [h, List.append_nil]
      exact List.Sublist.refl _

/-! ### What a run keeps -/

theorem Pipe.Conserves.trans {p'' : Pipe α} (h : p.Conserves t p') (h' : p'.Conserves t' p'') :
    p.Conserves (t.append t') p'' := by
  refine ⟨?_, ?_⟩
  · have hc := h.count
    have hc' := h'.count
    simp only [Traffic.append, List.length_append]
    omega
  · show (t.outs ++ t'.outs ++ (p''.back ++ p''.front)).Sublist
      (p.back ++ p.front ++ (t.ins ++ t'.ins))
    calc (t.outs ++ t'.outs ++ (p''.back ++ p''.front))
        = t.outs ++ (t'.outs ++ (p''.back ++ p''.front)) := List.append_assoc ..
      _ |>.Sublist (t.outs ++ (p'.back ++ p'.front ++ t'.ins)) := h'.order.append_left t.outs
      _ = t.outs ++ (p'.back ++ p'.front) ++ t'.ins := (List.append_assoc ..).symm
      _ |>.Sublist (p.back ++ p.front ++ t.ins ++ t'.ins) := h.order.append_right t'.ins
      _ = p.back ++ p.front ++ (t.ins ++ t'.ins) := List.append_assoc ..

theorem Pipe.Run.bounded (hcap : 0 < cap) (hr : Pipe.Run cap keepNew p t p')
    (h : p.Bounded cap) : p'.Bounded cap := by
  induction hr with
  | refl => exact h
  | tail _ hs ih => exact hs.bounded hcap ih

theorem Pipe.Run.conserves (hcap : 0 < cap) (hr : Pipe.Run cap keepNew p t p') :
    p.Conserves t p' := by
  induction hr with
  | refl => exact ⟨by simp, by simp⟩
  | tail _ hs ih => exact ih.trans (hs.conserves hcap)

end KaroX2.Queue
