/-
KaroX2/Py/Dict.lean

Insertion-ordered dictionaries with distinct keys.

A `Dict` is an association list that carries the proof that its keys are
distinct, so its length counts keys and a removed key is gone.  Assigning to a
key that is present keeps its position; a new key goes to the end.  (Mathlib's
`AList` moves an assigned key to the front, which is a different order of
iteration.)
-/
import Mathlib.Data.List.Nodup
import Mathlib.Data.List.Lookmap

namespace KaroX2.Py

/-- An insertion-ordered dictionary. -/
structure Dict (κ α : Type) where
  items : List (κ × α)
  nodup : (items.map Prod.fst).Nodup

namespace Dict

variable {κ α : Type} [DecidableEq κ]

/-- The empty dictionary, also what `clear` leaves. -/
def empty : Dict κ α := ⟨[], List.nodup_nil⟩

/-- `d.get(k)` -/
def get? (d : Dict κ α) (k : κ) : Option α := (d.items.find? fun e => e.1 = k).map Prod.snd

/-- `k in d` -/
def has (d : Dict κ α) (k : κ) : Bool := d.items.any fun e => e.1 = k

/-- `len(d)` -/
def size (d : Dict κ α) : Nat := d.items.length

/-- `d.values()` -/
def values (d : Dict κ α) : List α := d.items.map Prod.snd

/-- `del d[k]`, and `d.pop(k, None)` without its result -/
def erase (d : Dict κ α) (k : κ) : Dict κ α :=
  ⟨d.items.filter fun e => e.1 ≠ k, d.nodup.sublist (List.filter_sublist.map Prod.fst)⟩

/-- `d[k] = v` -/
def insert (d : Dict κ α) (k : κ) (v : α) : Dict κ α :=
  if h : d.has k then
    ⟨d.items.map fun e => if e.1 = k then (k, v) else e, by
      have hk : (d.items.map fun e => if e.1 = k then (k, v) else e).map Prod.fst
          = d.items.map Prod.fst := by
        rw [List.map_map]
        refine List.map_congr_left fun e _ => ?_
        by_cases he : e.1 = k <;> simp [he]
      rw [hk]
      exact d.nodup⟩
  else
    ⟨d.items ++ [(k, v)], by
      have hk : k ∉ d.items.map Prod.fst := by
        simpa [has] using h
      rw [List.map_append, List.map_singleton]
      exact List.nodup_append'.mpr ⟨d.nodup, List.nodup_singleton k, by simpa using hk⟩⟩

/-! ### Looking up -/

@[simp] theorem get?_empty (k : κ) : (empty : Dict κ α).get? k = none := rfl

omit [DecidableEq κ] in
@[simp] theorem size_empty : (empty : Dict κ α).size = 0 := rfl

omit [DecidableEq κ] in
@[simp] theorem items_empty : (empty : Dict κ α).items = [] := rfl

theorem has_iff {d : Dict κ α} {k : κ} : d.has k = true ↔ ∃ v, (k, v) ∈ d.items := by
  simp [has]

/-- Keys are distinct, so an item is what its key is mapped to. -/
theorem mem_items_iff {d : Dict κ α} {k : κ} {v : α} : (k, v) ∈ d.items ↔ d.get? k = some v := by
  obtain ⟨l, hl⟩ := d
  simp only [get?]
  induction l with
  | nil => simp
  | cons e l ih =>
    obtain ⟨k', v'⟩ := e
    simp only [List.map_cons, List.nodup_cons] at hl
    by_cases hk : k' = k
    · subst hk
      have hnot : (k', v) ∉ l := fun hm => hl.1 (List.mem_map_of_mem (f := Prod.fst) hm)
      simp [hnot, eq_comm]
    · have hne : ¬ (k = k' ∧ v = v') := fun h => hk h.1.symm
      simp only [List.mem_cons, Prod.mk.injEq, hne, false_or, List.find?_cons, hk, decide_false]
      exact ih hl.2

theorem has_eq_isSome {d : Dict κ α} {k : κ} : d.has k = (d.get? k).isSome := by
  rw [Bool.eq_iff_iff, has_iff, Option.isSome_iff_exists]
  exact exists_congr fun v => mem_items_iff

theorem get?_erase {d : Dict κ α} {k j : κ} :
    (d.erase k).get? j = if j = k then none else d.get? j := by
  refine Option.ext fun v => ?_
  rw [← mem_items_iff]
  simp only [erase, List.mem_filter, decide_not, Bool.not_eq_eq_eq_not, Bool.not_true,
    decide_eq_false_iff_not, mem_items_iff]
  split <;> simp_all

@[simp] theorem get?_erase_self {d : Dict κ α} {k : κ} : (d.erase k).get? k = none := by
  rw [get?_erase, if_pos rfl]

theorem get?_erase_ne {d : Dict κ α} {k j : κ} (h : j ≠ k) : (d.erase k).get? j = d.get? j := by
  rw [get?_erase, if_neg h]

theorem get?_insert {d : Dict κ α} {k j : κ} {v : α} :
    (d.insert k v).get? j = if j = k then some v else d.get? j := by
  refine Option.ext fun u => ?_
  rw [← mem_items_iff]
  by_cases hk : d.has k = true
  · have hex : ∃ x, (k, x) ∈ d.items := has_iff.mp hk
    simp only [insert, hk, dite_true, List.mem_map, Prod.exists]
    constructor
    · rintro ⟨a, b, hab, he⟩
      by_cases hak : a = k
      · rw [if_pos hak] at he
        obtain ⟨rfl, rfl⟩ := he
        simp
      · rw [if_neg hak] at he
        obtain ⟨rfl, rfl⟩ := he
        rw [if_neg hak]
        exact mem_items_iff.mp hab
    · intro h
      split at h
      · rename_i hjk
        obtain rfl := Option.some.inj h
        obtain ⟨x, hx⟩ := hex
        exact ⟨k, x, hx, by simp [hjk]⟩
      · rename_i hjk
        exact ⟨j, u, mem_items_iff.mpr h, by simp [hjk]⟩
  · have hnone : d.get? k = none := by
      rw [has_eq_isSome] at hk
      simpa using hk
    simp only [insert, hk, Bool.false_eq_true, dite_false, List.mem_append, mem_items_iff,
      List.mem_singleton, Prod.mk.injEq]
    split
    · rename_i hjk
      subst hjk
      simp [hnone, eq_comm]
    · simp_all

@[simp] theorem get?_insert_self {d : Dict κ α} {k : κ} {v : α} :
    (d.insert k v).get? k = some v := by
  rw [get?_insert, if_pos rfl]

theorem get?_insert_ne {d : Dict κ α} {k j : κ} {v : α} (h : j ≠ k) :
    (d.insert k v).get? j = d.get? j := by
  rw [get?_insert, if_neg h]

/-! ### Counting -/

theorem mem_values_iff {d : Dict κ α} {v : α} : v ∈ d.values ↔ ∃ k, d.get? k = some v := by
  simp only [values, List.mem_map, Prod.exists, exists_eq_right]
  exact exists_congr fun k => mem_items_iff

end Dict

end KaroX2.Py
