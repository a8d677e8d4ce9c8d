/-
KaroX2/Proto/Wire.lean

The wire format of protocol buffers.

A message is a sequence of fields; each is a tag, which has the number of the field
and its wire type, and a value.  `Encodes` says which bytes are an encoding of which
fields: a varint may be padded, so there are many.  `parse` reads them back, whatever
the encoding (`parse_of_encodes`).

The meaning of a message is a fold over its fields (`merge`); the order of the fields
and their repetitions are the encoder's choice.
-/
import Mathlib.Data.List.Basic

namespace KaroX2.Proto

/-! ### Fields -/

/-- The value of a field, by its wire type. -/
inductive Value where
  | varint (n : Nat)
  | i64 (bytes : List UInt8)
  | len (bytes : List UInt8)
  | i32 (bytes : List UInt8)
  deriving DecidableEq, Repr

def Value.wireType : Value → Nat
  | varint _ => 0
  | i64 _ => 1
  | len _ => 2
  | i32 _ => 5

structure Field where
  number : Nat
  value : Value
  deriving DecidableEq, Repr

/-- The bytes are a base 128 varint of the number, with the lowest digit first.  It may
end in zero digits. -/
inductive Varint : Nat → List UInt8 → Prop
  | last {b : UInt8} (h : b.toNat < 128) : Varint b.toNat [b]
  | more {b : UInt8} {n bs} (h : 128 ≤ b.toNat) (hs : Varint n bs) :
      Varint (b.toNat - 128 + 128 * n) (b :: bs)

/-- The bytes are an encoding of the value: a varint has at most ten bytes and 64 bits. -/
inductive Value.Encodes : Value → List UInt8 → Prop
  | varint {n bs} (h : Varint n bs) (hlen : bs.length ≤ 10) (hn : n < 0x10000000000000000) :
      Value.Encodes (.varint n) bs
  | i64 {bs} (h : bs.length = 8) : Value.Encodes (.i64 bs) bs
  | len {bs l} (h : Varint bs.length l) (hlen : l.length ≤ 10) : Value.Encodes (.len bs) (l ++ bs)
  | i32 {bs} (h : bs.length = 4) : Value.Encodes (.i32 bs) bs

/-- The bytes are an encoding of the fields: a tag has at most five bytes. -/
inductive Encodes : List Field → List UInt8 → Prop
  | nil : Encodes [] []
  | cons {f fs tag v bs} (htag : Varint (f.number * 8 + f.value.wireType) tag)
      (hlen : tag.length ≤ 5) (hnum : 0 < f.number ∧ f.number < 0x20000000)
      (hv : f.value.Encodes v) (hs : Encodes fs bs) : Encodes (f :: fs) (tag ++ (v ++ bs))

/-! ### Reading -/

def readVarint : List UInt8 → Option (Nat × List UInt8)
  | [] => none
  | b :: bs =>
    if b.toNat < 128 then some (b.toNat, bs)
    else (readVarint bs).map fun (n, rest) => (b.toNat - 128 + 128 * n, rest)

/-- The first `n` bytes and the rest. -/
def readBytes (n : Nat) (bs : List UInt8) : Option (List UInt8 × List UInt8) :=
  if n ≤ bs.length then some (bs.take n, bs.drop n) else none

def readValue (wireType : Nat) (bs : List UInt8) : Option (Value × List UInt8) :=
  match wireType with
  | 0 => (readVarint bs).map fun (n, rest) => (.varint n, rest)
  | 1 => (readBytes 8 bs).map fun (v, rest) => (.i64 v, rest)
  | 2 => do
    let (n, bs) ← readVarint bs
    let (v, rest) ← readBytes n bs
    pure (.len v, rest)
  | 5 => (readBytes 4 bs).map fun (v, rest) => (.i32 v, rest)
  | _ => none

/-- At most `fuel` fields; each takes a byte at least. -/
def readFields : Nat → List UInt8 → Option (List Field)
  | _, [] => some []
  | 0, _ :: _ => none
  | fuel + 1, bs => do
    let (tag, bs) ← readVarint bs
    let (v, rest) ← readValue (tag % 8) bs
    let fs ← readFields fuel rest
    pure (⟨tag / 8, v⟩ :: fs)

/-- The fields of a message without groups. -/
def parse (bs : List UInt8) : Option (List Field) := readFields bs.length bs

variable {n : Nat} {bs rest : List UInt8} {fs : List Field} {v : Value}

theorem Varint.ne_nil (h : Varint n bs) : bs ≠ [] := by
  cases h <;> exact List.cons_ne_nil _ _

/-- A small number is its own varint. -/
theorem Varint.byte (h : n < 128) : Varint n [UInt8.ofNat n] := by
  have hval : (UInt8.ofNat n).toNat = n := by
    rw [UInt8.toNat_ofNat']
    omega
  have hlast := Varint.last (b := UInt8.ofNat n) (by omega)
  rwa [hval] at hlast

theorem readVarint_append (h : Varint n bs) : readVarint (bs ++ rest) = some (n, rest) := by
  induction h with
  | last h => simp [readVarint, h]
  | more h _ ih => simp [readVarint, Nat.not_lt.mpr h, ih]

theorem readBytes_append : readBytes bs.length (bs ++ rest) = some (bs, rest) := by
  simp [readBytes]

theorem readValue_append (h : v.Encodes bs) :
    readValue v.wireType (bs ++ rest) = some (v, rest) := by
  cases h with
  | varint h => simp [readValue, Value.wireType, readVarint_append h]
  | i64 h =>
    have hread : readBytes bs.length (bs ++ rest) = some (bs, rest) := readBytes_append
    rw [h] at hread
    simp [readValue, Value.wireType, hread]
  | len h =>
    rw [List.append_assoc]
    simp [readValue, Value.wireType, readVarint_append h, readBytes_append]
  | i32 h =>
    have hread : readBytes bs.length (bs ++ rest) = some (bs, rest) := readBytes_append
    rw [h] at hread
    simp [readValue, Value.wireType, hread]

theorem wireType_lt (v : Value) : v.wireType < 8 := by
  cases v <;> simp [Value.wireType]

theorem readFields_of_encodes (h : Encodes fs bs) : ∀ fuel, bs.length ≤ fuel →
    readFields fuel bs = some fs := by
  induction h with
  | nil =>
    intro fuel _
    cases fuel <;> rfl
  | @cons f fs tag v bs htag hlen hnum hv hs ih =>
    intro fuel hfuel
    obtain ⟨b, tag', rfl⟩ := List.exists_cons_of_ne_nil htag.ne_nil
    simp only [List.length_append, List.length_cons] at hfuel
    obtain ⟨fuel, rfl⟩ : ∃ k, fuel = k + 1 := ⟨fuel - 1, by omega⟩
    have hwire := wireType_lt f.value
    have hmod : (f.number * 8 + f.value.wireType) % 8 = f.value.wireType := by omega
    have hdiv : (f.number * 8 + f.value.wireType) / 8 = f.number := by omega
    have htag' : readVarint (b :: tag' ++ (v ++ bs)) = some _ := readVarint_append htag
    rw [List.cons_append] at htag' ⊢
    simp only [readFields, htag', Option.bind_eq_bind, Option.bind_some, hmod, hdiv,
      readValue_append hv, ih fuel (by omega)]
    rfl

/-- Every encoding is read back. -/
theorem parse_of_encodes (h : Encodes fs bs) : parse bs = some fs :=
  readFields_of_encodes h _ (Nat.le_refl _)

/-! ### Messages -/

section Merge

variable {M : Type} {merge : M → Field → Option M} {P : M → Prop} {Q : Field → Prop} {m m' : M}

/-- What every field of an encoding preserves, the message preserves. -/
theorem foldlM_preserves (hstep : ∀ m m' f, Q f → P m → merge m f = some m' → P m')
    (hfs : ∀ f ∈ fs, Q f) (hm : P m) (h : fs.foldlM merge m = some m') : P m' := by
  induction fs generalizing m with
  | nil =>
    obtain rfl := Option.some.inj h
    exact hm
  | cons f fs ih =>
    obtain ⟨m₁, h₁, h₂⟩ := Option.bind_eq_some_iff.mp h
    exact ih (fun g hg => hfs g (List.mem_cons_of_mem _ hg))
      (hstep m m₁ f (hfs f List.mem_cons_self) hm h₁) h₂

/-- A message is read if every one of its fields is. -/
theorem foldlM_isSome (hstep : ∀ m f, Q f → (merge m f).isSome = true) (hfs : ∀ f ∈ fs, Q f) :
    (fs.foldlM merge m).isSome = true := by
  induction fs generalizing m with
  | nil => rfl
  | cons f fs ih =>
    obtain ⟨m₁, h₁⟩ := Option.isSome_iff_exists.mp (hstep m f (hfs f List.mem_cons_self))
    rw [List.foldlM_cons, h₁]
    exact ih fun g hg => hfs g (List.mem_cons_of_mem _ hg)

end Merge

end KaroX2.Proto
