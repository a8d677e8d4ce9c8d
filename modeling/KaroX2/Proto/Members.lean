/-
KaroX2/Proto/Members.lean

Members of a message, one after the other.

The rules `put_unsigned`, `put_signed` and so on read one member into a message that is read so
far, and leave the members that follow to the next rule.  Each needs of the reader what it does
with the member, and of the message that the member is still zero.

An integer is a bit vector of its width.  An `int32` or an enumeration is written as the varint
of 64 bits that has its sign, and its low bits are read.  A repeated integer is packed: the bytes
are its varints.
-/
import KaroX2.Proto.Write

namespace KaroX2.Proto

/-! ### Integers of a width -/

section Integers

variable {w k : Nat} {fs : List Field}

/-- A `uint32` or `uint64` -/
def unsigned (k : Nat) (x : BitVec w) : List Field := uint k x.toNat

/-- An `int32` or an enumeration -/
def signed (k : Nat) (x : BitVec 32) : List Field := uint k (x.signExtend 64).toNat

theorem ofNat_toNat (x : BitVec w) : BitVec.ofNat w x.toNat = x :=
  (BitVec.ofNat_toNat w x).trans x.setWidth_eq

theorem ofNat_signExtend (x : BitVec 32) : BitVec.ofNat 32 (x.signExtend 64).toNat = x := by
  rw [BitVec.ofNat_toNat]
  apply BitVec.eq_of_getLsbD_eq
  intro i hi
  have hlt : i < 64 := Nat.lt_trans hi (by decide)
  rw [BitVec.getLsbD_setWidth, BitVec.getLsbD_signExtend, if_pos hi]
  simp [hi, hlt]

/-- The varints of the bytes, at most `fuel` of them. -/
def readVarints : Nat → List UInt8 → Option (List Nat)
  | _, [] => some []
  | 0, _ :: _ => none
  | fuel + 1, bs => do
    let (n, rest) ← readVarint bs
    let ns ← readVarints fuel rest
    pure (n :: ns)

/-- A packed `repeated uint32` -/
def packed (k : Nat) (xs : List (BitVec 32)) : List Field :=
  bytes k (xs.flatMap fun x => varint x.toNat)

def readPacked (bs : List UInt8) : Option (List (BitVec 32)) :=
  (readVarints bs.length bs).map fun ns => ns.map (BitVec.ofNat 32)

theorem readVarints_write {ns : List Nat} :
    ∀ fuel, (ns.flatMap varint).length ≤ fuel → readVarints fuel (ns.flatMap varint) = some ns := by
  induction ns with
  | nil =>
    intro fuel _
    cases fuel <;> rfl
  | cons n ns ih =>
    intro fuel hfuel
    obtain ⟨b, bs, hvarint⟩ := List.exists_cons_of_ne_nil (varint_encodes n).ne_nil
    rw [List.flatMap_cons, List.length_append, hvarint, List.length_cons] at hfuel
    obtain ⟨fuel, rfl⟩ : ∃ m, fuel = m + 1 := ⟨fuel - 1, by omega⟩
    have hread : readVarint (varint n ++ ns.flatMap varint) = some (n, ns.flatMap varint) :=
      readVarint_append (varint_encodes n)
    rw [hvarint, List.cons_append] at hread
    rw [List.flatMap_cons, hvarint, List.cons_append]
    simp only [readVarints, hread, Option.bind_eq_bind, Option.bind_some, ih fuel (by omega)]
    rfl

theorem readPacked_write (xs : List (BitVec 32)) :
    readPacked (xs.flatMap fun x => varint x.toNat) = some xs := by
  have hmap : (xs.flatMap fun x => varint x.toNat) = (xs.map BitVec.toNat).flatMap varint := by
    rw [List.flatMap_map]
  have hread : BitVec.ofNat 32 ∘ BitVec.toNat = (id : BitVec 32 → BitVec 32) := by
    funext x
    exact ofNat_toNat x
  rw [readPacked, hmap, readVarints_write _ (Nat.le_refl _), Option.map_some, List.map_map, hread,
    List.map_id]

theorem unsigned_fit (hk : 0 < k ∧ k < 2 ^ 29) (hw : w ≤ 64) {x : BitVec w} :
    Fit (unsigned k x) :=
  uint_fit hk (Nat.lt_of_lt_of_le x.isLt (Nat.pow_le_pow_right (by decide) hw))

theorem signed_fit (hk : 0 < k ∧ k < 2 ^ 29) {x : BitVec 32} : Fit (signed k x) :=
  uint_fit hk (x.signExtend 64).isLt

end Integers

theorem messages_fit {A : Type} {k : Nat} {fields : A → List Field} {as : List A}
    (hk : 0 < k ∧ k < 2 ^ 29) : Fit (as.flatMap fun a => message k (fields a)) := by
  intro f hf
  obtain ⟨a, -, hf⟩ := List.mem_flatMap.mp hf
  exact len_fit hk f hf

theorem eq_of_mem_unlessZero {zero : Bool} {f g : Field} (h : f ∈ unlessZero zero g) : f = g := by
  cases zero
  · exact List.mem_singleton.mp h
  · cases h

/-- A `bytes` field is a part of the message, also where it is left out. -/
theorem bytes_size {n k : Nat} {fs : List Field} {bs : List UInt8} (hsize : (write fs).length < n)
    (h : ∀ f ∈ bytes k bs, f ∈ fs) : bs.length < n := by
  cases bs with
  | nil => exact Nat.lt_of_le_of_lt (Nat.zero_le _) hsize
  | cons b bs => exact Nat.lt_trans (length_lt_write (h _ List.mem_cons_self)) hsize

/-! ### Reading a member -/

section Put

variable {M : Type} {merge : M → Field → Option M} {m : M} {fs : List Field} {k w : Nat}

theorem put_uint (set : M → Nat → M) (hzero : set m 0 = m)
    (h : ∀ n, merge m ⟨k, .varint n⟩ = some (set m n)) {n : Nat} :
    (uint k n ++ fs).foldlM merge m = fs.foldlM merge (set m n) := by
  have hput : (uint k n ++ fs).foldlM merge (set m 0) = fs.foldlM merge (set m n) :=
    foldlM_uint merge (set m) (by rwa [hzero]) n
  rwa [hzero] at hput

theorem put_unsigned (set : M → BitVec w → M) (hzero : set m 0 = m)
    (h : ∀ n, merge m ⟨k, .varint n⟩ = some (set m (BitVec.ofNat w n))) {x : BitVec w} :
    (unsigned k x ++ fs).foldlM merge m = fs.foldlM merge (set m x) := by
  have hput (n : Nat) : (uint k n ++ fs).foldlM merge m =
      fs.foldlM merge (set m (BitVec.ofNat w n)) :=
    put_uint (fun m n => set m (BitVec.ofNat w n)) hzero h
  rw [unsigned, hput, ofNat_toNat]

theorem put_signed (set : M → BitVec 32 → M) (hzero : set m 0 = m)
    (h : ∀ n, merge m ⟨k, .varint n⟩ = some (set m (BitVec.ofNat 32 n))) {x : BitVec 32} :
    (signed k x ++ fs).foldlM merge m = fs.foldlM merge (set m x) := by
  have hput (n : Nat) : (uint k n ++ fs).foldlM merge m =
      fs.foldlM merge (set m (BitVec.ofNat 32 n)) :=
    put_uint (fun m n => set m (BitVec.ofNat 32 n)) hzero h
  rw [signed, hput, ofNat_signExtend]

theorem put_flag (set : M → Bool → M) (hzero : set m false = m)
    (h : ∀ n, merge m ⟨k, .varint n⟩ = some (set m (n ≠ 0))) {b : Bool} :
    (flag k b ++ fs).foldlM merge m = fs.foldlM merge (set m b) := by
  have hput : (flag k b ++ fs).foldlM merge (set m false) = fs.foldlM merge (set m b) :=
    foldlM_flag merge (set m) (by rwa [hzero]) b
  rwa [hzero] at hput

theorem put_double (set : M → BitVec 64 → M) (hzero : set m 0 = m)
    (h : ∀ bs, merge m ⟨k, .i64 bs⟩ = some (set m (readDouble bs))) {x : BitVec 64} :
    (double k x ++ fs).foldlM merge m = fs.foldlM merge (set m x) := by
  have hput : (double k x ++ fs).foldlM merge (set m 0) = fs.foldlM merge (set m x) :=
    foldlM_double merge (set m) (by rwa [hzero]) x
  rwa [hzero] at hput

theorem put_bytes (set : M → List UInt8 → M) (hzero : set m [] = m)
    (h : ∀ bs, merge m ⟨k, .len bs⟩ = some (set m bs)) {bs : List UInt8} :
    (bytes k bs ++ fs).foldlM merge m = fs.foldlM merge (set m bs) := by
  have hput : (bytes k bs ++ fs).foldlM merge (set m []) = fs.foldlM merge (set m bs) :=
    foldlM_bytes merge (set m) (by rwa [hzero]) bs
  rwa [hzero] at hput

theorem put_packed (set : M → List (BitVec 32) → M) (hzero : set m [] = m)
    (h : ∀ bs, merge m ⟨k, .len bs⟩ = (readPacked bs).map (set m)) {xs : List (BitVec 32)} :
    (packed k xs ++ fs).foldlM merge m = fs.foldlM merge (set m xs) := by
  apply foldlM_unlessZero
  · intro _
    rw [h, readPacked_write]
    rfl
  · intro hxs
    have hread := readPacked_write xs
    rw [List.isEmpty_iff.mp hxs] at hread
    rw [← Option.some.inj hread]
    exact hzero

/-- A nested message that is read into an empty one -/
theorem put_message {N : Type} {mergeN : N → Field → Option N} {x : N} {gs : List Field}
    (set : M → N → M) (old : N) (h : ∀ bs, merge m ⟨k, .len bs⟩ = (read mergeN old bs).map (set m))
    (hread : read mergeN old (write gs) = some x) :
    (message k gs ++ fs).foldlM merge m = fs.foldlM merge (set m x) :=
  foldlM_message merge (set m) old h hread

/-- Fields that the reader drops -/
theorem put_unread {gs : List Field} (h : ∀ g ∈ gs, merge m g = some m) :
    (gs ++ fs).foldlM merge m = fs.foldlM merge m := by
  induction gs with
  | nil => rfl
  | cons g gs ih =>
    rw [List.cons_append, foldlM_cons_some (h g List.mem_cons_self)]
    exact ih fun g hg => h g (List.mem_cons_of_mem _ hg)

/-- A repeated message: each of its values is read into an empty one, and comes last. -/
theorem put_messages {A N : Type} {mergeN : N → Field → Option N} {fields : A → List Field}
    {out : A → N} {as : List A} (set : List N → M) (old : N)
    (h : ∀ xs bs, merge (set xs) ⟨k, .len bs⟩ = (read mergeN old bs).map fun x => set (xs ++ [x]))
    (hread : ∀ a ∈ as, read mergeN old (write (fields a)) = some (out a)) (xs : List N) :
    ((as.flatMap fun a => message k (fields a)) ++ fs).foldlM merge (set xs) =
      fs.foldlM merge (set (xs ++ as.map out)) := by
  induction as generalizing xs with
  | nil => simp
  | cons a as ih =>
    rw [List.flatMap_cons, List.append_assoc]
    apply (foldlM_message merge (fun x => set (xs ++ [x])) old (h xs)
      (hread a List.mem_cons_self)).trans
    rw [ih (fun b hb => hread b (List.mem_cons_of_mem _ hb)), List.map_cons, List.append_assoc]
    rfl

end Put

end KaroX2.Proto
