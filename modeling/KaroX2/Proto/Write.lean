/-
KaroX2/Proto/Write.lean

Writing the wire format of protocol buffers.

`write` takes the shortest varints.  It is one encoder among those that `Encodes` admits
(`write_encodes`), so that `parse` reads its bytes back:

    parse (write fs) = some fs.

A `proto3` message is written one field after another.  A scalar that is zero is left out,
a member of a `oneof` is written whatever its value, and a nested message is the bytes of
its own fields.  The rules `foldlM_uint`, `foldlM_double` and so on are for reading such a
message: a field that was left out has the value with which the reader starts.
-/
import KaroX2.Proto.Wire
import Mathlib.Algebra.GroupWithZero.Nat

namespace KaroX2.Proto

/-! ### Bytes -/

/-- The shortest varint of a number. -/
def varint (n : Nat) : List UInt8 :=
  if n < 128 then [UInt8.ofNat n] else UInt8.ofNat (n % 128 + 128) :: varint (n / 128)
termination_by n
decreasing_by omega

theorem varint_small {n : Nat} (h : n < 128) : varint n = [UInt8.ofNat n] := by
  rw [varint, if_pos h]

theorem varint_large {n : Nat} (h : ¬n < 128) :
    varint n = UInt8.ofNat (n % 128 + 128) :: varint (n / 128) := by
  rw [varint, if_neg h]

theorem varint_encodes (n : Nat) : Varint n (varint n) := by
  induction n using Nat.strongRecOn with
  | ind n ih =>
    by_cases h : n < 128
    · rw [varint_small h]
      exact Varint.byte h
    · rw [varint_large h]
      have hval : (UInt8.ofNat (n % 128 + 128)).toNat = n % 128 + 128 := by
        rw [UInt8.toNat_ofNat']
        omega
      have hmore := Varint.more (b := UInt8.ofNat (n % 128 + 128)) (by omega)
        (ih (n / 128) (by omega))
      rwa [hval, Nat.add_sub_cancel, Nat.mod_add_div] at hmore

/-- Seven bits a byte. -/
theorem varint_length {n k : Nat} (h : n < 128 ^ (k + 1)) : (varint n).length ≤ k + 1 := by
  induction k generalizing n with
  | zero =>
    rw [varint_small (by simpa using h)]
    simp
  | succ k ih =>
    by_cases hn : n < 128
    · rw [varint_small hn]
      simp
    · rw [varint_large hn, List.length_cons]
      have hdiv : n / 128 < 128 ^ (k + 1) := by
        rw [Nat.div_lt_iff_lt_mul (by omega)]
        rwa [Nat.pow_succ] at h
      have := ih hdiv
      omega

/-- The `k` bytes of a fixed-width number, the lowest first. -/
def fixed : Nat → Nat → List UInt8
  | 0, _ => []
  | k + 1, n => UInt8.ofNat (n % 256) :: fixed k (n / 256)

def readFixed : List UInt8 → Nat
  | [] => 0
  | b :: bs => b.toNat + 256 * readFixed bs

@[simp] theorem fixed_length (k n : Nat) : (fixed k n).length = k := by
  induction k generalizing n with
  | zero => rfl
  | succ k ih => rw [fixed, List.length_cons, ih]

theorem readFixed_fixed {k n : Nat} (h : n < 256 ^ k) : readFixed (fixed k n) = n := by
  induction k generalizing n with
  | zero =>
    have : n = 0 := by simpa using h
    rw [this]
    rfl
  | succ k ih =>
    have hdiv : n / 256 < 256 ^ k := by
      rw [Nat.div_lt_iff_lt_mul (by omega)]
      rwa [Nat.pow_succ] at h
    rw [fixed, readFixed, ih hdiv, UInt8.toNat_ofNat']
    omega

/-! ### Fields -/

def Value.write : Value → List UInt8
  | varint n => Proto.varint n
  | i64 bytes => bytes
  | len bytes => Proto.varint bytes.length ++ bytes
  | i32 bytes => bytes

def Field.write (f : Field) : List UInt8 :=
  varint (f.number * 8 + f.value.wireType) ++ f.value.write

def write (fs : List Field) : List UInt8 := fs.flatMap Field.write

/-- The value has the width of its wire type. -/
def Value.Fits : Value → Prop
  | varint n => n < 2 ^ 64
  | i64 bytes => bytes.length = 8
  | len _ => True
  | i32 bytes => bytes.length = 4

structure Field.Fits (f : Field) : Prop where
  number : 0 < f.number ∧ f.number < 2 ^ 29
  value : f.value.Fits

/-- All the fields fit. -/
def Fit (fs : List Field) : Prop := ∀ f ∈ fs, f.Fits

section Write

variable {f : Field} {fs gs : List Field} {v : Value} {k n : Nat} {bs : List UInt8}

theorem Value.Fits.encodes (h : v.Fits) (hsize : v.write.length < 2 ^ 64) :
    v.Encodes v.write := by
  cases v with
  | varint n =>
    apply Value.Encodes.varint (varint_encodes n) (varint_length _) h
    exact Nat.lt_of_lt_of_le h (by decide)
  | i64 bytes => exact .i64 h
  | len bytes =>
    have hbytes : bytes.length < 2 ^ 64 := by
      simp only [Value.write, List.length_append] at hsize
      omega
    apply Value.Encodes.len (varint_encodes _) (varint_length _)
    exact Nat.lt_of_lt_of_le hbytes (by decide)
  | i32 bytes => exact .i32 h

theorem write_cons : write (f :: fs) = f.write ++ write fs := rfl

theorem write_encodes (h : Fit fs) (hsize : (write fs).length < 2 ^ 64) :
    Encodes fs (write fs) := by
  induction fs with
  | nil => exact .nil
  | cons f fs ih =>
    obtain ⟨hnumber, hvalue⟩ := h f List.mem_cons_self
    have hwire := wireType_lt f.value
    have htag : (varint (f.number * 8 + f.value.wireType)).length ≤ 5 := by
      apply varint_length
      omega
    rw [write_cons, Field.write, List.append_assoc] at hsize ⊢
    simp only [List.length_append] at hsize
    have hrest := ih (fun g hg => h g (List.mem_cons_of_mem f hg)) (by omega)
    exact .cons (varint_encodes _) htag hnumber (hvalue.encodes (by omega)) hrest

/-- What is written is read back. -/
theorem parse_write (h : Fit fs) (hsize : (write fs).length < 2 ^ 64) :
    parse (write fs) = some fs :=
  parse_of_encodes (write_encodes h hsize)

/-- A length-delimited field is a part of the message. -/
theorem length_lt_write (h : ⟨k, .len bs⟩ ∈ fs) : bs.length < (write fs).length := by
  induction fs with
  | nil => cases h
  | cons f fs ih =>
    rw [write_cons, List.length_append]
    rcases List.mem_cons.mp h with rfl | h
    · have hne : 0 < (varint (k * 8 + 2)).length :=
        List.length_pos_iff.mpr (varint_encodes _).ne_nil
      simp only [Field.write, Value.write, Value.wireType, List.length_append]
      omega
    · have := ih h
      omega

/-- The bytes of a message are fewer than the limit for each of its nested ones. -/
theorem nested_size (hsize : (write fs).length < n) (h : ⟨k, .len (write gs)⟩ ∈ fs) :
    (write gs).length < n :=
  Nat.lt_trans (length_lt_write h) hsize

/-! ### Messages -/

/-- A field that is left out if its value is zero. -/
def unlessZero (zero : Bool) (f : Field) : List Field := bif zero then [] else [f]

/-- An integer or an enumeration -/
def uint (k n : Nat) : List Field := unlessZero (n == 0) ⟨k, .varint n⟩

/-- A `bool` -/
def flag (k : Nat) (b : Bool) : List Field := unlessZero (!b) ⟨k, .varint 1⟩

/-- A `double`, by its bit pattern: a negative zero is written. -/
def double (k : Nat) (x : BitVec 64) : List Field :=
  unlessZero (x == 0) ⟨k, .i64 (fixed 8 x.toNat)⟩

/-- A `float`, by its bit pattern -/
def float (k : Nat) (x : BitVec 32) : List Field :=
  unlessZero (x == 0) ⟨k, .i32 (fixed 4 x.toNat)⟩

/-- A `string` or `bytes` -/
def bytes (k : Nat) (bs : List UInt8) : List Field := unlessZero bs.isEmpty ⟨k, .len bs⟩

/-- A nested message -/
def message (k : Nat) (fs : List Field) : List Field := [⟨k, .len (write fs)⟩]

/-- A nested message, if it is present -/
def present {N : Type} (k : Nat) (fields : N → List Field) : Option N → List Field
  | none => []
  | some x => message k (fields x)

def readDouble (bs : List UInt8) : BitVec 64 := BitVec.ofNat 64 (readFixed bs)

def readFloat (bs : List UInt8) : BitVec 32 := BitVec.ofNat 32 (readFixed bs)

theorem readDouble_fixed (x : BitVec 64) : readDouble (fixed 8 x.toNat) = x := by
  rw [readDouble, readFixed_fixed x.isLt]
  simp

theorem readFloat_fixed (x : BitVec 32) : readFloat (fixed 4 x.toNat) = x := by
  rw [readFloat, readFixed_fixed x.isLt]
  simp

theorem Fit.nil : Fit [] := by
  intro f hf
  cases hf

theorem Fit.append (h : Fit fs) (h' : Fit gs) : Fit (fs ++ gs) := by
  intro f hf
  exact (List.mem_append.mp hf).elim (h f) (h' f)

theorem Fit.single (h : f.Fits) : Fit [f] := by
  intro g hg
  rwa [List.mem_singleton.mp hg]

theorem Fit.unlessZero {zero : Bool} (h : f.Fits) : Fit (unlessZero zero f) := by
  cases zero
  · exact .single h
  · exact .nil

variable (hk : 0 < k ∧ k < 2 ^ 29)

include hk

theorem uint_fit (hn : n < 2 ^ 64) : Fit (uint k n) := .unlessZero ⟨hk, hn⟩

theorem flag_fit {b : Bool} : Fit (flag k b) :=
  .unlessZero ⟨hk, show 1 < 2 ^ 64 by decide⟩

theorem double_fit {x : BitVec 64} : Fit (double k x) := .unlessZero ⟨hk, fixed_length _ _⟩

theorem float_fit {x : BitVec 32} : Fit (float k x) := .unlessZero ⟨hk, fixed_length _ _⟩

theorem len_fit : Fit [⟨k, .len bs⟩] := .single ⟨hk, trivial⟩

theorem bytes_fit : Fit (bytes k bs) := .unlessZero ⟨hk, trivial⟩

theorem present_fit {N : Type} {fields : N → List Field} {x : Option N} :
    Fit (present k fields x) := by
  cases x
  · exact .nil
  · exact len_fit hk

end Write

/-! ### Reading a message -/

section Read

variable {M : Type}

/-- The fields of the bytes, merged into a message. -/
def read (merge : M → Field → Option M) (m : M) (bs : List UInt8) : Option M :=
  (parse bs).bind fun fs => fs.foldlM merge m

variable {merge : M → Field → Option M} {m m' : M} {f : Field} {fs : List Field} {k : Nat}

theorem read_write (hfit : Fit fs) (hsize : (write fs).length < 2 ^ 64)
    (h : fs.foldlM merge m = some m') : read merge m (write fs) = some m' := by
  rw [read, parse_write hfit hsize]
  exact h

theorem foldlM_cons_some (h : merge m f = some m') :
    (f :: fs).foldlM merge m = fs.foldlM merge m' := by
  rw [List.foldlM_cons, h]
  rfl

/-- A field that was left out is read as the value that the reader has already. -/
theorem foldlM_unlessZero {zero : Bool} (h : zero = false → merge m f = some m')
    (hzero : zero = true → m' = m) :
    (unlessZero zero f ++ fs).foldlM merge m = fs.foldlM merge m' := by
  cases zero with
  | true =>
    rw [hzero rfl]
    rfl
  | false => exact foldlM_cons_some (h rfl)

variable (merge)

theorem foldlM_uint (set : Nat → M) (h : ∀ n, merge (set 0) ⟨k, .varint n⟩ = some (set n))
    (n : Nat) : (uint k n ++ fs).foldlM merge (set 0) = fs.foldlM merge (set n) := by
  apply foldlM_unlessZero (fun _ => h n)
  intro hn
  rw [eq_of_beq hn]

theorem foldlM_flag (set : Bool → M)
    (h : ∀ n, merge (set false) ⟨k, .varint n⟩ = some (set (n ≠ 0))) (b : Bool) :
    (flag k b ++ fs).foldlM merge (set false) = fs.foldlM merge (set b) := by
  cases b
  · exact foldlM_unlessZero (fun hb => nomatch hb) (fun _ => rfl)
  · exact foldlM_unlessZero (fun _ => h 1) (fun hb => nomatch hb)

theorem foldlM_double (set : BitVec 64 → M)
    (h : ∀ bs, merge (set 0) ⟨k, .i64 bs⟩ = some (set (readDouble bs))) (x : BitVec 64) :
    (double k x ++ fs).foldlM merge (set 0) = fs.foldlM merge (set x) := by
  apply foldlM_unlessZero
  · intro _
    rw [h, readDouble_fixed]
  · intro hx
    rw [eq_of_beq hx]

theorem foldlM_float (set : BitVec 32 → M)
    (h : ∀ bs, merge (set 0) ⟨k, .i32 bs⟩ = some (set (readFloat bs))) (x : BitVec 32) :
    (float k x ++ fs).foldlM merge (set 0) = fs.foldlM merge (set x) := by
  apply foldlM_unlessZero
  · intro _
    rw [h, readFloat_fixed]
  · intro hx
    rw [eq_of_beq hx]

theorem foldlM_bytes (set : List UInt8 → M)
    (h : ∀ bs, merge (set []) ⟨k, .len bs⟩ = some (set bs)) (bs : List UInt8) :
    (bytes k bs ++ fs).foldlM merge (set []) = fs.foldlM merge (set bs) := by
  apply foldlM_unlessZero (fun _ => h bs)
  intro hbs
  rw [List.isEmpty_iff.mp hbs]

/-- A nested message that is read into an empty one. -/
theorem foldlM_message {N : Type} {mergeN : N → Field → Option N} {x : N} {gs : List Field}
    (set : N → M) (old : N) (h : ∀ bs, merge m ⟨k, .len bs⟩ = (read mergeN old bs).map set)
    (hread : read mergeN old (write gs) = some x) :
    (message k gs ++ fs).foldlM merge m = fs.foldlM merge (set x) := by
  apply foldlM_cons_some
  rw [h, hread]
  rfl

/-- A nested message that is the last field. -/
theorem foldlM_member {N : Type} {mergeN : N → Field → Option N} {x : N} {gs : List Field}
    (set : N → M) (old : N) (h : ∀ bs, merge m ⟨k, .len bs⟩ = (read mergeN old bs).map set)
    (hread : read mergeN old (write gs) = some x) :
    (message k gs).foldlM merge m = some (set x) := by
  rw [← List.append_nil (message k gs)]
  exact Eq.trans (foldlM_message merge set old h hread) rfl

theorem foldlM_present {N : Type} {mergeN : N → Field → Option N} {fields : N → List Field}
    {old : N} (set : Option N → M)
    (h : ∀ bs, merge (set none) ⟨k, .len bs⟩ = (read mergeN old bs).map fun x => set (some x))
    (x : Option N) (hread : ∀ y, x = some y → read mergeN old (write (fields y)) = some y) :
    (present k fields x ++ fs).foldlM merge (set none) = fs.foldlM merge (set x) := by
  cases x with
  | none => rfl
  | some y => exact foldlM_message merge (fun x => set (some x)) old h (hread y rfl)

end Read

end KaroX2.Proto
