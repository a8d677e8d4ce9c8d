/-
KaroX2/Frames.lean

The bytes of the commands.

`SerializeToString` of the messages that the encoders build, by the schema `sdk/session.proto`
and the requests of `karo/v1`, and the reading of these messages.  Every message reads back
from its own bytes.

A setter of a nested message makes the message present, with whatever value: the two
vectors of a twist are written even when the robot is to stand still.
-/
import KaroX2.Codec
import KaroX2.Proto.Write

namespace KaroX2

open Proto Py

/-! ### Text -/

/-- The value of a `string` field -/
def utf8Encode (s : String) : List UInt8 := s.toUTF8.data.toList

theorem utf8Decode_utf8Encode (s : String) : utf8Decode (utf8Encode s) = some s := by
  show String.fromUTF8? s.toUTF8 = some s
  exact dif_pos s.isValidUTF8

/-- The text of an encodable string. -/
def PyStr.text (s : PyStr) : String := String.ofList (s.codes.map Char.ofNat)

/-- Its elements are Unicode scalar values: `chr` has no other, but for the surrogates. -/
def PyStr.Scalar (s : PyStr) : Prop := ∀ c ∈ s.codes, c.isValidChar

theorem PyStr.ofString_text {s : PyStr} (h : s.Scalar) : PyStr.ofString s.text = s := by
  have hcodes : (s.codes.map Char.ofNat).map Char.toNat = s.codes := by
    rw [List.map_map]
    conv_rhs => rw [← List.map_id s.codes]
    apply List.map_congr_left
    intro c hc
    show (Char.ofNat c).toNat = c
    rw [Char.ofNat, dif_pos (h c hc)]
    rfl
  rw [PyStr.ofString, PyStr.text, String.toList_ofList, hcodes]

/-- A `string` field -/
def string (k : Nat) (s : String) : List Field := bytes k (utf8Encode s)

section

variable {M : Type} (merge : M → Field → Option M) {m : M} {fs : List Field} {k : Nat}

theorem foldlM_text (set : String → M) (h : ∀ b, merge m ⟨k, .len b⟩ = (utf8Decode b).map set)
    (s : String) : (⟨k, .len (utf8Encode s)⟩ :: fs).foldlM merge m = fs.foldlM merge (set s) := by
  apply foldlM_cons_some
  rw [h, utf8Decode_utf8Encode]
  rfl

theorem foldlM_string (set : String → M)
    (h : ∀ b, merge (set "") ⟨k, .len b⟩ = (utf8Decode b).map set) (s : String) :
    (string k s ++ fs).foldlM merge (set "") = fs.foldlM merge (set s) := by
  apply foldlM_unlessZero
  · intro _
    rw [h, utf8Decode_utf8Encode]
    rfl
  · intro hs
    have hread := utf8Decode_utf8Encode s
    rw [List.isEmpty_iff.mp hs, ← show utf8Encode "" = [] from rfl, utf8Decode_utf8Encode] at hread
    rw [← Option.some.inj hread]

end

/-! ### The requests of `karo/v1` -/

/-- `Vector3`; a `PoseTarget` has its fields too, with `theta` for `z`. -/
structure Vector3 where
  x : BitVec 64 := 0
  y : BitVec 64 := 0
  z : BitVec 64 := 0
  deriving DecidableEq, Repr

namespace Vector3

def fields (m : Vector3) : List Field := double 1 m.x ++ (double 2 m.y ++ (double 3 m.z ++ []))

def merge (m : Vector3) : Field → Option Vector3
  | ⟨1, .i64 b⟩ => some { m with x := readDouble b }
  | ⟨2, .i64 b⟩ => some { m with y := readDouble b }
  | ⟨3, .i64 b⟩ => some { m with z := readDouble b }
  | _ => some m

theorem fit (m : Vector3) : Fit m.fields :=
  (double_fit (by decide)).append ((double_fit (by decide)).append
    ((double_fit (by decide)).append .nil))

theorem read_back {m : Vector3} (hsize : (write m.fields).length < 2 ^ 64) :
    read merge {} (write m.fields) = some m := by
  apply read_write m.fit hsize
  refine Eq.trans (foldlM_double merge (fun x => { m with x, y := 0, z := 0 }) (fun _ => rfl) _) ?_
  refine Eq.trans (foldlM_double merge (fun y => { m with y, z := 0 }) (fun _ => rfl) _) ?_
  exact Eq.trans (foldlM_double merge (fun z => { m with z }) (fun _ => rfl) _) rfl

end Vector3

structure Twist where
  linear : Option Vector3 := none
  angular : Option Vector3 := none
  deriving DecidableEq, Repr

namespace Twist

def fields (m : Twist) : List Field :=
  present 1 Vector3.fields m.linear ++ (present 2 Vector3.fields m.angular ++ [])

def merge (m : Twist) : Field → Option Twist
  | ⟨1, .len b⟩ => (read Vector3.merge (m.linear.getD {}) b).map fun v => { m with linear := some v }
  | ⟨2, .len b⟩ =>
    (read Vector3.merge (m.angular.getD {}) b).map fun v => { m with angular := some v }
  | _ => some m

theorem fit (m : Twist) : Fit m.fields :=
  (present_fit (by decide)).append ((present_fit (by decide)).append .nil)

theorem read_back {m : Twist} (hsize : (write m.fields).length < 2 ^ 64) :
    read merge {} (write m.fields) = some m := by
  apply read_write m.fit hsize
  refine Eq.trans (foldlM_present merge (fun linear => { linear }) (fun _ => rfl) _ ?_) ?_
  · intro v hv
    apply Vector3.read_back (nested_size (k := 1) hsize _)
    simp [fields, present, message, hv]
  refine Eq.trans (foldlM_present merge (fun angular => { m with angular }) (fun _ => rfl) _ ?_) rfl
  intro v hv
  apply Vector3.read_back (nested_size (k := 2) hsize _)
  simp [fields, present, message, hv]

end Twist

structure CmdVelRequest where
  twist : Option Twist := none
  sequence : Nat := 0
  timestampMs : Nat := 0
  deriving DecidableEq, Repr

namespace CmdVelRequest

def fields (m : CmdVelRequest) : List Field :=
  present 1 Twist.fields m.twist ++ (uint 2 m.sequence ++ (uint 3 m.timestampMs ++ []))

def merge (m : CmdVelRequest) : Field → Option CmdVelRequest
  | ⟨1, .len b⟩ => (read Twist.merge (m.twist.getD {}) b).map fun t => { m with twist := some t }
  | ⟨2, .varint n⟩ => some { m with sequence := n }
  | ⟨3, .varint n⟩ => some { m with timestampMs := n }
  | _ => some m

theorem read_back {m : CmdVelRequest} (hsequence : m.sequence < 2 ^ 64)
    (htimestamp : m.timestampMs < 2 ^ 64) (hsize : (write m.fields).length < 2 ^ 64) :
    read merge {} (write m.fields) = some m := by
  have hfit : Fit m.fields :=
    (present_fit (by decide)).append ((uint_fit (by decide) hsequence).append
      ((uint_fit (by decide) htimestamp).append .nil))
  apply read_write hfit hsize
  refine Eq.trans (foldlM_present merge (fun twist => { twist }) (fun _ => rfl) _ ?_) ?_
  · intro t ht
    apply Twist.read_back (nested_size (k := 1) hsize _)
    simp [fields, present, message, ht]
  refine Eq.trans (foldlM_uint merge (fun n => { m with sequence := n, timestampMs := 0 })
    (fun _ => rfl) _) ?_
  exact Eq.trans (foldlM_uint merge (fun n => { m with timestampMs := n }) (fun _ => rfl) _) rfl

end CmdVelRequest

structure EmergencyStopRequest where
  activate : Bool := false
  deriving DecidableEq, Repr

namespace EmergencyStopRequest

def fields (m : EmergencyStopRequest) : List Field := flag 1 m.activate ++ []

def merge (m : EmergencyStopRequest) : Field → Option EmergencyStopRequest
  | ⟨1, .varint n⟩ => some { m with activate := n ≠ 0 }
  | _ => some m

theorem read_back {m : EmergencyStopRequest} (hsize : (write m.fields).length < 2 ^ 64) :
    read merge {} (write m.fields) = some m := by
  apply read_write ((flag_fit (by decide)).append .nil) hsize
  exact Eq.trans (foldlM_flag merge (fun activate => { activate }) (fun _ => rfl) _) rfl

end EmergencyStopRequest

/-- `target` of a `CreateMoveTaskRequest` -/
inductive MoveTarget where
  | markerId (s : String)
  | pose (p : Vector3)
  deriving DecidableEq, Repr

structure CreateMoveTaskRequest where
  target : Option MoveTarget := none
  clientTimestampMs : Nat := 0
  deriving DecidableEq, Repr

namespace CreateMoveTaskRequest

def markerFields : Option MoveTarget → List Field
  | some (.markerId s) => [⟨1, .len (utf8Encode s)⟩]
  | _ => []

def poseFields : Option MoveTarget → List Field
  | some (.pose p) => message 3 p.fields
  | _ => []

def fields (m : CreateMoveTaskRequest) : List Field :=
  markerFields m.target ++ (uint 2 m.clientTimestampMs ++ (poseFields m.target ++ []))

def merge (m : CreateMoveTaskRequest) : Field → Option CreateMoveTaskRequest
  | ⟨1, .len b⟩ => (utf8Decode b).map fun s => { m with target := some (.markerId s) }
  | ⟨2, .varint n⟩ => some { m with clientTimestampMs := n }
  | ⟨3, .len b⟩ =>
    let old := match m.target with | some (.pose p) => p | _ => {}
    (read Vector3.merge old b).map fun p => { m with target := some (.pose p) }
  | _ => some m

theorem markerFields_fit (t : Option MoveTarget) : Fit (markerFields t) := by
  rcases t with - | s | p
  · exact .nil
  · exact len_fit (by decide)
  · exact .nil

theorem poseFields_fit (t : Option MoveTarget) : Fit (poseFields t) := by
  rcases t with - | s | p
  · exact .nil
  · exact .nil
  · exact len_fit (by decide)

theorem read_back {m : CreateMoveTaskRequest} (htimestamp : m.clientTimestampMs < 2 ^ 64)
    (hsize : (write m.fields).length < 2 ^ 64) : read merge {} (write m.fields) = some m := by
  apply read_write ((markerFields_fit _).append ((uint_fit (by decide) htimestamp).append
    ((poseFields_fit _).append .nil))) hsize
  obtain ⟨- | s | p, n⟩ := m
  · exact Eq.trans (foldlM_uint merge (fun n => ⟨none, n⟩) (fun _ => rfl) n) rfl
  · refine Eq.trans (foldlM_text merge (fun s => ⟨some (.markerId s), 0⟩) (fun _ => rfl) s) ?_
    exact Eq.trans (foldlM_uint merge (fun n => ⟨some (.markerId s), n⟩) (fun _ => rfl) n) rfl
  · refine Eq.trans (foldlM_uint merge (fun n => ⟨none, n⟩) (fun _ => rfl) n) ?_
    refine Eq.trans (foldlM_message merge (fun p => ⟨some (.pose p), n⟩) {} (fun _ => rfl) ?_) rfl
    apply Vector3.read_back (nested_size (k := 3) hsize _)
    simp [fields, markerFields, poseFields, message]

end CreateMoveTaskRequest

/-- `CancelTaskRequest`, `PauseTaskRequest` and `ResumeTaskRequest`; the SDK gives no reason for
a cancellation. -/
structure TaskRequest where
  taskId : String := ""
  deriving DecidableEq, Repr

namespace TaskRequest

def fields (m : TaskRequest) : List Field := string 1 m.taskId ++ []

def merge (m : TaskRequest) : Field → Option TaskRequest
  | ⟨1, .len b⟩ => (utf8Decode b).map fun s => { m with taskId := s }
  | _ => some m

theorem read_back {m : TaskRequest} (hsize : (write m.fields).length < 2 ^ 64) :
    read merge {} (write m.fields) = some m := by
  apply read_write ((bytes_fit (by decide)).append .nil) hsize
  exact Eq.trans (foldlM_string merge (fun taskId => { taskId }) (fun _ => rfl) _) rfl

end TaskRequest

/-! ### `Request` -/

/-- An entry of a `map<string, string>`: both its fields are written. -/
def entryFields (e : String × String) : List Field :=
  [⟨1, .len (utf8Encode e.1)⟩, ⟨2, .len (utf8Encode e.2)⟩]

def entryMerge (e : String × String) : Field → Option (String × String)
  | ⟨1, .len b⟩ => (utf8Decode b).map fun s => (s, e.2)
  | ⟨2, .len b⟩ => (utf8Decode b).map fun s => (e.1, s)
  | _ => some e

theorem entry_read_back {e : String × String} (hsize : (write (entryFields e)).length < 2 ^ 64) :
    read entryMerge ("", "") (write (entryFields e)) = some e := by
  apply read_write ((len_fit (k := 1) (by decide)).append (len_fit (by decide))) hsize
  refine Eq.trans (foldlM_text entryMerge (fun s => (s, "")) (fun _ => rfl) e.1) ?_
  exact Eq.trans (foldlM_text entryMerge (fun s => (e.1, s)) (fun _ => rfl) e.2) rfl

structure Request where
  id : Nat := 0
  method : String := ""
  deadlineMs : Nat := 0
  metadata : Dict String String := .empty
  payload : List UInt8 := []

namespace Request

def metadataFields (items : List (String × String)) : List Field :=
  items.flatMap fun e => message 4 (entryFields e)

def fields (m : Request) : List Field :=
  uint 1 m.id ++ (string 2 m.method ++ (uint 3 m.deadlineMs ++
    (metadataFields m.metadata.items ++ (bytes 5 m.payload ++ []))))

def merge (m : Request) : Field → Option Request
  | ⟨1, .varint n⟩ => some { m with id := n }
  | ⟨2, .len b⟩ => (utf8Decode b).map fun s => { m with method := s }
  | ⟨3, .varint n⟩ => some { m with deadlineMs := n }
  | ⟨4, .len b⟩ =>
    (read entryMerge ("", "") b).map fun e => { m with metadata := m.metadata.insert e.1 e.2 }
  | ⟨5, .len b⟩ => some { m with payload := b }
  | _ => some m

/-- The entries are inserted one after another, each with a key that is new. -/
theorem foldlM_metadata {m : Request} {fs : List Field} {items : List (String × String)}
    {d : Dict String String} (hd : d.items = m.metadata.items ++ items)
    (hread : ∀ e ∈ items, read entryMerge ("", "") (write (entryFields e)) = some e) :
    (metadataFields items ++ fs).foldlM merge m = fs.foldlM merge { m with metadata := d } := by
  induction items generalizing m with
  | nil =>
    have : d = m.metadata := by
      cases d
      cases hm : m.metadata
      simp_all
    rw [this]
    rfl
  | cons e items ih =>
    have hnew : ¬m.metadata.has e.1 = true := by
      have hnodup := d.nodup
      rw [hd, List.map_append, List.map_cons, List.nodup_append] at hnodup
      rw [Dict.has_iff]
      rintro ⟨v, hv⟩
      have hmem : e.1 ∈ m.metadata.items.map Prod.fst := List.mem_map.mpr ⟨_, hv, rfl⟩
      exact hnodup.2.2 e.1 hmem e.1 List.mem_cons_self rfl
    have hinsert : (m.metadata.insert e.1 e.2).items = m.metadata.items ++ [e] := by
      rw [Dict.insert, dif_neg hnew]
    refine Eq.trans (foldlM_message merge (fun e => { m with
      metadata := m.metadata.insert e.1 e.2 }) ("", "") (fun _ => rfl)
      (hread e List.mem_cons_self)) ?_
    refine ih (m := { m with metadata := m.metadata.insert e.1 e.2 }) ?_ fun e' he' =>
      hread e' (List.mem_cons_of_mem _ he')
    rw [hd, hinsert, List.append_assoc]
    rfl

theorem read_back {m : Request} (hid : m.id < 2 ^ 64) (hdeadline : m.deadlineMs < 2 ^ 64)
    (hsize : (write m.fields).length < 2 ^ 64) : read merge {} (write m.fields) = some m := by
  have hmetadata : Fit (metadataFields m.metadata.items) := by
    intro f hf
    obtain ⟨e, -, he⟩ := List.mem_flatMap.mp hf
    exact len_fit (k := 4) (by decide) f he
  have hfit : Fit m.fields :=
    (uint_fit (by decide) hid).append ((bytes_fit (by decide)).append
      ((uint_fit (by decide) hdeadline).append (hmetadata.append
        ((bytes_fit (by decide)).append .nil))))
  apply read_write hfit hsize
  refine Eq.trans (foldlM_uint merge (fun id => { id }) (fun _ => rfl) m.id) ?_
  refine Eq.trans (foldlM_string merge (fun method => { id := m.id, method }) (fun _ => rfl) _) ?_
  refine Eq.trans (foldlM_uint merge (fun n => { id := m.id, method := m.method, deadlineMs := n })
    (fun _ => rfl) _) ?_
  refine Eq.trans (foldlM_metadata (d := m.metadata) rfl ?_) ?_
  · intro e he
    apply entry_read_back (nested_size (k := 4) hsize _)
    have : ⟨4, .len (write (entryFields e))⟩ ∈ metadataFields m.metadata.items :=
      List.mem_flatMap.mpr ⟨e, he, List.mem_singleton.mpr rfl⟩
    simp [fields, this]
  exact Eq.trans (foldlM_bytes merge (fun payload => { m with payload }) (fun _ => rfl) _) rfl

end Request

/-! ### The commands of `sdk/session.proto` -/

/-- `auth` of an `SdkHandshakeRequest` -/
inductive HandshakeAuth where
  | certificateDer (bytes : List UInt8)
  | accessToken (bytes : List UInt8)
  deriving DecidableEq, Repr

structure SdkHandshakeRequest where
  sdkVersion : String := ""
  clientId : String := ""
  auth : Option HandshakeAuth := none
  deriving DecidableEq, Repr

namespace SdkHandshakeRequest

def authFields : Option HandshakeAuth → List Field
  | none => []
  | some (.certificateDer b) => [⟨10, .len b⟩]
  | some (.accessToken b) => [⟨11, .len b⟩]

def fields (m : SdkHandshakeRequest) : List Field :=
  string 1 m.sdkVersion ++ (string 2 m.clientId ++ authFields m.auth)

def merge (m : SdkHandshakeRequest) : Field → Option SdkHandshakeRequest
  | ⟨1, .len b⟩ => (utf8Decode b).map fun s => { m with sdkVersion := s }
  | ⟨2, .len b⟩ => (utf8Decode b).map fun s => { m with clientId := s }
  | ⟨10, .len b⟩ => some { m with auth := some (.certificateDer b) }
  | ⟨11, .len b⟩ => some { m with auth := some (.accessToken b) }
  | _ => some m

theorem authFields_fit (a : Option HandshakeAuth) : Fit (authFields a) := by
  rcases a with - | b | b
  · exact .nil
  · exact len_fit (by decide)
  · exact len_fit (by decide)

theorem read_back {m : SdkHandshakeRequest} (hsize : (write m.fields).length < 2 ^ 64) :
    read merge {} (write m.fields) = some m := by
  apply read_write ((bytes_fit (by decide)).append ((bytes_fit (by decide)).append
    (authFields_fit _))) hsize
  refine Eq.trans (foldlM_string merge (fun sdkVersion => { sdkVersion }) (fun _ => rfl) _) ?_
  refine Eq.trans (foldlM_string merge (fun clientId => { sdkVersion := m.sdkVersion, clientId })
    (fun _ => rfl) _) ?_
  obtain ⟨v, c, - | b | b⟩ := m <;> rfl

end SdkHandshakeRequest

structure SdkPingCommand where
  clientTimestampMs : Nat := 0
  deriving DecidableEq, Repr

namespace SdkPingCommand

def fields (m : SdkPingCommand) : List Field := uint 1 m.clientTimestampMs ++ []

def merge (m : SdkPingCommand) : Field → Option SdkPingCommand
  | ⟨1, .varint n⟩ => some { m with clientTimestampMs := n }
  | _ => some m

theorem read_back {m : SdkPingCommand} (htimestamp : m.clientTimestampMs < 2 ^ 64)
    (hsize : (write m.fields).length < 2 ^ 64) : read merge {} (write m.fields) = some m := by
  apply read_write ((uint_fit (by decide) htimestamp).append .nil) hsize
  exact Eq.trans (foldlM_uint merge (fun n => ⟨n⟩) (fun _ => rfl) _) rfl

end SdkPingCommand

structure SdkSubscribeCommand where
  topic : String := ""
  desiredHz : BitVec 32 := 0
  sinceSeq : Nat := 0
  historyLimit : Nat := 0
  deriving DecidableEq, Repr

namespace SdkSubscribeCommand

def fields (m : SdkSubscribeCommand) : List Field :=
  string 1 m.topic ++ (float 2 m.desiredHz ++ (uint 3 m.sinceSeq ++ (uint 4 m.historyLimit ++ [])))

/-- A `uint32` field keeps the low bits of its varint. -/
def merge (m : SdkSubscribeCommand) : Field → Option SdkSubscribeCommand
  | ⟨1, .len b⟩ => (utf8Decode b).map fun s => { m with topic := s }
  | ⟨2, .i32 b⟩ => some { m with desiredHz := readFloat b }
  | ⟨3, .varint n⟩ => some { m with sinceSeq := n }
  | ⟨4, .varint n⟩ => some { m with historyLimit := n % 2 ^ 32 }
  | _ => some m

theorem read_back {m : SdkSubscribeCommand} (hsince : m.sinceSeq < 2 ^ 64)
    (hlimit : m.historyLimit < 2 ^ 32) (hsize : (write m.fields).length < 2 ^ 64) :
    read merge {} (write m.fields) = some m := by
  have hfit : Fit m.fields :=
    (bytes_fit (by decide)).append ((float_fit (by decide)).append
      ((uint_fit (by decide) hsince).append ((uint_fit (by decide) (by omega)).append .nil)))
  apply read_write hfit hsize
  refine Eq.trans (foldlM_string merge (fun topic => { topic }) (fun _ => rfl) _) ?_
  refine Eq.trans (foldlM_float merge (fun desiredHz => { topic := m.topic, desiredHz })
    (fun _ => rfl) _) ?_
  refine Eq.trans (foldlM_uint merge (fun n => { m with sinceSeq := n, historyLimit := 0 })
    (fun _ => rfl) _) ?_
  refine Eq.trans (foldlM_uint merge (fun n => { m with historyLimit := n % 2 ^ 32 })
    (fun _ => rfl) _) ?_
  show some { m with historyLimit := m.historyLimit % 2 ^ 32 } = some m
  rw [Nat.mod_eq_of_lt hlimit]

end SdkSubscribeCommand

structure SdkUnsubscribeCommand where
  topic : String := ""
  deriving DecidableEq, Repr

namespace SdkUnsubscribeCommand

def fields (m : SdkUnsubscribeCommand) : List Field := string 1 m.topic ++ []

def merge (m : SdkUnsubscribeCommand) : Field → Option SdkUnsubscribeCommand
  | ⟨1, .len b⟩ => (utf8Decode b).map fun s => { m with topic := s }
  | _ => some m

theorem read_back {m : SdkUnsubscribeCommand} (hsize : (write m.fields).length < 2 ^ 64) :
    read merge {} (write m.fields) = some m := by
  apply read_write ((bytes_fit (by decide)).append .nil) hsize
  exact Eq.trans (foldlM_string merge (fun topic => { topic }) (fun _ => rfl) _) rfl

end SdkUnsubscribeCommand

end KaroX2
