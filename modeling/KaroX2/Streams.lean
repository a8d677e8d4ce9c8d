/-
KaroX2/Streams.lean

The frames of the three streams, and what a user handler gets of them.

A frame carries a message of the robot in its payload; `decode_robot_status`,
`decode_task_event` and `decode_safety_event` make a record of it.  A number of an enumeration
that has no name becomes the default, and an event that is not a snapshot of a task is
dropped.

The messages have the fields of the schema; other fields are unknown to their readers.  Strings
are UTF-8, numbers have the width of their fields, and a `double` is its bit pattern.  Details of
a task that is not a move, and events that are not snapshots, are kept as their bytes.
-/
import KaroX2.Classification
import KaroX2.Frames
import KaroX2.Proto.Members

namespace KaroX2

open Proto

/-! ### Enumerations -/

/-- The member with the number, and the default where there is none. -/
def byNumber {E : Type} (number : E → BitVec 32) (members : List E) (default : E)
    (n : BitVec 32) : E := (members.find? fun e => number e = n).getD default

inductive ChargeType where
  | none | wire | dock
  deriving DecidableEq, Repr

def ChargeType.number : ChargeType → BitVec 32
  | none => 0
  | wire => 1
  | dock => 2

/-- `ChargeType(value)`, and `NONE` where that fails -/
def ChargeType.ofNumber : BitVec 32 → ChargeType := byNumber number [.none, .wire, .dock] .none

@[simp] theorem ChargeType.ofNumber_number (e : ChargeType) : ofNumber e.number = e := by
  cases e <;> rfl

inductive ServiceState where
  | idle | task | mapping | starting | shuttingDown | upgrading | remoteControl | gotoCharging
  deriving DecidableEq, Repr

def ServiceState.number : ServiceState → BitVec 32
  | idle => 0
  | task => 1
  | mapping => 2
  | starting => 3
  | shuttingDown => 4
  | upgrading => 5
  | remoteControl => 6
  | gotoCharging => 7

/-- `ServiceState(value)`, and `IDLE` where that fails -/
def ServiceState.ofNumber : BitVec 32 → ServiceState :=
  byNumber number [.idle, .task, .mapping, .starting, .shuttingDown,
    .upgrading, .remoteControl, .gotoCharging] .idle

@[simp] theorem ServiceState.ofNumber_number (e : ServiceState) : ofNumber e.number = e := by
  cases e <;> rfl

inductive TaskType where
  | unspecified | navigation | patrol | goBack
  deriving DecidableEq, Repr

def TaskType.number : TaskType → BitVec 32
  | unspecified => 0
  | navigation => 1
  | patrol => 2
  | goBack => 3

/-- `_TASK_TYPE_MAP`, which lacks the motor test of the robot -/
def TaskType.ofNumber : BitVec 32 → TaskType :=
  byNumber number [.navigation, .patrol, .goBack] .unspecified

@[simp] theorem TaskType.ofNumber_number (e : TaskType) : ofNumber e.number = e := by
  cases e <;> rfl

inductive TaskState where
  | unspecified | pending | running | paused | cancelling | succeeded | failed | cancelled
  deriving DecidableEq, Repr

def TaskState.number : TaskState → BitVec 32
  | unspecified => 0
  | pending => 1
  | running => 2
  | paused => 3
  | cancelling => 4
  | succeeded => 10
  | failed => 11
  | cancelled => 12

/-- `_TASK_STATE_MAP` -/
def TaskState.ofNumber : BitVec 32 → TaskState :=
  byNumber number [.pending, .running, .paused, .cancelling,
    .succeeded, .failed, .cancelled] .unspecified

@[simp] theorem TaskState.ofNumber_number (e : TaskState) : ofNumber e.number = e := by
  cases e <;> rfl

inductive TaskCancelReason where
  | unspecified | user | estop | timeout | pauseTimeout | resumeFailed | error
  deriving DecidableEq, Repr

def TaskCancelReason.number : TaskCancelReason → BitVec 32
  | unspecified => 0
  | user => 1
  | estop => 2
  | timeout => 3
  | pauseTimeout => 4
  | resumeFailed => 5
  | error => 6

/-- `_TASK_CANCEL_MAP` -/
def TaskCancelReason.ofNumber : BitVec 32 → TaskCancelReason :=
  byNumber number [.user, .estop, .timeout, .pauseTimeout, .resumeFailed, .error] .unspecified

@[simp] theorem TaskCancelReason.ofNumber_number (e : TaskCancelReason) :
    ofNumber e.number = e := by
  cases e <;> rfl

inductive TaskPauseReason where
  | unspecified | user | estop
  deriving DecidableEq, Repr

def TaskPauseReason.number : TaskPauseReason → BitVec 32
  | unspecified => 0
  | user => 1
  | estop => 2

/-- `_TASK_PAUSE_MAP` -/
def TaskPauseReason.ofNumber : BitVec 32 → TaskPauseReason :=
  byNumber number [.user, .estop] .unspecified

@[simp] theorem TaskPauseReason.ofNumber_number (e : TaskPauseReason) : ofNumber e.number = e := by
  cases e <;> rfl

/-! ### Messages of the robot -/

theorem put_string {M : Type} {merge : M → Field → Option M} {m : M} {fs : List Field} {k : Nat}
    (set : M → String → M) (hzero : set m "" = m)
    (h : ∀ b, merge m ⟨k, .len b⟩ = (utf8Decode b).map (set m)) {s : String} :
    (string k s ++ fs).foldlM merge m = fs.foldlM merge (set m s) := by
  have hput : (string k s ++ fs).foldlM merge (set m "") = fs.foldlM merge (set m s) :=
    foldlM_string merge (set m) (by rwa [hzero]) s
  rwa [hzero] at hput

structure SdkRobotStateUpdate where
  robotId : String := ""
  healthScore : BitVec 32 := 0
  sequence : BitVec 64 := 0
  batteryLevel : BitVec 32 := 0
  chargeType : BitVec 32 := 0
  serviceState : BitVec 32 := 0
  isEstop : Bool := false
  errors : List (BitVec 32) := []
  activeMapId : String := ""
  activeMapName : String := ""
  activeFloor : BitVec 32 := 0
  currentTaskId : String := ""
  uptimeSeconds : BitVec 64 := 0
  idleSeconds : BitVec 64 := 0
  chargingSeconds : BitVec 64 := 0
  isHwEstop : Bool := false
  isSwEstop : Bool := false
  deriving DecidableEq, Repr

namespace SdkRobotStateUpdate

def fields (m : SdkRobotStateUpdate) : List Field :=
  string 1 m.robotId ++ (unsigned 2 m.healthScore ++ (unsigned 3 m.sequence ++
    (unsigned 4 m.batteryLevel ++ (signed 5 m.chargeType ++ (signed 6 m.serviceState ++
      (flag 12 m.isEstop ++ (packed 13 m.errors ++ (string 14 m.activeMapId ++
        (string 15 m.activeMapName ++ (signed 16 m.activeFloor ++ (string 18 m.currentTaskId ++
          (unsigned 23 m.uptimeSeconds ++ (unsigned 24 m.idleSeconds ++
            (unsigned 25 m.chargingSeconds ++ (flag 26 m.isHwEstop ++
              (flag 27 m.isSwEstop ++ []))))))))))))))))

/-- A repeated number may come packed or by itself. -/
def merge (m : SdkRobotStateUpdate) : Field → Option SdkRobotStateUpdate
  | ⟨1, .len b⟩ => (utf8Decode b).map fun s => { m with robotId := s }
  | ⟨2, .varint n⟩ => some { m with healthScore := BitVec.ofNat 32 n }
  | ⟨3, .varint n⟩ => some { m with sequence := BitVec.ofNat 64 n }
  | ⟨4, .varint n⟩ => some { m with batteryLevel := BitVec.ofNat 32 n }
  | ⟨5, .varint n⟩ => some { m with chargeType := BitVec.ofNat 32 n }
  | ⟨6, .varint n⟩ => some { m with serviceState := BitVec.ofNat 32 n }
  | ⟨12, .varint n⟩ => some { m with isEstop := n ≠ 0 }
  | ⟨13, .len b⟩ => (readPacked b).map fun xs => { m with errors := m.errors ++ xs }
  | ⟨13, .varint n⟩ => some { m with errors := m.errors ++ [BitVec.ofNat 32 n] }
  | ⟨14, .len b⟩ => (utf8Decode b).map fun s => { m with activeMapId := s }
  | ⟨15, .len b⟩ => (utf8Decode b).map fun s => { m with activeMapName := s }
  | ⟨16, .varint n⟩ => some { m with activeFloor := BitVec.ofNat 32 n }
  | ⟨18, .len b⟩ => (utf8Decode b).map fun s => { m with currentTaskId := s }
  | ⟨23, .varint n⟩ => some { m with uptimeSeconds := BitVec.ofNat 64 n }
  | ⟨24, .varint n⟩ => some { m with idleSeconds := BitVec.ofNat 64 n }
  | ⟨25, .varint n⟩ => some { m with chargingSeconds := BitVec.ofNat 64 n }
  | ⟨26, .varint n⟩ => some { m with isHwEstop := n ≠ 0 }
  | ⟨27, .varint n⟩ => some { m with isSwEstop := n ≠ 0 }
  | _ => some m

theorem fit (m : SdkRobotStateUpdate) : Fit m.fields := by
  repeat' apply Fit.append
  all_goals first
    | exact bytes_fit (by decide)
    | exact unsigned_fit (by decide) (by decide)
    | exact signed_fit (by decide)
    | exact flag_fit (by decide)
    | exact .nil

theorem read_back {m : SdkRobotStateUpdate} (hsize : (write m.fields).length < 2 ^ 64) :
    read merge {} (write m.fields) = some m := by
  apply read_write m.fit hsize
  refine Eq.trans (put_string (fun t x => { t with robotId := x }) rfl fun _ => rfl) ?_
  refine Eq.trans (put_unsigned (fun t x => { t with healthScore := x }) rfl fun _ => rfl) ?_
  refine Eq.trans (put_unsigned (fun t x => { t with sequence := x }) rfl fun _ => rfl) ?_
  refine Eq.trans (put_unsigned (fun t x => { t with batteryLevel := x }) rfl fun _ => rfl) ?_
  refine Eq.trans (put_signed (fun t x => { t with chargeType := x }) rfl fun _ => rfl) ?_
  refine Eq.trans (put_signed (fun t x => { t with serviceState := x }) rfl fun _ => rfl) ?_
  refine Eq.trans (put_flag (fun t x => { t with isEstop := x }) rfl fun _ => rfl) ?_
  refine Eq.trans (put_packed (fun t x => { t with errors := x }) rfl fun _ => rfl) ?_
  refine Eq.trans (put_string (fun t x => { t with activeMapId := x }) rfl fun _ => rfl) ?_
  refine Eq.trans (put_string (fun t x => { t with activeMapName := x }) rfl fun _ => rfl) ?_
  refine Eq.trans (put_signed (fun t x => { t with activeFloor := x }) rfl fun _ => rfl) ?_
  refine Eq.trans (put_string (fun t x => { t with currentTaskId := x }) rfl fun _ => rfl) ?_
  refine Eq.trans (put_unsigned (fun t x => { t with uptimeSeconds := x }) rfl fun _ => rfl) ?_
  refine Eq.trans (put_unsigned (fun t x => { t with idleSeconds := x }) rfl fun _ => rfl) ?_
  refine Eq.trans (put_unsigned (fun t x => { t with chargingSeconds := x }) rfl fun _ => rfl) ?_
  refine Eq.trans (put_flag (fun t x => { t with isHwEstop := x }) rfl fun _ => rfl) ?_
  exact Eq.trans (put_flag (fun t x => { t with isSwEstop := x }) rfl fun _ => rfl) rfl

end SdkRobotStateUpdate

structure SafetyStateUpdate where
  code : BitVec 32 := 0
  level : BitVec 32 := 0
  severity : BitVec 32 := 0
  mode : String := ""
  polygon : String := ""
  policyVersion : String := ""
  activeSource : String := ""
  deriving DecidableEq, Repr

namespace SafetyStateUpdate

def fields (m : SafetyStateUpdate) : List Field :=
  unsigned 1 m.code ++ (unsigned 2 m.level ++ (unsigned 3 m.severity ++ (string 4 m.mode ++
    (string 5 m.polygon ++ (string 6 m.policyVersion ++ (string 7 m.activeSource ++ []))))))

def merge (m : SafetyStateUpdate) : Field → Option SafetyStateUpdate
  | ⟨1, .varint n⟩ => some { m with code := BitVec.ofNat 32 n }
  | ⟨2, .varint n⟩ => some { m with level := BitVec.ofNat 32 n }
  | ⟨3, .varint n⟩ => some { m with severity := BitVec.ofNat 32 n }
  | ⟨4, .len b⟩ => (utf8Decode b).map fun s => { m with mode := s }
  | ⟨5, .len b⟩ => (utf8Decode b).map fun s => { m with polygon := s }
  | ⟨6, .len b⟩ => (utf8Decode b).map fun s => { m with policyVersion := s }
  | ⟨7, .len b⟩ => (utf8Decode b).map fun s => { m with activeSource := s }
  | _ => some m

theorem fit (m : SafetyStateUpdate) : Fit m.fields := by
  repeat' apply Fit.append
  all_goals first
    | exact bytes_fit (by decide)
    | exact unsigned_fit (by decide) (by decide)
    | exact .nil

theorem read_back {m : SafetyStateUpdate} (hsize : (write m.fields).length < 2 ^ 64) :
    read merge {} (write m.fields) = some m := by
  apply read_write m.fit hsize
  refine Eq.trans (put_unsigned (fun t x => { t with code := x }) rfl fun _ => rfl) ?_
  refine Eq.trans (put_unsigned (fun t x => { t with level := x }) rfl fun _ => rfl) ?_
  refine Eq.trans (put_unsigned (fun t x => { t with severity := x }) rfl fun _ => rfl) ?_
  refine Eq.trans (put_string (fun t x => { t with mode := x }) rfl fun _ => rfl) ?_
  refine Eq.trans (put_string (fun t x => { t with polygon := x }) rfl fun _ => rfl) ?_
  refine Eq.trans (put_string (fun t x => { t with policyVersion := x }) rfl fun _ => rfl) ?_
  exact Eq.trans (put_string (fun t x => { t with activeSource := x }) rfl fun _ => rfl) rfl

end SafetyStateUpdate

structure MoveTaskDetails where
  markerId : String := ""
  markerName : String := ""
  goalX : BitVec 64 := 0
  goalY : BitVec 64 := 0
  goalTheta : BitVec 64 := 0
  plannedDistance : BitVec 64 := 0
  distanceTraveled : BitVec 64 := 0
  deriving DecidableEq, Repr

namespace MoveTaskDetails

def fields (m : MoveTaskDetails) : List Field :=
  string 1 m.markerId ++ (string 2 m.markerName ++ (double 3 m.goalX ++ (double 4 m.goalY ++
    (double 5 m.goalTheta ++ (double 6 m.plannedDistance ++
      (double 7 m.distanceTraveled ++ []))))))

def merge (m : MoveTaskDetails) : Field → Option MoveTaskDetails
  | ⟨1, .len b⟩ => (utf8Decode b).map fun s => { m with markerId := s }
  | ⟨2, .len b⟩ => (utf8Decode b).map fun s => { m with markerName := s }
  | ⟨3, .i64 b⟩ => some { m with goalX := readDouble b }
  | ⟨4, .i64 b⟩ => some { m with goalY := readDouble b }
  | ⟨5, .i64 b⟩ => some { m with goalTheta := readDouble b }
  | ⟨6, .i64 b⟩ => some { m with plannedDistance := readDouble b }
  | ⟨7, .i64 b⟩ => some { m with distanceTraveled := readDouble b }
  | _ => some m

theorem fit (m : MoveTaskDetails) : Fit m.fields := by
  repeat' apply Fit.append
  all_goals first
    | exact bytes_fit (by decide)
    | exact double_fit (by decide)
    | exact .nil

theorem read_back {m : MoveTaskDetails} (hsize : (write m.fields).length < 2 ^ 64) :
    read merge {} (write m.fields) = some m := by
  apply read_write m.fit hsize
  refine Eq.trans (put_string (fun t x => { t with markerId := x }) rfl fun _ => rfl) ?_
  refine Eq.trans (put_string (fun t x => { t with markerName := x }) rfl fun _ => rfl) ?_
  refine Eq.trans (put_double (fun t x => { t with goalX := x }) rfl fun _ => rfl) ?_
  refine Eq.trans (put_double (fun t x => { t with goalY := x }) rfl fun _ => rfl) ?_
  refine Eq.trans (put_double (fun t x => { t with goalTheta := x }) rfl fun _ => rfl) ?_
  refine Eq.trans (put_double (fun t x => { t with plannedDistance := x }) rfl fun _ => rfl) ?_
  exact Eq.trans (put_double (fun t x => { t with distanceTraveled := x }) rfl fun _ => rfl) rfl

end MoveTaskDetails

/-- `oneof details` of a task: the details of a move, or those of another kind with the number
of their field. -/
inductive TaskDetails where
  | move (d : MoveTaskDetails)
  | other (number : Fin 3) (bytes : List UInt8)
  deriving DecidableEq, Repr

/-- `karo.v1.Task` -/
structure TaskMessage where
  taskId : String := ""
  taskType : BitVec 32 := 0
  category : BitVec 32 := 0
  state : BitVec 32 := 0
  cancelReason : BitVec 32 := 0
  pauseReason : BitVec 32 := 0
  createdAtMs : BitVec 64 := 0
  startedAtMs : BitVec 64 := 0
  completedAtMs : BitVec 64 := 0
  errorCode : BitVec 32 := 0
  errorMessage : String := ""
  rosbagPath : String := ""
  bagUploadState : BitVec 32 := 0
  bagUploadProgress : BitVec 32 := 0
  bagOssKey : String := ""
  details : Option TaskDetails := none
  deriving DecidableEq, Repr

namespace TaskMessage

def detailsFields : Option TaskDetails → List Field
  | none => []
  | some (.move d) => message 100 d.fields
  | some (.other k b) => [⟨101 + k.val, .len b⟩]

def fields (m : TaskMessage) : List Field :=
  string 1 m.taskId ++ (signed 2 m.taskType ++ (signed 3 m.category ++ (signed 10 m.state ++
    (signed 11 m.cancelReason ++ (signed 12 m.pauseReason ++ (unsigned 20 m.createdAtMs ++
      (unsigned 21 m.startedAtMs ++ (unsigned 22 m.completedAtMs ++ (signed 30 m.errorCode ++
        (string 31 m.errorMessage ++ (string 40 m.rosbagPath ++ (signed 41 m.bagUploadState ++
          (unsigned 42 m.bagUploadProgress ++ (string 43 m.bagOssKey ++
            (detailsFields m.details ++ [])))))))))))))))

/-- Details of another kind replace those of a move, and are not looked into. -/
def merge (m : TaskMessage) : Field → Option TaskMessage
  | ⟨1, .len b⟩ => (utf8Decode b).map fun s => { m with taskId := s }
  | ⟨2, .varint n⟩ => some { m with taskType := BitVec.ofNat 32 n }
  | ⟨3, .varint n⟩ => some { m with category := BitVec.ofNat 32 n }
  | ⟨10, .varint n⟩ => some { m with state := BitVec.ofNat 32 n }
  | ⟨11, .varint n⟩ => some { m with cancelReason := BitVec.ofNat 32 n }
  | ⟨12, .varint n⟩ => some { m with pauseReason := BitVec.ofNat 32 n }
  | ⟨20, .varint n⟩ => some { m with createdAtMs := BitVec.ofNat 64 n }
  | ⟨21, .varint n⟩ => some { m with startedAtMs := BitVec.ofNat 64 n }
  | ⟨22, .varint n⟩ => some { m with completedAtMs := BitVec.ofNat 64 n }
  | ⟨30, .varint n⟩ => some { m with errorCode := BitVec.ofNat 32 n }
  | ⟨31, .len b⟩ => (utf8Decode b).map fun s => { m with errorMessage := s }
  | ⟨40, .len b⟩ => (utf8Decode b).map fun s => { m with rosbagPath := s }
  | ⟨41, .varint n⟩ => some { m with bagUploadState := BitVec.ofNat 32 n }
  | ⟨42, .varint n⟩ => some { m with bagUploadProgress := BitVec.ofNat 32 n }
  | ⟨43, .len b⟩ => (utf8Decode b).map fun s => { m with bagOssKey := s }
  | ⟨100, .len b⟩ =>
    let old := match m.details with | some (.move d) => d | _ => {}
    (read MoveTaskDetails.merge old b).map fun d => { m with details := some (.move d) }
  | ⟨101, .len b⟩ => some { m with details := some (.other 0 b) }
  | ⟨102, .len b⟩ => some { m with details := some (.other 1 b) }
  | ⟨103, .len b⟩ => some { m with details := some (.other 2 b) }
  | _ => some m

theorem detailsFields_fit (x : Option TaskDetails) : Fit (detailsFields x) := by
  rcases x with - | d | ⟨k, b⟩
  · exact .nil
  · exact len_fit (by decide)
  · apply len_fit
    omega

theorem fit (m : TaskMessage) : Fit m.fields := by
  repeat' apply Fit.append
  all_goals first
    | exact bytes_fit (by decide)
    | exact unsigned_fit (by decide) (by decide)
    | exact signed_fit (by decide)
    | exact detailsFields_fit _
    | exact .nil

theorem read_back {m : TaskMessage} (hsize : (write m.fields).length < 2 ^ 64) :
    read merge {} (write m.fields) = some m := by
  have hmove : ∀ d, m.details = some (.move d) →
      read MoveTaskDetails.merge {} (write d.fields) = some d := by
    intro d hd
    apply MoveTaskDetails.read_back (nested_size (k := 100) hsize _)
    simp [fields, detailsFields, message, hd]
  apply read_write m.fit hsize
  refine Eq.trans (put_string (fun t x => { t with taskId := x }) rfl fun _ => rfl) ?_
  refine Eq.trans (put_signed (fun t x => { t with taskType := x }) rfl fun _ => rfl) ?_
  refine Eq.trans (put_signed (fun t x => { t with category := x }) rfl fun _ => rfl) ?_
  refine Eq.trans (put_signed (fun t x => { t with state := x }) rfl fun _ => rfl) ?_
  refine Eq.trans (put_signed (fun t x => { t with cancelReason := x }) rfl fun _ => rfl) ?_
  refine Eq.trans (put_signed (fun t x => { t with pauseReason := x }) rfl fun _ => rfl) ?_
  refine Eq.trans (put_unsigned (fun t x => { t with createdAtMs := x }) rfl fun _ => rfl) ?_
  refine Eq.trans (put_unsigned (fun t x => { t with startedAtMs := x }) rfl fun _ => rfl) ?_
  refine Eq.trans (put_unsigned (fun t x => { t with completedAtMs := x }) rfl fun _ => rfl) ?_
  refine Eq.trans (put_signed (fun t x => { t with errorCode := x }) rfl fun _ => rfl) ?_
  refine Eq.trans (put_string (fun t x => { t with errorMessage := x }) rfl fun _ => rfl) ?_
  refine Eq.trans (put_string (fun t x => { t with rosbagPath := x }) rfl fun _ => rfl) ?_
  refine Eq.trans (put_signed (fun t x => { t with bagUploadState := x }) rfl fun _ => rfl) ?_
  refine Eq.trans (put_unsigned (fun t x => { t with bagUploadProgress := x }) rfl fun _ => rfl) ?_
  refine Eq.trans (put_string (fun t x => { t with bagOssKey := x }) rfl fun _ => rfl) ?_
  obtain ⟨_, _, _, _, _, _, _, _, _, _, _, _, _, _, _, - | d | ⟨k, b⟩⟩ := m
  · rfl
  · refine Eq.trans (put_message (fun t d => { t with details := some (.move d) }) {}
      (fun _ => rfl) (hmove d rfl)) rfl
  · rcases k with ⟨- | - | - | k, hk⟩
    · rfl
    · rfl
    · rfl
    · omega

end TaskMessage

/-- `TaskCreatedEvent` and `TaskUpdatedEvent` -/
structure TaskSnapshot where
  task : Option TaskMessage := none
  deriving DecidableEq, Repr

namespace TaskSnapshot

def fields (m : TaskSnapshot) : List Field := present 1 TaskMessage.fields m.task

def merge (m : TaskSnapshot) : Field → Option TaskSnapshot
  | ⟨1, .len b⟩ =>
    (read TaskMessage.merge (m.task.getD {}) b).map fun t => { m with task := some t }
  | _ => some m

theorem read_back {m : TaskSnapshot} (hsize : (write m.fields).length < 2 ^ 64) :
    read merge {} (write m.fields) = some m := by
  apply read_write (present_fit (by decide)) hsize
  rcases m with - | t
  · rfl
  · apply foldlM_member merge (fun t => ⟨some t⟩) {} (fun _ => rfl)
    apply TaskMessage.read_back (nested_size (k := 1) hsize _)
    simp [fields, present, message]

end TaskSnapshot

/-- `oneof kind` of an envelope: a snapshot, or an event of another kind. -/
inductive TaskEventKind where
  | created (e : TaskSnapshot)
  | updated (e : TaskSnapshot)
  | stateChanged (bytes : List UInt8)
  | deleted (bytes : List UInt8)
  deriving DecidableEq, Repr

structure TaskEventEnvelope where
  kind : Option TaskEventKind := none
  deriving DecidableEq, Repr

namespace TaskEventEnvelope

def fields (m : TaskEventEnvelope) : List Field :=
  match m.kind with
  | none => []
  | some (.created e) => message 1 e.fields
  | some (.updated e) => message 2 e.fields
  | some (.stateChanged b) => [⟨3, .len b⟩]
  | some (.deleted b) => [⟨4, .len b⟩]

def merge (m : TaskEventEnvelope) : Field → Option TaskEventEnvelope
  | ⟨1, .len b⟩ =>
    let old := match m.kind with | some (.created e) => e | _ => {}
    (read TaskSnapshot.merge old b).map fun e => { m with kind := some (.created e) }
  | ⟨2, .len b⟩ =>
    let old := match m.kind with | some (.updated e) => e | _ => {}
    (read TaskSnapshot.merge old b).map fun e => { m with kind := some (.updated e) }
  | ⟨3, .len b⟩ => some { m with kind := some (.stateChanged b) }
  | ⟨4, .len b⟩ => some { m with kind := some (.deleted b) }
  | _ => some m

theorem fit (m : TaskEventEnvelope) : Fit m.fields := by
  rcases m with - | e | e | b | b
  · exact .nil
  all_goals exact len_fit (by decide)

theorem read_back {m : TaskEventEnvelope} (hsize : (write m.fields).length < 2 ^ 64) :
    read merge {} (write m.fields) = some m := by
  apply read_write m.fit hsize
  rcases m with - | e | e | b | b
  · rfl
  · apply foldlM_member merge (fun e => ⟨some (.created e)⟩) {} (fun _ => rfl)
    exact TaskSnapshot.read_back (nested_size (k := 1) hsize (by simp [fields, message]))
  · apply foldlM_member merge (fun e => ⟨some (.updated e)⟩) {} (fun _ => rfl)
    exact TaskSnapshot.read_back (nested_size (k := 2) hsize (by simp [fields, message]))
  · rfl
  · rfl

end TaskEventEnvelope

/-! ### Records of the SDK -/

structure RobotStatus where
  robotId : String := ""
  sequence : BitVec 64 := 0
  timestampMs : Nat := 0
  healthScore : BitVec 32 := 0
  batteryPercent : BitVec 32 := 0
  chargeType : ChargeType := .none
  serviceState : ServiceState := .idle
  isEstop : Bool := false
  isHwEstop : Bool := false
  isSwEstop : Bool := false
  activeMapId : String := ""
  activeMapName : String := ""
  activeFloor : Int := 0
  currentTaskId : String := ""
  uptimeSeconds : BitVec 64 := 0
  idleSeconds : BitVec 64 := 0
  chargingSeconds : BitVec 64 := 0
  errorCodes : List (BitVec 32) := []
  deriving DecidableEq, Repr

structure TaskEvent where
  taskId : String := ""
  taskType : TaskType := .unspecified
  state : TaskState := .unspecified
  cancelReason : TaskCancelReason := .unspecified
  pauseReason : TaskPauseReason := .unspecified
  errorCode : ErrorCode := .ok
  errorMessage : String := ""
  markerId : String := ""
  plannedDistance : BitVec 64 := 0
  traveledDistance : BitVec 64 := 0
  createdAtMs : BitVec 64 := 0
  startedAtMs : BitVec 64 := 0
  completedAtMs : BitVec 64 := 0
  timestampMs : Nat := 0
  deriving DecidableEq, Repr

structure SafetyEvent where
  code : BitVec 32 := 0
  level : BitVec 32 := 0
  severity : BitVec 32 := 0
  mode : String := ""
  activeSource : String := ""
  timestampMs : Nat := 0
  deriving DecidableEq, Repr

/-! ### Decoding -/

/-- `decode_robot_status` -/
def decodeRobotStatus (payload : List UInt8) : Option RobotStatus := do
  let src ← read SdkRobotStateUpdate.merge {} payload
  some {
    robotId := src.robotId
    sequence := src.sequence
    timestampMs := 0
    healthScore := src.healthScore
    batteryPercent := src.batteryLevel
    chargeType := .ofNumber src.chargeType
    serviceState := .ofNumber src.serviceState
    isEstop := src.isEstop
    isHwEstop := src.isHwEstop
    isSwEstop := src.isSwEstop
    activeMapId := src.activeMapId
    activeMapName := src.activeMapName
    activeFloor := src.activeFloor.toInt
    currentTaskId := src.currentTaskId
    uptimeSeconds := src.uptimeSeconds
    idleSeconds := src.idleSeconds
    chargingSeconds := src.chargingSeconds
    errorCodes := src.errors }

/-- `_flatten_task` -/
def flattenTask (t : TaskMessage) : TaskEvent :=
  let ev : TaskEvent := {
    taskId := t.taskId
    taskType := .ofNumber t.taskType
    state := .ofNumber t.state
    cancelReason := .ofNumber t.cancelReason
    pauseReason := .ofNumber t.pauseReason
    errorCode := mapV1ErrorCode t.errorCode.toInt
    errorMessage := t.errorMessage
    createdAtMs := t.createdAtMs
    startedAtMs := t.startedAtMs
    completedAtMs := t.completedAtMs }
  match t.details with
  | some (.move d) =>
    { ev with
      markerId := d.markerId
      plannedDistance := d.plannedDistance
      traveledDistance := d.distanceTraveled }
  | _ => ev

/-- `decode_task_event` -/
def decodeTaskEvent (payload : List UInt8) : Option TaskEvent := do
  let env ← read TaskEventEnvelope.merge {} payload
  match env.kind with
  | some (.created e) => some (flattenTask (e.task.getD {}))
  | some (.updated e) => some (flattenTask (e.task.getD {}))
  | _ => none

/-- `decode_safety_event` -/
def decodeSafetyEvent (payload : List UInt8) : Option SafetyEvent := do
  let s ← read SafetyStateUpdate.merge {} payload
  some {
    code := s.code
    level := s.level
    severity := s.severity
    mode := s.mode
    activeSource := s.activeSource }

/-- What `subscribe_robot_status` hands to `on_data`. -/
def robotStatusOf (push : DecodedTopicPush) : Option RobotStatus :=
  (decodeRobotStatus push.payload).map fun rs => { rs with timestampMs := push.timestampMs }

/-- What `subscribe_task_events` hands to `on_data`. -/
def taskEventOf (push : DecodedTopicPush) : Option TaskEvent :=
  (decodeTaskEvent push.payload).map fun ev => { ev with timestampMs := push.timestampMs }

/-- What `subscribe_safety_events` hands to `on_data`. -/
def safetyEventOf (push : DecodedTopicPush) : Option SafetyEvent :=
  (decodeSafetyEvent push.payload).map fun ev => { ev with timestampMs := push.timestampMs }

/-! ### What a robot writes -/

/-- The message that says `rs` -/
def RobotStatus.update (rs : RobotStatus) : SdkRobotStateUpdate := {
  robotId := rs.robotId
  healthScore := rs.healthScore
  sequence := rs.sequence
  batteryLevel := rs.batteryPercent
  chargeType := rs.chargeType.number
  serviceState := rs.serviceState.number
  isEstop := rs.isEstop
  errors := rs.errorCodes
  activeMapId := rs.activeMapId
  activeMapName := rs.activeMapName
  activeFloor := BitVec.ofInt 32 rs.activeFloor
  currentTaskId := rs.currentTaskId
  uptimeSeconds := rs.uptimeSeconds
  idleSeconds := rs.idleSeconds
  chargingSeconds := rs.chargingSeconds
  isHwEstop := rs.isHwEstop
  isSwEstop := rs.isSwEstop }

namespace TaskEvent

/-- Details of a move say where the task goes; others have no place for it. -/
def details (ev : TaskEvent) : Option TaskDetails → Option TaskDetails
  | some (.move d) => some (.move { d with
      markerId := ev.markerId
      plannedDistance := ev.plannedDistance
      distanceTraveled := ev.traveledDistance })
  | x => x

/-- `t` with what `ev` says, and an error code of the robot -/
def message (ev : TaskEvent) (code : BitVec 32) (t : TaskMessage) : TaskMessage := { t with
  taskId := ev.taskId
  taskType := ev.taskType.number
  state := ev.state.number
  cancelReason := ev.cancelReason.number
  pauseReason := ev.pauseReason.number
  createdAtMs := ev.createdAtMs
  startedAtMs := ev.startedAtMs
  completedAtMs := ev.completedAtMs
  errorCode := code
  errorMessage := ev.errorMessage
  details := ev.details t.details }

/-- The event can be said with the details: they are of a move, or it names no goal. -/
def Fits (ev : TaskEvent) (x : Option TaskDetails) : Prop :=
  (∃ d, x = some (.move d)) ∨
    (ev.markerId = "" ∧ ev.plannedDistance = 0 ∧ ev.traveledDistance = 0)

end TaskEvent

/-- An envelope with a snapshot, of a new task or of an old one -/
def TaskEventEnvelope.snapshot (isNew : Bool) (t : TaskMessage) : TaskEventEnvelope :=
  ⟨some (bif isNew then .created ⟨some t⟩ else .updated ⟨some t⟩)⟩

/-- `s` with what `ev` says -/
def SafetyEvent.update (ev : SafetyEvent) (s : SafetyStateUpdate) : SafetyStateUpdate := { s with
  code := ev.code
  level := ev.level
  severity := ev.severity
  mode := ev.mode
  activeSource := ev.activeSource }

theorem decodeRobotStatus_update {rs : RobotStatus}
    (hfloor : -2 ^ 31 ≤ rs.activeFloor ∧ rs.activeFloor < 2 ^ 31)
    (hsize : (write rs.update.fields).length < 2 ^ 64) :
    decodeRobotStatus (write rs.update.fields) = some { rs with timestampMs := 0 } := by
  have hread := SdkRobotStateUpdate.read_back hsize
  have hsigned : (BitVec.ofInt 32 rs.activeFloor).toInt = rs.activeFloor :=
    BitVec.toInt_ofInt_eq_self (by decide) hfloor.1 hfloor.2
  rw [decodeRobotStatus, hread]
  simp only [Option.bind_eq_bind, Option.bind_some, RobotStatus.update,
    ChargeType.ofNumber_number, ServiceState.ofNumber_number, hsigned]

theorem flattenTask_message {ev : TaskEvent} {code : BitVec 32} {t : TaskMessage}
    (hcode : mapV1ErrorCode code.toInt = ev.errorCode) (hfits : ev.Fits t.details) :
    flattenTask (ev.message code t) = { ev with timestampMs := 0 } := by
  simp only [flattenTask, TaskEvent.message, TaskType.ofNumber_number, TaskState.ofNumber_number,
    TaskCancelReason.ofNumber_number, TaskPauseReason.ofNumber_number, hcode]
  rcases hfits with ⟨d, hmove⟩ | ⟨hmarker, hplanned, htraveled⟩
  · rw [hmove]
    rfl
  · rcases t.details with - | d | ⟨k, b⟩ <;>
      simp [TaskEvent.details, hmarker, hplanned, htraveled]

theorem decodeTaskEvent_snapshot {isNew : Bool} {t : TaskMessage}
    (hsize : (write (TaskEventEnvelope.snapshot isNew t).fields).length < 2 ^ 64) :
    decodeTaskEvent (write (TaskEventEnvelope.snapshot isNew t).fields) =
      some (flattenTask t) := by
  have hread := TaskEventEnvelope.read_back hsize
  rw [decodeTaskEvent, hread]
  cases isNew <;> rfl

/-- An event that is not a snapshot of a task is dropped. -/
theorem decodeTaskEvent_other {env : TaskEventEnvelope}
    (hother : ∀ e, env.kind ≠ some (.created e) ∧ env.kind ≠ some (.updated e))
    (hsize : (write env.fields).length < 2 ^ 64) : decodeTaskEvent (write env.fields) = none := by
  have hread := TaskEventEnvelope.read_back hsize
  rw [decodeTaskEvent, hread]
  rcases env with - | e | e | b | b
  · rfl
  · exact absurd rfl (hother e).1
  · exact absurd rfl (hother e).2
  · rfl
  · rfl

theorem decodeSafetyEvent_update {ev : SafetyEvent} {s : SafetyStateUpdate}
    (hsize : (write (ev.update s).fields).length < 2 ^ 64) :
    decodeSafetyEvent (write (ev.update s).fields) = some { ev with timestampMs := 0 } := by
  have hread := SafetyStateUpdate.read_back hsize
  rw [decodeSafetyEvent, hread]
  rfl

/-! ### The records of the streams -/

inductive RecordKind where
  | robotStatus | taskEvents | safetyEvents
  deriving DecidableEq, Repr

inductive StreamRecord where
  | status (rs : RobotStatus)
  | task (ev : TaskEvent)
  | safety (ev : SafetyEvent)
  deriving DecidableEq, Repr

namespace StreamRecord

/-- What the frame dispatcher of a stream hands to `on_data`, if anything. -/
def ofFrame (push : DecodedTopicPush) : RecordKind → Option StreamRecord
  | .robotStatus => (robotStatusOf push).map status
  | .taskEvents => (taskEventOf push).map task
  | .safetyEvents => (safetyEventOf push).map safety

def kind : StreamRecord → RecordKind
  | status _ => .robotStatus
  | task _ => .taskEvents
  | safety _ => .safetyEvents

/-- The record, with the time of a push -/
def stamped (ms : Nat) : StreamRecord → StreamRecord
  | status rs => status { rs with timestampMs := ms }
  | task ev => task { ev with timestampMs := ms }
  | safety ev => safety { ev with timestampMs := ms }

/-- A robot says the record with the bytes.  It is free in the members that the SDK drops, in
the number it gives an error, and in whether it says that a task is new. -/
inductive Says : StreamRecord → List UInt8 → Prop
  | status {rs : RobotStatus} (hfloor : -2 ^ 31 ≤ rs.activeFloor ∧ rs.activeFloor < 2 ^ 31) :
    Says (.status rs) (write rs.update.fields)
  | task {ev : TaskEvent} {code : BitVec 32} {t : TaskMessage} {isNew : Bool}
    (hcode : mapV1ErrorCode code.toInt = ev.errorCode) (hfits : ev.Fits t.details) :
    Says (.task ev) (write (TaskEventEnvelope.snapshot isNew (ev.message code t)).fields)
  | safety {ev : SafetyEvent} {s : SafetyStateUpdate} :
    Says (.safety ev) (write (ev.update s).fields)

end StreamRecord

/-! ### The frame of a push -/

namespace SdkTopicPush

def fields (m : SdkTopicPush) : List Field :=
  string 1 m.topic ++ (uint 2 m.timestampMs ++ (bytes 3 m.payload ++ (uint 4 m.seq ++ [])))

/-- What a robot writes is an encoding of the push. -/
theorem encodedBy {m : SdkTopicPush} (htimestamp : m.timestampMs < 2 ^ 64) (hseq : m.seq < 2 ^ 64)
    (hsize : (write m.fields).length < 2 ^ 64) : m.EncodedBy (write m.fields) := by
  have hfit : Fit m.fields :=
    (bytes_fit (by decide)).append ((uint_fit (by decide) htimestamp).append
      ((bytes_fit (by decide)).append ((uint_fit (by decide) hseq).append .nil)))
  refine ⟨m.fields, write_encodes hfit hsize, ?_, ?_⟩
  · intro f hf
    simp only [fields, List.mem_append, List.not_mem_nil, or_false] at hf
    rcases hf with hf | hf | hf | hf
    · exact eq_of_mem_unlessZero hf ▸ .topic _
    · exact eq_of_mem_unlessZero hf ▸ .timestampMs _
    · exact eq_of_mem_unlessZero hf ▸ .payload _
    · exact eq_of_mem_unlessZero hf ▸ .seq _
  · refine Eq.trans (put_string (fun t x => { t with topic := x }) rfl fun _ => rfl) ?_
    refine Eq.trans (put_uint (fun t x => { t with timestampMs := x }) rfl fun _ => rfl) ?_
    refine Eq.trans (put_bytes (fun t x => { t with payload := x }) rfl fun _ => rfl) ?_
    exact Eq.trans (put_uint (fun t x => { t with seq := x }) rfl fun _ => rfl) rfl

end SdkTopicPush

theorem StreamRecord.Says.ofFrame (push : DecodedTopicPush) {r : StreamRecord}
    (hmessage : r.Says push.payload) (hsize : push.payload.length < 2 ^ 64) :
    StreamRecord.ofFrame push r.kind = some (r.stamped push.timestampMs) := by
  generalize hpayload : push.payload = b at hmessage hsize
  cases hmessage with
  | status hfloor =>
    show (robotStatusOf push).map _ = _
    rw [robotStatusOf, hpayload, decodeRobotStatus_update hfloor hsize]
    rfl
  | task hcode hfits =>
    show (taskEventOf push).map _ = _
    rw [taskEventOf, hpayload, decodeTaskEvent_snapshot hsize, flattenTask_message hcode hfits]
    rfl
  | safety =>
    show (safetyEventOf push).map _ = _
    rw [safetyEventOf, hpayload, decodeSafetyEvent_update hsize]
    rfl

/-- A task whose goal could not be reached -/
def TaskEvent.lost : TaskEvent :=
  { taskId := "t", state := .failed, errorCode := .navGoalUnreachable }

/-- A robot's push of it, the 4th of its stream -/
def SdkTopicPush.lost : SdkTopicPush where
  topic := "tasks.events"
  timestampMs := 1700000000000
  payload := write (TaskEventEnvelope.snapshot false
    (TaskEvent.lost.message 1212 { category := 1 })).fields
  seq := 4

end KaroX2
