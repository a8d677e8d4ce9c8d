/-
KaroX2/Messages.lean

What goes over the wire (`proto_codec.py`): the commands that the SDK encodes
and the two kinds of inbound messages that it decodes.

A command is kept as the message that is serialised, with the fields that the
encoders fill in.  Encoding can fail: protobuf rejects a `str` that has no
UTF-8 form and an integer outside the range of its field, so the encoders that
take such a value from the user return an `Except`.
-/
import KaroX2.Error
import Mathlib.Algebra.Order.Ring.Rat

namespace KaroX2

/-! ### Python strings and floats -/

/-- A Python `str`: a sequence of code points, which may be lone surrogates. -/
structure PyStr where
  codes : List Nat
  deriving DecidableEq, Repr

namespace PyStr

def ofString (s : String) : PyStr := ⟨s.toList.map Char.toNat⟩

def append (s t : PyStr) : PyStr := ⟨s.codes ++ t.codes⟩

/-- `bool(s)` -/
def truthy (s : PyStr) : Bool := !s.codes.isEmpty

/-- The string has a UTF-8 form: no surrogate is in it. -/
def encodable (s : PyStr) : Bool := s.codes.all fun c => c < 0xD800 || 0xDFFF < c

end PyStr

/-- A Python `float` that is only passed on: its IEEE bit pattern. -/
structure PyFloat where
  bits : BitVec 64
  deriving DecidableEq, Repr

/-- What protobuf raises for a `str` without a UTF-8 form. -/
def unencodable : Exn := .other "surrogates not allowed"

/-- What protobuf raises for an integer that does not fit its field. -/
def outOfRange : Exn := .other "Value out of range"

/-! ### Commands -/

/-- The payload of an `rpc.Request`. -/
inductive RpcBody where
  | cmdVel (linearX linearY angularZ : PyFloat) (sequence : Nat) (timestampMs : Nat)
  | emergencyStop (activate : Bool) (reason : Option PyStr)
  | createTaskMarker (markerId : PyStr)
  | createTaskPose (x y theta : PyFloat)
  | taskCommand (taskId : PyStr)
  deriving DecidableEq, Repr

/-- The payload of an `SdkCommand`. -/
inductive Payload where
  | handshakeCert (sdkVersion clientId : PyStr) (certificateDer : List UInt8)
  | handshakeToken (sdkVersion clientId : PyStr) (accessToken : List UInt8)
  | ping (clientTimestampMs : Nat)
  | subscribe (topic : String) (desiredHz : PyFloat) (sinceSeq historyLimit : Nat)
  | unsubscribe (topic : String)
  | rpc (method : String) (deadlineMs : Nat) (body : RpcBody)
  deriving DecidableEq, Repr

/-- `SdkCommand` -/
structure SdkCommand where
  requestId : Nat
  payload : Payload
  deriving DecidableEq, Repr

/-- Assigning a `str` to a string field. -/
def utf8 (s : PyStr) : Except Exn PyStr :=
  if s.encodable then .ok s else .error unencodable

def encodeHandshakeCert (requestId : Nat) (sdkVersion clientId : PyStr) (certDer : List UInt8) :
    Except Exn SdkCommand := do
  let v ← utf8 sdkVersion
  let c ← utf8 clientId
  pure ⟨requestId, .handshakeCert v c certDer⟩

def encodeHandshakeToken (requestId : Nat) (sdkVersion clientId : PyStr) (token : List UInt8) :
    Except Exn SdkCommand := do
  let v ← utf8 sdkVersion
  let c ← utf8 clientId
  pure ⟨requestId, .handshakeToken v c token⟩

def encodePing (requestId clientTsMs : Nat) : SdkCommand := ⟨requestId, .ping clientTsMs⟩

/-- `since_seq` is a `uint64` and `history_limit` a `uint32`. -/
def encodeSubscribe (requestId : Nat) (topic : String) (desiredHz : PyFloat) (sinceSeq : Nat)
    (historyLimit : Int) : Except Exn SdkCommand :=
  if sinceSeq < 2 ^ 64 then
    if 0 ≤ historyLimit ∧ historyLimit < 2 ^ 32 then
      .ok ⟨requestId, .subscribe topic desiredHz sinceSeq historyLimit.toNat⟩
    else .error outOfRange
  else .error outOfRange

def encodeUnsubscribe (requestId : Nat) (topic : String) : SdkCommand :=
  ⟨requestId, .unsubscribe topic⟩

def encodeCmdVel (requestId : Nat) (linearX linearY angularZ : PyFloat)
    (sequence clientTsMs : Nat) : SdkCommand :=
  ⟨requestId, .rpc "control.cmd_vel" 200 (.cmdVel linearX linearY angularZ sequence clientTsMs)⟩

def encodeEmergencyStop (requestId : Nat) (engage : Bool) (reason : PyStr) :
    Except Exn SdkCommand :=
  if reason.truthy then do
    let r ← utf8 reason
    pure ⟨requestId, .rpc "safety.emergency_stop" 2000 (.emergencyStop engage (some r))⟩
  else
    pure ⟨requestId, .rpc "safety.emergency_stop" 2000 (.emergencyStop engage none)⟩

/-- `_wrap_task_rpc` -/
def wrapTaskRpc (requestId : Nat) (method : String) (req : RpcBody) : SdkCommand :=
  ⟨requestId, .rpc method 2000 req⟩

def encodeCreateNavTaskMarker (requestId : Nat) (markerId : PyStr) : Except Exn SdkCommand := do
  let m ← utf8 markerId
  pure (wrapTaskRpc requestId "move.create_task" (.createTaskMarker m))

def encodeCreateNavTaskPose (requestId : Nat) (x y theta : PyFloat) : Except Exn SdkCommand :=
  pure (wrapTaskRpc requestId "move.create_task" (.createTaskPose x y theta))

/-- `encode_cancel_task`, `encode_pause_task` and `encode_resume_task`, which
differ in the method name only. -/
def encodeTaskCommand (method : String) (requestId : Nat) (taskId : PyStr) :
    Except Exn SdkCommand := do
  let i ← utf8 taskId
  pure (wrapTaskRpc requestId method (.taskCommand i))

def encodeCancelTask := encodeTaskCommand "task_actions.cancel_task"
def encodePauseTask := encodeTaskCommand "task_actions.pause_task"
def encodeResumeTask := encodeTaskCommand "task_actions.resume_task"

/-- The command asks the robot to engage its soft emergency stop. -/
def SdkCommand.engages (cmd : SdkCommand) : Bool :=
  match cmd.payload with
  | .rpc _ _ (.emergencyStop activate _) => activate
  | _ => false

/-- The command asks the robot to release its soft emergency stop. -/
def SdkCommand.releases (cmd : SdkCommand) : Bool :=
  match cmd.payload with
  | .rpc _ _ (.emergencyStop activate _) => !activate
  | _ => false

/-! ### Inbound messages -/

/-- `DeliverySemantics` -/
inductive DeliverySemantics where
  | telemetry | event
  deriving DecidableEq, Repr

/-- `TopicDescriptor`, the fields that the SDK reads -/
structure TopicDescriptor where
  name : String
  deliverySemantics : DeliverySemantics
  deriving DecidableEq, Repr

/-- `SubscribeRejectReason`; `unknown` is `_UNKNOWN` -/
inductive SubscribeRejectReason where
  | none | topicNotFound | capabilityDenied | alreadySubscribed | invalidHz
  | historyTooOld | replayNotSupported | unknown
  deriving DecidableEq, Repr

/-- `reject_reason_to_error` -/
def rejectReasonToError : SubscribeRejectReason → ErrorCode
  | .none => .ok
  | .topicNotFound => .topicNotFound
  | .capabilityDenied => .capabilityDenied
  | .alreadySubscribed => .topicAlreadySubscribed
  | .invalidHz => .controlInvalidTwist
  | .historyTooOld | .replayNotSupported | .unknown => .internalError

/-- `DecodedResponse`, the fields that the SDK reads -/
structure DecodedResponse where
  requestId : Nat := 0
  success : Bool := false
  sdkCode : ErrorCode := .ok
  message : String := ""
  hasHandshake : Bool := false
  hasRpc : Bool := false
  hasSubscribe : Bool := false
  protocolVersion : String := ""
  robotSn : String := ""
  robotModel : String := ""
  availableTopics : List TopicDescriptor := []
  rpcCode : ErrorCode := .ok
  rpcMessage : String := ""
  /-- the task id in the payload of a task reply; `none` if it does not parse -/
  taskId : Option String := none
  subAccepted : Bool := false
  subRejectReason : SubscribeRejectReason := .none
  subNextSeq : Nat := 0
  subMessage : String := ""
  deriving DecidableEq, Repr

/-- `DecodedTopicPush`; the payload is opaque -/
structure DecodedTopicPush where
  topic : String := ""
  timestampMs : Nat := 0
  seq : Nat := 0
  payload : List UInt8 := []
  deriving DecidableEq, Repr

/-- The response is a success with an rpc payload that says OK. -/
def DecodedResponse.rpcOk (resp : DecodedResponse) : Bool :=
  resp.success && resp.hasRpc && resp.rpcCode == .ok

/-- A websocket message.  A binary frame is kept as what the two decoders make
of it: `decode_response` and `decode_topic_push`. -/
inductive Inbound where
  | text
  | frame (len : Nat) (response : Option DecodedResponse) (push : Option DecodedTopicPush)
  deriving DecidableEq, Repr

end KaroX2
