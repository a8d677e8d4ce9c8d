/-
KaroX2/Codec.lean

Inbound frames: `decode_response` and `decode_topic_push` (`proto_codec.py`) over the
schema of `session.proto`, and which handler a frame is given to.

Both kinds of messages come without a tag on one channel.  Where their schemas have a
field of one number, its wire types differ, so what the encoder of one kind writes is
unknown to the parser of the other.

The protobuf library is a parameter (`Protobuf`): it merges the fields of a message one
by one, and what the nested messages are is its own business.
-/
import KaroX2.Inbound
import KaroX2.Proto.Wire

namespace KaroX2

open Coop Proto

/-! ### The schema -/

/-- `SdkTopicDescriptor`, the fields that the SDK reads -/
structure SdkTopicDescriptor where
  name : String := ""
  deliverySemantics : Int := 0
  deriving DecidableEq, Repr

/-- `SdkHandshakeResponse`, the fields that the SDK reads -/
structure SdkHandshakeResponse where
  protocolVersion : String := ""
  robotSn : String := ""
  robotModel : String := ""
  availableTopics : List SdkTopicDescriptor := []
  deriving DecidableEq, Repr

/-- `karo.v1.Response`, the fields that the SDK reads -/
structure RpcResponse where
  code : Int := 0
  message : String := ""
  payload : List UInt8 := []
  deriving DecidableEq, Repr

/-- `SdkSubscribeAck`, the fields that the SDK reads -/
structure SdkSubscribeAck where
  accepted : Bool := false
  rejectReason : Int := 0
  nextSeq : Nat := 0
  message : String := ""
  deriving DecidableEq, Repr

/-- `oneof payload` of `SdkResponse` -/
inductive ResponsePayload where
  | handshake (h : SdkHandshakeResponse)
  | rpc (r : RpcResponse)
  | subscribe (a : SdkSubscribeAck)
  deriving DecidableEq, Repr

structure SdkResponse where
  requestId : Nat := 0
  success : Bool := false
  errorCode : Int := 0
  message : String := ""
  serverTimestampMs : Nat := 0
  payload : Option ResponsePayload := none
  deriving DecidableEq, Repr

structure SdkTopicPush where
  topic : String := ""
  timestampMs : Nat := 0
  payload : List UInt8 := []
  seq : Nat := 0
  deriving DecidableEq, Repr

/-- The value of a `string` field, which is UTF-8. -/
def utf8Decode (bytes : List UInt8) : Option String := String.fromUTF8? ⟨⟨bytes⟩⟩

/-- The value of an enumeration, which is open: an `int32`. -/
def enumValue (n : Nat) : Int := (BitVec.ofNat 32 n).toInt

/-- `MergeFromString` of the nested messages. -/
structure NestedMessages where
  handshake : SdkHandshakeResponse → List UInt8 → Option SdkHandshakeResponse
  rpc : RpcResponse → List UInt8 → Option RpcResponse
  subscribe : SdkSubscribeAck → List UInt8 → Option SdkSubscribeAck
  /-- the task id in the payload of a task reply -/
  taskId : List UInt8 → Option String

/-- A field of an `SdkResponse`: the last occurrence wins, a nested message is merged with
an earlier one of its kind, and a field that does not match the schema is unknown. -/
def SdkResponse.merge (N : NestedMessages) (m : SdkResponse) : Field → Option SdkResponse
  | ⟨1, .varint n⟩ => some { m with requestId := n }
  | ⟨2, .varint n⟩ => some { m with success := n ≠ 0 }
  | ⟨3, .varint n⟩ => some { m with errorCode := enumValue n }
  | ⟨4, .len b⟩ => (utf8Decode b).map fun s => { m with message := s }
  | ⟨5, .varint n⟩ => some { m with serverTimestampMs := n }
  | ⟨10, .len b⟩ =>
    let old := match m.payload with | some (.handshake h) => h | _ => {}
    (N.handshake old b).map fun h => { m with payload := some (.handshake h) }
  | ⟨11, .len b⟩ =>
    let old := match m.payload with | some (.rpc r) => r | _ => {}
    (N.rpc old b).map fun r => { m with payload := some (.rpc r) }
  | ⟨12, .len b⟩ =>
    let old := match m.payload with | some (.subscribe a) => a | _ => {}
    (N.subscribe old b).map fun a => { m with payload := some (.subscribe a) }
  | _ => some m

/-- A field of an `SdkTopicPush`. -/
def SdkTopicPush.merge (m : SdkTopicPush) : Field → Option SdkTopicPush
  | ⟨1, .len b⟩ => (utf8Decode b).map fun s => { m with topic := s }
  | ⟨2, .varint n⟩ => some { m with timestampMs := n }
  | ⟨3, .len b⟩ => some { m with payload := b }
  | ⟨4, .varint n⟩ => some { m with seq := n }
  | _ => some m

/-- The fields that an encoder of `SdkResponse` writes. -/
inductive SdkResponse.HasField : Field → Prop
  | requestId (n) : HasField ⟨1, .varint n⟩
  | success (n) : HasField ⟨2, .varint n⟩
  | errorCode (n) : HasField ⟨3, .varint n⟩
  | message (b) : HasField ⟨4, .len b⟩
  | serverTimestampMs (n) : HasField ⟨5, .varint n⟩
  | handshake (b) : HasField ⟨10, .len b⟩
  | rpc (b) : HasField ⟨11, .len b⟩
  | subscribe (b) : HasField ⟨12, .len b⟩

/-- The fields that an encoder of `SdkTopicPush` writes. -/
inductive SdkTopicPush.HasField : Field → Prop
  | topic (b) : HasField ⟨1, .len b⟩
  | timestampMs (n) : HasField ⟨2, .varint n⟩
  | payload (b) : HasField ⟨3, .len b⟩
  | seq (n) : HasField ⟨4, .varint n⟩

/-- The bytes are an encoding of the message: its fields, in any order, with any number
of occurrences that are overridden. -/
def SdkResponse.EncodedBy (N : NestedMessages) (m : SdkResponse) (data : List UInt8) : Prop :=
  ∃ fs : List Field, Encodes fs data ∧ (∀ f ∈ fs, SdkResponse.HasField f) ∧
    fs.foldlM (SdkResponse.merge N) {} = some m

def SdkTopicPush.EncodedBy (m : SdkTopicPush) (data : List UInt8) : Prop :=
  ∃ fs : List Field, Encodes fs data ∧ (∀ f ∈ fs, SdkTopicPush.HasField f) ∧
    fs.foldlM SdkTopicPush.merge {} = some m

/-- The protobuf library: `ParseFromString` merges the fields that the bytes encode. -/
structure Protobuf extends NestedMessages where
  parseResponse : List UInt8 → Option SdkResponse
  parseTopicPush : List UInt8 → Option SdkTopicPush
  parseResponse_eq : ∀ fs data, Encodes fs data →
    parseResponse data = fs.foldlM (SdkResponse.merge toNestedMessages) {}
  parseTopicPush_eq : ∀ fs data, Encodes fs data →
    parseTopicPush data = fs.foldlM SdkTopicPush.merge {}

/-! ### Decoding -/

/-- `map_sdk_error_code`, with the table `_SDK_TO_PUBLIC` written out -/
def mapSdkErrorCode : Int → ErrorCode
  | 0 => .ok
  | 1 => .authFailed
  | 2 => .authCnNotAllowed
  | 3 => .authSerialRevoked
  | 4 => .authTokenInvalid
  | 5 => .authTokenExpired
  | 10 => .sessionTokenInvalid
  | 11 => .sessionTokenExpired
  | 12 => .handshakeRequired
  | 20 => .capabilityDenied
  | 21 => .rateLimited
  | 22 => .unsupportedVersion
  | 30 => .topicNotFound
  | 31 => .topicAlreadySubscribed
  | 32 => .topicNotSubscribed
  | 40 => .disconnected
  | 41 => .wouldDeadlock
  | 900 | 901 | 906 | 907 | 908 => .controlEStopActive
  | 902 | 903 | 904 | 910 => .controlPublisherUnavailable
  | 905 => .taskRunning
  | _ => .internalError

/-- `map_v1_error_code` -/
def mapV1ErrorCode : Int → ErrorCode
  | 0 => .ok
  | 201 => .capabilityDenied
  | 202 => .authFailed
  | 203 => .controlInvalidTwist
  | 204 => .cancelled
  | 205 => .timeout
  | 1200 => .navMarkerNotFound
  | 1201 => .navNoActiveMap
  | 1202 | 1208 => .taskRunning
  | 1203 => .navLowBattery
  | 1204 => .controlEStopActive
  | 1205 | 1206 | 1211 | 1212 => .navGoalUnreachable
  | 1207 => .timeout
  | 1209 => .taskNotFound
  | 1210 => .controlPublisherUnavailable
  | 9300 => .controlEStopActive
  | 9301 => .controlPublisherUnavailable
  | 9302 => .controlInvalidTwist
  | _ => .internalError

/-- `SubscribeRejectReason(value)`, and `_UNKNOWN` where that fails -/
def SubscribeRejectReason.ofWire : Int → SubscribeRejectReason
  | 0 => .none
  | 1 => .topicNotFound
  | 2 => .capabilityDenied
  | 3 => .alreadySubscribed
  | 4 => .invalidHz
  | 10 => .historyTooOld
  | 11 => .replayNotSupported
  | _ => .unknown

/-- `_convert_delivery_semantics` -/
def convertDeliverySemantics (wire : Int) : DeliverySemantics :=
  if wire = 1 then .event else .telemetry

/-- What `decode_response` makes of a message that was parsed. -/
def SdkResponse.decoded (N : NestedMessages) (m : SdkResponse) : DecodedResponse :=
  let out : DecodedResponse :=
    { requestId := m.requestId, success := m.success, sdkCode := mapSdkErrorCode m.errorCode,
      message := m.message }
  match m.payload with
  | none => out
  | some (.handshake h) =>
    { out with
      hasHandshake := true
      protocolVersion := h.protocolVersion
      robotSn := h.robotSn
      robotModel := h.robotModel
      availableTopics := h.availableTopics.map fun t =>
        ⟨t.name, convertDeliverySemantics t.deliverySemantics⟩ }
  | some (.rpc r) =>
    { out with
      hasRpc := true
      rpcCode := mapV1ErrorCode r.code
      rpcMessage := r.message
      taskId := N.taskId r.payload }
  | some (.subscribe a) =>
    { out with
      hasSubscribe := true
      subAccepted := a.accepted
      subRejectReason := .ofWire a.rejectReason
      subNextSeq := a.nextSeq
      subMessage := a.message }

/-- What `decode_topic_push` makes of a message that was parsed. -/
def SdkTopicPush.decoded (m : SdkTopicPush) : DecodedTopicPush :=
  ⟨m.topic, m.timestampMs, m.seq, m.payload⟩

variable (P : Protobuf)

/-- `decode_response` -/
def decodeResponse (data : List UInt8) : Option DecodedResponse :=
  (P.parseResponse data).map (SdkResponse.decoded P.toNestedMessages)

/-- `decode_topic_push` -/
def decodeTopicPush (data : List UInt8) : Option DecodedTopicPush :=
  (P.parseTopicPush data).map SdkTopicPush.decoded

/-- A binary frame. -/
def Inbound.ofBytes (data : List UInt8) : Inbound :=
  .frame data.length (decodeResponse P data) (decodeTopicPush P data)

end KaroX2
