/-
KaroX2/Replies.lean

The responses of the robot, down to the messages in them.

`NestedMessages.schema` reads the answer to a handshake with its topics, the answer to a call
and the acknowledgement of a subscription, as the schema has them.  A field that the SDK drops
is read all the same: where it does not parse, the response does not.

A response of a robot comes out of `decode_response` as what it says, and is not taken for a
push.
-/
import KaroX2.Streams

namespace KaroX2

open Proto

/-! ### Nested messages -/

/-- `SdkCapabilitySet` -/
structure Capabilities where
  chassisControl : Bool := false
  telemetryRead : Bool := false
  imageStream : Bool := false
  mapRead : Bool := false
  mapWrite : Bool := false
  taskControl : Bool := false
  deriving DecidableEq, Repr

namespace Capabilities

def fields (c : Capabilities) : List Field :=
  flag 1 c.chassisControl ++ (flag 2 c.telemetryRead ++ (flag 3 c.imageStream ++
    (flag 4 c.mapRead ++ (flag 5 c.mapWrite ++ (flag 6 c.taskControl ++ [])))))

def merge (c : Capabilities) : Field → Option Capabilities
  | ⟨1, .varint n⟩ => some { c with chassisControl := n ≠ 0 }
  | ⟨2, .varint n⟩ => some { c with telemetryRead := n ≠ 0 }
  | ⟨3, .varint n⟩ => some { c with imageStream := n ≠ 0 }
  | ⟨4, .varint n⟩ => some { c with mapRead := n ≠ 0 }
  | ⟨5, .varint n⟩ => some { c with mapWrite := n ≠ 0 }
  | ⟨6, .varint n⟩ => some { c with taskControl := n ≠ 0 }
  | _ => some c

theorem fit (c : Capabilities) : Fit c.fields := by
  repeat' apply Fit.append
  all_goals first
    | exact flag_fit (by decide)
    | exact .nil

theorem read_back {c : Capabilities} (hsize : (write c.fields).length < 2 ^ 64) :
    read merge {} (write c.fields) = some c := by
  apply read_write c.fit hsize
  refine Eq.trans (put_flag (fun t x => { t with chassisControl := x }) rfl fun _ => rfl) ?_
  refine Eq.trans (put_flag (fun t x => { t with telemetryRead := x }) rfl fun _ => rfl) ?_
  refine Eq.trans (put_flag (fun t x => { t with imageStream := x }) rfl fun _ => rfl) ?_
  refine Eq.trans (put_flag (fun t x => { t with mapRead := x }) rfl fun _ => rfl) ?_
  refine Eq.trans (put_flag (fun t x => { t with mapWrite := x }) rfl fun _ => rfl) ?_
  exact Eq.trans (put_flag (fun t x => { t with taskControl := x }) rfl fun _ => rfl) rfl

end Capabilities

def SdkTopicDescriptor.merge (t : SdkTopicDescriptor) : Field → Option SdkTopicDescriptor
  | ⟨1, .len b⟩ => (utf8Decode b).map fun s => { t with name := s }
  | ⟨2, .len b⟩ => (utf8Decode b).map fun _ => t
  | ⟨5, .varint n⟩ => some { t with deliverySemantics := enumValue n }
  | _ => some t

def DeliverySemantics.number : DeliverySemantics → BitVec 32
  | telemetry => 0
  | event => 1

/-- A topic as a robot describes it, with what the SDK drops -/
structure TopicOffer extends TopicDescriptor where
  description : String := ""
  defaultHz : BitVec 32 := 0
  maxHz : BitVec 32 := 0
  deriving DecidableEq, Repr

namespace TopicOffer

def fields (t : TopicOffer) : List Field :=
  string 1 t.name ++ (string 2 t.description ++ (float 3 t.defaultHz ++ (float 4 t.maxHz ++
    (signed 5 t.deliverySemantics.number ++ []))))

/-- What the SDK keeps of it -/
def wire (t : TopicOffer) : SdkTopicDescriptor := ⟨t.name, t.deliverySemantics.number.toInt⟩

theorem fit (t : TopicOffer) : Fit t.fields := by
  repeat' apply Fit.append
  all_goals first
    | exact bytes_fit (by decide)
    | exact float_fit (by decide)
    | exact signed_fit (by decide)
    | exact .nil

theorem read_back {t : TopicOffer} (hsize : (write t.fields).length < 2 ^ 64) :
    read SdkTopicDescriptor.merge {} (write t.fields) = some t.wire := by
  apply read_write t.fit hsize
  refine Eq.trans (put_string (fun d x => { d with name := x }) rfl fun _ => rfl) ?_
  refine Eq.trans (put_string (fun d _ => d) rfl fun _ => rfl) ?_
  refine Eq.trans (put_unread fun g hg => eq_of_mem_unlessZero hg ▸ rfl) ?_
  refine Eq.trans (put_unread fun g hg => eq_of_mem_unlessZero hg ▸ rfl) ?_
  exact Eq.trans (put_signed (fun d x => { d with deliverySemantics := x.toInt }) rfl
    fun _ => rfl) rfl

theorem descriptor (t : TopicOffer) :
    (⟨t.wire.name, convertDeliverySemantics t.wire.deliverySemantics⟩ : TopicDescriptor) =
      t.toTopicDescriptor := by
  obtain ⟨⟨name, semantics⟩, _, _, _⟩ := t
  cases semantics <;> rfl

end TopicOffer

def SdkHandshakeResponse.merge (m : SdkHandshakeResponse) : Field → Option SdkHandshakeResponse
  | ⟨1, .len b⟩ => (utf8Decode b).map fun s => { m with protocolVersion := s }
  | ⟨2, .len b⟩ => (utf8Decode b).map fun s => { m with robotSn := s }
  | ⟨3, .len b⟩ => (utf8Decode b).map fun s => { m with robotModel := s }
  | ⟨4, .len b⟩ => (read Capabilities.merge {} b).map fun _ => m
  | ⟨5, .len b⟩ =>
    (read SdkTopicDescriptor.merge {} b).map fun t =>
      { m with availableTopics := m.availableTopics ++ [t] }
  | ⟨6, .len b⟩ => (utf8Decode b).map fun _ => m
  | _ => some m

def RpcResponse.merge (m : RpcResponse) : Field → Option RpcResponse
  | ⟨2, .varint n⟩ => some { m with code := enumValue n }
  | ⟨3, .len b⟩ => (utf8Decode b).map fun s => { m with message := s }
  | ⟨4, .len b⟩ => some { m with payload := b }
  | ⟨5, .len b⟩ => (read entryMerge ("", "") b).map fun _ => m
  | _ => some m

def SdkSubscribeAck.merge (m : SdkSubscribeAck) : Field → Option SdkSubscribeAck
  | ⟨1, .len b⟩ => (utf8Decode b).map fun _ => m
  | ⟨2, .varint n⟩ => some { m with accepted := n ≠ 0 }
  | ⟨3, .varint n⟩ => some { m with rejectReason := enumValue n }
  | ⟨4, .varint n⟩ => some { m with nextSeq := n }
  | ⟨5, .len b⟩ => (utf8Decode b).map fun s => { m with message := s }
  | _ => some m

/-- The nested messages, as the schema has them; a `CreateMoveTaskResponse` has the one field
of a snapshot. -/
def NestedMessages.schema : NestedMessages where
  handshake := read SdkHandshakeResponse.merge
  rpc := read RpcResponse.merge
  subscribe := read SdkSubscribeAck.merge
  taskId := fun b => (read TaskSnapshot.merge {} b).map fun r => (r.task.getD {}).taskId

/-! ### What a robot answers -/

/-- The payload of an answer to a call: a task that was created, or the bytes of another
reply. -/
inductive CallReply where
  | task (t : TaskMessage)
  | bytes (b : List UInt8)
  deriving DecidableEq, Repr

def CallReply.payload : CallReply → List UInt8
  | task t => write (TaskSnapshot.fields ⟨some t⟩)
  | bytes b => b

/-- `oneof payload` as a robot writes it, with what the SDK drops -/
inductive RobotAnswer where
  | handshake (protocolVersion robotSn robotModel : String) (granted : Capabilities)
    (offers : List TopicOffer) (sessionToken : String)
  | rpc (id : BitVec 64) (code : BitVec 32) (message : String) (reply : CallReply)
    (metadata : List (String × String))
  | subscribe (topic : String) (accepted : Bool) (reason : BitVec 32) (nextSeq : BitVec 64)
    (message : String)
  deriving DecidableEq, Repr

namespace RobotAnswer

def fields : RobotAnswer → List Field
  | handshake version sn model granted offers token =>
    string 1 version ++ (string 2 sn ++ (string 3 model ++ (message 4 granted.fields ++
      ((offers.flatMap fun t => message 5 t.fields) ++ (string 6 token ++ [])))))
  | rpc id code text reply metadata =>
    unsigned 1 id ++ (signed 2 code ++ (string 3 text ++ (Proto.bytes 4 reply.payload ++
      ((metadata.flatMap fun e => message 5 (entryFields e)) ++ []))))
  | subscribe topic accepted reason nextSeq text =>
    string 1 topic ++ (flag 2 accepted ++ (signed 3 reason ++ (unsigned 4 nextSeq ++
      (string 5 text ++ []))))

/-- The number of the member of the `oneof` -/
def number : RobotAnswer → Nat
  | handshake .. => 10
  | rpc .. => 11
  | subscribe .. => 12

/-- What the SDK keeps of it -/
def wire : RobotAnswer → ResponsePayload
  | handshake version sn model _ offers _ => .handshake ⟨version, sn, model, offers.map (·.wire)⟩
  | rpc _ code text reply _ => .rpc ⟨code.toInt, text, reply.payload⟩
  | subscribe _ accepted reason nextSeq text =>
    .subscribe ⟨accepted, reason.toInt, nextSeq.toNat, text⟩

theorem fit (x : RobotAnswer) : Fit x.fields := by
  cases x <;> repeat' apply Fit.append
  all_goals first
    | exact bytes_fit (by decide)
    | exact unsigned_fit (by decide) (by decide)
    | exact signed_fit (by decide)
    | exact flag_fit (by decide)
    | exact len_fit (by decide)
    | exact messages_fit (by decide)
    | exact .nil

section ReadBack

variable {version sn model text token topic : String} {granted : Capabilities}
  {offers : List TopicOffer} {id nextSeq : BitVec 64} {code reason : BitVec 32} {reply : CallReply}
  {metadata : List (String × String)} {accepted : Bool}

theorem handshake_read_back
    (hsize : (write (handshake version sn model granted offers token).fields).length < 2 ^ 64) :
    read SdkHandshakeResponse.merge {}
        (write (handshake version sn model granted offers token).fields) =
      some ⟨version, sn, model, offers.map (·.wire)⟩ := by
  have hgranted : read Capabilities.merge {} (write granted.fields) = some granted := by
    apply Capabilities.read_back (nested_size (k := 4) hsize _)
    simp [fields, message]
  have hoffers : ∀ t ∈ offers,
      read SdkTopicDescriptor.merge {} (write t.fields) = some t.wire := by
    intro t ht
    apply TopicOffer.read_back (nested_size (k := 5) hsize _)
    have hmem : ⟨5, .len (write t.fields)⟩ ∈ offers.flatMap fun t => message 5 t.fields :=
      List.mem_flatMap.mpr ⟨t, ht, List.mem_singleton.mpr rfl⟩
    simp [fields, hmem]
  apply read_write (fit _) hsize
  refine Eq.trans (put_string (fun m x => { m with protocolVersion := x }) rfl fun _ => rfl) ?_
  refine Eq.trans (put_string (fun m x => { m with robotSn := x }) rfl fun _ => rfl) ?_
  refine Eq.trans (put_string (fun m x => { m with robotModel := x }) rfl fun _ => rfl) ?_
  refine Eq.trans (put_message (fun m _ => m) ({} : Capabilities) (fun _ => rfl) hgranted) ?_
  refine Eq.trans (put_messages (fun xs => (⟨version, sn, model, xs⟩ : SdkHandshakeResponse))
    ({} : SdkTopicDescriptor) (fun _ _ => rfl) hoffers []) ?_
  exact Eq.trans (put_string (fun m _ => m) rfl fun _ => rfl) rfl

theorem rpc_read_back
    (hsize : (write (rpc id code text reply metadata).fields).length < 2 ^ 64) :
    read RpcResponse.merge {} (write (rpc id code text reply metadata).fields) =
      some ⟨code.toInt, text, reply.payload⟩ := by
  have hentries : ∀ e ∈ metadata, read entryMerge ("", "") (write (entryFields e)) = some e := by
    intro e he
    apply entry_read_back (nested_size (k := 5) hsize _)
    have hmem : ⟨5, .len (write (entryFields e))⟩ ∈
        metadata.flatMap fun e => message 5 (entryFields e) :=
      List.mem_flatMap.mpr ⟨e, he, List.mem_singleton.mpr rfl⟩
    simp [fields, hmem]
  apply read_write (fit _) hsize
  refine Eq.trans (put_unread fun g hg => eq_of_mem_unlessZero hg ▸ rfl) ?_
  refine Eq.trans (put_signed (fun m x => { m with code := x.toInt }) rfl fun _ => rfl) ?_
  refine Eq.trans (put_string (fun m x => { m with message := x }) rfl fun _ => rfl) ?_
  refine Eq.trans (put_bytes (fun m x => { m with payload := x }) rfl fun _ => rfl) ?_
  have hdropped : ∀ g ∈ metadata.flatMap fun e => message 5 (entryFields e),
      RpcResponse.merge ⟨code.toInt, text, reply.payload⟩ g =
        some ⟨code.toInt, text, reply.payload⟩ := by
    intro g hg
    obtain ⟨e, he, hg⟩ := List.mem_flatMap.mp hg
    obtain rfl := List.mem_singleton.mp hg
    show Option.map _ (read entryMerge _ _) = _
    rw [hentries e he]
    rfl
  exact Eq.trans (put_unread hdropped) rfl

theorem subscribe_read_back
    (hsize : (write (subscribe topic accepted reason nextSeq text).fields).length < 2 ^ 64) :
    read SdkSubscribeAck.merge {} (write (subscribe topic accepted reason nextSeq text).fields) =
      some ⟨accepted, reason.toInt, nextSeq.toNat, text⟩ := by
  apply read_write (fit _) hsize
  refine Eq.trans (put_string (fun m _ => m) rfl fun _ => rfl) ?_
  refine Eq.trans (put_flag (fun m x => { m with accepted := x }) rfl fun _ => rfl) ?_
  refine Eq.trans (put_signed (fun m x => { m with rejectReason := x.toInt }) rfl
    fun _ => rfl) ?_
  refine Eq.trans (put_uint (fun m n => { m with nextSeq := n }) rfl fun _ => rfl) ?_
  exact Eq.trans (put_string (fun m x => { m with message := x }) rfl fun _ => rfl) rfl

end ReadBack

/-- The answer is read into a response that has no payload. -/
theorem merge_answer {x : RobotAnswer} {m : SdkResponse} (hm : m.payload = none)
    (hsize : (write x.fields).length < 2 ^ 64) :
    m.merge .schema ⟨x.number, .len (write x.fields)⟩ =
      some { m with payload := some x.wire } := by
  obtain ⟨_, _, _, _, _, payload⟩ := m
  obtain rfl : payload = none := hm
  cases x with
  | handshake =>
    show Option.map _ (read SdkHandshakeResponse.merge {} _) = _
    rw [handshake_read_back hsize]
    rfl
  | rpc =>
    show Option.map _ (read RpcResponse.merge {} _) = _
    rw [rpc_read_back hsize]
    rfl
  | subscribe =>
    show Option.map _ (read SdkSubscribeAck.merge {} _) = _
    rw [subscribe_read_back hsize]
    rfl

end RobotAnswer

/-- A response as a robot writes it -/
structure RobotResponse where
  requestId : BitVec 64 := 0
  success : Bool := false
  code : BitVec 32 := 0
  message : String := ""
  serverTimestampMs : BitVec 64 := 0
  answer : Option RobotAnswer := none
  deriving DecidableEq, Repr

namespace RobotResponse

def answerFields : Option RobotAnswer → List Field
  | none => []
  | some x => Proto.message x.number x.fields

def fields (r : RobotResponse) : List Field :=
  unsigned 1 r.requestId ++ (flag 2 r.success ++ (signed 3 r.code ++ (string 4 r.message ++
    (unsigned 5 r.serverTimestampMs ++ (answerFields r.answer ++ [])))))

/-- What the parser makes of it -/
def wire (r : RobotResponse) : SdkResponse where
  requestId := r.requestId.toNat
  success := r.success
  errorCode := r.code.toInt
  message := r.message
  serverTimestampMs := r.serverTimestampMs.toNat
  payload := r.answer.map RobotAnswer.wire

theorem answerFields_fit {x : Option RobotAnswer} : Fit (answerFields x) := by
  rcases x with - | x
  · exact .nil
  · apply len_fit
    cases x <;> exact ⟨by simp [RobotAnswer.number], by simp [RobotAnswer.number]⟩

theorem fit (r : RobotResponse) : Fit r.fields := by
  repeat' apply Fit.append
  all_goals first
    | exact bytes_fit (by decide)
    | exact unsigned_fit (by decide) (by decide)
    | exact signed_fit (by decide)
    | exact flag_fit (by decide)
    | exact answerFields_fit
    | exact .nil

theorem hasField {r : RobotResponse} : ∀ f ∈ r.fields, SdkResponse.HasField f := by
  intro f hf
  simp only [fields, List.mem_append, List.not_mem_nil, or_false] at hf
  rcases hf with hf | hf | hf | hf | hf | hf
  · exact eq_of_mem_unlessZero hf ▸ .requestId _
  · exact eq_of_mem_unlessZero hf ▸ .success _
  · exact eq_of_mem_unlessZero hf ▸ .errorCode _
  · exact eq_of_mem_unlessZero hf ▸ .message _
  · exact eq_of_mem_unlessZero hf ▸ .serverTimestampMs _
  · rcases hanswer : r.answer with - | x
    · rw [hanswer] at hf
      cases hf
    · rw [hanswer] at hf
      obtain rfl := List.mem_singleton.mp hf
      cases x with
      | handshake => exact .handshake _
      | rpc => exact .rpc _
      | subscribe => exact .subscribe _

theorem answer_size {r : RobotResponse} {x : RobotAnswer} (hx : r.answer = some x)
    (hsize : (write r.fields).length < 2 ^ 64) : (write x.fields).length < 2 ^ 64 := by
  apply nested_size (k := x.number) hsize
  simp [fields, answerFields, Proto.message, hx]

theorem encodedBy {r : RobotResponse} (hsize : (write r.fields).length < 2 ^ 64) :
    r.wire.EncodedBy .schema (write r.fields) := by
  refine ⟨r.fields, write_encodes r.fit hsize, hasField, ?_⟩
  have hanswer := fun x (hx : r.answer = some x) => answer_size hx hsize
  refine Eq.trans (put_uint (fun m n => { m with requestId := n }) rfl fun _ => rfl) ?_
  refine Eq.trans (put_flag (fun m x => { m with success := x }) rfl fun _ => rfl) ?_
  refine Eq.trans (put_signed (fun m x => { m with errorCode := x.toInt }) rfl fun _ => rfl) ?_
  refine Eq.trans (put_string (fun m x => { m with message := x }) rfl fun _ => rfl) ?_
  refine Eq.trans (put_uint (fun m n => { m with serverTimestampMs := n }) rfl fun _ => rfl) ?_
  obtain ⟨_, _, _, _, _, - | x⟩ := r
  · rfl
  · exact foldlM_cons_some (RobotAnswer.merge_answer rfl (hanswer x rfl))

/-- What the SDK holds after `decode_response`: the numbers of the robot are errors and
reasons, the topics keep their names and semantics, and a reply with a task its id. -/
def decoded (r : RobotResponse) : DecodedResponse :=
  let out : DecodedResponse := {
    requestId := r.requestId.toNat
    success := r.success
    sdkCode := mapSdkErrorCode r.code.toInt
    message := r.message }
  match r.answer with
  | none => out
  | some (.handshake version sn model _ offers _) =>
    { out with
      hasHandshake := true
      protocolVersion := version
      robotSn := sn
      robotModel := model
      availableTopics := offers.map (·.toTopicDescriptor) }
  | some (.rpc _ code text reply _) =>
    { out with
      hasRpc := true
      rpcCode := mapV1ErrorCode code.toInt
      rpcMessage := text
      taskId := match reply with
        | .task t => some t.taskId
        | .bytes b => NestedMessages.schema.taskId b }
  | some (.subscribe _ accepted reason nextSeq text) =>
    { out with
      hasSubscribe := true
      subAccepted := accepted
      subRejectReason := .ofWire reason.toInt
      subNextSeq := nextSeq.toNat
      subMessage := text }

theorem schema_task {t : TaskMessage}
    (hsize : (write (TaskSnapshot.fields ⟨some t⟩)).length < 2 ^ 64) :
    NestedMessages.schema.taskId (write (TaskSnapshot.fields ⟨some t⟩)) = some t.taskId := by
  show Option.map _ (read TaskSnapshot.merge {} _) = _
  rw [TaskSnapshot.read_back hsize]
  rfl

theorem wire_decoded {r : RobotResponse} (hsize : (write r.fields).length < 2 ^ 64) :
    r.wire.decoded .schema = r.decoded := by
  have hanswer := fun x (hx : r.answer = some x) => answer_size hx hsize
  obtain ⟨_, _, _, _, _, answer⟩ := r
  rcases answer with - | ⟨version, sn, model, granted, offers, token⟩ |
    ⟨id, code, text, reply, metadata⟩ | _
  · rfl
  · have hoffers : (offers.map (·.wire)).map (fun t =>
        (⟨t.name, convertDeliverySemantics t.deliverySemantics⟩ : TopicDescriptor)) =
          offers.map (·.toTopicDescriptor) := by
      rw [List.map_map]
      exact List.map_congr_left fun t _ => t.descriptor
    simp only [wire, decoded, SdkResponse.decoded, RobotAnswer.wire, Option.map_some, hoffers]
  · cases reply with
    | bytes b => rfl
    | task t =>
      have hreply : (CallReply.task t).payload.length < 2 ^ 64 := by
        apply bytes_size (k := 4) (hanswer _ rfl)
        intro f hf
        simp [RobotAnswer.fields, hf]
      have htask := schema_task hreply
      simp only [wire, decoded, SdkResponse.decoded, RobotAnswer.wire, Option.map_some,
        CallReply.payload, htask]
  · rfl

end RobotResponse

/-- The answer to a call that created a task -/
def RobotResponse.created : RobotResponse where
  requestId := 7
  success := true
  serverTimestampMs := 1700000000000
  answer := some (.rpc 7 0 "" (.task { taskId := "t", state := 1 }) [("trace", "a")])

end KaroX2
