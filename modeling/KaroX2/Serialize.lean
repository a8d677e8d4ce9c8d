/-
KaroX2/Serialize.lean

What a frame says.

The encoders of `proto_codec.py` fill in a message and return its bytes.  `SdkCommand.message`
is the message that they fill in; `SdkCommand.ofBytes` is what a reader of the schema makes
of the bytes: the request of an rpc is parsed as its method demands.

`command_read_back`: the reader recovers every command, its request id, its method and its
arguments; only the rate of a subscription is rounded to single precision.
-/
import KaroX2.Frames

namespace KaroX2

open Proto Py

/-! ### The message `SdkCommand` -/

/-- `command` of an `SdkCommand` -/
inductive CommandMessage where
  | handshake (m : SdkHandshakeRequest)
  | ping (m : SdkPingCommand)
  | subscribe (m : SdkSubscribeCommand)
  | unsubscribe (m : SdkUnsubscribeCommand)
  | rpc (m : Request)

structure SdkCommandMessage where
  requestId : Nat := 0
  command : Option CommandMessage := none

/-- The integers have the width of their fields. -/
def CommandMessage.Fits : CommandMessage → Prop
  | ping m => m.clientTimestampMs < 2 ^ 64
  | subscribe m => m.sinceSeq < 2 ^ 64 ∧ m.historyLimit < 2 ^ 32
  | rpc m => m.id < 2 ^ 64 ∧ m.deadlineMs < 2 ^ 64
  | _ => True

namespace SdkCommandMessage

def commandFields : Option CommandMessage → List Field
  | none => []
  | some (.handshake m) => message 10 m.fields
  | some (.ping m) => message 20 m.fields
  | some (.subscribe m) => message 30 m.fields
  | some (.unsubscribe m) => message 31 m.fields
  | some (.rpc m) => message 50 m.fields

def fields (m : SdkCommandMessage) : List Field := uint 1 m.requestId ++ commandFields m.command

def merge (m : SdkCommandMessage) : Field → Option SdkCommandMessage
  | ⟨1, .varint n⟩ => some { m with requestId := n }
  | ⟨10, .len b⟩ =>
    let old := match m.command with | some (.handshake x) => x | _ => {}
    (read SdkHandshakeRequest.merge old b).map fun x => { m with command := some (.handshake x) }
  | ⟨20, .len b⟩ =>
    let old := match m.command with | some (.ping x) => x | _ => {}
    (read SdkPingCommand.merge old b).map fun x => { m with command := some (.ping x) }
  | ⟨30, .len b⟩ =>
    let old := match m.command with | some (.subscribe x) => x | _ => {}
    (read SdkSubscribeCommand.merge old b).map fun x => { m with command := some (.subscribe x) }
  | ⟨31, .len b⟩ =>
    let old := match m.command with | some (.unsubscribe x) => x | _ => {}
    (read SdkUnsubscribeCommand.merge old b).map fun x =>
      { m with command := some (.unsubscribe x) }
  | ⟨50, .len b⟩ =>
    let old := match m.command with | some (.rpc x) => x | _ => {}
    (read Request.merge old b).map fun x => { m with command := some (.rpc x) }
  | _ => some m

theorem commandFields_fit (x : Option CommandMessage) : Fit (commandFields x) := by
  rcases x with - | x | x | x | x | x
  · exact .nil
  all_goals exact len_fit (by decide)

/-- The member of the `oneof` that was written. -/
theorem foldlM_command {rid : Nat} {x : Option CommandMessage} (hfits : ∀ y ∈ x, y.Fits)
    (hsize : ∀ k b, ⟨k, .len b⟩ ∈ commandFields x → b.length < 2 ^ 64) :
    (commandFields x).foldlM merge ⟨rid, none⟩ = some ⟨rid, x⟩ := by
  have hwrite {k : Nat} {gs : List Field} (h : commandFields x = message k gs) :
      (write gs).length < 2 ^ 64 :=
    hsize k _ (h ▸ List.mem_singleton.mpr rfl)
  rcases x with - | m | m | m | m | m
  · rfl
  · exact foldlM_member merge (fun m => ⟨rid, some (.handshake m)⟩) {}
      (fun _ => rfl) (SdkHandshakeRequest.read_back (hwrite rfl))
  · exact foldlM_member merge (fun m => ⟨rid, some (.ping m)⟩) {}
      (fun _ => rfl) (SdkPingCommand.read_back (hfits _ rfl) (hwrite rfl))
  · obtain ⟨hsince, hlimit⟩ := hfits _ rfl
    exact foldlM_member merge (fun m => ⟨rid, some (.subscribe m)⟩) {}
      (fun _ => rfl) (SdkSubscribeCommand.read_back hsince hlimit (hwrite rfl))
  · exact foldlM_member merge (fun m => ⟨rid, some (.unsubscribe m)⟩) {}
      (fun _ => rfl) (SdkUnsubscribeCommand.read_back (hwrite rfl))
  · obtain ⟨hid, hdeadline⟩ := hfits _ rfl
    exact foldlM_member merge (fun m => ⟨rid, some (.rpc m)⟩) {}
      (fun _ => rfl) (Request.read_back hid hdeadline (hwrite rfl))

theorem read_back {m : SdkCommandMessage} (hid : m.requestId < 2 ^ 64)
    (hfits : ∀ x ∈ m.command, x.Fits) (hsize : (write m.fields).length < 2 ^ 64) :
    read merge {} (write m.fields) = some m := by
  apply read_write ((uint_fit (by decide) hid).append (commandFields_fit _)) hsize
  refine Eq.trans (foldlM_uint merge (fun requestId => { requestId }) (fun _ => rfl) _) ?_
  apply foldlM_command hfits
  intro k b hb
  exact Nat.lt_trans (length_lt_write (List.mem_append_right _ hb)) hsize

end SdkCommandMessage

/-! ### The encoders -/

/-- The conversions between `double` and `float`. -/
structure Floats where
  narrow : BitVec 64 → BitVec 32
  widen : BitVec 32 → BitVec 64

/-- `metadata` of the request -/
def RpcBody.metadata : RpcBody → Dict String String
  | .emergencyStop _ (some reason) => Dict.empty.insert "reason" reason.text
  | _ => .empty

/-- The message that is serialized into `payload` of the request. -/
def RpcBody.fields : RpcBody → List Field
  | .cmdVel linearX linearY angularZ sequence timestampMs =>
    let linear : Vector3 := { x := linearX.bits, y := linearY.bits }
    let angular : Vector3 := { z := angularZ.bits }
    CmdVelRequest.fields ⟨some ⟨some linear, some angular⟩, sequence, timestampMs⟩
  | .emergencyStop activate _ => EmergencyStopRequest.fields ⟨activate⟩
  | .createTaskMarker markerId =>
    CreateMoveTaskRequest.fields { target := some (.markerId markerId.text) }
  | .createTaskPose x y theta =>
    CreateMoveTaskRequest.fields { target := some (.pose ⟨x.bits, y.bits, theta.bits⟩) }
  | .taskCommand taskId => TaskRequest.fields ⟨taskId.text⟩

/-- The member of `command` that an encoder sets. -/
def Payload.message (F : Floats) (requestId : Nat) : Payload → CommandMessage
  | .handshakeCert sdkVersion clientId certificateDer =>
    .handshake ⟨sdkVersion.text, clientId.text, some (.certificateDer certificateDer)⟩
  | .handshakeToken sdkVersion clientId accessToken =>
    .handshake ⟨sdkVersion.text, clientId.text, some (.accessToken accessToken)⟩
  | .ping clientTimestampMs => .ping ⟨clientTimestampMs⟩
  | .subscribe topic desiredHz sinceSeq historyLimit =>
    .subscribe ⟨topic, F.narrow desiredHz.bits, sinceSeq, historyLimit⟩
  | .unsubscribe topic => .unsubscribe ⟨topic⟩
  | .rpc method deadlineMs body =>
    .rpc ⟨requestId, method, deadlineMs, body.metadata, write body.fields⟩

namespace SdkCommand

variable (F : Floats)

def message (cmd : SdkCommand) : SdkCommandMessage :=
  ⟨cmd.requestId, some (cmd.payload.message F cmd.requestId)⟩

/-- `cmd.SerializeToString()` -/
def serialize (cmd : SdkCommand) : List UInt8 := write (cmd.message F).fields

end SdkCommand

/-! ### A reader of the schema -/

def Request.velocity (r : Request) : Option RpcBody := do
  let m ← read CmdVelRequest.merge {} r.payload
  let twist ← m.twist
  let linear ← twist.linear
  let angular ← twist.angular
  pure (.cmdVel ⟨linear.x⟩ ⟨linear.y⟩ ⟨angular.z⟩ m.sequence m.timestampMs)

def Request.stop (r : Request) : Option RpcBody := do
  let m ← read EmergencyStopRequest.merge {} r.payload
  pure (.emergencyStop m.activate ((r.metadata.get? "reason").map PyStr.ofString))

def Request.move (r : Request) : Option RpcBody := do
  let m ← read CreateMoveTaskRequest.merge {} r.payload
  match m.target with
  | none => none
  | some (.markerId s) => pure (.createTaskMarker (.ofString s))
  | some (.pose p) => pure (.createTaskPose ⟨p.x⟩ ⟨p.y⟩ ⟨p.z⟩)

def Request.task (r : Request) : Option RpcBody := do
  let m ← read TaskRequest.merge {} r.payload
  pure (.taskCommand (.ofString m.taskId))

/-- The method says which message the payload is. -/
def Request.body (r : Request) : Option RpcBody :=
  if r.method = "control.cmd_vel" then r.velocity
  else if r.method = "safety.emergency_stop" then r.stop
  else if r.method = "move.create_task" then r.move
  else if r.method ∈ ["task_actions.cancel_task", "task_actions.pause_task",
    "task_actions.resume_task"] then r.task
  else none

/-- A request has the id of the command that it is in. -/
def CommandMessage.payload (F : Floats) (requestId : Nat) : CommandMessage → Option Payload
  | .handshake m =>
    match m.auth with
    | none => none
    | some (.certificateDer b) =>
      some (.handshakeCert (.ofString m.sdkVersion) (.ofString m.clientId) b)
    | some (.accessToken b) =>
      some (.handshakeToken (.ofString m.sdkVersion) (.ofString m.clientId) b)
  | .ping m => some (.ping m.clientTimestampMs)
  | .subscribe m => some (.subscribe m.topic ⟨F.widen m.desiredHz⟩ m.sinceSeq m.historyLimit)
  | .unsubscribe m => some (.unsubscribe m.topic)
  | .rpc m => if m.id = requestId then m.body.map (.rpc m.method m.deadlineMs) else none

/-- The command of a frame. -/
def SdkCommand.ofBytes (F : Floats) (data : List UInt8) : Option SdkCommand := do
  let m ← read SdkCommandMessage.merge {} data
  let x ← m.command
  let p ← x.payload F m.requestId
  pure ⟨m.requestId, p⟩

/-! ### Reading back -/

/-- The command is the result of an encoder. -/
inductive SdkCommand.Encoded : SdkCommand → Prop
  | handshakeCert {rid sdkVersion clientId certDer cmd}
      (h : encodeHandshakeCert rid sdkVersion clientId certDer = .ok cmd) : Encoded cmd
  | handshakeToken {rid sdkVersion clientId token cmd}
      (h : encodeHandshakeToken rid sdkVersion clientId token = .ok cmd) : Encoded cmd
  | ping (rid clientTsMs) : Encoded (encodePing rid clientTsMs)
  | subscribe {rid topic desiredHz sinceSeq historyLimit cmd}
      (h : encodeSubscribe rid topic desiredHz sinceSeq historyLimit = .ok cmd) : Encoded cmd
  | unsubscribe (rid topic) : Encoded (encodeUnsubscribe rid topic)
  | cmdVel (rid linearX linearY angularZ sequence clientTsMs) :
      Encoded (encodeCmdVel rid linearX linearY angularZ sequence clientTsMs)
  | emergencyStop {rid engage reason cmd}
      (h : encodeEmergencyStop rid engage reason = .ok cmd) : Encoded cmd
  | createNavTaskMarker {rid markerId cmd}
      (h : encodeCreateNavTaskMarker rid markerId = .ok cmd) : Encoded cmd
  | createNavTaskPose {rid x y theta cmd}
      (h : encodeCreateNavTaskPose rid x y theta = .ok cmd) : Encoded cmd
  | cancelTask {rid taskId cmd} (h : encodeCancelTask rid taskId = .ok cmd) : Encoded cmd
  | pauseTask {rid taskId cmd} (h : encodePauseTask rid taskId = .ok cmd) : Encoded cmd
  | resumeTask {rid taskId cmd} (h : encodeResumeTask rid taskId = .ok cmd) : Encoded cmd

/-- The strings that the caller gave. -/
def Payload.texts : Payload → List PyStr
  | .handshakeCert sdkVersion clientId _ | .handshakeToken sdkVersion clientId _ =>
    [sdkVersion, clientId]
  | .rpc _ _ (.emergencyStop _ (some reason)) => [reason]
  | .rpc _ _ (.createTaskMarker markerId) => [markerId]
  | .rpc _ _ (.taskCommand taskId) => [taskId]
  | _ => []

/-- The integers that no encoder checks. -/
def Payload.numbers : Payload → List Nat
  | .ping clientTimestampMs => [clientTimestampMs]
  | .rpc _ _ (.cmdVel _ _ _ sequence timestampMs) => [sequence, timestampMs]
  | _ => []

/-- What protobuf and Python ask of a message: its integers are of 64 bits, its strings consist
of code points, and it takes less than two gigabytes. -/
structure SdkCommand.Fits (F : Floats) (cmd : SdkCommand) : Prop where
  requestId : cmd.requestId < 2 ^ 64
  numbers : ∀ n ∈ cmd.payload.numbers, n < 2 ^ 64
  texts : ∀ s ∈ cmd.payload.texts, ∀ c ∈ s.codes, c < 0x110000
  size : (cmd.serialize F).length < 2 ^ 31

/-- The rate of a subscription, in single precision. -/
def Payload.rounded (F : Floats) : Payload → Payload
  | .subscribe topic desiredHz sinceSeq historyLimit =>
    .subscribe topic ⟨F.widen (F.narrow desiredHz.bits)⟩ sinceSeq historyLimit
  | p => p

/-- The method goes with the request, whose values fit its fields. -/
def RpcBody.Sound (method : String) : RpcBody → Prop
  | .cmdVel _ _ _ sequence timestampMs =>
    method = "control.cmd_vel" ∧ sequence < 2 ^ 64 ∧ timestampMs < 2 ^ 64
  | .emergencyStop _ reason => method = "safety.emergency_stop" ∧ ∀ r ∈ reason, r.Scalar
  | .createTaskMarker markerId => method = "move.create_task" ∧ markerId.Scalar
  | .createTaskPose .. => method = "move.create_task"
  | .taskCommand taskId => method ∈ ["task_actions.cancel_task", "task_actions.pause_task",
      "task_actions.resume_task"] ∧ taskId.Scalar

/-- The values fit their fields. -/
def Payload.Sound : Payload → Prop
  | .handshakeCert sdkVersion clientId _ | .handshakeToken sdkVersion clientId _ =>
    sdkVersion.Scalar ∧ clientId.Scalar
  | .ping clientTimestampMs => clientTimestampMs < 2 ^ 64
  | .subscribe _ _ sinceSeq historyLimit => sinceSeq < 2 ^ 64 ∧ historyLimit < 2 ^ 32
  | .unsubscribe _ => True
  | .rpc method deadlineMs body => deadlineMs < 2 ^ 64 ∧ body.Sound method

section

variable {F : Floats} {cmd : SdkCommand} {rid : Nat} {s : PyStr} {α : Type}

/-- A string that has been assigned. -/
theorem utf8_then {f : PyStr → Except Exn α} {a : α} (h : (utf8 s >>= f) = .ok a) :
    s.encodable = true ∧ f s = .ok a := by
  unfold utf8 at h
  split at h
  · rename_i hs
    exact ⟨hs, h⟩
  · cases h

theorem PyStr.scalar_of_encodable (h : s.encodable = true) (hs : ∀ c ∈ s.codes, c < 0x110000) :
    s.Scalar := by
  intro c hc
  have hcode := List.all_eq_true.mp h c hc
  have hbound := hs c hc
  simp only [Bool.or_eq_true, decide_eq_true_eq] at hcode
  show c < 0xD800 ∨ (0xDFFF < c ∧ c < 0x110000)
  omega

theorem encodeTaskCommand_sound {method : String} (hfits : cmd.Fits F)
    (hmethod : method ∈ ["task_actions.cancel_task", "task_actions.pause_task",
      "task_actions.resume_task"])
    (h : encodeTaskCommand method rid s = .ok cmd) : cmd.payload.Sound := by
  obtain ⟨hs, h⟩ := utf8_then h
  obtain rfl := Except.ok.inj h
  exact ⟨by decide, hmethod, PyStr.scalar_of_encodable hs
    (hfits.texts s List.mem_cons_self)⟩

theorem SdkCommand.Encoded.sound (h : cmd.Encoded) (hfits : cmd.Fits F) : cmd.payload.Sound := by
  cases h with
  | handshakeCert h =>
    obtain ⟨hv, h⟩ := utf8_then h
    obtain ⟨hc, h⟩ := utf8_then h
    obtain rfl := Except.ok.inj h
    exact ⟨PyStr.scalar_of_encodable hv (hfits.texts _ (by simp [Payload.texts])),
      PyStr.scalar_of_encodable hc (hfits.texts _ (by simp [Payload.texts]))⟩
  | handshakeToken h =>
    obtain ⟨hv, h⟩ := utf8_then h
    obtain ⟨hc, h⟩ := utf8_then h
    obtain rfl := Except.ok.inj h
    exact ⟨PyStr.scalar_of_encodable hv (hfits.texts _ (by simp [Payload.texts])),
      PyStr.scalar_of_encodable hc (hfits.texts _ (by simp [Payload.texts]))⟩
  | ping rid ts => exact hfits.numbers ts List.mem_cons_self
  | subscribe h =>
    unfold encodeSubscribe at h
    split at h
    · split at h
      · rename_i hsince hlimit
        obtain rfl := Except.ok.inj h
        refine ⟨hsince, ?_⟩
        omega
      · cases h
    · cases h
  | unsubscribe => trivial
  | cmdVel rid vx vy wz n ts =>
    exact ⟨by decide, rfl, hfits.numbers n List.mem_cons_self,
      hfits.numbers ts (List.mem_cons_of_mem _ List.mem_cons_self)⟩
  | emergencyStop h =>
    unfold encodeEmergencyStop at h
    split at h
    · obtain ⟨hs, h⟩ := utf8_then h
      obtain rfl := Except.ok.inj h
      refine ⟨by decide, rfl, ?_⟩
      intro r hr
      obtain rfl := Option.some.inj hr
      exact PyStr.scalar_of_encodable hs (hfits.texts _ List.mem_cons_self)
    · obtain rfl := Except.ok.inj h
      exact ⟨by decide, rfl, fun _ hr => nomatch hr⟩
  | createNavTaskMarker h =>
    obtain ⟨hs, h⟩ := utf8_then h
    obtain rfl := Except.ok.inj h
    exact ⟨by decide, rfl, PyStr.scalar_of_encodable hs (hfits.texts _ List.mem_cons_self)⟩
  | createNavTaskPose h =>
    obtain rfl := Except.ok.inj h
    exact ⟨by decide, rfl⟩
  | cancelTask h => exact encodeTaskCommand_sound hfits (by simp) h
  | pauseTask h => exact encodeTaskCommand_sound hfits (by simp) h
  | resumeTask h => exact encodeTaskCommand_sound hfits (by simp) h

theorem RpcBody.read_back (rid deadlineMs : Nat) {method : String} {body : RpcBody}
    (h : body.Sound method) (hsize : (write body.fields).length < 2 ^ 64) :
    Request.body ⟨rid, method, deadlineMs, body.metadata, write body.fields⟩ = some body := by
  cases body with
  | cmdVel vx vy wz n ts =>
    obtain ⟨rfl, hn, hts⟩ := h
    show Request.velocity _ = _
    have hread := CmdVelRequest.read_back hn hts hsize
    simp only [RpcBody.fields, Request.velocity, hread]
    rfl
  | emergencyStop activate reason =>
    obtain ⟨rfl, hreason⟩ := h
    show Request.stop _ = _
    have hread := EmergencyStopRequest.read_back hsize
    simp only [RpcBody.fields, Request.stop, hread]
    cases reason with
    | none => rfl
    | some r =>
      have hget : ((Dict.empty.insert "reason" r.text).get? "reason").map PyStr.ofString = some r := by
        rw [Dict.get?_insert_self, Option.map_some, PyStr.ofString_text (hreason r rfl)]
      simp only [RpcBody.metadata, hget]
      rfl
  | createTaskMarker markerId =>
    obtain ⟨rfl, hmarker⟩ := h
    show Request.move _ = _
    have hread := CreateMoveTaskRequest.read_back (Nat.two_pow_pos 64) hsize
    simp only [RpcBody.fields, Request.move, hread]
    show some (RpcBody.createTaskMarker (.ofString markerId.text)) = _
    rw [PyStr.ofString_text hmarker]
  | createTaskPose x y theta =>
    obtain rfl := h
    show Request.move _ = _
    have hread := CreateMoveTaskRequest.read_back (Nat.two_pow_pos 64) hsize
    simp only [RpcBody.fields, Request.move, hread]
    rfl
  | taskCommand taskId =>
    obtain ⟨hmethod, htask⟩ := h
    have hbody : Request.body ⟨rid, method, deadlineMs, .empty, write (TaskRequest.fields
        ⟨taskId.text⟩)⟩ = Request.task ⟨rid, method, deadlineMs, .empty, write (TaskRequest.fields
        ⟨taskId.text⟩)⟩ := by
      simp only [List.mem_cons, List.not_mem_nil, or_false] at hmethod
      rcases hmethod with rfl | rfl | rfl <;> rfl
    refine Eq.trans hbody ?_
    rw [Request.task, TaskRequest.read_back hsize]
    show some (RpcBody.taskCommand (.ofString taskId.text)) = _
    rw [PyStr.ofString_text htask]

theorem Payload.message_fits {p : Payload} (h : p.Sound) (hid : rid < 2 ^ 64) :
    (p.message F rid).Fits := by
  cases p with
  | ping ts => exact h
  | subscribe topic hz since limit => exact h
  | rpc method deadlineMs body => exact ⟨hid, h.1⟩
  | _ => trivial

/-- The serialized request is a part of the frame. -/
theorem Payload.body_size {method : String} {deadlineMs : Nat} {body : RpcBody}
    (hsize : (SdkCommand.serialize F ⟨rid, .rpc method deadlineMs body⟩).length < 2 ^ 64) :
    (write body.fields).length < 2 ^ 64 := by
  have hrpc : (write (Request.fields
      ⟨rid, method, deadlineMs, body.metadata, write body.fields⟩)).length < 2 ^ 64 :=
    nested_size (k := 50) hsize (List.mem_append_right _ List.mem_cons_self)
  by_cases hbody : write body.fields = []
  · rw [hbody]
    decide
  · have hmem : (⟨5, .len (write body.fields)⟩ : Field) ∈ bytes 5 (write body.fields) := by
      rw [bytes, unlessZero, List.isEmpty_eq_false_iff.mpr hbody]
      exact List.mem_cons_self
    apply nested_size (k := 5) hrpc
    simp [Request.fields, hmem]

theorem Payload.read_back (rid : Nat) {p : Payload} (h : p.Sound)
    (hsize : (SdkCommand.serialize F ⟨rid, p⟩).length < 2 ^ 64) :
    (p.message F rid).payload F rid = some (p.rounded F) := by
  cases p with
  | handshakeCert v c b | handshakeToken v c b =>
    simp only [Payload.message, CommandMessage.payload, PyStr.ofString_text h.1,
      PyStr.ofString_text h.2, Payload.rounded]
  | rpc method deadlineMs body =>
    have hbody := RpcBody.read_back rid deadlineMs h.2 (Payload.body_size hsize)
    simp only [Payload.message, CommandMessage.payload, if_pos, hbody]
    rfl
  | _ => rfl

theorem SdkCommand.Fits.read_back (hfits : cmd.Fits F) (hsound : cmd.payload.Sound) :
    SdkCommand.ofBytes F (cmd.serialize F) = some ⟨cmd.requestId, cmd.payload.rounded F⟩ := by
  have hsize : (cmd.serialize F).length < 2 ^ 64 := Nat.lt_trans hfits.size (by decide)
  have hmessage : read SdkCommandMessage.merge {} (cmd.serialize F) = some (cmd.message F) := by
    apply SdkCommandMessage.read_back hfits.requestId _ hsize
    intro x hx
    obtain rfl := Option.some.inj hx
    exact Payload.message_fits hsound hfits.requestId
  have hpayload := Payload.read_back cmd.requestId hsound hsize
  simp only [SdkCommand.ofBytes, hmessage, SdkCommand.message, Option.bind_eq_bind,
    Option.bind_some, hpayload]
  rfl

/-- **What an encoder writes says what it was asked to.**  A reader of the schema recovers the
command from its frame, up to the precision of the rate of a subscription. -/
theorem command_read_back (h : cmd.Encoded) (hfits : cmd.Fits F) :
    SdkCommand.ofBytes F (cmd.serialize F) = some ⟨cmd.requestId, cmd.payload.rounded F⟩ :=
  hfits.read_back (h.sound hfits)

end

/-- Half a metre a second, ahead -/
theorem command_read_back_ahead :
    SdkCommand.ofBytes ⟨fun x => x.truncate 32, fun x => x.zeroExtend 64⟩
      (SdkCommand.serialize ⟨fun x => x.truncate 32, fun x => x.zeroExtend 64⟩
        (encodeCmdVel 300 ⟨0x3FE0000000000000⟩ ⟨0⟩ ⟨0⟩ 7 1700000000000)) =
      some (encodeCmdVel 300 ⟨0x3FE0000000000000⟩ ⟨0⟩ ⟨0⟩ 7 1700000000000) :=
  command_read_back (.cmdVel ..)
    ⟨by decide, by decide, by decide, by decide +kernel⟩

end KaroX2
