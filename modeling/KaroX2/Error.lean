/-
KaroX2/Error.lean

Error codes and their categories (`error.py`), and the exceptions that a
coroutine of the SDK can raise or be answered with.

The category decides what a failed connection attempt or a rejected
subscription does next: `fatal` aborts, everything else is retried or is
reported to the caller.
-/
import Mathlib.Data.List.Basic

namespace KaroX2

/-! ### Error codes -/

/-- `ErrorCode` -/
inductive ErrorCode where
  | ok
  | authFailed | authCnNotAllowed | authSerialRevoked | authTokenInvalid | authTokenExpired
  | sessionTokenInvalid | sessionTokenExpired | handshakeRequired
  | capabilityDenied | rateLimited | unsupportedVersion
  | topicNotFound | topicAlreadySubscribed | topicNotSubscribed
  | controlEStopActive | controlPublisherUnavailable | controlInvalidTwist
  | taskRunning | taskNotFound | taskInvalidState
  | navMarkerNotFound | navNoActiveMap | navGoalUnreachable | navLowBattery
  | transportFailure | timeout | cancelled | disconnected | wouldDeadlock
  | internalError
  deriving DecidableEq, Repr

/-- `_PASCAL_NAMES`, which is what `str(code)` gives -/
def ErrorCode.name : ErrorCode → String
  | ok => "Ok"
  | authFailed => "AuthFailed"
  | authCnNotAllowed => "AuthCnNotAllowed"
  | authSerialRevoked => "AuthSerialRevoked"
  | authTokenInvalid => "AuthTokenInvalid"
  | authTokenExpired => "AuthTokenExpired"
  | sessionTokenInvalid => "SessionTokenInvalid"
  | sessionTokenExpired => "SessionTokenExpired"
  | handshakeRequired => "HandshakeRequired"
  | capabilityDenied => "CapabilityDenied"
  | rateLimited => "RateLimited"
  | unsupportedVersion => "UnsupportedVersion"
  | topicNotFound => "TopicNotFound"
  | topicAlreadySubscribed => "TopicAlreadySubscribed"
  | topicNotSubscribed => "TopicNotSubscribed"
  | controlEStopActive => "ControlEStopActive"
  | controlPublisherUnavailable => "ControlPublisherUnavailable"
  | controlInvalidTwist => "ControlInvalidTwist"
  | taskRunning => "TaskRunning"
  | taskNotFound => "TaskNotFound"
  | taskInvalidState => "TaskInvalidState"
  | navMarkerNotFound => "NavMarkerNotFound"
  | navNoActiveMap => "NavNoActiveMap"
  | navGoalUnreachable => "NavGoalUnreachable"
  | navLowBattery => "NavLowBattery"
  | transportFailure => "TransportFailure"
  | timeout => "Timeout"
  | cancelled => "Cancelled"
  | disconnected => "Disconnected"
  | wouldDeadlock => "WouldDeadlock"
  | internalError => "InternalError"

/-- `ErrorCategory` -/
inductive ErrorCategory where
  | ok | transient | application | fatal | local
  deriving DecidableEq, Repr

/-- `classify`, with the table `_CATEGORY` written out -/
def classify : ErrorCode → ErrorCategory
  | .ok => .ok
  | .authFailed | .authCnNotAllowed | .authSerialRevoked | .authTokenInvalid
  | .authTokenExpired | .unsupportedVersion => .fatal
  | .sessionTokenInvalid | .sessionTokenExpired | .handshakeRequired
  | .transportFailure | .timeout => .transient
  | .capabilityDenied | .rateLimited | .topicNotFound | .topicAlreadySubscribed
  | .topicNotSubscribed | .controlEStopActive | .controlPublisherUnavailable
  | .controlInvalidTwist | .taskRunning | .taskNotFound | .taskInvalidState
  | .navMarkerNotFound | .navNoActiveMap | .navGoalUnreachable | .navLowBattery => .application
  | .cancelled | .disconnected | .wouldDeadlock | .internalError => .local

/-! ### Exceptions -/

/-- The exceptions that the code tells apart in its `except` clauses. -/
inductive Exn where
  /-- `SdkException(code, message)` -/
  | sdk (code : ErrorCode) (message : String)
  /-- `asyncio.TimeoutError` -/
  | timeout (text : String)
  /-- `asyncio.CancelledError` -/
  | cancelled
  /-- `websockets.exceptions.ConnectionClosed` -/
  | connectionClosed (code : Nat) (text : String)
  /-- `websockets.exceptions.InvalidHandshake` -/
  | invalidHandshake (text : String)
  /-- `ssl.SSLError`, which is also an `OSError` -/
  | ssl (text : String)
  /-- any other `OSError` -/
  | os (text : String)
  /-- anything else -/
  | other (text : String)
  deriving DecidableEq, Repr

/-- `str(e)` -/
def Exn.text : Exn → String
  | sdk code message => code.name ++ ": " ++ message
  | cancelled => ""
  | timeout t | connectionClosed _ t | invalidHandshake t | ssl t | os t | other t => t

end KaroX2
