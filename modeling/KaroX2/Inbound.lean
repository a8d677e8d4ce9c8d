/-
KaroX2/Inbound.lean

The reader of a `WsClient`, and the dispatch of what it receives.

A round of the reader receives one message and handles it to the end, so the
handlers of one client never overlap.  An exception from a handler is ignored;
only a cancellation ends the reader early.  When the stream of messages ends by
an exception, the reader reports it through `on_close`, once.
-/
import KaroX2.Session

namespace KaroX2

open Coop

variable (σ : Setup)

/-! ### Dispatch -/

/-- `_handle_sdk_response` for a response that is no acknowledgement -/
def World.handleRpcResponse (resp : DecodedResponse) (w : World) : World :=
  match w.rpc.inflight.get? resp.requestId with
  | none => w.postLog .debug "response for unknown request_id"
  | some entry =>
    let w := w.unregister resp.requestId
    let w := match entry.timeoutHandle with
      | some h => w.cancelTimer h
      | none => w
    w.resolve resp.requestId (.result resp)

/-- `_handle_sdk_response` -/
def handleSdkResponse (me : TaskId) (resp : DecodedResponse) : M AckNext :=
  if resp.hasSubscribe then handleSubscribeAck σ me resp
  else do
    Coro.modify (World.handleRpcResponse resp)
    pure none

/-- The response is taken for one: it has a payload or a request id. -/
def DecodedResponse.recognised (resp : DecodedResponse) : Bool :=
  resp.hasHandshake || resp.hasRpc || resp.hasSubscribe || resp.requestId ≠ 0

/-- `_on_inbound_message` with the results of the two decoders -/
def onInboundMessage (me : TaskId) (response : Option DecodedResponse)
    (push : Option DecodedTopicPush) : M AckNext := do
  Coro.modify World.resetLiveness
  match response.filter DecodedResponse.recognised, push.filter fun p => p.topic ≠ "" with
  | some resp, _ => handleSdkResponse σ me resp
  | none, some push => do
    handleSdkTopicPush push
    pure none
  | none, none => do
    Coro.modify (World.postLog .warn "unknown wire message")
    pure none

/-! ### The reader -/

/-- `_fire_close` -/
def fireClose (me : TaskId) (c : WsId) (reason : ErrorCode) (msg : String) : M Unit := do
  let w ← Coro.read
  Coro.when ((w.clients c).closed = false) do
    Coro.modify (World.setClient c fun k => { k with closed := true })
    Coro.when ((w.clients c).handlers = true) do
      Coro.modify (World.push (.onClose c))
      swallow (onTransportClose σ me reason msg)

/-- One message in `_read_loop`. -/
def readMessage (me : TaskId) (c : WsId) : Inbound → M (Flow Karo)
  | .text => pure (.next (.readLoop c))
  | .frame _ response push => do
    let w ← Coro.read
    if (w.clients c).handlers then
      match ← (onInboundMessage σ me response push).attempt with
      | .ok (some (s, nextSeq, phase, ep)) => pure (.next (.drain c s nextSeq phase ep))
      | .error .cancelled => Coro.raise .cancelled
      | _ => pure (.next (.readLoop c))
    else pure (.next (.readLoop c))

/-- The end of the stream in `_read_loop`. -/
def streamEnds (me : TaskId) (c : WsId) : Option Exn → M (Flow Karo)
  | none => do
    Coro.modify (World.push (.streamEnded c .normal))
    pure .done
  | some .cancelled => Coro.raise .cancelled
  | some (.connectionClosed code text) => do
    Coro.modify (World.push (.streamEnded c (.closed code)))
    fireClose σ me c (if code = 1000 then .cancelled else .transportFailure) text
    pure .done
  | some e => do
    Coro.modify (World.push (.streamEnded c .failed))
    fireClose σ me c .transportFailure e.text
    pure .done

/-- One round of `_read_loop`. -/
def readRound (me : TaskId) (c : WsId) : M (Flow Karo) := do
  match ← (suspend (.recv c)).attempt with
  | .ok (.inbound m) => readMessage σ me c m
  | .ok _ => streamEnds σ me c none
  | .error e => streamEnds σ me c (some e)

/-- The start of `_read_loop`. -/
def readStart (c : WsId) : M (Flow Karo) := do
  let w ← Coro.read
  pure (if (w.clients c).attached then .next (.readLoop c) else .done)

end KaroX2
