/-
KaroX2/Classification.lean

Which handler a frame is given to.

The parser of `SdkResponse` finds nothing but unknown fields and a success flag in the
encoding of a push, so the request id stays 0 and the payload stays unset.  The parser of
`SdkTopicPush` never finds a topic in the encoding of a response.
-/
import KaroX2.Codec
import KaroX2.System

namespace KaroX2

open Coop Proto

variable {N : NestedMessages} {P : Protobuf} {data : List UInt8} {f : Field}

/-! ### One field -/

namespace SdkResponse

/-- A message has no request id and no payload. -/
def Blank (m : SdkResponse) : Prop := m.requestId = 0 ∧ m.payload = none

/-- The fields of a push leave a response blank. -/
theorem merge_pushField {m : SdkResponse} (hf : SdkTopicPush.HasField f) :
    ∃ m', m.merge N f = some m' ∧ m'.requestId = m.requestId ∧ m'.payload = m.payload := by
  cases hf with
  | timestampMs n => exact ⟨{ m with success := n ≠ 0 }, rfl, rfl, rfl⟩
  | topic b | payload b | seq n => exact ⟨m, rfl, rfl, rfl⟩

theorem recognised_decoded (m : SdkResponse) :
    (m.decoded N).recognised = true ↔ ¬m.Blank := by
  obtain ⟨requestId, success, errorCode, message, serverTimestampMs, payload⟩ := m
  rcases payload with - | h | r | a
  · simp only [decoded, DecodedResponse.recognised, Blank, Bool.false_or, and_true]
    exact decide_eq_true_iff
  · simp [decoded, DecodedResponse.recognised, Blank]
  · simp [decoded, DecodedResponse.recognised, Blank]
  · simp [decoded, DecodedResponse.recognised, Blank]

end SdkResponse

namespace SdkTopicPush

/-- The fields of a response do not name a topic. -/
theorem merge_responseField {m m' : SdkTopicPush} (hf : SdkResponse.HasField f)
    (h : m.merge f = some m') : m'.topic = m.topic := by
  cases hf with
  | success n =>
    obtain rfl := Option.some.inj h
    rfl
  | requestId | errorCode | message | serverTimestampMs | handshake | rpc | subscribe =>
    obtain rfl := Option.some.inj h
    rfl

end SdkTopicPush

/-! ### Whole frames -/

theorem decodeTopicPush_eq {m : SdkTopicPush} (h : m.EncodedBy data) :
    decodeTopicPush P data = some m.decoded := by
  obtain ⟨fs, henc, -, hfold⟩ := h
  rw [decodeTopicPush, P.parseTopicPush_eq fs data henc, hfold]
  rfl

theorem decodeResponse_eq {m : SdkResponse} (h : m.EncodedBy P.toNestedMessages data) :
    decodeResponse P data = some (m.decoded P.toNestedMessages) := by
  obtain ⟨fs, henc, -, hfold⟩ := h
  rw [decodeResponse, P.parseResponse_eq fs data henc, hfold]
  rfl

/-- An encoded push is a response that is not recognised. -/
theorem decodeResponse_push {m : SdkTopicPush} (h : m.EncodedBy data) :
    (decodeResponse P data).filter DecodedResponse.recognised = none := by
  obtain ⟨fs, henc, hfs, -⟩ := h
  rw [decodeResponse, P.parseResponse_eq fs data henc]
  obtain ⟨m', hm'⟩ := Option.isSome_iff_exists.mp <|
    foldlM_isSome (m := ({} : SdkResponse))
      (fun m f hf => show (SdkResponse.merge P.toNestedMessages m f).isSome = true by
        obtain ⟨m', hm', -⟩ := SdkResponse.merge_pushField (N := P.toNestedMessages) (m := m) hf
        rw [hm']
        rfl) hfs
  -- no field of a push has the number of a field that would make a response
  have hblank : m'.Blank := by
    refine foldlM_preserves (P := SdkResponse.Blank) ?_ hfs ⟨rfl, rfl⟩ hm'
    intro m m' f hf hm hstep
    obtain ⟨m₁, h₁, hid, hpay⟩ := SdkResponse.merge_pushField (N := P.toNestedMessages) (m := m) hf
    obtain rfl := Option.some.inj (hstep.symm.trans h₁)
    exact ⟨hid.trans hm.1, hpay.trans hm.2⟩
  rw [hm', Option.map_some, Option.filter_some, if_neg]
  rw [SdkResponse.recognised_decoded, not_not]
  exact hblank

/-- An encoded response is a push without a topic. -/
theorem decodeTopicPush_response {m : SdkResponse} (h : m.EncodedBy N data) :
    ((decodeTopicPush P data).filter fun p => p.topic ≠ "") = none := by
  obtain ⟨fs, henc, hfs, -⟩ := h
  rw [decodeTopicPush, P.parseTopicPush_eq fs data henc]
  rcases hm : fs.foldlM SdkTopicPush.merge {} with - | m'
  · rfl
  · have htopic : m'.topic = "" := by
      refine foldlM_preserves (P := fun m => m.topic = "") ?_ hfs rfl hm
      exact fun m m' f hf hm hstep => (SdkTopicPush.merge_responseField hf hstep).trans hm
    simp [SdkTopicPush.decoded, htopic]

/-! ### A parser -/

/-- Nested messages that are empty or do not parse. -/
def NestedMessages.empty : NestedMessages where
  handshake := fun h b => if b.isEmpty then some h else none
  rpc := fun r b => if b.isEmpty then some r else none
  subscribe := fun a b => if b.isEmpty then some a else none
  taskId := fun b => if b.isEmpty then some "" else none

/-- The library over the reader of the wire format. -/
def Protobuf.reading (N : NestedMessages) : Protobuf where
  toNestedMessages := N
  parseResponse := fun data => (parse data).bind fun fs => fs.foldlM (SdkResponse.merge N) {}
  parseTopicPush := fun data => (parse data).bind fun fs => fs.foldlM SdkTopicPush.merge {}
  parseResponse_eq := fun fs data h => by rw [parse_of_encodes h]; rfl
  parseTopicPush_eq := fun fs data h => by rw [parse_of_encodes h]; rfl

/-! ### The handlers -/

/-- **Frames are told apart**: an encoded push with a topic is handled as that push, an
encoded response with a payload or a request id as that response, and any other
response as neither. -/
theorem frames_classified (σ : Setup) (P : Protobuf) (me : TaskId) :
    (∀ (m : SdkTopicPush) (data : List UInt8), m.EncodedBy data → m.topic ≠ "" →
      onInboundMessage σ me (decodeResponse P data) (decodeTopicPush P data) = do
        Coro.modify World.resetLiveness
        handleSdkTopicPush ⟨m.topic, m.timestampMs, m.seq, m.payload⟩
        pure none) ∧
    (∀ (m : SdkResponse) (data : List UInt8), m.EncodedBy P.toNestedMessages data →
      m.requestId ≠ 0 ∨ m.payload ≠ none →
      onInboundMessage σ me (decodeResponse P data) (decodeTopicPush P data) = do
        Coro.modify World.resetLiveness
        handleSdkResponse σ me (m.decoded P.toNestedMessages)) ∧
    (∀ (m : SdkResponse) (data : List UInt8), m.EncodedBy P.toNestedMessages data →
      m.requestId = 0 → m.payload = none →
      onInboundMessage σ me (decodeResponse P data) (decodeTopicPush P data) = do
        Coro.modify World.resetLiveness
        Coro.modify (World.postLog .warn "unknown wire message")
        pure none) := by
  refine ⟨fun m data h htopic => ?_, fun m data h hset => ?_, fun m data h hid hpay => ?_⟩
  · have hpush : (decodeTopicPush P data).filter (fun p => p.topic ≠ "") = some m.decoded := by
      rw [decodeTopicPush_eq h, Option.filter_some, if_pos]
      exact decide_eq_true htopic
    simp only [onInboundMessage, decodeResponse_push h, hpush]
    rfl
  · have hresp : (decodeResponse P data).filter DecodedResponse.recognised =
        some (m.decoded P.toNestedMessages) := by
      rw [decodeResponse_eq h, Option.filter_some, if_pos]
      rw [SdkResponse.recognised_decoded]
      rintro ⟨hid, hpay⟩
      exact hset.elim (fun hne => hne hid) fun hne => hne hpay
    simp only [onInboundMessage, hresp]
  · have hresp : (decodeResponse P data).filter DecodedResponse.recognised = none := by
      rw [decodeResponse_eq h, Option.filter_some, if_neg]
      rw [SdkResponse.recognised_decoded, not_not]
      exact ⟨hid, hpay⟩
    simp only [onInboundMessage, hresp, decodeTopicPush_response h]

theorem frames_classified_sent :
    (∃ data, ({ topic := "a", seq := 7 } : SdkTopicPush).EncodedBy data ∧
      onInboundMessage .plain 2 (decodeResponse (.reading .empty) data)
        (decodeTopicPush (.reading .empty) data) = do
        Coro.modify World.resetLiveness
        handleSdkTopicPush ⟨"a", 0, 7, []⟩
        pure none) ∧
    (∃ data, ({ requestId := 3 } : SdkResponse).EncodedBy .empty data ∧
      onInboundMessage .plain 2 (decodeResponse (.reading .empty) data)
        (decodeTopicPush (.reading .empty) data) = do
        Coro.modify World.resetLiveness
        handleSdkResponse .plain 2 { requestId := 3 }) ∧
    (∃ data, ({ success := true } : SdkResponse).EncodedBy .empty data ∧
      onInboundMessage .plain 2 (decodeResponse (.reading .empty) data)
        (decodeTopicPush (.reading .empty) data) = do
        Coro.modify World.resetLiveness
        Coro.modify (World.postLog .warn "unknown wire message")
        pure none) := by
  obtain ⟨hpush, hresp, hblank⟩ := frames_classified .plain (.reading .empty) 2
  have hseq : Encodes [⟨4, .varint 7⟩, ⟨1, .len [0x61]⟩] _ :=
    .cons (.byte (by decide)) (by decide) (by decide) (.varint (.byte (by decide)) (by decide) (by decide))
      (.cons (.byte (by decide)) (by decide) (by decide) (.len (.byte (by decide)) (by decide)) .nil)
  have hid : Encodes [⟨1, .varint 3⟩] _ :=
    .cons (.byte (by decide)) (by decide) (by decide)
      (.varint (.byte (by decide)) (by decide) (by decide)) .nil
  have hflag : Encodes [⟨2, .varint 1⟩] _ :=
    .cons (.byte (by decide)) (by decide) (by decide)
      (.varint (.byte (by decide)) (by decide) (by decide)) .nil
  have hpushed : ({ topic := "a", seq := 7 } : SdkTopicPush).EncodedBy
      [0x20, 7, 0x0a, 1, 0x61] := by
    refine ⟨_, hseq, ?_, by decide +kernel⟩
    rintro f hf
    simp only [List.mem_cons, List.not_mem_nil, or_false] at hf
    rcases hf with rfl | rfl
    · exact .seq 7
    · exact .topic _
  have hreplied : ({ requestId := 3 } : SdkResponse).EncodedBy .empty [0x08, 3] :=
    ⟨_, hid, fun f hf => List.mem_singleton.mp hf ▸ .requestId 3, rfl⟩
  have hblanked : ({ success := true } : SdkResponse).EncodedBy .empty [0x10, 1] :=
    ⟨_, hflag, fun f hf => List.mem_singleton.mp hf ▸ .success 1, rfl⟩
  exact ⟨⟨_, hpushed, hpush _ _ hpushed (by decide)⟩,
    ⟨_, hreplied, hresp _ _ hreplied (.inl (by decide))⟩,
    ⟨_, hblanked, hblank _ _ hblanked rfl rfl⟩⟩

end KaroX2
