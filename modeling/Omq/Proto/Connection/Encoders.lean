import Omq.Proto.Connection.RoundTrip
import Omq.Proto.RawFrameBuffer

/-!
# Encoders of messages

Messages reach the wire through several encoders: flat into one buffer, frame by frame through the
connection, and through the frame buffer, inside its arena or with external payloads.  They all
write the same bytes.
-/

namespace Omq

open List RawFrameBuffer

namespace Session

/-- Append the frames of the parts of a message to a flat buffer. -/
def flatParts (count : Nat) : Nat → List Payload → Bytes → Bytes
  | _, [], flatBuf => flatBuf
  | index, part :: rest, flatBuf =>
    let more : UInt8 := if index + 1 < count then 1 else 0
    let header :=
      if maxShortFrameSize < part.len then
        [flagLong ||| more] ++ BigEndian.encode 8 part.len
      else [more, UInt8.ofNat part.len]
    flatParts count (index + 1) rest (flatBuf ++ header ++ part.asSlice)

/-- Append the frames of a message to a flat buffer, around the queue of the connection. -/
def sendMessageFlat (message : Message) (flatBuf : Bytes) : Bytes :=
  flatParts message.partsPayload.length 0 message.partsPayload flatBuf

theorem flatParts_eq (index : Nat) (parts : List Payload) (flatBuf : Bytes) :
    flatParts (index + parts.length) index parts flatBuf =
      flatBuf ++ encodeSlicesFlat [] (parts.map Payload.asSlice) := by
  induction parts generalizing index flatBuf with
  | nil => simp [flatParts, encodeSlicesFlat]
  | cons part rest induction =>
    have more : (index + 1 < index + (part :: rest).length) ↔ rest ≠ [] := by
      cases rest <;> simp
    have later : index + (part :: rest).length = index + 1 + rest.length := by
      rw [length_cons]
      omega
    have header : (if maxShortFrameSize < part.len then
          [flagLong ||| (if index + 1 < index + (part :: rest).length then 1 else 0)] ++
            BigEndian.encode 8 part.len
        else [if index + 1 < index + (part :: rest).length then 1 else 0, UInt8.ofNat part.len]) =
        writeFrameHeader (!rest.isEmpty) part.len := by
      simp only [more, writeFrameHeader, UInt8.or_comm flagLong]
      cases rest <;> rfl
    rw [flatParts]
    simp only [header]
    rw [later, induction, map_cons, encodeSlicesFlat, isEmpty_map]
    simp [← Payload.length_asSlice]

theorem sendMessageFlat_eq (message : Message) (flatBuf : Bytes) :
    sendMessageFlat message flatBuf = flatBuf ++ encodeMessageFlat message := by
  have flat := flatParts_eq 0 message.partsPayload flatBuf
  rw [Nat.zero_add, message.parts_partsPayload] at flat
  exact flat

variable [CurvePrimitives]

/-- A ready connection queues the frames of a message. -/
theorem sendMessage_plain {session : Session} (ready : session.ReadyPlain) (message : Message) :
    ∃ sent, sendMessage message session = .ok () sent ∧
      sent.pollTransmit = session.pollTransmit ++ encodeMessageFlat message := by
  obtain ⟨sent, sent_eq, _, transmit_eq⟩ := sendParts_plain ready message.partsPayload
  refine ⟨sent, ?_, ?_⟩
  · simp [sendMessage, isReady, ready.ready, sent_eq]
  · rw [transmit_eq, dataWire_mark, message.parts_partsPayload, encodeMessageFlat]

end Session

open FrameBuffer (headerBytes)

/-- The headers of a message fit into the addressable arena, behind what it holds and a growth.  A
message without parts has none. -/
def FrameBuffer.HeadersFit (buffer : FrameBuffer) (growth : Nat) (pre : Option Bytes)
    (message : Message) : Prop :=
  message.partsPayload ≠ [] →
    buffer.arena.length + growth + headerBytes pre message.partsPayload < arenaOffsetBound

section

variable [CurvePrimitives]

/-- On a ready connection in plain framing without a transform all encoders append the same bytes,
whatever the frame buffer holds, as long as its arena stays addressable where it is committed.  A
reply is the message behind an empty part, and both ways to frame a prefixed message agree. -/
theorem encoders_agree (message : Message) (built : message.Built) {session : Session}
    (ready : session.ReadyPlain) (flatBuf : Bytes) (buffer : FrameBuffer) (pre : Bytes) :
    encodeCounted [] message.len 0 message.parts = encodeMessageFlat message ∧
      (∃ sent, Session.sendMessage message session = .ok () sent ∧
        sent.pollTransmit = session.pollTransmit ++ encodeMessageFlat message) ∧
      Session.sendMessageFlat message flatBuf = flatBuf ++ encodeMessageFlat message ∧
      (buffer.raw.frameInline message).content = buffer.raw.content ++ encodeMessageFlat message ∧
      (buffer.HeadersFit 0 none message → (buffer.raw.frameGather message).content =
        buffer.raw.content ++ encodeMessageFlat message) ∧
      ((buffer.arenaThreshold ≤ message.byteLen → buffer.HeadersFit 0 none message) →
        (buffer.raw.frame message).content = buffer.raw.content ++ encodeMessageFlat message) ∧
      (buffer.HeadersFit 2 none message → (buffer.raw.frameRep message).content =
        buffer.raw.content ++ encodeMessageFlat
          (.fromPayloadsVec (.fromBytes [] :: message.partsPayload))) ∧
      (buffer.HeadersFit 0 (some pre) message →
        (buffer.raw.framePrefixedGather pre message).content =
          (buffer.raw.framePrefixedInline pre message).content) := by
  refine ⟨encodeCounted_message [] message, Session.sendMessage_plain ready message,
    Session.sendMessageFlat_eq message flatBuf, ?_, fun fits => ?_, fun fits => ?_,
    fun fits => ?_, fun fits => ?_⟩
  · rw [buffer.raw_frameInline]
    exact buffer.content_pushPreFramed _
  · rw [buffer.raw_frameGather message fits]
    exact buffer.content_frameGather message
  · rw [buffer.raw_frame message fits]
    exact buffer.content_frame message
  · rw [buffer.raw_frameRep built fits, encodeMessageFlat, Message.parts_fromPayloadsVec,
      map_cons, message.parts_partsPayload, Payload.asSlice_fromBytes]
    exact buffer.content_frameRep message
  · rw [buffer.raw_framePrefixedGather pre message fits, buffer.raw_framePrefixedInline]
    exact (buffer.content_framePrefixedGather pre message).trans
      (buffer.content_pushPreFramed _).symm

end

/-- A message of two parts behind another one which waits. -/
theorem encoders_agree_twoParts :
    ∃ sent, @Session.sendMessage .transparent (.multi [.fromBytes [7], .fromBytes []])
        (Connection.afterNullHandshake .pair).toSession = .ok () sent ∧
      sent.pollTransmit = (Connection.afterNullHandshake .pair).pollTransmit ++ [1, 1, 7, 0, 0] ∧
      (((FrameBuffer.withConfigLazy 0).pushPreFramed [9]).raw.frameGather
        (.multi [.fromBytes [7], .fromBytes []])).content = [9, 1, 1, 7, 0, 0] := by
  let message : Message := .multi [.fromBytes [7], .fromBytes []]
  have wire : encodeMessageFlat message = [1, 1, 7, 0, 0] := by decide +kernel
  obtain ⟨_, ⟨sent, sent_eq, transmit_eq⟩, _, _, gathered, _⟩ :=
    @encoders_agree .transparent message
    (cons_ne_nil _ _) _ Connection.idle_afterNullHandshake.toReadyPlain []
    ((FrameBuffer.withConfigLazy 0).pushPreFramed [9]) []
  refine ⟨sent, sent_eq, wire ▸ transmit_eq, ?_⟩
  rw [gathered fun _ => by decide +kernel, wire]
  rfl

/-- A server right after the NULL handshake over WebSocket. -/
def afterWebSocketHandshake : Connection :=
  let client := @Connection.new .transparent (.webSocket .client .client) .zero
  Attempt.finalState (@Connection.handleInputs .transparent [client.pollTransmit]
    (@Connection.new .transparent (.webSocket .server .server) .zero))

/-- When the header of a part fills an arena up to 2³² bytes, the payload overtakes it. -/
theorem content_frameGather_of_full {data : Bytes} (full : data.length + 2 = arenaOffsetBound) :
    (((FrameBuffer.withConfigLazy 0).pushPreFramed data).raw.frameGather
      (.single (.fromBytes [7]))).content = 7 :: (data ++ [0, 1]) := by
  have header : writeFrameHeader false 1 = [0, 1] := by decide
  have raw_eq : ((FrameBuffer.withConfigLazy 0).pushPreFramed data).raw =
      ⟨[], data.length, data, 0, 0⟩ := by
    simp [FrameBuffer.raw, FrameBuffer.pushPreFramed, FrameBuffer.withConfigLazy]
  have committed : (⟨[], data.length + 2, data ++ [0, 1], 0, 0⟩ :
      RawFrameBuffer).commitArenaRange = ⟨[], data.length + 2, data ++ [0, 1], 0, 0⟩ := by
    simp [commitArenaRange, full]
  rw [raw_eq]
  simp [frameGather, gatherCounted, Message.partsPayload, Payload.fromBytes, Payload.len,
    Payload.asSlice, header, pushPreFramed, committed, pushExternal, content, Entry.resolve,
    uncommittedArena]

/-- Over WebSocket a ready NULL connection does not queue the flat encoding, and neither does
gathering when the header of a part fills the arena up to 2³² bytes. -/
theorem encoders_disagree :
    (afterWebSocketHandshake.state = .ready ∧ afterWebSocketHandshake.transform = none ∧
      ∃ sent, @Session.sendMessage .transparent (.ofSingle [7])
          afterWebSocketHandshake.toSession = .ok () sent ∧
        sent.pollTransmit ≠
          afterWebSocketHandshake.pollTransmit ++ encodeMessageFlat (.ofSingle [7])) ∧
    ∃ buffer : FrameBuffer, (buffer.raw.frameGather (.single (.fromBytes [7]))).content ≠
      buffer.raw.content ++ encodeMessageFlat (.single (.fromBytes [7])) := by
  constructor
  · refine ⟨by decide +kernel, by decide +kernel, ?_⟩
    have differs : (match @Session.sendMessage .transparent (.ofSingle [7])
        afterWebSocketHandshake.toSession with
      | .ok () sent => decide (sent.pollTransmit ≠
          afterWebSocketHandshake.pollTransmit ++ encodeMessageFlat (.ofSingle [7]))
      | .error _ _ => false) = true := by decide +kernel
    split at differs
    next sent sent_eq => exact ⟨sent, sent_eq, of_decide_eq_true differs⟩
    · cases differs
  · have full : (0 :: List.replicate (arenaOffsetBound - 3) 0 : Bytes).length + 2 =
        arenaOffsetBound := by
      rw [length_cons, length_replicate]
      rfl
    refine ⟨(FrameBuffer.withConfigLazy 0).pushPreFramed
      (0 :: List.replicate (arenaOffsetBound - 3) 0), fun same => ?_⟩
    have same := (content_frameGather_of_full full).symm.trans same
    have head_eq := congrArg List.head? same
    simp only [List.head?_cons, content, FrameBuffer.raw,
      FrameBuffer.pushPreFramed, FrameBuffer.withConfigLazy, map_nil, flatten_nil,
      nil_append, uncommittedArena, drop_zero, cons_append] at head_eq
    exact absurd head_eq (by decide)

end Omq
