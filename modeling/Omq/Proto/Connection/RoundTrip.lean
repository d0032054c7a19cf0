import Omq.Proto.Connection.Assembly

/-!
# Messages survive the wire

What `send_message` queues on a ready plain session is a stream of data frames, and a ready plain
connection without a size limit delivers the same messages however the stream is cut.
-/

namespace Omq

open Incremental Segment List Session Message

namespace Session

def pollMessages : (polls : Nat) → Session → List Message
  | 0, _ => []
  | polls + 1, session =>
    match session.pollMessage with
    | (none, _) => []
    | (some message, after) => message :: pollMessages polls after

variable {session : Session}

/-- Enough polls return every delivered message in order. -/
theorem pollMessages_eq {polls : Nat} (enough : session.messages.length ≤ polls) :
    session.pollMessages polls = session.messages := by
  induction polls generalizing session with
  | zero => simp [pollMessages, length_eq_zero_iff.mp (Nat.le_zero.mp enough)]
  | succ polls ih =>
    cases queued : session.messages with
    | nil => simp [pollMessages, pollMessage, queued]
    | cons message rest =>
      simp only [queued, length_cons] at enough
      simp only [pollMessages, pollMessage, queued, List.head?_cons, tail_cons]
      rw [ih (by simpa using enough)]

theorem ReadyPlain.pushChunks (ready : session.ReadyPlain) (chunks : List Bytes) :
    (session.pushChunks chunks).ReadyPlain :=
  ⟨ready.ready, ready.clear, ready.plain⟩

variable [CurvePrimitives]

def sendMessages : List Message → SessionM Unit
  | [] => pure ()
  | message :: rest => do
      sendMessage message
      sendMessages rest

/-- The parts of a message are queued as data frames. -/
theorem sendParts_plain (ready : session.ReadyPlain) (payloads : List Payload) :
    ∃ sent, sendParts payloads session = .ok () sent ∧ sent.ReadyPlain ∧
      sent.pollTransmit = session.pollTransmit ++ dataWire (mark payloads) := by
  induction payloads generalizing session with
  | nil => exact ⟨session, rfl, ready, by simp [dataWire, mark]⟩
  | cons payload rest ih =>
    obtain ⟨sent, sent_eq, sent_ready, transmit_eq⟩ :=
      ih (ready.pushChunks (encodeFrameInto ⟨dataFlags (!rest.isEmpty), payload⟩))
    refine ⟨sent, ?_, sent_ready, ?_⟩
    · rw [← sent_eq]
      simp only [sendParts, Attempt.run_bind, Attempt.run_get, ready.clear, Attempt.run_modify]
      rw [emitFrame, show session.wsRole = none from ready.plain]
      rfl
    · rw [transmit_eq]
      simp [pollTransmit, pushChunks, dataWire, mark, encodeFrame]

theorem sendMessages_plain (ready : session.ReadyPlain) (messages : List Message) :
    ∃ sent, sendMessages messages session = .ok () sent ∧
      sent.pollTransmit = session.pollTransmit ++
        dataWire (messages.flatMap fun message => mark message.partsPayload) := by
  induction messages generalizing session with
  | nil => exact ⟨session, rfl, by simp [dataWire]⟩
  | cons message rest ih =>
    obtain ⟨middle, middle_eq, middle_ready, middle_transmit⟩ :=
      sendParts_plain ready message.partsPayload
    obtain ⟨sent, sent_eq, transmit_eq⟩ := ih middle_ready
    refine ⟨sent, ?_, ?_⟩
    · simp [sendMessages, sendMessage, isReady, ready.ready, middle_eq, sent_eq]
    · rw [transmit_eq, middle_transmit]
      simp [dataWire]

end Session

/-- The frames of payloads are data frames with MORE on all but the last. -/
theorem dataWire_mark (payloads : List Payload) :
    dataWire (mark payloads) = encodeSlicesFlat [] (payloads.map Payload.asSlice) := by
  induction payloads with
  | nil => rfl
  | cons payload rest induction =>
    have wire (more : Bool) : (dataFlags more).wire = if more then 1 else 0 := by
      cases more <;> decide
    have header : writeFrameHeader (!rest.isEmpty) payload.len =
        frameHeader (dataFlags (!rest.isEmpty)) payload.len := by
      unfold writeFrameHeader frameHeader
      rw [wire]
    rw [map_cons, encodeSlicesFlat, ← induction, isEmpty_map]
    simp [dataWire, mark, encodeFrame_eq, header]

theorem encodeSlicesFlat_eq_dataWire (pre : Bytes) (slices : List Bytes) :
    encodeSlicesFlat pre slices =
      dataWire (mark (slices.map fun slice => Payload.fromBytes (pre ++ slice))) := by
  rw [dataWire_mark, ← encodeSlicesFlat_behind, map_map]
  simp [Function.comp_def]

def messageFrames (messages : List Message) : List (Bool × Payload) :=
  messages.flatMap fun message => mark message.partsPayload

theorem receivedFrames_messageFrames (messages : List Message) :
    receivedFrames (messageFrames messages) =
      (messages.map fun message => message.partsPayload.map Payload.received).flatMap mark := by
  simp [receivedFrames, messageFrames, map_flatMap, flatMap_map, mark_map]

/-- The received parts of a message make up an equal message. -/
theorem parts_messageOf_received {message : Message} (nonempty : message.parts ≠ []) :
    (messageOf (message.partsPayload.map Payload.received)).parts = message.parts := by
  have payloads_nonempty : message.partsPayload.map Payload.received ≠ [] := by
    simpa [partsPayload_eq_nil_iff] using nonempty
  rw [parts_messageOf payloads_nonempty, map_map, ← parts_partsPayload]
  simp [Function.comp_def]

theorem Message.Allocatable.bounded {messages : List Message}
    (allocatable : ∀ message ∈ messages, message.Allocatable) :
    ∀ frame ∈ messageFrames messages, frame.2.len ≤ isizeMax := by
  intro frame member
  obtain ⟨message, message_member, marked⟩ := mem_flatMap.mp member
  have part_member : frame.2.asSlice ∈ message.parts := by
    rw [← parts_partsPayload]
    exact mem_map_of_mem (mem_of_mem_mark marked)
  simpa using allocatable message message_member _ part_member

namespace Connection

section

variable [CurvePrimitives]

/-- Messages sent on a ready plain session arrive at an idle connection without a size limit:
however the bytes are cut into calls, no call fails, polling returns the messages in order, and
no byte and no part is left over. -/
theorem messages_roundTrip {sender : Session} (sender_ready : sender.ReadyPlain)
    {receiver : Connection} (idle : receiver.Idle)
    (unlimited : receiver.config.maxMessageSize = none) (messages : List Message)
    (nonempty : ∀ message ∈ messages, message.parts ≠ [])
    (allocatable : ∀ message ∈ messages, message.Allocatable) :
    ∃ sent wire, sendMessages messages sender = .ok () sent ∧
      sent.pollTransmit = sender.pollTransmit ++ wire ∧
      ∀ chunks : List Bytes, chunks.flatten = wire →
        ∃ after, handleInputs chunks receiver = .ok () after ∧
          (∀ polls, receiver.messages.length + messages.length ≤ polls →
            (after.pollMessages polls).map parts = (receiver.messages ++ messages).map parts) ∧
          after.inBuf.bytes = [] ∧ after.pendingParts = [] ∧ after.pendingSize = 0 := by
  obtain ⟨sent, sent_eq, transmit_eq⟩ := sendMessages_plain sender_ready messages
  refine ⟨sent, dataWire (messageFrames messages), sent_eq, transmit_eq, fun chunks chunks_eq => ?_⟩
  have accepts_all : receiver.accepts = fun _ => true := by
    funext parts
    simp [accepts_iff, unlimited]
  have cut_eq : cut receiver.accepts [] (receivedFrames (messageFrames messages)) =
      ⟨messages.map fun message => message.partsPayload.map Payload.received, [], none⟩ := by
    rw [accepts_all, receivedFrames_messageFrames, cut_flatMap_mark]
    simpa [partsPayload_eq_nil_iff] using nonempty
  obtain ⟨after, after_eq, drained, session_eq⟩ := handleInputs_dataFrames idle
    (Message.Allocatable.bounded allocatable) (by rw [cut_eq]) chunks_eq
  rw [cut_eq] at session_eq
  have messages_eq : after.messages.map parts =
      (receiver.messages ++ messages).map parts := by
    rw [session_eq, absorbed, map_append, map_append, map_map, map_map]
    congr 1
    exact map_congr_left fun message member =>
      parts_messageOf_received (nonempty message member)
  refine ⟨after, after_eq, fun polls enough => ?_, drained, ?_, ?_⟩
  · rw [pollMessages_eq, messages_eq]
    simpa [session_eq, absorbed] using enough
  · rw [session_eq]; rfl
  · rw [session_eq]; rfl

end

theorem idle_afterNullHandshake : (afterNullHandshake .pair).Idle where
  ready := by decide +kernel
  clear := rfl
  plain := rfl
  drained := by decide +kernel
  complete := by decide +kernel
  uncharged := by decide +kernel

/-- Two messages between two pair sockets: `a`, then `b` with an empty second part. -/
theorem messages_roundTrip_pair :
    ∃ sent wire,
      @Session.sendMessages .transparent
          [.inline false (ascii "a") (by decide), .multi [.fromBytes (ascii "b"), .empty]]
          (afterNullHandshake .pair).toSession = .ok () sent ∧
        sent.pollTransmit = (afterNullHandshake .pair).pollTransmit ++ wire ∧
        ∀ chunks : List Bytes, chunks.flatten = wire →
          ∃ after, @handleInputs .transparent chunks (afterNullHandshake .pair) = .ok () after ∧
            (after.pollMessages 2).map parts = [[ascii "a"], [ascii "b", []]] := by
  obtain ⟨sent, wire, sent_eq, transmit_eq, received⟩ :=
    @messages_roundTrip .transparent _ idle_afterNullHandshake.toReadyPlain _
      idle_afterNullHandshake rfl
      [.inline false (ascii "a") (by decide), .multi [.fromBytes (ascii "b"), .empty]]
      (by decide) (by decide)
  refine ⟨sent, wire, sent_eq, transmit_eq, fun chunks chunks_eq => ?_⟩
  obtain ⟨after, after_eq, polled, _⟩ := received chunks chunks_eq
  exact ⟨after, after_eq, polled 2 (by decide +kernel)⟩

end Connection

end Omq
