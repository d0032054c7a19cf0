import Omq.Proto.Connection.RoundTrip
import Omq.Proto.Connection.WsReceiver
import Omq.Proto.Mechanism.CurveChannel

/-!
# Messages survive the WebSocket wire

What `send_message` queues on a ready WebSocket session is a stream of final binary frames.  However
the peer's stack fragments them again, whatever pings and pongs it puts in between and however the
bytes are cut, a ready connection delivers the same messages and answers the pings.  The parts may
be sealed by CURVE on the way.
-/

namespace Omq

open Incremental CurvePrimitives Attempt Segment WsFrame List

section Transport

variable [CurvePrimitives]

/-! ## Two sides -/

/-- The keys, prefixes and counters of two CURVE transforms match, and the sender has counters left
for `count` frames. -/
structure CurveTransform.Linked (sender receiver : CurveTransform) (count : Nat) : Prop where
  ideal : IdealBoxes
  keys : ∃ left right, sender.salsa = ⟨publicKey right, left⟩ ∧
    receiver.salsa = ⟨publicKey left, right⟩
  prefixes : receiver.inPrefix = sender.outPrefix
  fresh : receiver.inCounter ≤ sender.outCounter
  room : sender.outCounter + count < 2 ^ 64

/-- Neither side has a transform, or both have transforms which match. -/
inductive Linked : Option CurveTransform → Option CurveTransform → Nat → Prop
  | clear (count : Nat) : Linked none none count
  | sealed {sender receiver : CurveTransform} {count : Nat}
      (linked : sender.Linked receiver count) : Linked (some sender) (some receiver) count

/-- What a ZWS payload is longer than its part: the flag, and around a sealed part the MESSAGE name,
the counter, the tag and the inner flags. -/
def zwsOverhead : Option CurveTransform → Nat
  | none => 1
  | some _ => 34

omit [CurvePrimitives] in
theorem zwsOverhead_le (transform : Option CurveTransform) :
    zwsOverhead transform ≤ payloadSlot := by
  cases transform <;> simp [zwsOverhead, payloadSlot]

/-- A part sealed by the sender opens at the receiver, and the two stay linked. -/
theorem CurveTransform.Linked.part {sender receiver : CurveTransform} {count : Nat}
    (linked : sender.Linked receiver (count + 1)) (more : Bool) (part : Bytes) :
    ∃ body sender' receiver', sender.encryptMessage more false part = .ok (body, sender') ∧
      receiver.decryptMessage body = .ok ((more, false, part), receiver') ∧
      body.length = part.length + 25 ∧ sender'.Linked receiver' count := by
  have room := linked.room
  have fresh := linked.fresh
  have counter : nextCounter sender.outCounter = some (sender.outCounter + 1) := by
    rw [nextCounter, if_pos (by omega)]
  obtain ⟨⟨body, sender'⟩, encrypted⟩ : ∃ result,
      sender.encryptMessage more false part = .ok result := by
    simp [encryptMessage, counter]
  obtain ⟨sender'_eq, sealed⟩ := encryptMessage_eq_ok encrypted
  obtain ⟨left, right, sender_keys, receiver_keys⟩ := linked.keys
  rw [← linked.prefixes] at sealed
  have shared : DataFrame.box ⟨sender.outCounter + 1, more, false, part, body⟩ sender.salsa
      receiver.inPrefix = DataFrame.box ⟨sender.outCounter + 1, more, false, part, body⟩
        receiver.salsa receiver.inPrefix := by
    rw [sender_keys, receiver_keys]
    exact linked.ideal.shared _ _ _ _
  have opened := decryptMessage_of_sealed linked.ideal sealed shared (Nat.lt_succ_of_le fresh)
  refine ⟨body, sender', _, encrypted, opened, ?_, ?_⟩
  · have tag := linked.ideal.length_tag sender.salsa.peerPublic sender.salsa.ourSecret
      (nonceShort receiver.inPrefix (sender.outCounter + 1)) (innerFlags more false :: part)
    have ciphertext := linked.ideal.length_ciphertext sender.salsa.peerPublic
      sender.salsa.ourSecret (nonceShort receiver.inPrefix (sender.outCounter + 1))
      (innerFlags more false :: part)
    have spelled := congrArg List.length sealed.2
    rw [length_append, length_append, BigEndian.length_encode] at spelled
    change body.length = 8 + (sealBox _ _ _ _).1.length + (sealBox _ _ _ _).2.length at spelled
    rw [tag, ciphertext, length_cons] at spelled
    omega
  · rw [sender'_eq]
    exact ⟨linked.ideal, linked.keys, linked.prefixes, le_rfl, by simp only; omega⟩

theorem OpensAll.append {transform middle after : Option CurveTransform}
    {front back : List Bytes} {front_parts back_parts : List (Bool × Bytes)}
    (first : OpensAll transform front front_parts middle)
    (second : OpensAll middle back back_parts after) :
    OpensAll transform (front ++ back) (front_parts ++ back_parts) after := by
  induction first with
  | nil => exact second
  | cons opens _ ih => exact .cons opens (ih second)

theorem OpensAll.zwsOverhead_eq {transform after : Option CurveTransform} {payloads : List Bytes}
    {parts : List (Bool × Bytes)} (opens : OpensAll transform payloads parts after) :
    zwsOverhead after = zwsOverhead transform := by
  induction opens with
  | nil => rfl
  | cons opens _ ih =>
    rw [ih]
    cases opens <;> rfl

namespace Session

structure ReadyWs (role : WsRole) (session : Session) : Prop where
  ready : session.state = .ready
  framing : session.wsRole = some role

variable {role : WsRole} {session : Session} {receiver : Option CurveTransform} {count : Nat}

omit [CurvePrimitives] in
theorem pollTransmit_emitFrame_ws (framing : session.wsRole = some role) (flags : FrameFlags)
    (payload : Payload) :
    (session.emitFrame flags payload).pollTransmit = session.pollTransmit ++
      (sent .binary (flagsToZws flags :: payload.asSlice) session.env).encode role := by
  have length_eq : 1 + payload.asSlice.length = (flagsToZws flags :: payload.asSlice).length :=
    Nat.add_comm _ _
  rw [pollTransmit_emitFrame, framing, wireFrame]
  simp only [length_eq, encodeWsHeader_eq]
  cases role <;> simp [encode, body, sent, applyMask_cons]

omit [CurvePrimitives] in
@[simp]
theorem transform_emitFrame (session : Session) (flags : FrameFlags) (payload : Payload) :
    (session.emitFrame flags payload).transform = session.transform := by
  unfold emitFrame
  split
  · unfold emitWsFrame
    simp only
    split <;> split <;> rfl
  · rfl

omit [CurvePrimitives] in
theorem ReadyWs.emitFrame (ready : session.ReadyWs role) (flags : FrameFlags) (payload : Payload) :
    (session.emitFrame flags payload).ReadyWs role := by
  have same := inboundView_emitFrame session flags payload
  exact ⟨(congrArg InboundView.state same).trans ready.ready,
    (congrArg InboundView.wsRole same).trans ready.framing⟩

/-- Frames which are whole messages, and what they open to. -/
structure Queues (role : WsRole) (session : Session) (transform : Option CurveTransform)
    (parts : List (Bool × Bytes)) (count : Nat) (sent : Session) (frames : List WsFrame)
    (after : Option CurveTransform) : Prop where
  ready : sent.ReadyWs role
  linked : Linked sent.transform after count
  transmit : sent.pollTransmit = session.pollTransmit ++ wsWire role frames
  whole : ∀ frame ∈ frames, frame.opcode = .binary ∧ frame.fin = true
  opens : OpensAll transform (frames.map payload) parts after
  lengths : frames.map (fun frame => frame.payload.length) =
    parts.map fun part => part.2.length + zwsOverhead transform

theorem Queues.append {role : WsRole} {session middle sent : Session}
    {transform between after : Option CurveTransform} {front back : List (Bool × Bytes)}
    {more count : Nat} {front_frames back_frames : List WsFrame}
    (first : session.Queues role transform front more middle front_frames between)
    (second : middle.Queues role between back count sent back_frames after) :
    session.Queues role transform (front ++ back) count sent (front_frames ++ back_frames)
      after where
  ready := second.ready
  linked := second.linked
  transmit := by
    rw [second.transmit, first.transmit]
    simp [wsWire]
  whole := forall_mem_append.mpr ⟨first.whole, second.whole⟩
  opens := by
    rw [map_append]
    exact first.opens.append second.opens
  lengths := by
    rw [map_append, map_append, first.lengths, second.lengths, first.opens.zwsOverhead_eq]

variable (ready : session.ReadyWs role)

include ready

theorem queues_nil (linked : Linked session.transform receiver count) :
    session.Queues role receiver [] count session [] receiver :=
  ⟨ready, linked, by simp [wsWire], by simp, .nil _, rfl⟩

/-- One part of a message is queued as a final binary frame which opens to it. -/
theorem sendPart_ws (linked : Linked session.transform receiver (count + 1)) (part : Payload)
    (rest : List Payload) :
    ∃ sent frames after, sendParts (part :: rest) session = sendParts rest sent ∧
      session.Queues role receiver [(!rest.isEmpty, part.asSlice)] count sent frames after := by
  generalize transform_eq : session.transform = sender at linked
  cases linked with
  | clear =>
    let flags := dataFlags (!rest.isEmpty)
    refine ⟨session.emitFrame flags part,
      [.sent .binary (flagsToZws flags :: part.asSlice) session.env], none, ?_,
      ready.emitFrame _ _, ?_, ?_, ?_, .cons (.clear _ _) (.nil none), ?_⟩
    · simp only [sendParts, run_bind, run_get, transform_eq, run_modify]
      rfl
    · rw [transform_emitFrame, transform_eq]
      exact .clear count
    · rw [pollTransmit_emitFrame_ws ready.framing]
      simp [wsWire]
    · simp [sent]
    · simp [sent, zwsOverhead]
  | @sealed sender receiver _ linked =>
    obtain ⟨body, sender', receiver', encrypted, opened, body_length, linked'⟩ :=
      linked.part (!rest.isEmpty) part.asSlice
    let flags := dataFlags (!rest.isEmpty)
    let wrapped : Payload := .fromBytes (CurveTransform.messageCommandFrame body)
    have ready' : (session.withTransform (some sender')).ReadyWs role :=
      ⟨ready.ready, ready.framing⟩
    refine ⟨(session.withTransform (some sender')).emitFrame flags wrapped,
      [.sent .binary (flagsToZws flags :: wrapped.asSlice) session.env], some receiver', ?_,
      ready'.emitFrame _ _, ?_, ?_, ?_, ?_, ?_⟩
    · simp only [sendParts, sendPartCurve, run_bind, run_get, transform_eq,
        encrypted, run_ofExcept_ok, run_modify]
      rfl
    · rw [transform_emitFrame]
      exact .sealed linked'
    · rw [pollTransmit_emitFrame_ws ready'.framing]
      simp [wsWire, withTransform, pollTransmit]
    · simp [sent]
    · have content : wrapped.asSlice = CurveTransform.messageCommandFrame body :=
        Payload.asSlice_fromBytes _
      simp only [map_cons, map_nil, sent, content]
      exact .cons (.sealed _ opened) (.nil _)
    · have prefix_length : CurveTransform.messagePrefix.length = 8 := rfl
      simp [sent, wrapped, CurveTransform.messageCommandFrame, body_length,
        zwsOverhead, prefix_length]
      omega

theorem sendParts_ws {payloads : List Payload}
    (linked : Linked session.transform receiver (count + payloads.length)) :
    ∃ sent frames after, sendParts payloads session = .ok () sent ∧
      session.Queues role receiver (mark (payloads.map Payload.asSlice)) count sent frames
        after := by
  induction payloads generalizing session receiver with
  | nil => exact ⟨session, [], receiver, rfl, queues_nil ready linked⟩
  | cons part rest ih =>
    obtain ⟨middle, front, between, middle_eq, first⟩ := sendPart_ws ready linked part rest
    obtain ⟨sent, back, after, sent_eq, second⟩ := ih first.ready first.linked
    refine ⟨sent, front ++ back, after, middle_eq.trans sent_eq, ?_⟩
    rw [map_cons, mark, isEmpty_map]
    exact first.append second

theorem sendMessages_ws {messages : List Message}
    (linked : Linked session.transform receiver
      (messages.map fun message => message.parts.length).sum) :
    ∃ sent frames after, sendMessages messages session = .ok () sent ∧
      session.Queues role receiver ((messages.map Message.parts).flatMap mark) 0 sent
        frames after := by
  induction messages generalizing session receiver with
  | nil => exact ⟨session, [], receiver, rfl, queues_nil ready linked⟩
  | cons message rest ih =>
    have parts_eq : message.partsPayload.map Payload.asSlice = message.parts :=
      message.parts_partsPayload
    have length_eq : message.partsPayload.length = message.parts.length := by
      rw [← parts_eq, length_map]
    rw [map_cons, sum_cons, Nat.add_comm, ← length_eq] at linked
    obtain ⟨middle, front, between, middle_eq, first⟩ := sendParts_ws ready linked
    obtain ⟨sent, back, after, sent_eq, second⟩ := ih first.ready first.linked
    refine ⟨sent, front ++ back, after, ?_, ?_⟩
    · simp [sendMessages, sendMessage, isReady, ready.ready, middle_eq, sent_eq]
    · rw [parts_eq] at first
      exact first.append second

end Session

end Transport

namespace Connection

section

open WsEngine

variable [CurvePrimitives]

/-- A ready WebSocket connection between two messages, with every received byte decoded. -/
structure WsIdle (role : WsRole) (connection : Connection) : Prop
    extends connection.toSession.ReadyWs role where
  drained : connection.inBuf.bytes = []
  complete : connection.pendingParts = []
  uncharged : connection.pendingSize = 0
  /-- No fragmented message is unfinished. -/
  unfragmented : connection.wsFragment = none

omit [CurvePrimitives] in
theorem WsIdle.receives {role : WsRole} {connection : Connection} (idle : connection.WsIdle role) :
    connection.toSession.Receives role connection.config.maxMessageSize none connection.transform
      (connection.messages.map Message.parts) [] connection.pollTransmit where
  framing := idle.framing
  ready := idle.ready
  limited := rfl
  fragmented := idle.unfragmented
  transformed := rfl
  messages := rfl
  parts := by rw [idle.complete]; rfl
  charged := by
    change connection.pendingSize = chargeOf connection.pendingParts
    rw [idle.uncharged, idle.complete, chargeOf_nil]
  queued := rfl

/-- However the bytes of a stream are cut into calls, an idle connection takes it as the engine
does. -/
theorem handleInputs_carries {role : WsRole} {receiver : Connection} (idle : receiver.WsIdle role)
    {payloads : List Bytes} {stream : List WsFrame} (carries : Carries none payloads stream)
    {parts : List (Bool × Bytes)} {transform : Option CurveTransform}
    (opens : OpensAll receiver.transform payloads parts transform)
    (acceptable : Acceptable receiver.config.maxMessageSize payloads)
    (controls : ControlsFit receiver.config.maxMessageSize stream)
    (accepted : (cut (roomFor receiver.config.maxMessageSize) [] parts).refused = none)
    {chunks : List Bytes} (chunks_eq : chunks.flatten = wsWire role.peer stream) :
    ∃ after pongs, handleInputs chunks receiver = .ok () after ∧ after.inBuf.bytes = [] ∧
      Took role receiver.config.maxMessageSize transform (receiver.messages.map Message.parts)
        receiver.pollTransmit (cut (roomFor receiver.config.maxMessageSize) [] parts)
        stream pongs after.toSession := by
  have settled := wsSettled_of_drained idle.framing idle.ready idle.drained
  obtain ⟨next, pongs, taken, took⟩ :=
    settle_carries carries idle.receives opens acceptable controls accepted role.peer
  have stalled : (machine role.peer).settle next [] = ⟨next, [], none⟩ :=
    (machine role.peer).settle_of_stall (step_of_short (by decide))
  have stop := taken []
  rw [append_nil, stalled] at stop
  have whole : receiver.inBuf.bytes ++ chunks.flatten = wsWire role.peer stream := by
    rw [idle.drained, chunks_eq, nil_append]
  have opened : ((machine role.peer).settle receiver.toSession
      (receiver.inBuf.bytes ++ chunks.flatten)).state.state ≠ .closed := by
    rw [whole, stop]
    change next.state ≠ .closed
    rw [took.receives.ready]
    decide
  obtain ⟨state_eq, error_eq, rest_eq⟩ := (machine role.peer).feed_eq_settle receiver.toSession
    receiver.inBuf.bytes chunks settled.stalled
  rw [← stopOf_handleInputs_ws settled opened, whole, stop] at state_eq error_eq rest_eq
  cases result : handleInputs chunks receiver with
  | error error after =>
    rw [result] at error_eq
    cases error_eq
  | ok value after =>
    rw [result] at state_eq rest_eq
    refine ⟨after, pongs, rfl, rest_eq rfl, ?_⟩
    rw [show after.toSession = next from state_eq]
    exact took

/-- Messages sent on a ready WebSocket session arrive at an idle connection: however the data frames
are fragmented again, whatever pings and pongs are in between and however the bytes are cut into
calls, no call fails, polling returns the messages in order, every ping is answered by one pong with
its payload, and nothing is left over. -/
theorem ws_messages_roundTrip {role : WsRole} {sender : Session}
    (sender_ready : sender.ReadyWs role) {receiver : Connection}
    (idle : receiver.WsIdle role.peer) (messages : List Message)
    (linked : Linked sender.transform receiver.transform
      (messages.map fun message => message.parts.length).sum)
    (nonempty : ∀ message ∈ messages, message.parts ≠ [])
    (allocatable : ∀ message ∈ messages, ∀ part ∈ message.parts,
      part.length + zwsOverhead receiver.transform ≤ isizeMax)
    (fits : ∀ message ∈ messages,
      Within receiver.config.maxMessageSize (partsCharge message.parts)) :
    ∃ sent frames, Session.sendMessages messages sender = .ok () sent ∧
      sent.pollTransmit = sender.pollTransmit ++ wsWire role frames ∧
      Carries none (frames.map payload) frames ∧
      ∀ stream, Carries none (frames.map payload) stream →
        ControlsFit receiver.config.maxMessageSize stream →
        ∀ chunks : List Bytes, chunks.flatten = wsWire role stream →
          ∃ after pongs, handleInputs chunks receiver = .ok () after ∧
            (∀ polls, receiver.messages.length + messages.length ≤ polls →
              (after.pollMessages polls).map Message.parts =
                (receiver.messages ++ messages).map Message.parts) ∧
            after.pollTransmit = receiver.pollTransmit ++ wsWire role.peer pongs ∧
            pongs.map payload = pings stream ∧
            (∀ pong ∈ pongs, pong.opcode = .pong ∧ pong.fin = true) ∧
            after.inBuf.bytes = [] ∧ after.pendingParts = [] ∧ after.wsFragment = none := by
  obtain ⟨sent, frames, transform, sent_eq, queues⟩ := Session.sendMessages_ws sender_ready linked
  have cut_eq : cut (roomFor receiver.config.maxMessageSize) []
      ((messages.map Message.parts).flatMap mark) = ⟨messages.map Message.parts, [], none⟩ := by
    refine cut_flatMap_mark_of_fits _ _ (by simpa using nonempty) ?_
    intro parts member front is_front
    obtain ⟨message, message_member, rfl⟩ := mem_map.mp member
    exact roomFor_iff.mpr ((fits message message_member).of_le (partsCharge_mono is_front))
  have acceptable : Acceptable receiver.config.maxMessageSize (frames.map payload) := by
    intro payload member
    obtain ⟨frame, frame_member, rfl⟩ := mem_map.mp member
    have length_member := mem_map_of_mem (f := fun frame => frame.payload.length) frame_member
    rw [queues.lengths] at length_member
    obtain ⟨⟨more, part⟩, part_member, length_eq⟩ := mem_map.mp length_member
    obtain ⟨parts, parts_member, marked⟩ := mem_flatMap.mp part_member
    obtain ⟨message, message_member, rfl⟩ := mem_map.mp parts_member
    have inside : part ∈ message.parts := mem_of_mem_mark marked
    have bounded := allocatable message message_member part inside
    rw [← length_eq]
    exact ⟨bounded, within_of_mem (fits message message_member) inside
      (zwsOverhead_le receiver.transform) bounded⟩
  refine ⟨sent, frames, sent_eq, queues.transmit, carries_whole queues.whole, ?_⟩
  intro stream carries controls chunks chunks_eq
  rw [← role.peer_peer] at chunks_eq
  obtain ⟨after, pongs, after_eq, drained, took⟩ := handleInputs_carries idle carries queues.opens
    acceptable controls (by rw [cut_eq]) chunks_eq
  rw [cut_eq] at took
  have messages_eq : after.messages.map Message.parts =
      (receiver.messages ++ messages).map Message.parts := by
    rw [took.receives.messages, map_append]
  have unpending : after.pendingParts = [] := map_eq_nil_iff.mp took.receives.parts
  refine ⟨after, pongs, after_eq, fun polls enough => ?_, took.receives.queued, took.answers,
    took.pongs, drained, unpending, took.receives.fragmented⟩
  rw [Session.pollMessages_eq, messages_eq]
  have length_eq := congrArg List.length messages_eq
  simp only [length_map, length_append] at length_eq
  omega

end

/-- A WebSocket connection is idle after a NULL handshake. -/
theorem wsIdle_afterWsHandshake (role : WsRole) : (afterWsHandshake role .pair).WsIdle role where
  ready := by cases role <;> decide +kernel
  framing := by cases role <;> decide +kernel
  drained := by cases role <;> decide +kernel
  complete := by cases role <;> decide +kernel
  uncharged := by cases role <;> decide +kernel
  unfragmented := by cases role <;> decide +kernel

theorem transform_afterWsHandshake (role : WsRole) :
    (afterWsHandshake role .pair).transform = none :=
  Option.isNone_iff_eq_none.mp (by cases role <;> decide +kernel)

/-- Two messages from a client to a server, fragmented and mixed with pings in any way: `a`, then
`b` with an empty second part. -/
theorem ws_messages_roundTrip_pair :
    ∃ (sent : Session) (frames : List WsFrame),
      @Session.sendMessages .transparent
          [.inline false (ascii "a") (by decide), .multi [.fromBytes (ascii "b"), .empty]]
          (afterWsHandshake .client .pair).toSession = .ok () sent ∧
        ∀ stream, Carries none (frames.map payload) stream →
          ∀ chunks : List Bytes, chunks.flatten = wsWire .client stream →
            ∃ (after : Connection) (pongs : List WsFrame),
              @handleInputs .transparent chunks (afterWsHandshake .server .pair) = .ok () after ∧
                (after.pollMessages 2).map Message.parts = [[ascii "a"], [ascii "b", []]] ∧
                pongs.map payload = pings stream := by
  have unlimited : (afterWsHandshake .server .pair).config.maxMessageSize = none := by
    decide +kernel
  have linked : @Linked .transparent (afterWsHandshake .client .pair).transform
      (afterWsHandshake .server .pair).transform 3 := by
    rw [transform_afterWsHandshake, transform_afterWsHandshake]
    exact @Linked.clear .transparent 3
  obtain ⟨sent, frames, sent_eq, _, _, received⟩ :=
    @ws_messages_roundTrip .transparent .client _ (wsIdle_afterWsHandshake .client).toReadyWs _
      (wsIdle_afterWsHandshake .server)
      [.inline false (ascii "a") (by decide), .multi [.fromBytes (ascii "b"), .empty]]
      linked (by decide) (by rw [transform_afterWsHandshake]; decide)
      (by
        intro message _ max limited
        cases unlimited.symm.trans limited)
  refine ⟨sent, frames, sent_eq, fun stream carries chunks chunks_eq => ?_⟩
  obtain ⟨after, pongs, after_eq, polled, _, answers, _⟩ := received stream carries
    (by
      intro frame _ _ max limited
      cases unlimited.symm.trans limited) chunks chunks_eq
  rw [show (afterWsHandshake .server .pair).messages = [] by decide +kernel] at polled
  exact ⟨after, pongs, after_eq, polled 2 (by decide), answers⟩

/-- A server after a NULL handshake which takes messages of up to 100 bytes. -/
def limitedServer : Connection :=
  finalState (@handleInputs .transparent [wsReady .client .pair]
    (@Connection.new .transparent
      { ConnectionConfig.null .client .pair with
        wsRole := some .server
        maxMessageSize := some 100 } .zero))

/-- A control frame of legal length, 101 bytes. -/
def longPing : WsFrame := ⟨true, .ping, List.replicate 101 0, [5, 6, 7, 8], rfl⟩

/-- The limit for messages is applied to a ping between them as well: the call fails and no pong is
queued. -/
theorem ws_ping_refused :
    limitedServer.WsIdle .server ∧ Carries none [] [longPing] ∧
      ∃ after, @handleInputs .transparent [wsWire .client [longPing]] limitedServer =
          .error (.protocol "WS frame too large: 101 bytes (max 100)") after ∧
        after.pollTransmit = limitedServer.pollTransmit := by
  refine ⟨⟨⟨by decide +kernel, by decide +kernel⟩, by decide +kernel, by decide +kernel,
    by decide +kernel, by decide +kernel⟩, .control (.inl rfl) rfl (by decide) .done, ?_⟩
  have refused : (match @handleInputs .transparent [wsWire .client [longPing]] limitedServer with
      | .error error after => decide
        (error = .protocol "WS frame too large: 101 bytes (max 100)" ∧
          after.pollTransmit = limitedServer.pollTransmit)
      | .ok _ _ => false) = true := by
    decide +kernel
  revert refused
  cases @handleInputs .transparent [wsWire .client [longPing]] limitedServer with
  | ok value after => exact nofun
  | error error after =>
    intro refused
    obtain ⟨rfl, unanswered⟩ := of_decide_eq_true refused
    exact ⟨after, rfl, unanswered⟩

end Connection

end Omq
