import Omq.Tokio.TransmitSlot

/-!
# How many messages wait in a transmit slot

A slot counts its messages up by one when it accepts one, and down by the chunks of a drain.  A
message may lie in several chunks, so the count falls behind the messages which still have bytes in
the slot, and more than `msg_cap` of them are accepted, unless no drain takes more chunks than it
completes messages.
-/

namespace Omq

open Transition

/-- The messages which still have bytes behind the first `drained` ones. -/
def undrained : List Bytes → (drained : Nat) → Nat
  | [], _ => 0
  | message :: rest, drained =>
    (if drained < message.length then 1 else 0) + undrained rest (drained - message.length)

theorem undrained_snoc_le (messages : List Bytes) (message : Bytes) (drained : Nat) :
    undrained (messages ++ [message]) drained ≤ undrained messages drained + 1 := by
  induction messages generalizing drained with
  | nil =>
    simp only [List.nil_append, undrained]
    split_ifs <;> omega
  | cons first rest induction =>
    have later := induction (drained - first.length)
    simp only [List.cons_append, undrained]
    omega

theorem undrained_of_all {messages : List Bytes} {drained : Nat}
    (all : messages.flatten.length ≤ drained) : undrained messages drained = 0 := by
  induction messages generalizing drained with
  | nil => rfl
  | cons first rest induction =>
    rw [List.flatten_cons, List.length_append] at all
    rw [undrained, if_neg (by omega), induction (by omega)]

/-- A slot with the encodings it accepted and the bytes which were drained. -/
structure SlotRun where
  slot : PeerTransmitSlot
  accepted : List Bytes
  drained : Bytes

inductive SlotCall
  | tryEncode (message : Message) (env : Environment)
  | tryPushEncoded (chunks : List Bytes)
  | tryPushPreFramedNoSignal (data : Bytes)
  | drain (maxChunks : Nat)

namespace PeerTransmitSlot

/-- What an accepted message does to a slot, and what any other answer leaves. -/
structure Answers (slot : PeerTransmitSlot) (result : TryFrameResult) (after : PeerTransmitSlot)
    (data : Bytes) : Prop where
  msgCap : after.msgCap = slot.msgCap
  ok : result = .ok → slot.queuedMsgs < slot.msgCap ∧
    after.queuedMsgs = slot.queuedMsgs + 1 ∧ after.eq.content = slot.eq.content ++ data
  refused : result ≠ .ok → after.queuedMsgs = slot.queuedMsgs ∧ after.eq.content = slot.eq.content

variable {slot : PeerTransmitSlot}

theorem Answers.kept {result : TryFrameResult} {after : PeerTransmitSlot} {data : Bytes}
    (refused : result ≠ .ok) (msgCap : after.msgCap = slot.msgCap)
    (queuedMsgs : after.queuedMsgs = slot.queuedMsgs) (eq : after.eq = slot.eq) :
    slot.Answers result after data :=
  ⟨msgCap, fun ok => absurd ok refused, fun _ => ⟨queuedMsgs, congrArg _ eq⟩⟩

theorem Answers.accept {eq : FrameBuffer} {data : Bytes} (room : slot.queuedMsgs < slot.msgCap)
    (content : eq.content = slot.eq.content ++ data) : slot.Answers .ok (slot.accept eq) data :=
  ⟨rfl, fun _ => ⟨room, rfl, content⟩, fun refused => absurd rfl refused⟩

theorem Answered.answers {eq : FrameBuffer} {data : Bytes}
    {answer : TryFrameResult × PeerTransmitSlot} (answered : slot.Answered eq answer)
    (grown : eq.content = slot.eq.content ++ data) : slot.Answers answer.1 answer.2 data := by
  obtain ⟨-, rfl⟩ | ⟨-, rfl | ⟨room, rfl⟩⟩ := answered
  · exact .kept nofun rfl rfl rfl
  · exact .kept nofun rfl rfl rfl
  · exact .accept room grown

theorem answers_tryEncode (slot : PeerTransmitSlot) (message : Message) (env : Environment) :
    slot.Answers (slot.tryEncode message env).1 (slot.tryEncode message env).2.1
      (slot.encoding message env) := by
  obtain ⟨result, refused, after, member, encoded⟩ | ⟨room, eq, _, content, encoded⟩ :=
    slot.tryEncode_cases message env
  all_goals rw [encoded]
  · obtain rfl | rfl : after = slot ∨ after = slot.refuse := by simpa using member
    all_goals exact .kept refused rfl rfl rfl
  · exact .accept room content

end PeerTransmitSlot

namespace SlotRun

variable (run : SlotRun)

def answered (result : TryFrameResult) (slot : PeerTransmitSlot) (data : Bytes) : SlotRun :=
  { run with slot, accepted := if result = .ok then run.accepted ++ [data] else run.accepted }

def step : SlotCall → Option SlotRun
  | .tryEncode message env =>
    let (result, slot, _) := run.slot.tryEncode message env
    some (run.answered result slot (run.slot.encoding message env))
  | .tryPushEncoded chunks =>
    let (result, slot) := run.slot.tryPushEncoded chunks
    some (run.answered result slot chunks.flatten)
  | .tryPushPreFramedNoSignal data =>
    let (result, slot) := run.slot.tryPushPreFramedNoSignal data
    some (run.answered result slot data)
  | .drain maxChunks =>
    let (chunks, _, slot) := run.slot.drain maxChunks
    some { run with slot, drained := run.drained ++ chunks.flatten }

/-- The messages which still have bytes in the slot. -/
def waiting : Nat := undrained run.accepted run.drained.length

/-- A drain which leaves something takes no more chunks than it completes messages. -/
def Measured : SlotCall → Prop
  | .drain maxChunks =>
    run.slot.eq.chunks.length ≤ maxChunks ∨
      undrained run.accepted
          (run.drained ++ (run.slot.eq.chunks.take maxChunks).flatten).length + maxChunks ≤
        run.waiting
  | _ => True

/-- The count covers what waits, and the bytes are in order. -/
structure Counted (msgCap : Nat) (run : SlotRun) : Prop where
  msgCap_eq : run.slot.msgCap = msgCap
  covers : run.waiting ≤ run.slot.queuedMsgs
  within : run.slot.queuedMsgs ≤ msgCap
  bytes : run.drained ++ run.slot.eq.content = run.accepted.flatten

variable {run after : SlotRun} {msgCap : Nat}

theorem Counted.answered (counted : run.Counted msgCap) {result : TryFrameResult}
    {slot : PeerTransmitSlot} {data : Bytes} (answers : run.slot.Answers result slot data) :
    (run.answered result slot data).Counted msgCap := by
  obtain ⟨msgCap_eq, covers, within, bytes⟩ := counted
  unfold SlotRun.answered
  split_ifs with ok
  · obtain ⟨room, count_eq, content_eq⟩ := answers.ok ok
    have grown := undrained_snoc_le run.accepted data run.drained.length
    refine ⟨answers.msgCap.trans msgCap_eq, ?_, ?_, ?_⟩
    · change undrained (run.accepted ++ [data]) run.drained.length ≤ slot.queuedMsgs
      unfold waiting at covers
      omega
    · change slot.queuedMsgs ≤ msgCap
      omega
    · simp [content_eq, ← bytes]
  · obtain ⟨count_eq, content_eq⟩ := answers.refused ok
    exact ⟨answers.msgCap.trans msgCap_eq, count_eq ▸ covers, count_eq ▸ within, content_eq ▸ bytes⟩

theorem Counted.drain (counted : run.Counted msgCap) {maxChunks : Nat}
    (measured : run.Measured (.drain maxChunks)) :
    (⟨(run.slot.drain maxChunks).2.2, run.accepted,
      run.drained ++ (run.slot.drain maxChunks).1.flatten⟩ : SlotRun).Counted msgCap := by
  obtain ⟨msgCap_eq, covers, within, bytes⟩ := counted
  have count_eq : (run.slot.drain maxChunks).2.2.queuedMsgs =
      if (run.slot.drain maxChunks).2.2.isEmpty then 0
      else run.slot.queuedMsgs - (run.slot.drain maxChunks).1.length := rfl
  have cap_eq : (run.slot.drain maxChunks).2.2.msgCap = run.slot.msgCap := by
    unfold PeerTransmitSlot.drain
    dsimp only
    split_ifs <;> rfl
  have chunks_eq : (run.slot.drain maxChunks).1 = run.slot.eq.chunks.take maxChunks := by
    rw [← FrameBuffer.map_fst_frames, ← List.map_take]
    exact (run.slot.eq.frames_drain maxChunks).1
  have bytes_eq : run.drained ++ (run.slot.drain maxChunks).1.flatten ++
      (run.slot.drain maxChunks).2.2.eq.content = run.accepted.flatten := by
    rw [List.append_assoc, run.slot.content_drain, bytes]
  refine ⟨cap_eq.trans msgCap_eq, ?_, ?_, bytes_eq⟩
  · change undrained run.accepted (run.drained ++ (run.slot.drain maxChunks).1.flatten).length ≤ _
    rw [count_eq, chunks_eq] at *
    obtain all | completed := measured
    · rw [List.take_of_length_le all, FrameBuffer.flatten_chunks, bytes]
      exact (undrained_of_all (Nat.le_refl _)).trans_le (Nat.zero_le _)
    split_ifs with empty
    · rw [PeerTransmitSlot.content_of_isEmpty empty, List.append_nil] at bytes_eq
      rw [bytes_eq, undrained_of_all (Nat.le_refl _)]
    · have at_most := List.length_take_le maxChunks run.slot.eq.chunks
      omega
  · change (run.slot.drain maxChunks).2.2.queuedMsgs ≤ msgCap
    rw [count_eq]
    split_ifs <;> omega

theorem Counted.step {call : SlotCall} (measured : run.Measured call)
    (stepped : run.step call = some after) (counted : run.Counted msgCap) :
    after.Counted msgCap := by
  cases call <;> cases stepped
  · exact counted.answered (run.slot.answers_tryEncode _ _)
  · exact counted.answered ((run.slot.answered_tryPushEncoded _).answers
      (run.slot.eq.content_pushSharedChunks _))
  · exact counted.answered ((run.slot.answered_tryPushPreFramedNoSignal _).answers
      (run.slot.eq.content_pushPreFramed _))
  · exact counted.drain measured

def start (slot : PeerTransmitSlot) (handshakeDone : Bool) : SlotRun :=
  ⟨{ slot with handshakeDone }, [], []⟩

/-- While drains are measured, no more messages than `msg_cap` have bytes in the slot; and the bytes
drained so far are the encodings of the accepted messages in order, up to what is left. -/
theorem waiting_le_of_measured {hasTransform : Bool} {compressionKind : Option CompressionKind}
    {transformPassthrough : Option (Bytes × Nat)} {arenaThreshold cap msgCap : Nat}
    {wsRole : Option WsRole} {handshakeDone : Bool} {final : SlotRun}
    (runs : Runs step Measured (start (.new hasTransform compressionKind
      transformPassthrough arenaThreshold cap msgCap wsRole) handshakeDone) final) :
    final.waiting ≤ final.slot.msgCap ∧
      final.drained ++ final.slot.eq.content = final.accepted.flatten := by
  have counted : final.Counted (max msgCap 1) :=
    runs.invariant Counted.step ⟨rfl, Nat.le_refl 0, Nat.zero_le _, rfl⟩
  rw [counted.msgCap_eq]
  exact ⟨counted.covers.trans counted.within, counted.bytes⟩

instance (run : SlotRun) (call : SlotCall) : Decidable (run.Measured call) :=
  match call with
  | .drain _ => inferInstanceAs (Decidable (_ ∨ _))
  | .tryEncode _ _ | .tryPushEncoded _ | .tryPushPreFramedNoSignal _ => .isTrue trivial

def slotForTwo : SlotRun := start (.new false none none 64 100 2 none) true

theorem waiting_le_of_measured_whole : ∃ final, Runs step Measured slotForTwo final ∧
    final.waiting = 2 ∧ final.waiting ≤ final.slot.msgCap := by
  have runs : Runs step Measured slotForTwo _ := .computed [.tryPushEncoded [[1]],
    .tryPushEncoded [[2]], .drain 1, .tryPushPreFramedNoSignal [3]] (by decide +kernel)
  exact ⟨_, runs, by decide +kernel, (waiting_le_of_measured runs).1⟩

/-- Two messages of three chunks each; three chunks are drained, and two more messages accepted. -/
theorem waiting_beyond_cap : ∃ final, Reaches step slotForTwo final ∧
    final.slot.msgCap = 2 ∧ final.waiting = 3 := by
  exact exists_reaches [.tryPushEncoded [[1], [2], [3]], .tryPushEncoded [[4], [5], [6]],
    .drain 3, .tryPushEncoded [[7]], .tryPushEncoded [[8]]] (by decide +kernel)

end SlotRun

end Omq
