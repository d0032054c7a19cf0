import Omq.Proto.Connection.Assembly

/-!
# The message size limit

A message is charged its bytes and one payload slot for every part.  The limit is checked against
the declared size of a frame and against the running charge of the message being assembled; the two
checks together refuse exactly the first frame with which the message exceeds the limit.
-/

namespace Omq

open Incremental Segment List Session

namespace Session

theorem maxMessageSizeLen_messageOf {parts : List Payload} (nonempty : parts ≠ []) :
    (messageOf parts).maxMessageSizeLen = chargeOf parts := by
  have parts_eq := parts_messageOf nonempty
  have byteLen_eq : (messageOf parts).byteLen = (parts.map Payload.len).sum := by
    rw [← Message.sum_length_parts, parts_eq, map_map]
    exact congrArg List.sum (map_congr_left fun part _ => part.length_asSlice)
  have len_eq : (messageOf parts).len = parts.length := by
    rw [← Message.length_parts, parts_eq, length_map]
  have sum_eq : (parts.map fun part => part.len + payloadSlot).sum =
      (parts.map Payload.len).sum + parts.length * payloadSlot := by
    rw [sum_map_add, map_const', sum_replicate, smul_eq_mul]
  simp only [Message.maxMessageSizeLen, chargeOf, byteLen_eq, len_eq, sum_eq, saturatingAdd,
    saturatingMul]
  omega

theorem chargeOf_le_append (front back : List Payload) :
    chargeOf front ≤ chargeOf (front ++ back) := by
  simp only [chargeOf, map_append, sum_append]
  omega

/-- The messages which the data frames complete, when the parts of one are collected already. -/
def completed (parts : List Payload) (frames : List (Bool × Payload)) : List (List Payload) :=
  (cut (fun _ => true) parts frames).segments

/-- The parts which the data frames leave collected. -/
def unfinished (parts : List Payload) (frames : List (Bool × Payload)) : List Payload :=
  (cut (fun _ => true) parts frames).pending

end Session

namespace Engine

variable [CurvePrimitives]

/-- A stream with a refused frame fails there, with the messages before it delivered. -/
theorem settle_refusedFrames {frames : List (Bool × Payload)} {session : Session}
    (ready : session.ReadyPlain) (charged : session.Charged)
    (bounded : ∀ frame ∈ frames, frame.2.len ≤ isizeMax) {element : Payload}
    (refused : (cut session.accepts session.pendingParts
      (receivedFrames frames)).refused = some element) :
    ∃ size max, session.config.maxMessageSize = some max ∧
      (machine.settle session (dataWire frames)).error = some (.messageTooLarge size max) ∧
      (machine.settle session (dataWire frames)).state.messages = session.messages ++
        (cut session.accepts session.pendingParts (receivedFrames frames)).segments.map
          messageOf := by
  obtain ⟨front, more, back, stream_eq, accepted, exceeds⟩ := cut_of_refused refused
  generalize cut session.accepts session.pendingParts (receivedFrames frames) = whole at *
  obtain ⟨firsts, laters, rfl, rfl, laters_eq⟩ := map_eq_append_iff.mp stream_eq
  obtain ⟨⟨marked, payload⟩, lasts, rfl, frame_eq, _⟩ := map_eq_cons_iff.mp laters_eq
  obtain ⟨rfl, rfl⟩ : marked = more ∧ payload.received = element := Prod.mk.inj frame_eq
  have firsts_bounded : ∀ frame ∈ firsts, frame.2.len ≤ isizeMax :=
    fun frame member => bounded frame (by simp [member])
  have bound : payload.len ≤ isizeMax := bounded (marked, payload) (by simp)
  have front_cut : cut session.accepts session.pendingParts (receivedFrames firsts) =
      ⟨whole.segments, whole.pending, none⟩ := accepted
  have wire_eq : dataWire (firsts ++ (marked, payload) :: lasts) = dataWire firsts ++
      (encodeFrame ⟨dataFlags marked, payload⟩ ++ dataWire lasts) := by
    simp [dataWire]
  have absorbed := settle_dataFrames ready charged firsts_bounded (by rw [front_cut])
    (encodeFrame ⟨dataFlags marked, payload⟩ ++ dataWire lasts)
  rw [front_cut] at absorbed
  rw [wire_eq, absorbed]
  have still_ready : (session.absorbed ⟨whole.segments, whole.pending, none⟩).ReadyPlain :=
    ⟨ready.ready, ready.clear, ready.plain⟩
  obtain ⟨size, max, limit, failed, messages_eq, _⟩ :=
    settle_refused still_ready rfl marked bound exceeds (dataWire lasts)
  exact ⟨size, max, limit, failed, messages_eq⟩

end Engine

namespace Connection

/-- A ready plain connection which has decoded every byte it received; it may be inside a
message. -/
structure Paused (connection : Connection) : Prop extends connection.toSession.ReadyPlain where
  drained : connection.inBuf.bytes = []
  charged : connection.toSession.Charged

section

variable [CurvePrimitives] {connection : Connection}

theorem Paused.settled (paused : connection.Paused) : connection.Settled where
  receptive := ⟨paused.plain, .inr (.inr paused.ready)⟩
  charged := paused.charged
  stalled := by
    change Engine.step _ _ = _
    simp only [Engine.step, paused.ready, paused.drained]
    rfl

/-- As long as no call fails, the pending size is the charge of the collected parts. -/
theorem Settled.handleInputs {after : Connection} (settled : connection.Settled)
    {chunks : List Bytes} (returned : handleInputs chunks connection = .ok () after) :
    after.Settled := by
  induction chunks generalizing connection with
  | nil => cases returned; exact settled
  | cons chunk chunks induction =>
    rw [Connection.handleInputs, Attempt.run_bind] at returned
    cases first : Connection.handleInput chunk connection with
    | error error middle => rw [first] at returned; cases returned
    | ok value middle =>
      rw [first] at returned
      exact induction (settled.handleInput first) returned

/-- The size limit is exact: of the messages the frames complete, those before the first which
exceeds the limit are delivered; the calls fail exactly when some frame takes the message it joins
over the limit, and then as too large; and until then the pending size is exact. -/
theorem size_limit_exact (paused : connection.Paused) {max : Nat}
    (limit : connection.config.maxMessageSize = some max) {frames : List (Bool × Payload)}
    (bounded : ∀ frame ∈ frames, frame.2.len ≤ isizeMax) {chunks : List Bytes}
    (chunks_eq : chunks.flatten = dataWire frames) :
    (stopOf (handleInputs chunks connection)).state.messages = connection.messages ++
        ((completed connection.pendingParts (receivedFrames frames)).map
          messageOf).takeWhile (fun message => message.maxMessageSizeLen ≤ max) ∧
      ((stopOf (handleInputs chunks connection)).error = none ↔
        ∀ front more payload back,
          receivedFrames frames = front ++ (more, payload) :: back →
            chargeOf (unfinished connection.pendingParts front ++ [payload]) ≤ max) ∧
      (∀ error, (stopOf (handleInputs chunks connection)).error = some error →
        ∃ size, error = .messageTooLarge size max) ∧
      ∀ early late after, chunks = early ++ late → handleInputs early connection = .ok () after →
        after.pendingSize = chargeOf after.pendingParts := by
  obtain ⟨state_eq, error_eq, _⟩ := stopOf_handleInputs_settle paused.settled chunks
  rw [paused.drained, nil_append, chunks_eq] at state_eq error_eq
  have accepts_eq : connection.accepts = fun parts => decide (chargeOf parts ≤ max) := by
    funext parts
    rw [Bool.eq_iff_iff, accepts_iff, decide_eq_true_eq]
    simp [limit]
  have delivered : (cut connection.accepts connection.pendingParts
      (receivedFrames frames)).segments.map messageOf =
        ((completed connection.pendingParts (receivedFrames frames)).map
          messageOf).takeWhile fun message => message.maxMessageSizeLen ≤ max := by
    rw [accepts_eq, segments_cut (by
      intro front back fitting
      simp only [decide_eq_true_eq] at fitting ⊢
      exact (chargeOf_le_append front back).trans fitting), takeWhile_map]
    refine congrArg _ (takeWhile_congr fun parts member => ?_)
    rw [Function.comp_apply, maxMessageSizeLen_messageOf (ne_nil_of_mem_segments member)]
  have accepted_iff : (cut connection.accepts connection.pendingParts
      (receivedFrames frames)).refused = none ↔ ∀ front more payload back,
        receivedFrames frames = front ++ (more, payload) :: back →
          chargeOf (unfinished connection.pendingParts front ++ [payload]) ≤ max := by
    rw [refused_cut_eq_none_iff, accepts_eq]
    simp [unfinished]
  have exact_charge : ∀ early late after, chunks = early ++ late →
      handleInputs early connection = .ok () after →
        after.pendingSize = chargeOf after.pendingParts :=
    fun _ _ _ _ returned => (paused.settled.handleInputs returned).charged
  rw [state_eq, error_eq, ← delivered, ← accepted_iff]
  cases refused : (cut connection.accepts connection.pendingParts
      (receivedFrames frames)).refused with
  | none =>
    have absorbed := Engine.settle_dataFrames paused.toReadyPlain paused.charged bounded refused []
    have ready : (connection.toSession.absorbed (cut connection.accepts
        connection.pendingParts (receivedFrames frames))).ReadyPlain :=
      ⟨paused.ready, paused.clear, paused.plain⟩
    rw [append_nil, Engine.settle_nil ready] at absorbed
    rw [absorbed]
    exact ⟨rfl, by simp, by simp, exact_charge⟩
  | some element =>
    obtain ⟨size, found, found_limit, failed, messages_eq⟩ :=
      Engine.settle_refusedFrames paused.toReadyPlain paused.charged bounded refused
    obtain rfl : found = max := Option.some.inj (found_limit.symm.trans limit)
    refine ⟨messages_eq, by simp [failed], fun error error_eq => ⟨size, ?_⟩, exact_charge⟩
    exact Option.some.inj (error_eq.symm.trans failed)

end

def limited (max : Nat) : Connection :=
  Attempt.finalState (@handleInputs .transparent [nullHandshake .pair]
    (@Connection.new .transparent
      { ConnectionConfig.null .client .pair with maxMessageSize := some max } .zero))

def twoParts : List (Bool × Payload) :=
  [(true, .fromBytes (List.replicate 30 0)), (false, .fromBytes (List.replicate 30 0))]

/-- The frame which exceeds the limit is charged, but not collected. -/
theorem refused_frame_charged :
    (∃ size, (stopOf (@handleInputs .transparent [dataWire twoParts] (limited 100))).error =
        some (.messageTooLarge size 100)) ∧
      (stopOf (@handleInputs .transparent [dataWire twoParts] (limited 100))).state.pendingSize ≠
        ((stopOf (@handleInputs .transparent [dataWire twoParts]
          (limited 100))).state.pendingParts.map fun part => part.len + payloadSlot).sum :=
  ⟨⟨188, by decide +kernel⟩, by decide +kernel⟩

theorem paused_limited : (limited 200).Paused where
  ready := by decide +kernel
  clear := Option.isNone_iff_eq_none.mp (by decide +kernel)
  plain := by decide +kernel
  drained := by decide +kernel
  charged := show (limited 200).pendingSize = chargeOf (limited 200).pendingParts by decide +kernel

theorem two_parts_delivered :
    (stopOf (@handleInputs .transparent [dataWire twoParts] (limited 200))).state.messages.length =
      1 := by
  have limit : (limited 200).config.maxMessageSize = some 200 := by decide +kernel
  have bounded : ∀ frame ∈ twoParts, frame.2.len ≤ isizeMax := by decide +kernel
  rw [(@size_limit_exact .transparent (limited 200) paused_limited 200 limit twoParts bounded
    [dataWire twoParts] (by simp)).1]
  decide +kernel

end Connection

end Omq
