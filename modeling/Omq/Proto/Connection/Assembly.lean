import Omq.Library.Segment
import Omq.Proto.Connection.Feed

/-!
# Assembling messages from data frames

On a ready connection without a transform, a stream of data frames is cut into messages at the
frames without MORE, as long as the charge of the open message stays within the limit.
-/

namespace Omq

open Incremental Segment Session

def dataFlags (more : Bool) : FrameFlags := if more then .moreData else .last

def dataWire (frames : List (Bool × Payload)) : Bytes :=
  frames.flatMap fun frame => encodeFrame ⟨dataFlags frame.1, frame.2⟩

variable (payload : Payload)

def Payload.received : Payload := .fromSlice payload.asSlice

@[simp]
theorem Payload.asSlice_received :
    payload.received.asSlice = payload.asSlice := asSlice_fromSlice _

@[simp]
theorem Payload.len_received : payload.received.len = payload.len := by
  rw [← length_asSlice, asSlice_received, length_asSlice]

def receivedFrames (frames : List (Bool × Payload)) : List (Bool × Payload) :=
  frames.map fun frame => (frame.1, frame.2.received)

namespace Session

structure ReadyPlain (session : Session) : Prop where
  ready : session.state = .ready
  clear : session.transform = none
  plain : session.wsRole = none

/-- Whether the parts of a message stay within the limit. -/
def accepts (session : Session) (parts : List Payload) : Bool :=
  (session.exceedsMax (chargeOf parts)).isNone

variable {session : Session} {size : Nat}

theorem exceedsMax_eq_none_iff :
    session.exceedsMax size = none ↔
      ∀ max, session.config.maxMessageSize = some max → size ≤ max := by
  unfold exceedsMax
  cases session.config.maxMessageSize <;> simp [Option.filter]

theorem exceedsMax_eq_some_iff {max : Nat} :
    session.exceedsMax size = some max ↔ session.config.maxMessageSize = some max ∧ max < size := by
  simp [exceedsMax, Option.filter_eq_some_iff]

variable {parts : List Payload}

/-- A message is accepted exactly when its charge is within the limit. -/
theorem accepts_iff :
    session.accepts parts = true ↔
      ∀ max, session.config.maxMessageSize = some max → chargeOf parts ≤ max := by
  rw [accepts, Option.isNone_iff_eq_none, exceedsMax_eq_none_iff]

/-- The declared size of an accepted frame is within the limit. -/
theorem exceedsMax_declared {payload : Payload}
    (fits : session.accepts (parts ++ [payload]) = true) :
    session.exceedsMax (saturatingAdd payload.len payloadSlot) = none := by
  have bound : saturatingAdd payload.len payloadSlot ≤ chargeOf (parts ++ [payload]) := by
    rw [chargeOf_append_singleton]
    simp only [saturatingAdd]
    omega
  rw [exceedsMax_eq_none_iff]
  exact fun max limit => bound.trans (accepts_iff.mp fits max limit)

def messageOf (parts : List Payload) : Message := assembled parts.dropLast (parts.getLastD .empty)

@[simp]
theorem messageOf_append_singleton (parts : List Payload) (last : Payload) :
    messageOf (parts ++ [last]) = assembled parts last := by
  simp [messageOf]

theorem parts_assembled (parts : List Payload) (last : Payload) :
    (assembled parts last).parts = (parts ++ [last]).map Payload.asSlice := by
  unfold assembled
  split_ifs with empty small
  · simp [empty]
  · rw [empty]
    rfl
  · simp

theorem parts_messageOf (nonempty : parts ≠ []) :
    (messageOf parts).parts = parts.map Payload.asSlice := by
  obtain ⟨front, last, rfl⟩ := (List.eq_nil_or_concat' parts).resolve_left nonempty
  simp [parts_assembled]

def absorbed (session : Session) (cut : Cut Payload) : Session :=
  { session.withPending cut.pending (chargeOf cut.pending) with
    messages := session.messages ++ cut.segments.map messageOf }

/-- A message delivered before a cut is the first segment of the longer cut. -/
theorem absorbed_withMessage (session : Session) (parts : List Payload) (last : Payload)
    (cut : Cut Payload) :
    ((session.withPending [] 0).withMessage (assembled parts last)).absorbed cut =
      session.absorbed ⟨(parts ++ [last]) :: cut.segments, cut.pending, cut.refused⟩ := by
  simp [absorbed, withMessage, withPending]

theorem ReadyPlain.withPending (ready : session.ReadyPlain) (parts : List Payload) (size : Nat) :
    (session.withPending parts size).ReadyPlain :=
  ⟨ready.ready, ready.clear, ready.plain⟩

theorem ReadyPlain.withMessage (ready : session.ReadyPlain) (message : Message) :
    (session.withMessage message).ReadyPlain :=
  ⟨ready.ready, ready.clear, ready.plain⟩

end Session

namespace Engine

variable [CurvePrimitives] {session : Session} {payload : Payload} (ready : session.ReadyPlain)

include ready

/-- The engine takes one data frame off the input, unless its declared size is refused. -/
theorem step_dataFrame (more : Bool) (bound : payload.len ≤ isizeMax) (rest : Bytes) :
    machine.step session (encodeFrame ⟨dataFlags more, payload⟩ ++ rest) =
      match session.exceedsMax (saturatingAdd payload.len payloadSlot) with
      | some max => .fail session (encodeFrame ⟨dataFlags more, payload⟩ ++ rest)
          (.messageTooLarge payload.len max)
      | none => conclude (absorbDataFrame more payload.received session) rest := by
  have lawful : ¬((dataFlags more).command = true ∧ (dataFlags more).more = true) := by
    cases more <;> simp [dataFlags, FrameFlags.last, FrameFlags.moreData]
  have flags_eq : (dataFlags more).command = false ∧ (dataFlags more).more = more := by
    cases more <;> exact ⟨rfl, rfl⟩
  have header : flatHeader (encodeFrame ⟨dataFlags more, payload⟩ ++ rest) =
      .ok (some ⟨dataFlags more, headerLenFor payload.len, payload.len⟩) := by
    rw [encodeFrame_eq, List.append_assoc]
    exact flatHeader_frameHeader _ lawful bound _
  have frame := flatFrame_encodeFrame ⟨dataFlags more, payload⟩ lawful bound rest
  change step _ _ = _
  simp only [step, ready.ready, frameStep, header, frame, refuseReady]
  cases session.exceedsMax (saturatingAdd payload.len payloadSlot) with
  | some max => rfl
  | none =>
    simp only [Option.map_none, handleReady, decodeAssembledFrame_of_none ready.clear,
      dispatchContent, flags_eq]
    rfl

/-- A refused data frame fails with the limit and leaves the messages and the parts alone. -/
theorem settle_refused (charged : session.Charged) (more : Bool) (bound : payload.len ≤ isizeMax)
    (refused : session.accepts (session.pendingParts ++ [payload.received]) = false)
    (rest : Bytes) :
    ∃ size max, session.config.maxMessageSize = some max ∧
      (machine.settle session (encodeFrame ⟨dataFlags more, payload⟩ ++ rest)).error =
        some (.messageTooLarge size max) ∧
      (machine.settle session (encodeFrame ⟨dataFlags more, payload⟩ ++ rest)).state.messages =
        session.messages ∧
      (machine.settle session
        (encodeFrame ⟨dataFlags more, payload⟩ ++ rest)).state.pendingParts =
        session.pendingParts := by
  have stepped := step_dataFrame ready more bound rest
  cases declared : session.exceedsMax (saturatingAdd payload.len payloadSlot) with
  | some max =>
    rw [declared] at stepped
    have limit : session.config.maxMessageSize = some max := (exceedsMax_eq_some_iff.mp declared).1
    rw [machine.settle_of_fail stepped]
    exact ⟨_, max, limit, rfl, rfl, rfl⟩
  | none =>
    rw [declared] at stepped
    obtain ⟨max, exceeds⟩ : ∃ max,
        session.exceedsMax (session.chargedSize payload.received) = some max := by
      rw [charged.chargedSize_eq]
      exact Option.isSome_iff_exists.mp (by simpa [accepts] using refused)
    have limit : session.config.maxMessageSize = some max := (exceedsMax_eq_some_iff.mp exceeds).1
    simp only [absorbDataFrame_of_exceeds exceeds, conclude] at stepped
    rw [machine.settle_of_fail stepped]
    exact ⟨_, max, limit, rfl, rfl, rfl⟩

/-- An accepted data frame is absorbed and the engine goes on. -/
theorem settle_accepted (charged : session.Charged) (more : Bool) (bound : payload.len ≤ isizeMax)
    (fits : session.accepts (session.pendingParts ++ [payload.received]) = true) (rest : Bytes) :
    machine.settle session (encodeFrame ⟨dataFlags more, payload⟩ ++ rest) =
      machine.settle
        (if more then session.withPending (session.pendingParts ++ [payload.received])
            (chargeOf (session.pendingParts ++ [payload.received]))
          else (session.withPending [] 0).withMessage
            (assembled session.pendingParts payload.received)) rest := by
  have stepped := step_dataFrame ready more bound rest
  have declared := exceedsMax_declared fits
  rw [Payload.len_received] at declared
  have room : session.exceedsMax (session.chargedSize payload.received) = none := by
    rw [charged.chargedSize_eq]
    exact Option.isNone_iff_eq_none.mp fits
  rw [declared] at stepped
  cases more with
  | true =>
    simp only [absorbDataFrame_more room, conclude, charged.chargedSize_eq] at stepped
    exact machine.settle_of_move stepped
  | false =>
    simp only [absorbDataFrame_last room, conclude] at stepped
    exact machine.settle_of_move stepped

/-- Accepted data frames are absorbed as the cut says, and the engine goes on. -/
theorem settle_dataFrames {frames : List (Bool × Payload)} (charged : session.Charged)
    (bounded : ∀ frame ∈ frames, frame.2.len ≤ isizeMax)
    (accepted : (cut session.accepts session.pendingParts (receivedFrames frames)).refused = none)
    (rest : Bytes) :
    machine.settle session (dataWire frames ++ rest) =
      machine.settle (session.absorbed
        (cut session.accepts session.pendingParts (receivedFrames frames))) rest := by
  induction frames generalizing session with
  | nil =>
    have same : session.absorbed ⟨[], session.pendingParts, none⟩ = session := by
      have size_eq : chargeOf session.pendingParts = session.pendingSize := charged.symm
      simp [absorbed, withPending, size_eq]
    rw [receivedFrames, List.map_nil, cut, same]
    rfl
  | cons frame frames ih =>
    obtain ⟨more, payload⟩ := frame
    have bound : payload.len ≤ isizeMax := bounded (more, payload) (by simp)
    have rest_bounded : ∀ frame ∈ frames, frame.2.len ≤ isizeMax :=
      fun frame member => bounded frame (by simp [member])
    have wire_eq : dataWire ((more, payload) :: frames) ++ rest =
        encodeFrame ⟨dataFlags more, payload⟩ ++ (dataWire frames ++ rest) := by
      simp [dataWire]
    have frames_eq : receivedFrames ((more, payload) :: frames) =
        (more, payload.received) :: receivedFrames frames := rfl
    rw [frames_eq, cut] at accepted ⊢
    split_ifs at accepted ⊢ with fits continued
    · rw [wire_eq, settle_accepted ready charged more bound fits, if_pos continued]
      exact ih (ready.withPending _ _) rfl rest_bounded accepted
    · rw [wire_eq, settle_accepted ready charged more bound fits, if_neg continued,
        ih ((ready.withPending [] 0).withMessage _) rfl rest_bounded accepted, absorbed_withMessage]
      rfl

theorem settle_nil : machine.settle session [] = ⟨session, [], none⟩ := by
  refine machine.settle_of_stall ?_
  change step session [] = .stall
  simp only [step, ready.ready]
  rfl

end Engine

namespace Connection

/-- A ready plain connection between two messages, with every received byte decoded. -/
structure Idle (connection : Connection) : Prop extends connection.toSession.ReadyPlain where
  drained : connection.inBuf.bytes = []
  complete : connection.pendingParts = []
  uncharged : connection.pendingSize = 0

variable [CurvePrimitives]

theorem Idle.settled {connection : Connection} (idle : connection.Idle) : connection.Settled where
  receptive := ⟨idle.plain, .inr (.inr idle.ready)⟩
  charged := by
    change connection.pendingSize = chargeOf connection.pendingParts
    rw [idle.uncharged, idle.complete, chargeOf_nil]
  stalled := by
    change Engine.step _ _ = _
    simp only [Engine.step, idle.ready, idle.drained]
    rfl

/-- Accepted data frames, however they are cut into calls, leave an idle connection with the
messages and the open message of the cut. -/
theorem handleInputs_dataFrames {connection : Connection} (idle : connection.Idle)
    {frames : List (Bool × Payload)} (bounded : ∀ frame ∈ frames, frame.2.len ≤ isizeMax)
    (accepted : (cut connection.accepts [] (receivedFrames frames)).refused = none)
    {chunks : List Bytes} (chunks_eq : chunks.flatten = dataWire frames) :
    ∃ after, handleInputs chunks connection = .ok () after ∧ after.inBuf.bytes = [] ∧
      after.toSession = connection.toSession.absorbed
        (cut connection.accepts [] (receivedFrames frames)) := by
  obtain ⟨state_eq, error_eq, rest_eq⟩ := stopOf_handleInputs_settle idle.settled chunks
  rw [← idle.complete] at accepted ⊢
  have absorbed :=
    Engine.settle_dataFrames idle.toReadyPlain idle.settled.charged bounded accepted []
  have ready : (connection.toSession.absorbed (cut connection.accepts
      connection.pendingParts (receivedFrames frames))).ReadyPlain :=
    ⟨idle.ready, idle.clear, idle.plain⟩
  rw [List.append_nil, Engine.settle_nil ready] at absorbed
  rw [idle.drained, List.nil_append, chunks_eq, absorbed] at state_eq error_eq rest_eq
  cases result : handleInputs chunks connection with
  | error error after =>
    rw [result] at error_eq
    cases error_eq
  | ok value after =>
    rw [result] at state_eq rest_eq
    exact ⟨after, rfl, rest_eq rfl, state_eq⟩

end Connection

end Omq
