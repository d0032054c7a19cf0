import Omq.Library.Incremental
import Omq.Proto.Connection.Inbound

/-!
# The flat engine

The plain ZMTP side of a connection as an incremental machine over a flat byte string: a greeting,
then frames, each handed to the session.  It has no chunks, no fast path and no drive loop.
-/

namespace Omq

open Incremental Greeting

namespace Engine

/-- The outcome of a session method applied to a frame which leaves `rest` unread. -/
def conclude (result : EStateM.Result Error Session Unit) (rest : Bytes) :
    Outcome Session UInt8 Error :=
  match result with
  | .ok _ session => .move session rest
  | .error error session => .fail session rest error

theorem extend_conclude (result : EStateM.Result Error Session Unit) (rest more : Bytes) :
    (conclude result rest).extend more = conclude result (rest ++ more) := by
  cases result <;> rfl

/-- Take one frame off the input: refuse it by its header or handle it when it is complete. -/
def frameStep (refuse : PeekedFrameHeader → Option Error) (handle : Frame → SessionM Unit)
    (session : Session) (bytes : Bytes) : Outcome Session UInt8 Error :=
  match flatHeader bytes with
  | .error error => .fail session bytes error
  | .ok none => .stall
  | .ok (some header) =>
    match refuse header with
    | some error => .fail session bytes error
    | none =>
      match flatFrame bytes with
      | .ok (some (frame, rest)) => conclude (handle frame session) rest
      | _ => .stall

/-- The refusal of an oversized handshake command. -/
def refuseHandshake (header : PeekedFrameHeader) : Option Error :=
  if maxHandshakeCommand < header.payloadLen then
    some (.handshakeFailed ("handshake command frame too large: " ++
      toString header.payloadLen ++ " bytes (max " ++ toString maxHandshakeCommand ++ ")"))
  else none

/-- The refusal of a data-phase frame whose declared size alone exceeds the limit. -/
def refuseReady (session : Session) (header : PeekedFrameHeader) : Option Error :=
  (session.exceedsMax (saturatingAdd header.payloadLen payloadSlot)).map
    fun max => .messageTooLarge header.payloadLen max

theorem frameStep_append (refuse : PeekedFrameHeader → Option Error)
    (handle : Frame → SessionM Unit) (session : Session) (bytes more : Bytes)
    (decided : frameStep refuse handle session bytes ≠ .stall) :
    frameStep refuse handle session (bytes ++ more) =
      (frameStep refuse handle session bytes).extend more := by
  have header_decided : flatHeader bytes ≠ .ok none := by
    intro undecided
    simp [frameStep, undecided] at decided
  unfold frameStep at decided ⊢
  rw [flatHeader_append header_decided]
  cases header_eq : flatHeader bytes with
  | error error => rfl
  | ok found =>
    cases found with
    | none => exact absurd header_eq header_decided
    | some header =>
      simp only [header_eq] at decided ⊢
      cases refused : refuse header with
      | some error => rfl
      | none =>
        simp only [refused] at decided ⊢
        split at decided
        next frame rest frame_eq =>
          rw [flatFrame_append frame_eq more]
          exact (extend_conclude _ _ _).symm
        · exact absurd rfl decided

variable {rest bytes : Bytes} {after session : Session} {refuse : PeekedFrameHeader → Option Error}
  {handle : Frame → SessionM Unit}

theorem conclude_eq_move {result : EStateM.Result Error Session Unit} {input : Bytes}
    (moved : conclude result rest = .move after input) : result = .ok () after ∧ input = rest := by
  cases result with
  | ok value session => cases moved; exact ⟨rfl, rfl⟩
  | error error session => cases moved

theorem frameStep_eq_move (moved : frameStep refuse handle session bytes = .move after rest) :
    ∃ frame, flatFrame bytes = .ok (some (frame, rest)) ∧ handle frame session = .ok () after := by
  revert moved
  fun_cases frameStep refuse handle session bytes <;> intro moved
  case case4 frame unread frame_eq =>
    obtain ⟨handled, rfl⟩ := conclude_eq_move moved
    exact ⟨frame, frame_eq, handled⟩
  all_goals cases moved

theorem frameStep_shorter (moved : frameStep refuse handle session bytes = .move after rest) :
    rest.length < bytes.length := by
  obtain ⟨frame, frame_eq, _⟩ := frameStep_eq_move moved
  exact flatFrame_length_lt frame_eq

variable [CurvePrimitives]

/-- Take the greeting off the input. -/
def greetingStep (session : Session) (bytes : Bytes) : Outcome Session UInt8 Error :=
  match flatDecode bytes with
  | .incomplete => .stall
  | .refused error => .fail session bytes error
  | .consumed (.error error) rest => .fail session rest error
  | .consumed (.ok greeting) rest =>
    conclude (Session.acceptGreeting greeting (bytes.take greetingLen) session) rest

def handleHandshake (frame : Frame) : SessionM Unit :=
  if frame.flags.command then Session.processMechanismCommand frame.payload.asSlice
  else throw (.handshakeFailed "peer sent data frame during handshake")

def handleReady (frame : Frame) : SessionM Unit :=
  Session.decodeAssembledFrame frame.flags frame.payload

def step (session : Session) (bytes : Bytes) : Outcome Session UInt8 Error :=
  match session.state with
  | .awaitingGreeting => greetingStep session bytes
  | .mechanismHandshake => frameStep refuseHandshake handleHandshake session bytes
  | .ready => frameStep (refuseReady session) handleReady session bytes
  | .awaitingSuppliedPayload _ _ => .stall
  | .closed => .stall

theorem greetingStep_append (session : Session) (bytes more : Bytes)
    (decided : greetingStep session bytes ≠ .stall) :
    greetingStep session (bytes ++ more) = (greetingStep session bytes).extend more := by
  have greeting_decided : flatDecode bytes ≠ .incomplete := by
    intro undecided
    simp [greetingStep, undecided] at decided
  unfold greetingStep
  rw [flatDecode_append greeting_decided]
  cases decoded : flatDecode bytes with
  | incomplete => exact absurd decoded greeting_decided
  | refused error => rfl
  | consumed result rest =>
    cases result with
    | error error => rfl
    | ok greeting =>
      have whole := length_of_consumed decoded
      simp only [Greeting.Decoded.map]
      rw [List.take_append_of_le_length whole, extend_conclude]

theorem greetingStep_eq_move (moved : greetingStep session bytes = .move after rest) :
    ∃ greeting, flatDecode bytes = .consumed (.ok greeting) rest ∧
      Session.acceptGreeting greeting (bytes.take greetingLen) session = .ok () after := by
  revert moved
  fun_cases greetingStep session bytes <;> intro moved
  case case4 greeting unread decoded =>
    obtain ⟨accepted, rfl⟩ := conclude_eq_move moved
    exact ⟨greeting, decoded, accepted⟩
  all_goals cases moved

theorem step_shorter (moved : step session bytes = .move after rest) :
    rest.length < bytes.length := by
  unfold step at moved
  split at moved
  · obtain ⟨greeting, decoded, _⟩ := greetingStep_eq_move moved
    have whole := length_of_consumed decoded
    rw [rest_of_consumed decoded, List.length_drop]
    simp only [greetingLen] at *
    omega
  · exact frameStep_shorter moved
  · exact frameStep_shorter moved
  · cases moved
  · cases moved

def machine : Machine Session UInt8 Error where
  step := step
  step_append := by
    intro session bytes more decided
    unfold step at decided ⊢
    split
    next phase =>
      rw [phase] at decided
      exact greetingStep_append session bytes more decided
    next phase =>
      rw [phase] at decided
      exact frameStep_append _ _ session bytes more decided
    next phase =>
      rw [phase] at decided
      exact frameStep_append _ _ session bytes more decided
    · rfl
    · rfl
  move_shorter := step_shorter

/-- A complete command frame of the handshake goes to the mechanism. -/
theorem step_command {frame : Frame} (negotiating : session.state = .mechanismHandshake)
    (is_command : frame.flags.command = true) (framed : flatFrame bytes = .ok (some (frame, rest)))
    (fits : frame.payload.asSlice.length ≤ maxHandshakeCommand) :
    machine.step session bytes =
      conclude (Session.processMechanismCommand frame.payload.asSlice session) rest := by
  obtain ⟨header, header_eq, enough, frame_eq, -⟩ := flatFrame_eq_some_iff.mp framed
  have within : ¬maxHandshakeCommand < header.payloadLen := by
    rw [frame_eq, Payload.asSlice_fromSlice, List.length_take, List.length_drop] at fits
    omega
  show step session bytes = _
  rw [step, negotiating]
  dsimp only
  rw [frameStep, header_eq]
  dsimp only
  rw [refuseHandshake, if_neg within, framed]
  dsimp only
  rw [handleHandshake, if_pos is_command]

end Engine

end Omq
