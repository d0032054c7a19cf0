import Omq.Proto.Connection.Effects
import Omq.Proto.Connection.Engine

/-!
# The connection refines the flat engine

Forgetting how the input is chunked, one turn of the drive loop is one decision of the flat
engine, `handle_input` settles the engine on the longer input, and a sequence of `handle_input`
calls feeds it.  The fast path for small messages agrees with the general path because the size
charged to the pending message is exact.
-/

namespace Omq

open Incremental Attempt Engine Session

namespace Connection

/-- A turn of the drive loop does what the engine decided; a stalled turn changes nothing. -/
def Realises (before : Connection) : EStateM.Result Error Connection Bool →
    Outcome Session UInt8 Error → Prop
  | .ok true after, outcome => outcome = .move after.toSession after.inBuf.bytes
  | .ok false after, outcome => outcome = .stall ∧ after = before
  | .error error after, outcome => outcome = .fail after.toSession after.inBuf.bytes error

theorem onSession_apply {α : Type} (method : SessionM α) (connection : Connection) :
    onSession method connection =
      match method connection.toSession with
      | .ok value session => .ok value { session with inBuf := connection.inBuf }
      | .error error session => .error error { session with inBuf := connection.inBuf } := rfl

@[simp]
theorem setInBuf_apply (inBuf : ChunkedInputBuf) (connection : Connection) :
    setInBuf inBuf connection = .ok () { connection with inBuf } := rfl

/-- Finishing a turn with a session method concludes the engine's decision. -/
theorem realises_onSession (before : Connection) (method : SessionM Unit)
    (connection : Connection) :
    Realises before ((do onSession method; return true) connection)
      (conclude (method connection.toSession) connection.inBuf.bytes) := by
  rw [run_bind, onSession_apply]
  cases method connection.toSession <;> rfl

variable {header : PeekedFrameHeader} {connection : Connection}

/-- A turn which takes a frame off the buffer and finishes as the engine's handler does. -/
theorem realises_decode {handle : Frame → SessionM Unit} {finish : Frame → ConnectionM Bool}
    (connection : Connection)
    (finish_realises : ∀ frame taken, Realises connection (finish frame taken)
      (conclude (handle frame taken.toSession) taken.inBuf.bytes))
    (found : flatHeader connection.inBuf.bytes = .ok (some header)) :
    Realises connection ((do
        match ← Attempt.ofExcept (tryDecodeFrame connection.inBuf) with
        | none => return false
        | some (frame, rest) => do
            setInBuf rest
            finish frame) connection)
      (match flatFrame connection.inBuf.bytes with
      | .ok (some (frame, rest)) => conclude (handle frame connection.toSession) rest
      | _ => .stall) := by
  have decoded := tryDecodeFrame_eq connection.inBuf
  have accepted := flatFrame_ne_error found
  rw [← decoded] at accepted ⊢
  rw [run_bind]
  cases result : tryDecodeFrame connection.inBuf with
  | error error =>
    rw [result] at accepted
    exact absurd rfl (accepted error)
  | ok decoded =>
    cases decoded with
    | none => exact ⟨rfl, rfl⟩
    | some pair => exact finish_realises pair.1 { connection with inBuf := pair.2 }

theorem checkDeclared_eq (connection : Connection) (header : PeekedFrameHeader) :
    connection.checkDeclared header =
      match refuseReady connection.toSession header with
      | some error => .error error
      | none => .ok () := by
  unfold checkDeclared refuseReady
  cases connection.exceedsMax (saturatingAdd header.payloadLen payloadSlot) <;> rfl

/-- The header of the fast path is the buffered header of a small final data frame. -/
theorem fastPathHeader_eq_some (fast : connection.fastPathHeader = .ok (some header)) :
    connection.transform = none ∧ connection.pendingParts = [] ∧
      flatHeader connection.inBuf.bytes = .ok (some header) ∧ header.flags = .last ∧
      header.payloadLen ≤ maxInlineMessage ∧
      header.headerLen + header.payloadLen ≤ connection.inBuf.bytes.length := by
  unfold fastPathHeader at fast
  rw [peekFrameHeader_eq, connection.inBuf.len_eq] at fast
  split at fast
  · cases fast
  next eligible =>
    split at fast
    · cases fast
    next found header_eq =>
      obtain ⟨plain, empty⟩ := not_or.mp eligible
      cases found with
      | none => simp [Option.filter] at fast
      | some parsed =>
        obtain ⟨⟨more, command⟩, headerLen, payloadLen⟩ := parsed
        simp [Option.filter] at fast
        obtain ⟨⟨⟨⟨rfl, rfl⟩, small⟩, enough⟩, rfl⟩ := fast
        simp [hasFrameTransform] at plain
        exact ⟨plain, by simpa using empty, header_eq, rfl, small, enough⟩

variable [CurvePrimitives]

theorem tryAdvanceGreeting_realises (connection : Connection) :
    Realises connection (tryAdvanceGreeting connection)
      (greetingStep connection.toSession connection.inBuf.bytes) := by
  have decoded := Greeting.tryDecode_eq connection.inBuf
  unfold tryAdvanceGreeting greetingStep
  rw [← decoded]
  simp only [run_bind, run_get]
  cases Greeting.tryDecode connection.inBuf with
  | incomplete => exact ⟨rfl, rfl⟩
  | refused error => rfl
  | consumed result rest =>
    cases result with
    | error error => rfl
    | ok greeting => exact realises_onSession connection _ { connection with inBuf := rest }

theorem tryAdvanceMechanism_realises (connection : Connection) :
    Realises connection (tryAdvanceMechanism connection)
      (frameStep refuseHandshake handleHandshake connection.toSession connection.inBuf.bytes) := by
  unfold tryAdvanceMechanism frameStep
  rw [run_bind, run_get]
  simp only [peekFrameHeader_eq]
  cases found : flatHeader connection.inBuf.bytes with
  | error error => rfl
  | ok header =>
    cases header with
    | none =>
      have undecoded : tryDecodeFrame connection.inBuf = .ok none := by
        simp [tryDecodeFrame, peekFrameHeader_eq, found, bind, Except.bind]
      rw [undecoded]
      exact ⟨rfl, rfl⟩
    | some header =>
      rw [run_bind, run_ofExcept_ok]
      by_cases large : maxHandshakeCommand < header.payloadLen
      · simp [refuseHandshake, Option.filter, large, Realises]
      · simp only [refuseHandshake, Option.filter, large, decide_false, if_false,
          Bool.false_eq_true]
        refine realises_decode connection ?_ found
        intro frame taken
        cases command : frame.flags.command with
        | false => simp [handleHandshake, command, conclude, Realises]
        | true =>
          simp only [handleHandshake, command, Bool.not_true, Bool.false_eq_true, if_false, if_true]
          exact realises_onSession connection _ taken

/-- Without a pending message, a small final data frame is delivered inline and nothing else. -/
theorem handleReady_inline {session : Session} (charged : session.Charged)
    (plain : session.transform = none) (empty : session.pendingParts = []) {payload : Payload}
    (small : payload.len ≤ maxInlineMessage)
    (fits : session.exceedsMax (saturatingAdd payload.len payloadSlot) = none) :
    handleReady ⟨.last, payload⟩ session =
      .ok () (session.withMessage (Message.fromInline payload.asSlice)) := by
  have size_zero := charged.pendingSize_eq_zero empty
  have size_eq : session.chargedSize payload = saturatingAdd payload.len payloadSlot := by
    simp [chargedSize, saturatingAdd, size_zero]
  have same : session.withPending [] 0 = session := by
    rw [← size_zero, ← empty]
    rfl
  have message_eq : assembled [] payload = Message.fromInline payload.asSlice := by
    simp [assembled, small]
  have absorbed := absorbDataFrame_last (size_eq ▸ fits)
  rw [same, empty, message_eq] at absorbed
  simp only [handleReady, decodeAssembledFrame, run_bind, run_get, plain]
  exact absorbed

theorem deliverInline_realises (charged : connection.toSession.Charged)
    (fast : connection.fastPathHeader = .ok (some header)) :
    Realises connection (deliverInline header connection)
      (frameStep (refuseReady connection.toSession) handleReady
        connection.toSession connection.inBuf.bytes) := by
  obtain ⟨plain, empty, found, last, small, enough⟩ := fastPathHeader_eq_some fast
  let data := (connection.inBuf.bytes.drop header.headerLen).take header.payloadLen
  have whole : flatFrame connection.inBuf.bytes = .ok (some (⟨.last, .fromSlice data⟩,
      (connection.inBuf.bytes.drop header.headerLen).drop header.payloadLen)) :=
    flatFrame_eq_some_iff.mpr ⟨header, found, enough, by rw [last], rfl⟩
  have length_eq : (Payload.fromSlice data).len = header.payloadLen := by
    rw [← Payload.length_asSlice, Payload.asSlice_fromSlice, List.length_take, List.length_drop]
    omega
  unfold deliverInline frameStep
  simp only [run_bind, run_get, checkDeclared_eq, found, whole]
  cases refused : refuseReady connection.toSession header with
  | some error => rfl
  | none =>
    have fits : connection.exceedsMax (saturatingAdd header.payloadLen payloadSlot) = none := by
      simpa [refuseReady] using refused
    rw [← length_eq] at fits small
    have delivered := handleReady_inline charged plain empty small fits
    simp only [delivered, Payload.asSlice_fromSlice]
    simp [Realises, conclude, onSession_apply, deliver, data]

theorem assembleFrame_realises (connection : Connection) :
    Realises connection (assembleFrame connection)
      (frameStep (refuseReady connection.toSession) handleReady
        connection.toSession connection.inBuf.bytes) := by
  unfold assembleFrame frameStep checkNextFrame
  rw [run_bind, run_get]
  simp only [peekFrameHeader_eq, checkDeclared_eq]
  rw [run_bind]
  cases found : flatHeader connection.inBuf.bytes with
  | error error =>
    have undecoded : tryDecodeFrame connection.inBuf = .error error := by
      simp [tryDecodeFrame, peekFrameHeader_eq, found, bind, Except.bind]
    by_cases unlimited : connection.config.maxMessageSize.isNone = true <;>
      simp [unlimited, undecoded, Realises]
  | ok header =>
    cases header with
    | none =>
      have undecoded : tryDecodeFrame connection.inBuf = .ok none := by
        simp [tryDecodeFrame, peekFrameHeader_eq, found, bind, Except.bind]
      by_cases unlimited : connection.config.maxMessageSize.isNone = true <;>
        simp [unlimited, undecoded, Realises]
    | some header =>
      cases refused : refuseReady connection.toSession header with
      | some error =>
        have limited : connection.config.maxMessageSize.isNone = false := by
          cases limit : connection.config.maxMessageSize with
          | none => simp [refuseReady, exceedsMax, limit] at refused
          | some max => rfl
        simp [limited, Realises, refused]
      | none =>
        have accepted : (if connection.config.maxMessageSize.isNone = true then
            (.ok () : Except Error Unit) else .ok ()) = .ok () := ite_self _
        simp only [refused, accepted, run_ofExcept_ok]
        refine realises_decode connection ?_ found
        exact fun frame taken => realises_onSession connection _ taken

theorem tryAdvanceReady_realises (connection : Connection)
    (charged : connection.toSession.Charged) :
    Realises connection (tryAdvanceReady connection)
      (frameStep (refuseReady connection.toSession) handleReady
        connection.toSession connection.inBuf.bytes) := by
  unfold tryAdvanceReady
  simp only [run_bind, run_get]
  cases fast : connection.fastPathHeader with
  | error error =>
    have refused : flatHeader connection.inBuf.bytes = .error error := by
      unfold fastPathHeader at fast
      rw [peekFrameHeader_eq] at fast
      split at fast
      · cases fast
      · split at fast
        next parse_error => cases fast; exact parse_error
        · cases fast
    rw [frameStep, refused]
    rfl
  | ok eligible =>
    cases eligible with
    | some header => exact deliverInline_realises charged fast
    | none => exact assembleFrame_realises connection

/-- Every turn of the drive loop is one decision of the engine. -/
theorem tryAdvance_realises (connection : Connection) (charged : connection.toSession.Charged) :
    Realises connection (tryAdvance connection)
      (step connection.toSession connection.inBuf.bytes) := by
  unfold tryAdvance step
  simp only [run_bind, run_get]
  cases connection.state with
  | awaitingGreeting => exact tryAdvanceGreeting_realises connection
  | mechanismHandshake => exact tryAdvanceMechanism_realises connection
  | ready => exact tryAdvanceReady_realises connection charged
  | awaitingSuppliedPayload flags payloadLen => exact ⟨rfl, rfl⟩
  | closed => exact ⟨rfl, rfl⟩

end Connection

end Omq
