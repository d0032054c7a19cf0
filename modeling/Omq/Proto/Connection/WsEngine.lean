import Omq.Proto.Connection.Feed
import Omq.Proto.WsFrame

/-!
# The flat WebSocket engine

The WebSocket side of a connection as an incremental machine over a flat byte string: one decision
takes one frame off the input, by the inline path or by the general path as the code chooses
between them.  A close frame ends the input.  `stopOf_handleInputs_ws` reduces any sequence of
`handle_input` calls to one settling of the machine.
-/

namespace Omq

open Incremental Attempt List ChunkedInputBuf

def WsRole.peer : WsRole → WsRole
  | .client => .server
  | .server => .client

@[simp]
theorem WsRole.peer_peer (role : WsRole) : role.peer.peer = role := by
  cases role <;> rfl

namespace WsEngine

open Connection Engine

variable [CurvePrimitives]

def handleFrame (header : WsFrameHeader) (raw : Bytes) : SessionM Unit :=
  match header.opcode with
  | .binary | .continuation => handleWsDataFrame raw header
  | .close => modify fun session => handleWsClose session raw
  | .ping => modify fun session => session.queueWsPong raw
  | .pong => pure ()

def unmask (header : WsFrameHeader) (payload : Bytes) : Bytes :=
  if header.masked then applyMask payload header.maskKey else payload

variable (peerRole : WsRole) (session : Session) (bytes : Bytes)

/-- The general path: refuse a frame by its header or handle it when it is complete. -/
def frameStep : Outcome Session UInt8 Error :=
  match flatWsHeader bytes peerRole with
  | .error error => .fail session bytes error
  | .ok none => .stall
  | .ok (some header) =>
    match checkWsFrame session header with
    | .error error => .fail session bytes error
    | .ok () =>
      if bytes.length < header.headerLen + header.payloadLen then .stall
      else
        let body := bytes.drop header.headerLen
        conclude (handleFrame header (unmask header (body.take header.payloadLen)) session)
          (body.drop header.payloadLen)

/-- The session is in a state in which small messages are delivered inline. -/
def TakesInline : Prop :=
  session.state = .ready ∧ session.transform = none ∧ session.pendingParts = []

instance (session : Session) : Decidable (TakesInline session) :=
  decidable_of_iff
    (session.state = .ready ∧ session.hasFrameTransform = false ∧ session.pendingParts = [])
    (by simp [TakesInline, Session.hasFrameTransform])

/-- The first two bytes announce a small final binary frame. -/
def isInline : Bytes → Bool
  | first :: second :: _ =>
    first = 0x82 && decide (peerRole = .client) == decide (second &&& 0x80 ≠ 0) &&
      1 ≤ (second &&& 0x7F).toNat && (second &&& 0x7F).toNat ≤ maxInlineMessage + 1
  | _ => false

def declared : Bytes → Nat
  | _ :: second :: _ => (second &&& 0x7F).toNat
  | _ => 0

def inlineHeaderLen : Nat := if peerRole = .client then 6 else 2

def inlineMask : Bytes :=
  if peerRole = .client then (bytes.take 6).drop 2 else [0, 0, 0, 0]

/-- Act on the flag byte and the body behind the header of a small message. -/
def inlineDeliver (mask : Bytes) (bodyLen : Nat) (session : Session) :
    Bytes → Outcome Session UInt8 Error
  | [] => .stall
  | rawFlag :: body =>
    let flag := rawFlag ^^^ if peerRole = .client then mask.getD 0 0 else 0
    let raw := body.take bodyLen
    let rest := body.drop bodyLen
    if flag ≠ 0 then
      match zwsToFlags flag with
      | .error error => .fail session body error
      | .ok flags =>
        conclude (dispatchWsBinary flags (if peerRole = .client then
          .fromBytes (applyMaskOffset raw mask 1) else .fromSlice raw) session) rest
    else
      .move (session.withMessage (.fromInline (if peerRole = .client then
        applyMaskOffset raw mask 1 else raw))) rest

/-- The inline path: deliver a small message as soon as it is complete. -/
def inlineStep : Outcome Session UInt8 Error :=
  let length := declared bytes
  if bytes.length < inlineHeaderLen peerRole + length then .stall
  else
    match session.exceedsMax (saturatingAdd (length - 1) payloadSlot) with
    | some max => .fail session bytes (.messageTooLarge (length - 1) max)
    | none => inlineDeliver peerRole (inlineMask peerRole bytes) (length - 1) session
        (bytes.drop (inlineHeaderLen peerRole))

def step : Outcome Session UInt8 Error :=
  if session.state = .closed then .stall
  else if TakesInline session ∧ isInline peerRole bytes then inlineStep peerRole session bytes
  else frameStep peerRole session bytes

/-! ## The machine -/

theorem frameStep_append (bytes more : Bytes)
    (decided : frameStep peerRole session bytes ≠ .stall) :
    frameStep peerRole session (bytes ++ more) =
      (frameStep peerRole session bytes).extend more := by
  have header_decided : flatWsHeader bytes peerRole ≠ .ok none := by
    intro undecided
    simp [frameStep, undecided] at decided
  unfold frameStep at decided ⊢
  rw [flatWsHeader_append header_decided]
  cases header_eq : flatWsHeader bytes peerRole with
  | error error => rfl
  | ok found =>
    cases found with
    | none => exact absurd header_eq header_decided
    | some header =>
      have head_bound := (flatWsHeader_bounds header_eq).2
      simp only [header_eq] at decided ⊢
      cases checked : checkWsFrame session header with
      | error error => rfl
      | ok accepted =>
        simp only [checked] at decided ⊢
        have whole : ¬bytes.length < header.headerLen + header.payloadLen :=
          fun short => decided (if_pos short)
        have payload_bound : header.payloadLen ≤ (bytes.drop header.headerLen).length := by
          rw [length_drop]
          omega
        rw [if_neg whole, if_neg (by rw [length_append]; omega), extend_conclude,
          drop_append_of_le_length head_bound, take_append_of_le_length payload_bound,
          drop_append_of_le_length payload_bound]

variable {peerRole : WsRole} {session : Session} {after : Session} {bytes rest : Bytes}

/-- A move of the general path handled one complete frame. -/
theorem frameStep_eq_move (moved : frameStep peerRole session bytes = .move after rest) :
    ∃ header, flatWsHeader bytes peerRole = .ok (some header) ∧
      header.headerLen + header.payloadLen ≤ bytes.length ∧
      rest = (bytes.drop header.headerLen).drop header.payloadLen ∧
      ∃ raw, handleFrame header raw session = .ok () after := by
  revert moved
  fun_cases frameStep peerRole session bytes <;> intro moved
  case case5 header found _ whole _ =>
    obtain ⟨handled, rest_eq⟩ := conclude_eq_move moved
    exact ⟨header, found, Nat.not_lt.mp whole, rest_eq, _, handled⟩
  all_goals cases moved

omit [CurvePrimitives] in
theorem isInline_eq_true (inline : isInline peerRole bytes = true) :
    ∃ second rest, bytes = 0x82 :: second :: rest ∧
      decide (peerRole = .client) = decide (second &&& 0x80 ≠ 0) ∧
      declared bytes = (second &&& 0x7F).toNat ∧
      1 ≤ declared bytes ∧ declared bytes ≤ maxInlineMessage + 1 := by
  match bytes with
  | [] => cases inline
  | [byte] => cases inline
  | first :: second :: rest =>
    simp only [isInline, Bool.and_eq_true, decide_eq_true_eq, beq_iff_eq] at inline
    obtain ⟨⟨⟨rfl, mask_bit⟩, nonempty⟩, small⟩ := inline
    exact ⟨second, rest, rfl, mask_bit, rfl, nonempty, small⟩

omit [CurvePrimitives] in
theorem isInline_append (long : 2 ≤ bytes.length) (more : Bytes) :
    isInline peerRole (bytes ++ more) = isInline peerRole bytes := by
  match bytes with
  | [] => simp at long
  | [byte] => simp at long
  | first :: second :: rest => rfl

theorem inlineDeliver_append {mask : Bytes} {bodyLen : Nat} {flagged : Bytes}
    (whole : bodyLen < flagged.length) (more : Bytes) :
    inlineDeliver peerRole mask bodyLen session (flagged ++ more) =
      (inlineDeliver peerRole mask bodyLen session flagged).extend more := by
  cases flagged with
  | nil => simp at whole
  | cons rawFlag body =>
    have enough : bodyLen ≤ body.length := Nat.lt_succ_iff.mp whole
    simp only [cons_append, inlineDeliver]
    rw [take_append_of_le_length enough, drop_append_of_le_length enough]
    generalize (rawFlag ^^^ if peerRole = .client then mask.getD 0 0 else 0) = flag
    by_cases final : flag = 0
    · simp only [final, ne_eq, not_true_eq_false, if_false]
      rfl
    · simp only [final, ne_eq, not_false_eq_true, if_true]
      cases zwsToFlags flag with
      | error error => rfl
      | ok flags => exact (extend_conclude _ _ _).symm

/-- The inline path is entered by the first two bytes alone. -/
theorem inlineStep_append (inline : isInline peerRole bytes = true) (more : Bytes)
    (decided : inlineStep peerRole session bytes ≠ .stall) :
    inlineStep peerRole session (bytes ++ more) =
      (inlineStep peerRole session bytes).extend more := by
  obtain ⟨second, tail, bytes_eq, _, _, nonempty, _⟩ := isInline_eq_true inline
  have declared_append : declared (bytes ++ more) = declared bytes := by rw [bytes_eq]; rfl
  have whole : ¬bytes.length < inlineHeaderLen peerRole + declared bytes := by
    intro short
    simp only [inlineStep, if_pos short] at decided
    exact decided rfl
  have mask_eq : inlineMask peerRole (bytes ++ more) = inlineMask peerRole bytes := by
    unfold inlineMask
    split
    next client =>
      simp only [inlineHeaderLen, client, if_true] at whole
      rw [take_append_of_le_length (by omega)]
    · rfl
  simp only [inlineStep, declared_append, mask_eq]
  rw [if_neg whole, if_neg (by rw [length_append]; omega)]
  cases session.exceedsMax (saturatingAdd (declared bytes - 1) payloadSlot) with
  | some max => rfl
  | none =>
    simp only
    rw [drop_append_of_le_length (by omega), inlineDeliver_append (by rw [length_drop]; omega)]

/-- A move of the inline path dispatched the body or delivered it. -/
theorem inlineDeliver_eq_move {mask input : Bytes} {bodyLen : Nat}
    (moved : inlineDeliver peerRole mask bodyLen session input = .move after rest) :
    ∃ rawFlag body, input = rawFlag :: body ∧ rest = body.drop bodyLen ∧
      ((∃ flags payload, dispatchWsBinary flags payload session = .ok () after) ∨
        ∃ message, after = session.withMessage message) := by
  revert moved
  fun_cases inlineDeliver peerRole mask bodyLen session input <;> intro moved
  case case3 rawFlag body _ _ _ _ flags _ =>
    obtain ⟨dispatched, rest_eq⟩ := conclude_eq_move moved
    exact ⟨rawFlag, body, rfl, rest_eq, .inl ⟨flags, _, dispatched⟩⟩
  case case4 rawFlag body _ _ _ _ =>
    obtain ⟨after_eq, rest_eq⟩ := Outcome.move.inj moved
    exact ⟨rawFlag, body, rfl, rest_eq.symm, .inr ⟨_, after_eq.symm⟩⟩
  all_goals cases moved

theorem inlineStep_shorter (moved : inlineStep peerRole session bytes = .move after rest) :
    rest.length < bytes.length := by
  have header_pos : 2 ≤ inlineHeaderLen peerRole := by cases peerRole <;> decide
  simp only [inlineStep] at moved
  split at moved
  · cases moved
  split at moved
  · cases moved
  · obtain ⟨rawFlag, body, flagged_eq, rfl, _⟩ := inlineDeliver_eq_move moved
    have length_eq := congrArg List.length flagged_eq
    rw [length_drop, length_cons] at length_eq
    rw [length_drop]
    omega

theorem frameStep_of_short (short : bytes.length < 2) :
    frameStep peerRole session bytes = .stall := by
  match bytes with
  | [] => rfl
  | [byte] => rfl
  | first :: second :: rest => simp at short

theorem step_of_short (short : bytes.length < 2) : step peerRole session bytes = .stall := by
  have general : isInline peerRole bytes = false := by
    match bytes with
    | [] => rfl
    | [byte] => rfl
    | first :: second :: rest => simp at short
  simp [step, general, frameStep_of_short short]

theorem step_append (peerRole : WsRole) (session : Session) (bytes more : Bytes)
    (decided : step peerRole session bytes ≠ .stall) :
    step peerRole session (bytes ++ more) = (step peerRole session bytes).extend more := by
  have long : 2 ≤ bytes.length := by
    by_contra short
    exact decided (step_of_short (Nat.not_le.mp short))
  unfold step at decided ⊢
  rw [isInline_append long]
  split
  · rfl
  next opened =>
  rw [if_neg opened] at decided
  split
  next inline =>
    rw [if_pos inline] at decided
    exact inlineStep_append inline.2 more decided
  next general =>
    rw [if_neg general] at decided
    exact frameStep_append peerRole session bytes more decided

theorem step_shorter (moved : step peerRole session bytes = .move after rest) :
    rest.length < bytes.length := by
  unfold step at moved
  split at moved
  · cases moved
  · split at moved
    · exact inlineStep_shorter moved
    · obtain ⟨header, found, whole, rfl, _⟩ := frameStep_eq_move moved
      have head_pos := (flatWsHeader_bounds found).1
      rw [length_drop, length_drop]
      omega

def machine (peerRole : WsRole) : Machine Session UInt8 Error where
  step := step peerRole
  step_append := step_append peerRole
  move_shorter := step_shorter

end WsEngine

/-! ## The connection refines the machine -/

namespace Connection

open Engine WsEngine

/-- A turn of the drive loop does what the engine decided.  A turn which ends the loop changed
nothing, or it closed the connection. -/
def WsRealises (before : Connection) : EStateM.Result Error Connection Bool →
    Outcome Session UInt8 Error → Prop
  | .ok true after, outcome => outcome = .move after.toSession after.inBuf.bytes
  | .ok false after, outcome => (outcome = .stall ∧ after = before) ∨
      (outcome = .move after.toSession after.inBuf.bytes ∧ after.state = .closed)
  | .error error after, outcome => outcome = .fail after.toSession after.inBuf.bytes error

/-- Finishing a turn with a session method concludes the engine's decision. -/
theorem wsRealises_onSession (before : Connection) (method : SessionM Unit)
    (connection : Connection) :
    WsRealises before ((do onSession method; return true) connection)
      (conclude (method connection.toSession) connection.inBuf.bytes) := by
  rw [run_bind, onSession_apply]
  cases method connection.toSession <;> rfl

/-- The check of the code on the first two bytes. -/
theorem isInline_cons_cons (peerRole : WsRole) (first second : UInt8) (rest : Bytes) :
    isInline peerRole (first :: second :: rest) = false ↔
      first ≠ 0x82 ∨ decide (peerRole = .client) ≠ decide (second &&& 0x80 ≠ 0) ∨
        126 ≤ (second &&& 0x7F).toNat ∨ (second &&& 0x7F).toNat = 0 ∨
        maxInlineMessage < (second &&& 0x7F).toNat - 1 := by
  have limit : maxInlineMessage = 55 := rfl
  by_cases opcode : first = 0x82
  · by_cases mask_bit : decide (peerRole = .client) = decide (second &&& 0x80 ≠ 0)
    · simp only [isInline, opcode, mask_bit, limit, decide_true, beq_self_eq_true, Bool.true_and,
        Bool.and_eq_false_iff, decide_eq_false_iff_not, ne_eq, not_true_eq_false, false_or]
      omega
    · refine ⟨fun _ => .inr (.inl mask_bit), fun _ => ?_⟩
      simp only [isInline, beq_eq_false_iff_ne.mpr mask_bit, Bool.and_false, Bool.false_and]
  · simp [isInline, opcode]

variable [CurvePrimitives] {connection : Connection} {peerRole : WsRole}

/-- The inline path takes a frame off the buffer as the engine does. -/
theorem tryAdvanceReadyWs_realises (inline : isInline peerRole connection.inBuf.bytes = true) :
    WsRealises connection ((do
        match ← tryAdvanceReadyWs peerRole with
        | some progress => return progress
        | none => tryAdvanceWsFrame peerRole) connection)
      (inlineStep peerRole connection.toSession connection.inBuf.bytes) := by
  obtain ⟨second, tail, bytes_eq, mask_bit, length_eq, nonempty, small⟩ := isInline_eq_true inline
  have accepted : ¬((0x82 : UInt8) ≠ 0x82 ∨ decide (peerRole = .client) ≠
      decide (second &&& 0x80 ≠ 0) ∨ 126 ≤ (second &&& 0x7F).toNat ∨
      (second &&& 0x7F).toNat = 0 ∨ maxInlineMessage < (second &&& 0x7F).toNat - 1) := by
    rw [← isInline_cons_cons peerRole 0x82 second tail, ← bytes_eq, inline]
    decide
  have firstTwo : connection.inBuf.peekArray 2 = some [0x82, second] := by
    rw [connection.inBuf.peekArray_eq, bytes_eq]
    simp
  have header_eq : (if peerRole = .client then 6 else 2) = inlineHeaderLen peerRole := rfl
  unfold tryAdvanceReadyWs
  simp only [run_bind, run_get, firstTwo, getD_cons_zero,
    getD_cons_succ, if_neg accepted, connection.inBuf.len_eq]
  simp only [decide_eq_true_eq, ← length_eq, header_eq]
  by_cases short : connection.inBuf.bytes.length <
      inlineHeaderLen peerRole + declared connection.inBuf.bytes
  · simp only [inlineStep, if_pos short]
    exact .inl ⟨rfl, rfl⟩
  have mask_eq : (if peerRole = .client then ((connection.inBuf.peekArray 6).getD []).drop 2
      else [0, 0, 0, 0]) = inlineMask peerRole connection.inBuf.bytes := by
    unfold inlineMask
    split
    next client =>
      simp only [inlineHeaderLen, client, if_true] at short
      rw [connection.inBuf.peekArray_eq, if_neg (by omega)]
      rfl
    · rfl
  simp only [inlineStep, if_neg short, mask_eq]
  cases connection.exceedsMax (saturatingAdd (declared connection.inBuf.bytes - 1) payloadSlot) with
  | some max => rfl
  | none =>
    obtain ⟨rawFlag, body, flagged_eq⟩ : ∃ rawFlag body,
        connection.inBuf.bytes.drop (inlineHeaderLen peerRole) = rawFlag :: body := by
      refine exists_cons_of_length_pos ?_
      rw [length_drop]
      omega
    have head_eq : ((connection.inBuf.advance (inlineHeaderLen peerRole)).readInto 1).1 =
        [rawFlag] := by
      rw [readInto_fst, bytes_advance, flagged_eq]
      rfl
    have body_eq : ((connection.inBuf.advance (inlineHeaderLen peerRole)).readInto 1).2.bytes =
        body := by
      rw [bytes_readInto, bytes_advance, flagged_eq]
      rfl
    simp only [flagged_eq, inlineDeliver, run_bind, setInBuf_apply, head_eq, headD_cons]
    generalize (connection.inBuf.advance (inlineHeaderLen peerRole)).readInto 1 = taken at *
    generalize (rawFlag ^^^ if peerRole = .client then
      (inlineMask peerRole connection.inBuf.bytes).getD 0 0 else 0) = flag
    by_cases final : flag = 0
    · simp only [final, ne_eq, not_true_eq_false, if_false]
      simp [WsRealises, onSession_apply, Session.deliver, body_eq]
    · simp only [final, ne_eq, not_false_eq_true, if_true]
      cases zwsToFlags flag with
      | error error => simp [WsRealises, body_eq]
      | ok flags =>
        simp only [run_bind, run_ofExcept_ok, setInBuf_apply, onSession_apply,
          splitTo_fst, Payload.asSlice_fromSlice, body_eq]
        generalize dispatchWsBinary flags _ connection.toSession = result
        cases result with
        | ok value after => simp [WsRealises, conclude, body_eq]
        | error error after => simp [WsRealises, conclude, body_eq]

theorem tryAdvanceReadyWs_of_short (short : connection.inBuf.bytes.length < 2) :
    tryAdvanceReadyWs peerRole connection = .ok (some false) connection := by
  have missing : connection.inBuf.peekArray 2 = none := by
    rw [connection.inBuf.peekArray_eq, if_pos short]
  simp [tryAdvanceReadyWs, missing]

/-- Any other frame falls through to the general path. -/
theorem tryAdvanceReadyWs_of_general (long : ¬connection.inBuf.bytes.length < 2)
    (general : isInline peerRole connection.inBuf.bytes = false) :
    tryAdvanceReadyWs peerRole connection = .ok none connection := by
  match bytes_eq : connection.inBuf.bytes with
  | [] => simp [bytes_eq] at long
  | [byte] => simp [bytes_eq] at long
  | first :: second :: rest =>
    have firstTwo : connection.inBuf.peekArray 2 = some [first, second] := by
      rw [connection.inBuf.peekArray_eq, bytes_eq]
      simp
    rw [bytes_eq, isInline_cons_cons] at general
    unfold tryAdvanceReadyWs
    simp only [run_bind, run_get, firstTwo, getD_cons_zero, getD_cons_succ, if_pos general]
    rfl

/-- The general path takes a frame off the buffer as the engine does. -/
theorem tryAdvanceWsFrame_realises (connection : Connection) (peerRole : WsRole) :
    WsRealises connection (tryAdvanceWsFrame peerRole connection)
      (WsEngine.frameStep peerRole connection.toSession connection.inBuf.bytes) := by
  unfold tryAdvanceWsFrame WsEngine.frameStep
  simp only [run_bind, run_get, peekWsHeader_eq, connection.inBuf.len_eq]
  cases flatWsHeader connection.inBuf.bytes peerRole with
  | error error => rfl
  | ok found =>
    cases found with
    | none => exact .inl ⟨rfl, rfl⟩
    | some header =>
      simp only [run_bind, run_ofExcept_ok]
      cases checkWsFrame connection.toSession header with
      | error error => rfl
      | ok accepted =>
        simp only [run_ofExcept_ok]
        by_cases short : connection.inBuf.bytes.length < header.headerLen + header.payloadLen
        · simp only [if_pos short]
          exact .inl ⟨rfl, rfl⟩
        · simp only [if_neg short, takeWsPayload, setInBuf_apply, run_bind, splitTo_fst,
            Payload.asSlice_fromSlice, bytes_advance]
          unfold handleFrame unmask
          have rest_eq : ((connection.inBuf.advance header.headerLen).splitTo
              header.payloadLen).2.bytes =
              (connection.inBuf.bytes.drop header.headerLen).drop header.payloadLen := by
            rw [bytes_splitTo, bytes_advance]
          rw [← rest_eq]
          cases header.opcode with
          | binary => exact wsRealises_onSession connection _ ⟨connection.toSession, _⟩
          | continuation => exact wsRealises_onSession connection _ ⟨connection.toSession, _⟩
          | close => exact .inr ⟨rfl, rfl⟩
          | ping => exact wsRealises_onSession connection _ ⟨connection.toSession, _⟩
          | pong => rfl

/-- Every turn of the drive loop is one decision of the engine. -/
theorem tryAdvanceWs_realises (connection : Connection) (peerRole : WsRole) :
    WsRealises connection (tryAdvanceWs peerRole connection)
      ((machine peerRole).step connection.toSession connection.inBuf.bytes) := by
  change WsRealises _ _ (WsEngine.step _ _ _)
  unfold tryAdvanceWs WsEngine.step
  simp only [run_bind, run_get]
  by_cases closed : connection.state = .closed
  · simp only [closed, if_true]
    exact .inl ⟨rfl, rfl⟩
  simp only [if_neg closed]
  by_cases takes : TakesInline connection.toSession
  · have eligible : connection.state = .ready ∧ (!connection.hasFrameTransform) = true ∧
        connection.pendingParts = [] := by
      simpa [TakesInline, Session.hasFrameTransform] using takes
    rw [if_pos eligible]
    by_cases inline : isInline peerRole connection.inBuf.bytes = true
    · rw [if_pos ⟨takes, inline⟩]
      exact tryAdvanceReadyWs_realises inline
    · rw [if_neg (fun both => inline both.2)]
      by_cases short : connection.inBuf.bytes.length < 2
      · rw [frameStep_of_short short, run_bind, tryAdvanceReadyWs_of_short short]
        exact .inl ⟨rfl, rfl⟩
      · rw [run_bind, tryAdvanceReadyWs_of_general short (Bool.not_eq_true _ ▸ inline)]
        exact tryAdvanceWsFrame_realises connection peerRole
  · have ineligible : ¬(connection.state = .ready ∧ (!connection.hasFrameTransform) = true ∧
        connection.pendingParts = []) := by
      simpa [TakesInline, Session.hasFrameTransform] using takes
    rw [if_neg ineligible, if_neg (fun both => takes both.1)]
    exact tryAdvanceWsFrame_realises connection peerRole

theorem step_of_closed {session : Session} (closed : session.state = .closed) (peerRole : WsRole)
    (bytes : Bytes) : (machine peerRole).step session bytes = .stall := by
  change WsEngine.step _ _ _ = _
  rw [WsEngine.step, if_pos closed]

theorem stopOf_driveLoop_ws (peerRole : WsRole) {fuel : Nat}
    (enough : connection.inBuf.bytes.length < fuel) :
    stopOf (driveLoop (tryAdvanceWs peerRole) fuel connection) =
      (machine peerRole).run fuel connection.toSession connection.inBuf.bytes := by
  induction fuel generalizing connection with
  | zero => rfl
  | succ fuel ih =>
    have turn := tryAdvanceWs_realises connection peerRole
    rw [driveLoop, Machine.run, run_bind]
    cases result : tryAdvanceWs peerRole connection with
    | error error after =>
      rw [result] at turn
      rw [show (machine peerRole).step _ _ = _ from turn]
      rfl
    | ok progress after =>
      rw [result] at turn
      cases progress with
      | false =>
        obtain ⟨stalled, rfl⟩ | ⟨moved, closed⟩ := turn
        · rw [stalled]
          rfl
        · have shorter := (machine peerRole).move_shorter moved
          have fuel_left : after.inBuf.bytes.length < fuel := by omega
          have settled := (machine peerRole).settle_of_stall
            (step_of_closed closed peerRole after.inBuf.bytes)
          have same := (machine peerRole).run_congr fuel_left (Nat.lt_succ_self _) after.toSession
          rw [moved]
          exact (same.trans settled).symm
      | true =>
        have moved : (machine peerRole).step connection.toSession connection.inBuf.bytes =
          .move after.toSession after.inBuf.bytes := turn
        have shorter := (machine peerRole).move_shorter moved
        rw [moved]
        exact ih (by omega)

end Connection

/-! ## What a frame can change -/

/-- WebSocket framing in a phase which accepts input, or closed. -/
def InboundView.WsReceptive (role : WsRole) (view : InboundView) : Prop :=
  view.wsRole = some role ∧
    (view.state = .mechanismHandshake ∨ view.state = .ready ∨ view.state = .closed)

theorem InboundView.wsReceptive_iff (role : WsRole) (view : InboundView) :
    view.WsReceptive role ↔ view.wsRole = some role ∧ view.Open := by
  cases phase : view.state <;> simp +contextual [WsReceptive, Open, phase]

namespace WsEngine

open Connection Session

variable [CurvePrimitives] {session after : Session} {peerRole : WsRole} {bytes rest : Bytes}

theorem evolves_handleFrame (websocket : session.wsRole.isSome) (header : WsFrameHeader)
    (raw : Bytes) : Evolves id session (handleFrame header raw session) := by
  unfold handleFrame
  cases header.opcode with
  | binary => exact evolves_handleWsDataFrame websocket raw header
  | continuation => exact evolves_handleWsDataFrame websocket raw header
  | close => exact evolves_handleWsClose websocket raw
  | ping => exact .single (.controlled websocket .pong _) (.of_view rfl)
  | pong => exact .refl rfl

/-- A move of the inline path dispatched a frame or delivered a message. -/
theorem keeps_of_inlineStep (moved : inlineStep peerRole session bytes = .move after rest) :
    session.Keeps after := by
  simp only [inlineStep] at moved
  split at moved
  · cases moved
  split at moved
  · cases moved
  · obtain ⟨_, _, _, _, ⟨flags, payload, dispatched⟩ | ⟨message, rfl⟩⟩ :=
      inlineDeliver_eq_move moved
    · exact (evolves_dispatchWsBinary session flags payload).2 _ _ dispatched
    · exact ⟨rfl, fun phase => phase, fun charged => charged⟩

/-- A move of the engine keeps what accepted input keeps. -/
theorem keeps_of_move (websocket : session.wsRole.isSome)
    (moved : (machine peerRole).step session bytes = .move after rest) : session.Keeps after := by
  change step _ _ _ = _ at moved
  unfold step at moved
  split at moved
  · cases moved
  · split at moved
    · exact keeps_of_inlineStep moved
    · obtain ⟨header, _, _, _, raw, handled⟩ := frameStep_eq_move moved
      exact (evolves_handleFrame websocket header raw).2 _ _ handled

/-- Settling without a failure keeps the framing and a phase of WebSocket mode. -/
theorem wsReceptive_settle {role : WsRole} {session : Session} {bytes : Bytes}
    (receptive : session.inboundView.WsReceptive role)
    (clean : ((machine role.peer).settle session bytes).error = none) :
    ((machine role.peer).settle session bytes).state.inboundView.WsReceptive role := by
  revert clean receptive
  refine (machine role.peer).settle_induction
    (motive := fun session _ stop => session.inboundView.WsReceptive role → stop.error = none →
      stop.state.inboundView.WsReceptive role) ?_ ?_ ?_ session bytes
  · exact fun _ _ _ receptive _ => receptive
  · intro _ _ _ _ _ _ _ clean
    cases clean
  · intro session bytes after rest moved later receptive clean
    have websocket : session.wsRole.isSome := by
      rw [show session.wsRole = some role from receptive.1]
      rfl
    have keeps := keeps_of_move websocket moved
    rw [InboundView.wsReceptive_iff] at later receptive
    exact later ⟨keeps.framing.trans receptive.1, keeps.phase receptive.2⟩ clean

end WsEngine

namespace Connection

open WsEngine

variable [CurvePrimitives]

/-- A WebSocket connection between two calls which has not been closed. -/
structure WsSettled (role : WsRole) (connection : Connection) : Prop where
  /-- WebSocket framing in a phase of its mode. -/
  receptive : connection.toSession.inboundView.WsReceptive role
  /-- No close frame was received. -/
  opened : connection.state ≠ .closed
  stalled : (machine role.peer).step connection.toSession connection.inBuf.bytes = .stall

/-- In the data phase, a connection without buffered bytes is settled. -/
theorem wsSettled_of_drained {role : WsRole} {connection : Connection}
    (framing : connection.wsRole = some role) (ready : connection.state = .ready)
    (drained : connection.inBuf.bytes = []) : connection.WsSettled role where
  receptive := ⟨framing, .inr (.inl ready)⟩
  opened := by
    rw [ready]
    decide
  stalled := by
    rw [drained]
    exact step_of_short (by decide)

theorem driveWs_eq (role : WsRole) (connection : Connection) :
    driveWs role connection =
      driveLoop (tryAdvanceWs role.peer) (connection.inBuf.len + 1) connection := by
  cases role <;> rfl

variable {role : WsRole} {connection : Connection} (settled : connection.WsSettled role)

include settled

theorem handleInput_of_ws (source : Bytes) :
    handleInput source connection =
      if source = [] then .ok () connection else driveWs role (connection.receive source) := by
  have framing : connection.wsRole = some role := settled.receptive.1
  have phase : connection.state = .mechanismHandshake ∨ connection.state = .ready := by
    obtain ⟨_, negotiating | ready | closed⟩ := settled.receptive
    · exact .inl negotiating
    · exact .inr ready
    · exact absurd closed settled.opened
  have driven : drive (connection.receive source) = driveWs role (connection.receive source) := by
    simp [drive, receive, framing]
  by_cases empty : source = [] <;> obtain negotiating | ready := phase <;> simp [handleInput, *]

theorem stopOf_handleInput_ws (source : Bytes) :
    stopOf (handleInput source connection) =
      (machine role.peer).settle connection.toSession (connection.inBuf.bytes ++ source) := by
  rw [handleInput_of_ws settled]
  by_cases empty : source = []
  · rw [if_pos empty, empty, append_nil, (machine role.peer).settle_of_stall settled.stalled]
    rfl
  · have bytes_eq : (connection.receive source).inBuf.bytes = connection.inBuf.bytes ++ source := by
      simp [receive]
    rw [if_neg empty, driveWs_eq, ← bytes_eq, len_eq]
    exact stopOf_driveLoop_ws role.peer (Nat.lt_succ_self _)

theorem WsSettled.handleInput {after : Connection} {source : Bytes}
    (returned : handleInput source connection = .ok () after) (opened : after.state ≠ .closed) :
    after.WsSettled role := by
  have stop := stopOf_handleInput_ws settled source
  rw [returned] at stop
  have clean : ((machine role.peer).settle connection.toSession
      (connection.inBuf.bytes ++ source)).error = none := by rw [← stop]; rfl
  have receptive := wsReceptive_settle settled.receptive clean
  have stalled := (machine role.peer).step_of_settle clean
  rw [← stop] at receptive stalled
  exact ⟨receptive, opened, stalled⟩

/-- Calls one after the other feed the engine, as long as no close frame ends the connection. -/
theorem stopOf_handleInputs_ws {chunks : List Bytes}
    (opened : ((machine role.peer).settle connection.toSession
      (connection.inBuf.bytes ++ chunks.flatten)).state.state ≠ .closed) :
    stopOf (handleInputs chunks connection) =
      (machine role.peer).feed connection.toSession connection.inBuf.bytes chunks := by
  induction chunks generalizing connection with
  | nil => rfl
  | cons chunk chunks ih =>
    have stop := stopOf_handleInput_ws settled chunk
    rw [flatten_cons, ← append_assoc, (machine role.peer).settle_append, ← stop] at opened
    rw [handleInputs, Machine.feed, run_bind, ← stop]
    cases result : Connection.handleInput chunk connection with
    | error error after => rfl
    | ok value after =>
      rw [result] at opened
      simp only [stopOf] at opened
      have still_open : after.state ≠ .closed := by
        intro closed
        rw [(machine role.peer).settle_of_stall (step_of_closed closed _ _)] at opened
        exact opened closed
      exact ih (settled.handleInput result still_open) opened

end Connection

end Omq
