import Omq.Proto.Connection.WsEngine

/-!
# Fragmentation rules of WebSocket mode

A binary frame must not start a message while a fragmented one is unfinished, and a continuation
frame needs an unfinished one.  The general path enforces both rules however the input is cut into
calls.  The inline path never looks at the unfinished message, so a small final binary frame gets
past the first rule.
-/

namespace Omq

open Incremental Attempt

namespace WsEngine

open Connection Engine

variable {session : Session} {peerRole : WsRole} {header : WsFrameHeader} {bytes : Bytes}

theorem checkWsFrame_protocol {error : Error}
    (refused : checkWsFrame session header = .error error) : ∃ text, error = .protocol text := by
  revert refused
  fun_cases checkWsFrame session header <;> rintro ⟨⟩ <;> exact ⟨_, rfl⟩

/-- On the inline path the second byte determines the header. -/
theorem header_of_isInline (inline : isInline peerRole bytes = true)
    (parsed : flatWsHeader bytes peerRole = .ok (some header)) :
    header.opcode = .binary ∧ header.headerLen = inlineHeaderLen peerRole ∧
      header.payloadLen = declared bytes := by
  obtain ⟨second, rest, bytes_eq, mask_bit, length_eq, _, small⟩ := isInline_eq_true inline
  have limit : maxInlineMessage = 55 := rfl
  have flags := parseWsFlags_wsFirst true .binary peerRole mask_bit.symm
  have measured : flatWsLength (0x82 :: second :: rest) (declared bytes) =
      .ok (some (declared bytes, 2)) := by
    rw [flatWsLength, if_neg (by omega), if_neg (by omega)]
  have header_len : 2 + (if decide (peerRole = .client) = true then 4 else 0) =
      inlineHeaderLen peerRole := by
    cases peerRole <;> rfl
  rw [length_eq] at measured
  rw [bytes_eq, flatWsHeader, show (0x82 : UInt8) = wsFirst true .binary from rfl, flags] at parsed
  simp only [bind, Except.bind] at parsed
  rw [show wsFirst true .binary = (0x82 : UInt8) from rfl, measured] at parsed
  simp only [checkWsControl, WsOpcode.isControl, Bool.false_eq_true, false_and, if_false,
    reduceCtorEq] at parsed
  rw [header_len] at parsed
  by_cases short : (0x82 :: second :: rest).length < inlineHeaderLen peerRole
  · rw [if_pos short] at parsed
    cases parsed
  · rw [if_neg short] at parsed
    cases parsed
    exact ⟨rfl, rfl, length_eq.symm⟩

variable [CurvePrimitives]

def Misplaced (session : Session) (header : WsFrameHeader) : Prop :=
  header.opcode = .binary ∧ session.wsFragment.isSome ∨
    header.opcode = .continuation ∧ session.wsFragment = none

/-- The general handler refuses a misplaced frame and changes nothing. -/
theorem handleFrame_misplaced (misplaced : Misplaced session header) (raw : Bytes) :
    ∃ text, handleFrame header raw session = .error (.protocol text) session := by
  obtain ⟨binary, unfinished⟩ | ⟨continuation, finished⟩ := misplaced
  · exact ⟨_, by simp [handleFrame, handleWsDataFrame, binary, unfinished]; rfl⟩
  · exact ⟨_, by simp [handleFrame, handleWsDataFrame, continuation, finished]; rfl⟩

/-- The general path refuses a complete misplaced frame. -/
theorem frameStep_misplaced (parsed : flatWsHeader bytes peerRole = .ok (some header))
    (whole : header.headerLen + header.payloadLen ≤ bytes.length)
    (misplaced : Misplaced session header) :
    ∃ text rest, frameStep peerRole session bytes = .fail session rest (.protocol text) := by
  simp only [frameStep, parsed]
  cases checked : checkWsFrame session header with
  | error error =>
    obtain ⟨text, rfl⟩ := checkWsFrame_protocol checked
    exact ⟨text, bytes, rfl⟩
  | ok accepted =>
    obtain ⟨text, refused⟩ := handleFrame_misplaced misplaced
      (unmask header ((bytes.drop header.headerLen).take header.payloadLen))
    simp only [if_neg (Nat.not_lt.mpr whole), refused, conclude]
    exact ⟨text, _, rfl⟩

/-- The payload of an empty message under the mask key of the header. -/
def emptyMessage (peerRole : WsRole) (head : Bytes) (payloadLen : Nat) : Bytes :=
  (if peerRole = .client then (inlineMask peerRole head).getD 0 0 else 0) ::
    List.replicate (payloadLen - 1) 0

omit [CurvePrimitives] in
theorem length_emptyMessage (peerRole : WsRole) (head : Bytes) {payloadLen : Nat}
    (nonempty : 1 ≤ payloadLen) : (emptyMessage peerRole head payloadLen).length = payloadLen := by
  simp [emptyMessage]
  omega

/-- The inline path takes a final message without looking at the unfinished one. -/
theorem inlineStep_emptyMessage {head : Bytes} (inline : isInline peerRole head = true)
    (parsed : flatWsHeader head peerRole = .ok (some header))
    (head_length : head.length = header.headerLen) (session : Session) :
    (∃ size max rest, inlineStep peerRole session
        (head ++ emptyMessage peerRole head header.payloadLen) =
          .fail session rest (.messageTooLarge size max)) ∨
      ∃ message, inlineStep peerRole session
        (head ++ emptyMessage peerRole head header.payloadLen) =
          .move (session.withMessage message) [] := by
  obtain ⟨_, headerLen_eq, payloadLen_eq⟩ := header_of_isInline inline parsed
  obtain ⟨second, tail, head_eq, _, _, nonempty, _⟩ := isInline_eq_true inline
  rw [headerLen_eq] at head_length
  have declared_eq : declared (head ++ emptyMessage peerRole head header.payloadLen) =
      header.payloadLen := by
    rw [payloadLen_eq, head_eq]
    rfl
  have mask_eq : inlineMask peerRole (head ++ emptyMessage peerRole head header.payloadLen) =
      inlineMask peerRole head := by
    unfold inlineMask
    split
    next client =>
      rw [List.take_append_of_le_length (by simp [head_length, inlineHeaderLen, client])]
    · rfl
  have message_length := length_emptyMessage peerRole head (payloadLen_eq ▸ nonempty)
  have whole : ¬(head ++ emptyMessage peerRole head header.payloadLen).length <
      inlineHeaderLen peerRole + header.payloadLen := by
    rw [List.length_append, message_length]
    omega
  simp only [inlineStep, declared_eq, mask_eq, if_neg whole, List.drop_left' head_length]
  cases session.exceedsMax (saturatingAdd (header.payloadLen - 1) payloadSlot) with
  | some max => exact .inl ⟨_, _, _, rfl⟩
  | none =>
    simp only [emptyMessage, inlineDeliver, UInt8.xor_self, ne_eq, not_true_eq_false, if_false]
    rw [List.drop_of_length_le (by simp)]
    exact .inr ⟨_, rfl⟩

end WsEngine

namespace Connection

open WsEngine

section

variable [CurvePrimitives]

/-- The input `pre` brings a settled connection to a frame boundary of the data phase. -/
structure AtBoundary (role : WsRole) (start : Connection) (pre : Bytes)
    (connection : Connection) : Prop where
  /-- The connection was between two calls. -/
  settled : start.WsSettled role
  received : handleInput pre start = .ok () connection
  ready : connection.state = .ready
  drained : connection.inBuf.bytes = []

/-- Behind `pre`, every frame with the header `head` is rejected with a protocol error, however
the input is cut into calls and whatever follows. -/
def Rejects (start : Connection) (pre head : Bytes) (payloadLen : Nat) : Prop :=
  ∀ (payload rest : Bytes) (chunks : List Bytes), payload.length = payloadLen →
    chunks.flatten = pre ++ (head ++ (payload ++ rest)) →
      ∃ text after, handleInputs chunks start = .error (.protocol text) after

variable {role : WsRole} {start connection : Connection} {pre head : Bytes} {header : WsFrameHeader}

section

variable (boundary : AtBoundary role start pre connection)

include boundary

/-- Behind `pre` the engine settles from the boundary. -/
theorem AtBoundary.settle_append (more : Bytes) :
    (machine role.peer).settle start.toSession (start.inBuf.bytes ++ (pre ++ more)) =
      (machine role.peer).settle connection.toSession more := by
  have stop := stopOf_handleInput_ws boundary.settled pre
  rw [boundary.received] at stop
  rw [← List.append_assoc, (machine role.peer).settle_append, ← stop]
  simp [stopOf, boundary.drained]

theorem rejects_of_general (parsed : flatWsHeader head role.peer = .ok (some header))
    (head_length : head.length = header.headerLen)
    (misplaced : Misplaced connection.toSession header)
    (general : ¬(TakesInline connection.toSession ∧ isInline role.peer head = true)) :
    start.Rejects pre head header.payloadLen := by
  intro payload rest chunks payload_length chunks_eq
  have long : 2 ≤ head.length := by
    rw [head_length]
    exact (flatWsHeader_bounds parsed).1
  have parsed_whole : flatWsHeader (head ++ (payload ++ rest)) role.peer = .ok (some header) := by
    rw [flatWsHeader_append (by simp [parsed]), parsed]
  have whole : header.headerLen + header.payloadLen ≤ (head ++ (payload ++ rest)).length := by
    simp only [List.length_append]
    omega
  obtain ⟨text, unread, failed⟩ := frameStep_misplaced parsed_whole whole misplaced
  have step_eq : (machine role.peer).step connection.toSession (head ++ (payload ++ rest)) =
      .fail connection.toSession unread (.protocol text) := by
    change WsEngine.step _ _ _ = _
    rw [WsEngine.step, if_neg (by rw [boundary.ready]; decide), isInline_append long,
      if_neg general, failed]
  have settled_eq := boundary.settle_append (head ++ (payload ++ rest))
  rw [(machine role.peer).settle_of_fail step_eq, ← chunks_eq] at settled_eq
  have still_open : ((machine role.peer).settle start.toSession
      (start.inBuf.bytes ++ chunks.flatten)).state.state ≠ .closed := by
    rw [settled_eq]
    change connection.state ≠ .closed
    rw [boundary.ready]
    decide
  have error_eq := ((machine role.peer).feed_eq_settle start.toSession start.inBuf.bytes chunks
    boundary.settled.stalled).2.1
  rw [← stopOf_handleInputs_ws boundary.settled still_open, settled_eq] at error_eq
  cases result : handleInputs chunks start with
  | ok value after =>
    rw [result] at error_eq
    cases error_eq
  | error error after =>
    rw [result] at error_eq
    cases error_eq
    exact ⟨text, after, rfl⟩

/-- The inline path does not reject every frame behind its header. -/
theorem not_rejects_of_inline (parsed : flatWsHeader head role.peer = .ok (some header))
    (head_length : head.length = header.headerLen) (takes : TakesInline connection.toSession)
    (inline : isInline role.peer head = true) : ¬start.Rejects pre head header.payloadLen := by
  intro rejects
  obtain ⟨_, _, payloadLen_eq⟩ := header_of_isInline inline parsed
  obtain ⟨_, _, _, _, _, nonempty, _⟩ := isInline_eq_true inline
  let payload := emptyMessage role.peer head header.payloadLen
  have long : 2 ≤ head.length := by
    rw [head_length]
    exact (flatWsHeader_bounds parsed).1
  obtain ⟨text, after, refused⟩ := rejects payload [] [pre ++ (head ++ payload)]
    (length_emptyMessage role.peer head (payloadLen_eq ▸ nonempty)) (by simp)
  have call : handleInput (pre ++ (head ++ payload)) start = .error (.protocol text) after := by
    rw [handleInputs, run_bind] at refused
    cases result : handleInput (pre ++ (head ++ payload)) start with
    | ok value after =>
      rw [result] at refused
      cases refused
    | error error after =>
      rw [result] at refused
      exact refused
  have stop := stopOf_handleInput_ws boundary.settled (pre ++ (head ++ payload))
  rw [call, boundary.settle_append] at stop
  have step_eq : (machine role.peer).step connection.toSession (head ++ payload) =
      inlineStep role.peer connection.toSession (head ++ payload) := by
    change WsEngine.step _ _ _ = _
    rw [WsEngine.step, if_neg (by rw [boundary.ready]; decide), isInline_append long,
      if_pos ⟨takes, inline⟩]
  obtain ⟨size, max, rest, failed⟩ | ⟨message, moved⟩ :=
    inlineStep_emptyMessage inline parsed head_length connection.toSession
  · rw [(machine role.peer).settle_of_fail (step_eq.trans failed)] at stop
    exact absurd (congrArg Stop.error stop) (by simp [stopOf])
  · rw [(machine role.peer).settle_of_move (step_eq.trans moved),
      (machine role.peer).settle_of_stall (step_of_short (by decide))] at stop
    exact absurd (congrArg Stop.error stop) (by simp [stopOf])

end

/-- A frame which breaks a fragmentation rule is rejected with a protocol error in every chunking
exactly when it does not take the inline path; a continuation frame never takes it. -/
theorem rejects_iff_general {role : WsRole} {start connection : Connection} {pre head : Bytes}
    {header : WsFrameHeader} (boundary : AtBoundary role start pre connection)
    (parsed : flatWsHeader head role.peer = .ok (some header))
    (head_length : head.length = header.headerLen)
    (misplaced : Misplaced connection.toSession header) :
    (start.Rejects pre head header.payloadLen ↔
        ¬(TakesInline connection.toSession ∧ isInline role.peer head = true)) ∧
      (header.opcode = .continuation → start.Rejects pre head header.payloadLen) := by
  refine ⟨⟨?_, rejects_of_general boundary parsed head_length misplaced⟩, ?_⟩
  · rintro rejects ⟨takes, inline⟩
    exact not_rejects_of_inline boundary parsed head_length takes inline rejects
  · intro continuation
    refine rejects_of_general boundary parsed head_length misplaced ?_
    rintro ⟨_, inline⟩
    rw [(header_of_isInline inline parsed).1] at continuation
    cases continuation

end

/-- The READY command an anonymous NULL peer sends over WebSocket. -/
def wsReady (role : WsRole) (socketType : SocketType) : Bytes :=
  WsFrame.encode role ⟨true, .binary, flagsToZws .commandFrame ::
    (Command.ready (PeerProperties.new.withSocketType socketType)).encode, [1, 2, 3, 4], rfl⟩

def afterWsHandshake (role : WsRole) (socketType : SocketType) : Connection :=
  finalState (@handleInputs .transparent [wsReady role.peer socketType]
    (@Connection.new .transparent
      { ConnectionConfig.null .client socketType with wsRole := some role } .zero))

theorem wsSettled_afterWsHandshake :
    @WsSettled .transparent .client (afterWsHandshake .client .pair) :=
  @wsSettled_of_drained .transparent _ _ (by decide +kernel) (by decide +kernel) (by decide +kernel)

/-- The first fragment of a message: the flag byte of a final frame and `a`. -/
def openFragment : Bytes := [0x02, 0x02, 0x00, 0x61]

/-- A client in the middle of a fragmented message. -/
def afterFragment : Connection :=
  finalState (@handleInput .transparent openFragment (afterWsHandshake .client .pair))

theorem atBoundary_afterFragment :
    @AtBoundary .transparent .client (afterWsHandshake .client .pair) openFragment afterFragment :=
  @AtBoundary.mk .transparent _ _ _ _ wsSettled_afterWsHandshake
    (eq_ok_of_returned (by decide +kernel)) (by decide +kernel) (by decide +kernel)

/-- A second message in the middle of a fragmented one: the small final frame with `b` is
delivered and the call returns. -/
theorem second_message_delivered :
    afterFragment.wsFragment = some [0x00, 0x61] ∧
      ∃ after, @handleInputs .transparent [openFragment, [0x82, 0x02, 0x00, 0x62]]
          (afterWsHandshake .client .pair) = .ok () after ∧
        after.messages.map Message.parts = [[ascii "b"]] ∧
        after.wsFragment = some [0x00, 0x61] :=
  ⟨by decide +kernel, _, eq_ok_of_returned (by decide +kernel), by decide +kernel,
    by decide +kernel⟩

/-- In the same place the first fragment of another message is rejected in every chunking. -/
theorem second_fragment_rejected :
    afterFragment.wsFragment.isSome ∧
      @Rejects .transparent (afterWsHandshake .client .pair) openFragment [0x02, 0x01] 1 :=
  ⟨by decide +kernel, (@rejects_iff_general .transparent .client (afterWsHandshake .client .pair)
    afterFragment openFragment [0x02, 0x01] ⟨false, .binary, 1, 2, false, [0, 0, 0, 0]⟩
    atBoundary_afterFragment rfl rfl (.inl ⟨rfl, by decide +kernel⟩)).1.mpr
      (fun inline => absurd inline.2 (by decide))⟩

end Connection

end Omq
