import Omq.Proto.Connection.Assembly
import Omq.Proto.Connection.Handshake

/-!
# Payloads received around the input buffer

A caller can take the payload of a frame over, read it off the wire into memory of its own and
supply it.  What the application then observes is what it would observe had every byte gone
through `handle_input`.  The two paths store a short payload differently, so sessions are compared
up to the storage of their payloads.
-/

namespace Omq

open Attempt Incremental Engine Transition List Session Payload

namespace Session

/-- Replace the message being assembled and the messages for the application. -/
def withInbox (session : Session) (parts : List Payload) (messages : List Message) : Session :=
  { session with pendingParts := parts, messages := messages }

/-- Two ready sessions which differ at most in how they store payloads. -/
structure Alike (left right : Session) : Prop where
  ready : left.state = .ready
  parts : right.pendingParts.map asSlice = left.pendingParts.map asSlice
  messages : right.messages.map Message.parts = left.messages.map Message.parts
  /-- Nothing else differs. -/
  rest : right = left.withInbox right.pendingParts right.messages

theorem Alike.refl {session : Session} (ready : session.state = .ready) : Alike session session :=
  ⟨ready, rfl, rfl, rfl⟩

/-- An update which neither reads nor writes the inbox. -/
theorem Alike.map {left right : Session} (alike : Alike left right) {update : Session → Session}
    (commutes : ∀ session parts messages,
      update (session.withInbox parts messages) = (update session).withInbox parts messages)
    (phase : (update left).state = left.state) : Alike (update left) (update right) := by
  have own : update left = (update left).withInbox left.pendingParts left.messages :=
    commutes left left.pendingParts left.messages
  have other : update right = (update left).withInbox right.pendingParts right.messages := by
    rw [← commutes, ← alike.rest]
  refine ⟨phase.trans alike.ready, ?_, ?_, ?_⟩
  · rw [other, own]
    exact alike.parts
  · rw [other, own]
    exact alike.messages
  · rw [other]
    rfl

theorem emitCommandFrame_withInbox (payload : Bytes) (session : Session) (parts : List Payload)
    (messages : List Message) :
    (session.withInbox parts messages).emitCommandFrame payload =
      (session.emitCommandFrame payload).withInbox parts messages := by
  cases role_eq : session.wsRole with
  | none => simp [emitCommandFrame, emitFrame, withInbox, role_eq, pushChunks]
  | some role =>
    simp only [emitCommandFrame, emitFrame, emitWsFrame, withInbox, role_eq]
    rcases encodeWsHeader .binary _ role session.env with ⟨header, _ | mask, env⟩
    · dsimp only
      split <;> rfl
    · dsimp only
      split <;> rfl

section

variable {left right : Session} (alike : Alike left right)

include alike

theorem Alike.emitCommandFrame (payload : Bytes) :
    Alike (left.emitCommandFrame payload) (right.emitCommandFrame payload) :=
  @Alike.map left right alike (Session.emitCommandFrame · payload)
    (emitCommandFrame_withInbox payload)
    (state_eq_of_inboundView (inboundView_emitCommandFrame left payload))

theorem Alike.withTransform (transform : Option CurveTransform) :
    Alike (left.withTransform transform) (right.withTransform transform) :=
  @Alike.map left right alike (Session.withTransform · transform) (fun _ _ _ => rfl) rfl

variable (command : Command)

theorem Alike.withCommand : Alike (left.withCommand command) (right.withCommand command) :=
  @Alike.map left right alike (Session.withCommand · command) (fun _ _ _ => rfl) rfl

theorem Alike.transform_eq : right.transform = left.transform := by
  rw [alike.rest]
  rfl

theorem Alike.exceedsMax_eq (size : Nat) : right.exceedsMax size = left.exceedsMax size := by
  rw [alike.rest]
  rfl

variable {payload stored : Payload}

/-- The same content is added to the message being assembled on both sides. -/
theorem Alike.absorbDataFrame (more : Bool) (same : stored.asSlice = payload.asSlice) :
    Matches Alike (absorbDataFrame more payload left) (absorbDataFrame more stored right) := by
  have len_eq : stored.len = payload.len := by
    rw [← length_asSlice, same, length_asSlice]
  have size_eq : right.chargedSize stored = left.chargedSize payload := by
    rw [chargedSize, chargedSize, len_eq, alike.rest]
    rfl
  have pending (parts kept : List Payload) (size : Nat)
      (parts_eq : kept.map asSlice = parts.map asSlice) :
      Alike (left.withPending parts size) (right.withPending kept size) := by
    refine ⟨alike.ready, parts_eq, alike.messages, ?_⟩
    rw [alike.rest]
    rfl
  have limit_eq := alike.exceedsMax_eq (left.chargedSize payload)
  cases exceeds : left.exceedsMax (left.chargedSize payload) with
  | some max =>
    rw [exceeds, ← size_eq] at limit_eq
    rw [absorbDataFrame_of_exceeds exceeds, absorbDataFrame_of_exceeds limit_eq, size_eq]
    exact ⟨rfl, pending _ _ _ alike.parts⟩
  | none =>
    rw [exceeds, ← size_eq] at limit_eq
    have longer : (right.pendingParts ++ [stored]).map asSlice =
        (left.pendingParts ++ [payload]).map asSlice := by
      simp [alike.parts, same]
    cases more with
    | true =>
      rw [absorbDataFrame_more exceeds, absorbDataFrame_more limit_eq, size_eq]
      exact ⟨rfl, pending _ _ _ longer⟩
    | false =>
      rw [absorbDataFrame_last exceeds, absorbDataFrame_last limit_eq]
      have delivered := pending [] [] 0 rfl
      refine ⟨rfl, delivered.ready, delivered.parts, ?_, ?_⟩
      · have messages_eq := alike.messages
        simp [withMessage, withPending, parts_assembled, messages_eq, alike.parts, same]
      · rw [withMessage, delivered.rest]
        rfl

variable [CurvePrimitives]

theorem Alike.writeOutboundCommand :
    Matches Alike (writeOutboundCommand command left) (writeOutboundCommand command right) := by
  unfold Session.writeOutboundCommand
  have same : right.activeTransform = left.activeTransform := by rw [alike.rest]; rfl
  simp only [run_bind, run_get, same]
  cases left.activeTransform with
  | none => exact ⟨rfl, alike.emitCommandFrame _⟩
  | some transform =>
    dsimp only
    cases transform.encryptMessage false true command.encode with
    | error error => exact ⟨rfl, alike⟩
    | ok sent => exact ⟨rfl, (alike.withTransform _).emitCommandFrame _⟩

theorem Alike.writeOutboundCommands (commands : List Command) :
    Matches Alike (writeOutboundCommands commands left) (writeOutboundCommands commands right) := by
  induction commands generalizing left right with
  | nil => exact ⟨rfl, alike⟩
  | cons command rest induction =>
    exact (alike.writeOutboundCommand command).bind fun states => induction states

theorem Alike.handlePostHandshakeCommand :
    Matches Alike (handlePostHandshakeCommand command left)
      (handlePostHandshakeCommand command right) := by
  cases command with
  | ready => exact ⟨rfl, alike⟩
  | error => exact ⟨rfl, alike⟩
  | ping ttl context => exact alike.writeOutboundCommands _
  | pong => exact ⟨rfl, alike⟩
  | _ => exact ⟨rfl, alike.withCommand _⟩

theorem Alike.dispatchContent (command more : Bool) (same : stored.asSlice = payload.asSlice) :
    Matches Alike (dispatchContent command more payload left)
      (dispatchContent command more stored right) := by
  unfold Session.dispatchContent
  cases command with
  | false => exact alike.absorbDataFrame more same
  | true =>
    simp only [if_true, same]
    cases Command.decode payload.asSlice with
    | error error => exact ⟨rfl, alike⟩
    | ok command => exact alike.handlePostHandshakeCommand command

/-- Two alike sessions act alike on a frame, however its payload is stored. -/
theorem Alike.decodeAssembledFrame (flags : FrameFlags) (same : stored.asSlice = payload.asSlice) :
    Matches Alike (decodeAssembledFrame flags payload left)
      (decodeAssembledFrame flags stored right) := by
  unfold Session.decodeAssembledFrame
  simp only [run_bind, run_get, alike.transform_eq, same]
  cases left.transform with
  | none => exact alike.dispatchContent _ _ same
  | some transform =>
    dsimp only
    split_ifs with wrapped
    · rw [run_bind, run_bind]
      cases transform.decryptMessage _ with
      | error error => exact ⟨rfl, alike⟩
      | ok opened => exact (alike.withTransform _).dispatchContent _ _ rfl
    · exact ⟨rfl, alike⟩

end

variable [CurvePrimitives]

theorem leaves_sendCommand (command : Command) : Leaves inboundView (sendCommand command) := by
  refine Leaves.of_finalState fun session => ?_
  cases ready : session.isReady with
  | false => simp [sendCommand, ready]
  | true => simpa [sendCommand, ready] using
      (leaves_writeOutboundCommands [command]).finalState session

end Session

namespace Engine

/-- When a frame step waits for more input. -/
theorem frameStep_eq_stall_iff {refuse : PeekedFrameHeader → Option Error}
    {handle : Frame → SessionM Unit} {session : Session} {bytes : Bytes} :
    frameStep refuse handle session bytes = .stall ↔
      flatHeader bytes = .ok none ∨ ∃ header, flatHeader bytes = .ok (some header) ∧
        refuse header = none ∧ bytes.length < header.headerLen + header.payloadLen := by
  unfold frameStep flatFrame
  rcases flatHeader bytes with error | _ | header
  · simp
  · simp
  cases refused : refuse header with
  | some error => simp [refused]
  | none =>
    by_cases missing : bytes.length < header.headerLen + header.payloadLen
    · simp [missing, refused]
    · simp only [missing, refused, if_false]
      cases handle _ session <;> simp [conclude, missing]

theorem conclude_related {related : Session → Session → Prop}
    {left right : EStateM.Result Error Session Unit} (matched : Matches related left right)
    (rest : Bytes) : (conclude left rest).Related related (conclude right rest) := by
  cases left with
  | ok value after =>
    cases right with
    | ok other counterpart => exact ⟨matched.2, rfl⟩
    | error error counterpart => exact matched.elim
  | error error after =>
    cases right with
    | ok other counterpart => exact matched.elim
    | error other counterpart => exact ⟨matched.2, rfl, matched.1⟩

variable [CurvePrimitives]

theorem greeting_lt_of_stall {session : Session} {bytes : Bytes}
    (stalled : greetingStep session bytes = .stall) : bytes.length < greetingLen := by
  by_contra! whole
  have width := length_take_of_le whole
  have sniffed := length_take_of_le (le_trans (by decide : versionSniffLen ≤ greetingLen) whole)
  have decided {result rest} : conclude result rest ≠ .stall := by cases result <;> simp [conclude]
  grind [greetingStep, Greeting.flatDecode, Greeting.peekMajor]

/-- Whether the engine waits depends on the phase, the configuration and the input alone. -/
theorem stall_congr {session other : Session} (phase : other.state = session.state)
    (config : other.config = session.config) {bytes : Bytes}
    (stalled : machine.step session bytes = .stall) : machine.step other bytes = .stall := by
  change step session bytes = .stall at stalled
  change step other bytes = .stall
  have refuse_eq : refuseReady other = refuseReady session := by
    funext header
    rw [refuseReady, refuseReady, exceedsMax, exceedsMax, config]
  unfold step at stalled ⊢
  rw [phase]
  cases state_eq : session.state with
  | awaitingGreeting =>
    simp only [state_eq, greetingStep] at stalled ⊢
    rcases decoded : Greeting.flatDecode bytes with _ | _ | ⟨error | greeting, rest⟩ <;>
      simp only [decoded, reduceCtorEq] at stalled ⊢
    cases accepted : acceptGreeting greeting (bytes.take greetingLen) session <;>
      simp [accepted, conclude] at stalled
  | mechanismHandshake =>
    simp only [state_eq] at stalled ⊢
    exact frameStep_eq_stall_iff.mpr (frameStep_eq_stall_iff.mp stalled)
  | ready =>
    simp only [state_eq] at stalled ⊢
    rw [refuse_eq]
    exact frameStep_eq_stall_iff.mpr (frameStep_eq_stall_iff.mp stalled)
  | awaitingSuppliedPayload flags payloadLen => rfl
  | closed => rfl

/-- The engine does not tell alike sessions apart. -/
theorem step_related {left right : Session} (bytes : Bytes) (alike : left.Alike right) :
    (machine.step left bytes).Related Session.Alike (machine.step right bytes) := by
  change (step left bytes).Related Session.Alike (step right bytes)
  have ready : right.state = .ready := by
    rw [alike.rest]
    exact alike.ready
  have refuse_eq : refuseReady right = refuseReady left := by
    funext header
    rw [refuseReady, refuseReady, alike.exceedsMax_eq]
  simp only [step, ready, alike.ready, frameStep, refuse_eq]
  rcases flatHeader bytes with error | _ | header
  · exact ⟨alike, rfl, rfl⟩
  · trivial
  dsimp only
  cases refuseReady left header with
  | some error => exact ⟨alike, rfl, rfl⟩
  | none =>
    rcases flatFrame bytes with error | _ | ⟨frame, rest⟩
    · trivial
    · trivial
    · exact conclude_related (alike.decodeAssembledFrame _ rfl) rest

end Engine

namespace Connection

/-! ## Taking a payload over -/

inductive TakeOver
  | headerOnly
  | withPrefix

/-- Take a payload over: its length and the part of it which is already buffered. -/
def TakeOver.start : TakeOver → Connection → Option (Nat × Bytes) × Connection
  | .headerOnly, connection =>
    (connection.beginSuppliedPayload.1.map fun payloadLen => (payloadLen, []),
      connection.beginSuppliedPayload.2)
  | .withPrefix, connection =>
    (connection.beginSuppliedPayloadWithPrefix.1.map fun taken => (taken.1, taken.2.asSlice),
      connection.beginSuppliedPayloadWithPrefix.2)

section

variable {connection after : Connection} {method : SessionM Unit} {call : Call}

/-- The header which is handed out is the buffered header of an acceptable frame. -/
theorem suppliedHeader_eq_some {header : PeekedFrameHeader}
    (found : connection.suppliedHeader = some header) :
    connection.state = .ready ∧ connection.wsRole = none ∧
      flatHeader connection.inBuf.bytes = .ok (some header) ∧
      refuseReady connection.toSession header = none := by
  unfold suppliedHeader at found
  rw [peekFrameHeader_eq] at found
  split_ifs at found with refused
  obtain ⟨ready, plain⟩ := not_or.mp refused
  split at found
  next parsed header_eq =>
    rw [checkDeclared_eq] at found
    cases limit : refuseReady connection.toSession parsed with
    | some error => simp [limit] at found
    | none =>
      simp only [limit, Option.some.injEq] at found
      subst found
      exact ⟨not_not.mp ready, by simpa using plain, header_eq, limit⟩
  · cases found

/-- A connection after the payload of its next frame was taken over. -/
structure TakenOver (before after : Connection) (header : PeekedFrameHeader) (pre : Bytes) :
    Prop where
  /-- Only a ready connection hands a payload out. -/
  ready : before.state = .ready
  /-- Only plain framing hands a payload out. -/
  plain : before.wsRole = none
  found : flatHeader before.inBuf.bytes = .ok (some header)
  accepted : refuseReady before.toSession header = none
  /-- The buffered part of the payload was handed out. -/
  handed : pre = (before.inBuf.bytes.drop header.headerLen).take header.payloadLen
  session : after.toSession =
    { before.toSession with state := .awaitingSuppliedPayload header.flags header.payloadLen }
  /-- The header and the buffered part are gone. -/
  rest : after.inBuf.bytes = (before.inBuf.bytes.drop header.headerLen).drop header.payloadLen

/-- Taking a payload over either does nothing or hands the payload out. -/
theorem TakeOver.start_cases (way : TakeOver) (connection : Connection) :
    way.start connection = (none, connection) ∨ ∃ header pre after,
      way.start connection = (some (header.payloadLen, pre), after) ∧
        TakenOver connection after header pre := by
  cases found : connection.suppliedHeader with
  | none =>
    left
    cases way <;> simp [start, beginSuppliedPayload, beginSuppliedPayloadWithPrefix, found]
  | some header =>
    obtain ⟨ready, plain, parsed, accepted⟩ := suppliedHeader_eq_some found
    cases way with
    | headerOnly =>
      by_cases header_only : connection.inBuf.len = header.headerLen
      · have drained : connection.inBuf.bytes.drop header.headerLen = [] :=
          drop_eq_nil_of_le (connection.inBuf.len_eq ▸ header_only).le
        right
        exact ⟨header, [], _, by simp [start, beginSuppliedPayload, found, header_only]; rfl,
          ready, plain, parsed, accepted, by simp [drained], rfl, by simp [drained]⟩
      · left
        simp [start, beginSuppliedPayload, found, header_only]
    | withPrefix =>
      have whole : ¬connection.inBuf.len < header.headerLen := by
        rw [connection.inBuf.len_eq]
        exact Nat.not_lt.mpr (flatHeader_bounds parsed).2.1
      have handed : withPrefix.start connection =
          let buf := connection.inBuf.advance header.headerLen
          let split := buf.splitTo (min buf.len header.payloadLen)
          (some (header.payloadLen, split.1.asSlice),
            { connection with
              inBuf := split.2
              state := .awaitingSuppliedPayload header.flags header.payloadLen }) := by
        simp [start, beginSuppliedPayloadWithPrefix, found, whole]
      right
      refine ⟨header, _, _, handed, ready, plain, parsed, accepted, ?_, rfl, ?_⟩
      · simp [ChunkedInputBuf.len_eq, take_eq_take_min, Nat.min_comm]
      · simp [ChunkedInputBuf.len_eq, drop_eq_drop_min, Nat.min_comm]

theorem onSession_eq_ok (handled : onSession method connection = .ok () after) :
    ∃ next, method connection.toSession = .ok () next ∧
      after = { next with inBuf := connection.inBuf } := by
  rw [onSession_apply] at handled
  cases result : method connection.toSession with
  | error error failed => simp [result] at handled
  | ok value next => exact ⟨next, rfl, by simpa [result, eq_comm] using handled⟩

variable [CurvePrimitives]

theorem Settled.drive (settled : connection.Settled) :
    Connection.drive connection = .ok () connection := by
  have plain : connection.wsRole = none := settled.receptive.1
  have turn := tryAdvance_realises connection settled.charged
  rw [show step _ _ = _ from settled.stalled] at turn
  have waits : tryAdvance connection = .ok false connection := by
    cases result : tryAdvance connection with
    | error error after =>
      rw [result] at turn
      cases turn
    | ok progress after =>
      rw [result] at turn
      cases progress with
      | true => cases turn
      | false => rw [turn.2]
  simp [Connection.drive, plain, driveZmtp, driveLoop, waits]

/-- A frame handled while nothing else is buffered leaves the connection settled. -/
theorem settled_of_decoded {session : Session} {inBuf : ChunkedInputBuf} {flags : FrameFlags}
    {payload : Payload} (ready : session.state = .ready) (plain : session.wsRole = none)
    (charged : session.Charged) (drained : inBuf.bytes = [])
    (handled : onSession (decodeAssembledFrame flags payload)
      { session with inBuf } = .ok () after) : after.Settled := by
  have matched := (Session.Alike.refl ready).decodeAssembledFrame flags (rfl : payload.asSlice = _)
  obtain ⟨next, decoded, rfl⟩ := onSession_eq_ok handled
  rw [show decodeAssembledFrame flags payload session = _ from decoded] at matched
  have keeps := (evolves_decodeAssembledFrame ready flags payload).2 _ _ decoded
  refine ⟨keeps.receptive ⟨plain, .inr (.inr ready)⟩, keeps.charged charged, ?_⟩
  change step next inBuf.bytes = .stall
  simp only [step, matched.2.ready, drained]
  rfl

/-- Supplying a payload while nothing else is buffered handles its frame. -/
theorem supplyPayload_eq {connection : Connection} {session : Session} {flags : FrameFlags}
    {payload : Bytes} (ready : session.state = .ready) (plain : session.wsRole = none)
    (charged : session.Charged) (drained : connection.inBuf.bytes = [])
    (waiting : connection.toSession =
      { session with state := .awaitingSuppliedPayload flags payload.length }) :
    supplyPayload payload connection =
      onSession (decodeAssembledFrame flags (.fromBytes payload))
        { session with inBuf := connection.inBuf } := by
  have phase : connection.state = .awaitingSuppliedPayload flags payload.length := by
    rw [waiting]
  have resumed : ({ connection.toSession with state := .ready } : Session) = session := by
    rw [waiting, ← ready]
  unfold supplyPayload
  simp only [run_bind, run_get, phase, ne_eq, not_true_eq_false, if_false]
  rw [onSession_apply, run_modify]
  simp only [resumed]
  cases handled : onSession (decodeAssembledFrame flags (.fromBytes payload))
      { session with inBuf := connection.inBuf } with
  | error error failed => rfl
  | ok value after => exact (settled_of_decoded ready plain charged drained handled).drive

namespace TakenOver

variable {before after : Connection} {header : PeekedFrameHeader} {pre : Bytes}
  (taken : TakenOver before after header pre)

include taken

/-- The header is all a settled connection holds of the frame beyond a part of its payload. -/
theorem incomplete (settled : before.Settled) :
    before.inBuf.bytes.length < header.headerLen + header.payloadLen := by
  have stalled : step before.toSession before.inBuf.bytes = .stall := settled.stalled
  simp only [step, taken.ready] at stalled
  obtain missing | ⟨other, found, _, short⟩ := frameStep_eq_stall_iff.mp stalled
  · rw [taken.found] at missing
    cases missing
  · rw [taken.found] at found
    cases found
    exact short

/-- The whole buffer behind the header was handed out. -/
theorem handed_eq (settled : before.Settled) : pre = before.inBuf.bytes.drop header.headerLen ∧
      header.headerLen + pre.length = before.inBuf.bytes.length := by
  have short := taken.incomplete settled
  have header_le := (flatHeader_bounds taken.found).2.1
  have pre_eq : pre = before.inBuf.bytes.drop header.headerLen := by
    rw [taken.handed, take_of_length_le]
    rw [length_drop]
    omega
  refine ⟨pre_eq, ?_⟩
  rw [pre_eq, length_drop]
  omega

omit [CurvePrimitives] in
theorem flatHeader_append (stream : Bytes) :
    flatHeader (before.inBuf.bytes ++ stream) = .ok (some header) := by
  rw [Omq.flatHeader_append (by simp [taken.found]), taken.found]

theorem step_of_short (settled : before.Settled) {stream : Bytes}
    (short : stream.length < header.payloadLen - pre.length) :
    machine.step before.toSession (before.inBuf.bytes ++ stream) = .stall := by
  obtain ⟨_, length_eq⟩ := taken.handed_eq settled
  change step _ _ = _
  simp only [step, taken.ready]
  refine frameStep_eq_stall_iff.mpr
    (.inr ⟨header, taken.flatHeader_append stream, taken.accepted, ?_⟩)
  rw [length_append]
  omega

theorem step_of_complete (settled : before.Settled) {stream : Bytes}
    (complete : header.payloadLen - pre.length ≤ stream.length) :
    machine.step before.toSession (before.inBuf.bytes ++ stream) =
      conclude (decodeAssembledFrame header.flags
        (.fromSlice (pre ++ stream.take (header.payloadLen - pre.length))) before.toSession)
        (stream.drop (header.payloadLen - pre.length)) := by
  obtain ⟨pre_eq, length_eq⟩ := taken.handed_eq settled
  have short := taken.incomplete settled
  have header_le : header.headerLen ≤ before.inBuf.bytes.length := by omega
  have behind : (before.inBuf.bytes ++ stream).drop header.headerLen = pre ++ stream := by
    rw [drop_append_of_le_length header_le, ← pre_eq]
  have pre_le : pre.length ≤ header.payloadLen := by omega
  have framed : flatFrame (before.inBuf.bytes ++ stream) = .ok (some
      (⟨header.flags, .fromSlice (pre ++ stream.take (header.payloadLen - pre.length))⟩,
        stream.drop (header.payloadLen - pre.length))) := by
    refine flatFrame_eq_some_iff.mpr ⟨header, taken.flatHeader_append stream, ?_, ?_, ?_⟩
    · rw [length_append]
      omega
    · rw [behind, take_append, take_of_length_le pre_le]
    · rw [behind, drop_append, drop_eq_nil_of_le pre_le, nil_append]
  change step _ _ = _
  simp only [step, taken.ready, frameStep, taken.flatHeader_append stream, taken.accepted, framed]
  rfl

end TakenOver

/-! ## Connections in use -/

inductive Call
  | input (source : Bytes)
  | takeOver (way : TakeOver)
  | supply (payload : Bytes)
  | sendMessage (message : Message)
  | sendCommand (command : Command)
  | pollEvent
  | pollMessage
  | advanceTransmit (count : Nat)

def returned : EStateM.Result Error Connection Unit → Option Connection
  | .ok _ after => some after
  | .error _ _ => none

/-- Make a call; a connection whose call failed is not used again. -/
def perform (connection : Connection) : Call → Option Connection
  | .input source => returned (handleInput source connection)
  | .takeOver way => some (way.start connection).2
  | .supply payload => returned (supplyPayload payload connection)
  | .sendMessage message => returned (onSession (sendMessage message) connection)
  | .sendCommand command => returned (onSession (sendCommand command) connection)
  | .pollEvent => some { connection.toSession.pollEvent.2 with inBuf := connection.inBuf }
  | .pollMessage => some { connection.toSession.pollMessage.2 with inBuf := connection.inBuf }
  | .advanceTransmit count =>
    some { connection.toSession.advanceTransmit count with inBuf := connection.inBuf }

omit [CurvePrimitives] in
theorem returned_eq_some {result : EStateM.Result Error Connection Unit}
    (ok : returned result = some after) : result = .ok () after := by
  cases result with
  | ok value next => exact congrArg _ (Option.some.inj ok)
  | error error next => cases ok

structure Lent (connection : Connection) : Prop where
  waiting : ∃ flags payloadLen, connection.state = .awaitingSuppliedPayload flags payloadLen
  plain : connection.wsRole = none
  charged : connection.toSession.Charged
  drained : connection.inBuf.bytes = []

/-- Being settled depends on what reading and writing the outbound side leave alone. -/
theorem Settled.congr {other : Connection} (settled : connection.Settled)
    (same : (other.config, other.state, other.wsRole, other.pendingParts, other.pendingSize) =
      (connection.config, connection.state, connection.wsRole, connection.pendingParts,
        connection.pendingSize)) (buffered : other.inBuf = connection.inBuf) : other.Settled := by
  simp only [Prod.mk.injEq] at same
  obtain ⟨config, phase, framing, parts, size⟩ := same
  refine ⟨⟨framing.trans settled.receptive.1, ?_⟩, ?_, ?_⟩
  · change other.state = _ ∨ other.state = _ ∨ other.state = _
    rw [phase]
    exact settled.receptive.2
  · change other.pendingSize = chargeOf other.pendingParts
    rw [parts, size]
    exact settled.charged
  · rw [buffered]
    exact stall_congr phase config settled.stalled

/-- A call which leaves the inbound side of the session alone keeps the connection settled. -/
theorem Settled.of_leaves (settled : connection.Settled) (leaves : Leaves inboundView method)
    (ok : onSession method connection = .ok () after) : after.Settled := by
  obtain ⟨next, result, rfl⟩ := onSession_eq_ok ok
  exact settled.congr (congrArg (fun view : InboundView => (view.config, view.state, view.wsRole,
    view.pendingParts, view.pendingSize)) (leaves.of_ok result)) rfl

theorem TakenOver.lent {before after : Connection} {header : PeekedFrameHeader} {pre : Bytes}
    (taken : TakenOver before after header pre) (settled : before.Settled) : after.Lent where
  waiting := ⟨header.flags, header.payloadLen, by rw [taken.session]⟩
  plain := by
    rw [taken.session]
    exact taken.plain
  charged := by
    rw [taken.session]
    exact settled.charged
  drained := by
    have short := taken.incomplete settled
    rw [taken.rest, drop_drop, drop_eq_nil_of_le short.le]

omit [CurvePrimitives] in
theorem wsRole_of_leaves (leaves : Leaves inboundView method)
    (ok : onSession method connection = .ok () after) : after.wsRole = connection.wsRole := by
  obtain ⟨next, result, rfl⟩ := onSession_eq_ok ok
  exact congrArg InboundView.wsRole (leaves.of_ok result)

theorem perform_wsRole (performed : connection.perform call = some after) :
    after.wsRole = connection.wsRole := by
  cases call with
  | input source =>
    exact ((evolves_handleInput connection source).2 _ _ (returned_eq_some performed)).framing
  | takeOver way =>
    cases performed
    obtain refused | ⟨header, pre, next, taken, handed⟩ := way.start_cases connection
    · rw [refused]
    · rw [taken]
      change next.toSession.wsRole = _
      rw [handed.session]
  | supply payload =>
    exact ((evolves_supplyPayload connection payload).2 _ _ (returned_eq_some performed)).framing
  | sendMessage message =>
    exact wsRole_of_leaves (leaves_sendMessage message) (returned_eq_some performed)
  | sendCommand command =>
    exact wsRole_of_leaves (leaves_sendCommand command) (returned_eq_some performed)
  | pollEvent | pollMessage | advanceTransmit => exact Option.some.inj performed ▸ rfl

/-- A call keeps a settled connection settled or takes its next payload over. -/
theorem Settled.perform (settled : connection.Settled)
    (performed : connection.perform call = some after) : after.Settled ∨ after.Lent := by
  cases call with
  | input source => exact .inl (settled.handleInput (returned_eq_some performed))
  | takeOver way =>
    cases performed
    obtain refused | ⟨header, pre, next, taken, handed⟩ := way.start_cases connection
    · rw [refused]
      exact .inl settled
    · rw [taken]
      exact .inr (handed.lent settled)
  | supply payload =>
    have result := returned_eq_some performed
    have phase : connection.state = .awaitingGreeting ∨
      connection.state = .mechanismHandshake ∨ connection.state = .ready := settled.receptive.2
    obtain waiting | negotiating | ready := phase <;> simp [supplyPayload, *] at result
  | sendMessage message =>
    exact .inl (settled.of_leaves (leaves_sendMessage message) (returned_eq_some performed))
  | sendCommand command =>
    exact .inl (settled.of_leaves (leaves_sendCommand command) (returned_eq_some performed))
  | pollEvent | pollMessage | advanceTransmit =>
    exact Option.some.inj performed ▸ .inl (settled.congr rfl rfl)

/-- A connection whose payload was taken over waits for it, and is settled once it is supplied. -/
theorem Lent.perform (lent : connection.Lent) (performed : connection.perform call = some after) :
    after.Settled ∨ after.Lent := by
  obtain ⟨flags, payloadLen, waiting⟩ := lent.waiting
  have busy : connection.toSession.isReady = false := by
    simp [isReady, waiting]
  cases call with
  | input source => simp [perform, handleInput, waiting, returned] at performed
  | takeOver way =>
    cases performed
    obtain refused | ⟨header, pre, next, taken, handed⟩ := way.start_cases connection
    · rw [refused]
      exact .inr lent
    · rw [handed.ready] at waiting
      cases waiting
  | supply payload =>
    have result := returned_eq_some performed
    by_cases length_eq : payload.length = payloadLen
    · subst length_eq
      let session : Session := { connection.toSession with state := .ready }
      have ready : session.state = .ready := rfl
      have resumed : connection.toSession =
          { session with state := .awaitingSuppliedPayload flags payload.length } := by
        rw [← waiting]
      rw [supplyPayload_eq ready lent.plain lent.charged lent.drained resumed] at result
      exact .inl (settled_of_decoded ready lent.plain lent.charged lent.drained result)
    · simp [supplyPayload, waiting, length_eq] at result
  | sendMessage message =>
    simp [perform, onSession_apply, sendMessage, busy, returned] at performed
  | sendCommand command =>
    simp [perform, onSession_apply, sendCommand, busy, returned] at performed
  | pollEvent | pollMessage | advanceTransmit =>
    exact Option.some.inj performed ▸
      .inr ⟨⟨flags, payloadLen, waiting⟩, lent.plain, lent.charged, lent.drained⟩

theorem wsRole_new (config : ConnectionConfig) (env : Environment) :
    (Connection.new config env).wsRole = config.wsRole := by
  unfold Connection.new
  cases framing : config.wsRole with
  | none => rfl
  | some role => exact (updates_initWsMode rfl).wsRole_eq

/-- Between two calls a plain connection is settled, unless its next payload was taken over. -/
theorem settled_or_lent {config : ConnectionConfig} {env : Environment}
    (reached : Reaches perform (Connection.new config env) connection)
    (plain : connection.wsRole = none) : connection.Settled ∨ connection.Lent := by
  have kept {before after : Connection} {call : Call}
      (performed : before.perform call = some after)
      (holds : before.wsRole = none → before.Settled ∨ before.Lent) :
      after.wsRole = none → after.Settled ∨ after.Lent := by
    intro after_plain
    obtain settled | lent := holds ((perform_wsRole performed).symm.trans after_plain)
    · exact settled.perform performed
    · exact lent.perform performed
  refine reached.invariant (fun _ => kept) ?_ plain
  exact fun new_plain => .inl (settled_new ((wsRole_new config env).symm.trans new_plain) env)

/-- Whatever the peer sends, a plain connection with a size limit buffers less than one frame of the
largest accepted payload. -/
theorem buffered_lt {config : ConnectionConfig} {env : Environment} {limit : Nat}
    (reached : Reaches perform (new config env) connection) (plain : connection.wsRole = none)
    (limited : connection.config.maxMessageSize = some limit) :
    connection.inBuf.bytes.length < maxFrameHeaderLen + max maxHandshakeCommand limit := by
  obtain settled | lent := settled_or_lent reached plain
  · have stalled : step connection.toSession connection.inBuf.bytes = .stall := settled.stalled
    have phase : connection.state = .awaitingGreeting ∨
      connection.state = .mechanismHandshake ∨ connection.state = .ready := settled.receptive.2
    obtain waiting | negotiating | ready := phase
    · simp only [step, waiting] at stalled
      exact (greeting_lt_of_stall stalled).trans_le (le_add_left (le_max_of_le_left (by decide)))
    -- A header which is not refused bounds what can still be missing behind it.
    all_goals
      simp only [step, *] at stalled
      obtain unparsed | ⟨header, found, accepted, short⟩ := frameStep_eq_stall_iff.mp stalled
      · exact Nat.lt_add_right _ (length_of_flatHeader_none unparsed)
      · have bounds := flatHeader_bounds found
        simp [refuseHandshake, refuseReady, exceedsMax, limited, saturatingAdd] at accepted
        simp only [isizeMax, usizeMax] at *
        omega
  · simp [lent.drained, maxFrameHeaderLen]

/-! ## The two receive paths -/

/-- What can be observed of a connection after a call, payloads by their content. -/
structure Inspection where
  events : List Event
  messages : List (List Bytes)
  transmit : Bytes
  error : Option Error
  pendingParts : List Bytes
  pendingSize : Nat

def inspect (session : Session) (error : Option Error) : Inspection where
  events := session.events
  messages := session.messages.map Message.parts
  transmit := session.pollTransmit
  error := error
  pendingParts := session.pendingParts.map asSlice
  pendingSize := session.pendingSize

def inspectResult (result : EStateM.Result Error Connection Unit) : Inspection :=
  inspect (stopOf result).state (stopOf result).error

omit [CurvePrimitives] in
theorem inspect_of_alike {left right : Session} (alike : left.Alike right)
    (error : Option Error) : inspect right error = inspect left error := by
  have events_eq : right.events = left.events := by rw [alike.rest]; rfl
  have transmit_eq : right.pollTransmit = left.pollTransmit := by rw [alike.rest]; rfl
  have size_eq : right.pendingSize = left.pendingSize := by rw [alike.rest]; rfl
  simp only [inspect, events_eq, transmit_eq, size_eq, alike.parts, alike.messages]

/-- Read the missing part of a payload which was taken over off the stream, supply the payload and
feed what follows in the given pieces.  While the stream is too short the caller goes on reading. -/
def finishDirectly (payloadLen : Nat) (pre stream : Bytes) (later : List Bytes) :
    ConnectionM Unit := fun connection =>
  let missing := payloadLen - pre.length
  if stream.length < missing then .ok () connection
  else
    (do
      supplyPayload (pre ++ stream.take missing)
      handleInputs later) connection

/-- Direct receive is equivalent to `handle_input`: on every connection in use which hands the next
payload out, by either method, and for every continuation of the stream, reading the payload
directly and feeding the rest is observed as feeding the whole continuation. -/
theorem direct_receive_equivalent {config : ConnectionConfig} {env : Environment}
    {connection after : Connection}
    (reached : Reaches perform (Connection.new config env) connection)
    {way : TakeOver} {payloadLen : Nat} {pre : Bytes}
    (taken : way.start connection = (some (payloadLen, pre), after)) (stream : Bytes)
    {pieces later : List Bytes} (pieces_eq : pieces.flatten = stream)
    (later_eq : later.flatten = stream.drop (payloadLen - pre.length)) :
    inspectResult (finishDirectly payloadLen pre stream later after) =
      inspectResult (handleInputs pieces connection) := by
  obtain refused | ⟨header, handed, next, started, lent⟩ := way.start_cases connection
  · rw [refused] at taken
    cases taken
  rw [taken] at started
  obtain ⟨⟨rfl, rfl⟩, rfl⟩ : (payloadLen = header.payloadLen ∧ pre = handed) ∧ after = next := by
    simpa using started
  have settled : connection.Settled := by
    obtain settled | waiting := settled_or_lent reached lent.plain
    · exact settled
    · obtain ⟨flags, length, waiting⟩ := waiting.waiting
      rw [lent.ready] at waiting
      cases waiting
  obtain ⟨state_eq, error_eq, _⟩ := stopOf_handleInputs_settle settled pieces
  rw [inspectResult, inspectResult, state_eq, error_eq, pieces_eq]
  unfold finishDirectly
  dsimp only
  split_ifs with short
  · rw [machine.settle_of_stall (lent.step_of_short settled short)]
    simp only [stopOf, lent.session]
    rfl
  · have stepped := lent.step_of_complete settled (Nat.not_lt.mp short)
    have drained := (lent.lent settled).drained
    let data := pre ++ stream.take (header.payloadLen - pre.length)
    have data_length : data.length = header.payloadLen := by
      have incomplete := lent.incomplete settled
      have length_eq := (lent.handed_eq settled).2
      rw [length_append, length_take]
      omega
    have waiting : after.toSession = { connection.toSession with
        state := .awaitingSuppliedPayload header.flags data.length } := by
      rw [data_length, lent.session]
    have supplied := supplyPayload_eq lent.ready lent.plain settled.charged drained waiting
    have matched := (Session.Alike.refl lent.ready).decodeAssembledFrame header.flags
      (by simp : (fromBytes data).asSlice = (fromSlice data).asSlice)
    rw [run_bind, supplied, onSession_apply]
    obtain ⟨value, other, resumed, reference, direct, alike⟩ |
      ⟨error, other, failed, reference, direct, alike⟩ := matched.cases
    · rw [reference] at stepped
      have again : Connection.Settled { resumed with inBuf := after.inBuf } :=
        settled_of_decoded lent.ready lent.plain settled.charged drained
          (by rw [onSession_apply, direct])
      obtain ⟨later_state, later_error, _⟩ := stopOf_handleInputs_settle again later
      obtain ⟨later_alike, _, errors⟩ := machine.settle_related step_related
        alike (stream.drop (header.payloadLen - pre.length))
      rw [machine.settle_of_move stepped, errors]
      simp only [direct, later_state, later_error, drained, nil_append, later_eq]
      exact inspect_of_alike later_alike _
    · rw [reference] at stepped
      rw [machine.settle_of_fail stepped]
      simp only [direct]
      exact inspect_of_alike alike _

end

theorem buffered_lt_pair : ∃ connection : Connection, connection.inBuf.bytes = [0, 5, 1, 2] ∧
    connection.inBuf.bytes.length < maxFrameHeaderLen + max maxHandshakeCommand 100 := by
  obtain ⟨connection, reached, held, plain, limited⟩ : ∃ connection, Reaches (@perform .transparent)
      (@new .transparent { ConnectionConfig.null .client .pair with maxMessageSize := some 100 }
        .zero) connection ∧ connection.inBuf.bytes = [0, 5, 1, 2] ∧ connection.wsRole = none ∧
          connection.config.maxMessageSize = some 100 :=
    exists_reaches [.input (nullHandshake .pair), .input [0, 5, 1, 2]] (by decide +kernel)
  exact ⟨_, held, @buffered_lt _ .transparent _ _ _ reached plain limited⟩

/-- After a handshake and the first two bytes of a payload, the rest of the payload and a second
frame can be received either way. -/
theorem received_directly :
    ∃ connection after,
      Reaches (@perform .transparent)
        (@Connection.new .transparent (.null .client .pair) .zero) connection ∧
      TakeOver.withPrefix.start connection = (some (5, [1, 2]), after) ∧
      inspectResult (@finishDirectly .transparent 5 [1, 2] [3, 4, 5, 0, 1, 9] [[0], [1, 9]] after) =
        inspectResult (@handleInputs .transparent [[3, 4], [5, 0, 1, 9]] connection) := by
  obtain ⟨connection, reached, handed⟩ : ∃ connection,
      Reaches (@perform .transparent)
        (@Connection.new .transparent (.null .client .pair) .zero) connection ∧
      (TakeOver.withPrefix.start connection).1 = some (5, [1, 2]) :=
    exists_reaches [.input (nullHandshake .pair), .input [0, 5, 1, 2]] (by decide +kernel)
  have started : TakeOver.withPrefix.start connection =
      (some (5, [1, 2]), (TakeOver.withPrefix.start connection).2) := Prod.ext handed rfl
  exact ⟨connection, _, reached, started,
    @direct_receive_equivalent .transparent _ _ _ _ reached _ _ _ started _ _ _ rfl rfl⟩

end Connection

end Omq
