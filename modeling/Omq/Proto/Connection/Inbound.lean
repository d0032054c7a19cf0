import Omq.Proto.Connection.Session

/-!
# The inbound side of a connection

Decoded frames act on the session; the drive loops cut frames out of the input buffer.  Loops are
bounded by the number of buffered bytes, since every turn which makes progress consumes some.
-/

namespace Omq

open Attempt

variable [CurvePrimitives]

def maxHandshakeCommand : Nat := 256 * 1024

/-- Parse a command frame without interpreting the body. -/
def decodeCommandRaw : Bytes → Except Error Command
  | [] => .error (.protocol "empty command frame")
  | first :: rest =>
    if rest.length < first.toNat then .error (.protocol "command truncated in name")
    else .ok (.unknown (rest.take first.toNat) (rest.drop first.toNat))

namespace Session

variable (session : Session)

/-- Enter the data phase and announce it. -/
def becomeReady (transform : Option CurveTransform) (props : PeerProperties) : Session :=
  { session with
    transform := transform
    state := .ready
    events := session.events ++ [.handshakeSucceeded session.peerMinor props] }

/-- Check the peer's properties, install the transform and become ready. -/
def completeHandshake (props : PeerProperties) : SessionM Unit := do
  let session ← get
  match props.socketType with
  | none => throw (.handshakeFailed "peer did not declare socket type")
  | some peerType =>
    if !isCompatible session.config.socketType peerType then
      throw (.handshakeFailed ("incompatible socket types: ours=" ++
        session.config.socketType.debug ++ " peer=" ++ peerType.debug))
    else
      match session.mechanism.buildTransform with
      | .error error => throw error
      | .ok transform =>
        set (session.becomeReady transform props)

/-- Send what the mechanism replied and complete the handshake when it is done. -/
def followReply (reply : Reply SecurityMechanism MechanismStep) : SessionM Unit := do
  let step ← Attempt.ofExcept reply.result
  writeOutboundCommands reply.out
  match step with
  | .continue => pure ()
  | .complete props => completeHandshake props

def processMechanismCommand (payload : Bytes) : SessionM Unit := do
  let command ← Attempt.ofExcept (decodeCommandRaw payload)
  let session ← get
  let reply := session.mechanism.onCommand session.env command
  set (session.adopt reply)
  followReply reply

variable (command : Command)

def withCommand : Session :=
  { session with events := session.events ++ [.command command] }

/-- Queue a command for the application. -/
def announce : SessionM Unit :=
  modify fun session => session.withCommand command

def handlePostHandshakeCommand : SessionM Unit :=
  match command with
  | .ready _ => throw (.protocol "READY/ERROR command received after handshake")
  | .error _ => throw (.protocol "READY/ERROR command received after handshake")
  | .ping _ context => writeOutboundCommands [.pong context]
  | .pong _ => pure ()
  | other => announce other

def exceedsMax (size : Nat) : Option Nat :=
  session.config.maxMessageSize.filter fun max => max < size

def withMessage (message : Message) : Session :=
  { session with messages := session.messages ++ [message] }

/-- Queue an assembled message for the application. -/
def deliver (message : Message) : SessionM Unit := modify fun session => session.withMessage message

def withPending (parts : List Payload) (size : Nat) : Session :=
  { session with pendingParts := parts, pendingSize := size }

def assembled (parts : List Payload) (last : Payload) : Message :=
  if parts = [] then
    if last.asSlice.length ≤ maxInlineMessage then .fromInline last.asSlice
    else .fromPayload last
  else .fromPayloadsVec (parts ++ [last])

/-- Add a data frame to the message being assembled and deliver the message when it is complete. -/
def absorbDataFrame (more : Bool) (payload : Payload) : SessionM Unit := do
  let session ← get
  let size := saturatingAdd session.pendingSize (payload.len + payloadSlot)
  set (session.withPending session.pendingParts size)
  match session.exceedsMax size with
  | some max => throw (.messageTooLarge size max)
  | none =>
    if more then set (session.withPending (session.pendingParts ++ [payload]) size)
    else
      set (session.withPending [] 0)
      deliver (assembled session.pendingParts payload)

def dispatchContent (command more : Bool) (payload : Payload) : SessionM Unit := do
  if command then
    let command ← Attempt.ofExcept (Command.decode payload.asSlice)
    handlePostHandshakeCommand command
  else absorbDataFrame more payload

/-- Act on an assembled frame of the data phase, opening it first when CURVE is active. -/
def decodeAssembledFrame (flags : FrameFlags) (payload : Payload) : SessionM Unit := do
  let session ← get
  match session.transform with
  | some transform =>
    let body := payload.asSlice
    let pre := CurveTransform.messagePrefix
    if body.take pre.length = pre then
      let ((more, command, plaintext), transform) ←
        Attempt.ofExcept (transform.decryptMessage (body.drop pre.length))
      set (session.withTransform (some transform))
      dispatchContent command more (.fromBytes plaintext)
    else throw (.protocol "expected CURVE-wrapped MESSAGE on data-phase connection")
  | none => dispatchContent flags.command flags.more payload

end Session

namespace Connection

/-- A fallible method of a connection. -/
abbrev ConnectionM := EStateM Error Connection

/-- Run a method which does not touch the input buffer. -/
def onSession {α : Type} (method : SessionM α) : ConnectionM α := fun connection =>
  match method connection.toSession with
  | .ok value session => .ok value { session with inBuf := connection.inBuf }
  | .error error session => .error error { session with inBuf := connection.inBuf }

def setInBuf (inBuf : ChunkedInputBuf) : ConnectionM Unit :=
  modify fun connection => { connection with inBuf }

end Connection

def MechanismName.debug (name : MechanismName) : String :=
  if isUtf8 name.asBytes then debugText name.asBytes else debugText (ascii "<invalid>")

namespace Session

def enterHandshake (session : Session) (greeting : Greeting) (raw : Bytes) : Session :=
  { session with
    peerMinor := Greeting.effectiveMinor greeting.minor
    peerGreeting := raw
    state := .mechanismHandshake }

/-- Accept the peer's greeting and start the mechanism. -/
def acceptGreeting (greeting : Greeting) (raw : Bytes) : SessionM Unit := do
  let ours := (← get).config.mechanism.wireName
  if greeting.mechanism ≠ ours then
    throw (.handshakeFailed ("mechanism mismatch: ours=" ++ ours.debug ++ " peer=" ++
      greeting.mechanism.debug))
  else if ours = .null ∧ greeting.asServer then
    throw (.handshakeFailed "peer sent as-server=1 with NULL mechanism")
  else
    modify fun session => session.enterHandshake greeting raw
    startMechanism

end Session

namespace Connection

open Session

/-- Consume the greeting once it is buffered. -/
def tryAdvanceGreeting : ConnectionM Bool := do
  let buf := (← get).inBuf
  match Greeting.tryDecode buf with
  | .incomplete => return false
  | .refused error => throw error
  | .consumed result rest => do
      setInBuf rest
      let greeting ← Attempt.ofExcept result
      onSession (acceptGreeting greeting (buf.bytes.take greetingLen))
      return true

/-- Consume one handshake command frame once it is buffered. -/
def tryAdvanceMechanism : ConnectionM Bool := do
  let buf := (← get).inBuf
  let header ← Attempt.ofExcept (peekFrameHeader buf)
  match header.filter fun header => maxHandshakeCommand < header.payloadLen with
  | some header =>
    throw (.handshakeFailed ("handshake command frame too large: " ++
      toString header.payloadLen ++ " bytes (max " ++ toString maxHandshakeCommand ++ ")"))
  | none =>
    match ← Attempt.ofExcept (tryDecodeFrame buf) with
    | none => return false
    | some (frame, rest) => do
        setInBuf rest
        if !frame.flags.command then
          throw (.handshakeFailed "peer sent data frame during handshake")
        onSession (processMechanismCommand frame.payload.asSlice)
        return true

variable (connection : Connection)

/-- The header of a small complete data frame which the fast path delivers on its own. -/
def fastPathHeader : Except Error (Option PeekedFrameHeader) :=
  if connection.hasFrameTransform ∨ connection.pendingParts ≠ [] then .ok none
  else
    match peekFrameHeader connection.inBuf with
    | .error error => .error error
    | .ok header => .ok (header.filter fun header =>
      !header.flags.command && !header.flags.more &&
        header.payloadLen ≤ maxInlineMessage &&
        header.headerLen + header.payloadLen ≤ connection.inBuf.len)

/-- Refuse a frame whose declared payload alone exceeds the limit. -/
def checkDeclared (header : PeekedFrameHeader) : Except Error Unit :=
  match connection.exceedsMax (saturatingAdd header.payloadLen payloadSlot) with
  | some max => .error (.messageTooLarge header.payloadLen max)
  | none => .ok ()

/-- Refuse the next frame by its declared payload, before the payload is buffered. -/
def checkNextFrame : Except Error Unit :=
  if connection.config.maxMessageSize.isNone then .ok ()
  else
    match peekFrameHeader connection.inBuf with
    | .error error => .error error
    | .ok none => .ok ()
    | .ok (some header) => connection.checkDeclared header

/-- The fast path: read a small message straight out of the buffer. -/
def deliverInline (header : PeekedFrameHeader) : ConnectionM Bool := do
  let connection ← get
  Attempt.ofExcept (connection.checkDeclared header)
  let (data, rest) := (connection.inBuf.advance header.headerLen).readInto header.payloadLen
  setInBuf rest
  onSession (deliver (.fromInline data))
  return true

/-- The general path: take the next frame off the buffer and act on it. -/
def assembleFrame : ConnectionM Bool := do
  let connection ← get
  Attempt.ofExcept connection.checkNextFrame
  match ← Attempt.ofExcept (tryDecodeFrame connection.inBuf) with
  | none => return false
  | some (frame, rest) => do
      setInBuf rest
      onSession (decodeAssembledFrame frame.flags frame.payload)
      return true

/-- Consume one frame of the data phase once it is buffered. -/
def tryAdvanceReady : ConnectionM Bool := do
  match ← Attempt.ofExcept (← get).fastPathHeader with
  | some header => deliverInline header
  | none => assembleFrame

/-- One turn of the drive loop in plain ZMTP mode. -/
def tryAdvance : ConnectionM Bool := do
  match (← get).state with
  | .awaitingGreeting => tryAdvanceGreeting
  | .mechanismHandshake => tryAdvanceMechanism
  | .ready => tryAdvanceReady
  | .awaitingSuppliedPayload _ _ => return false
  | .closed => return false

/-- Repeat turns until one makes no progress. -/
def driveLoop (turn : ConnectionM Bool) : (fuel : Nat) → ConnectionM Unit
  | 0 => pure ()
  | fuel + 1 => do
      if ← turn then driveLoop turn fuel

def driveZmtp : ConnectionM Unit := do
  driveLoop tryAdvance ((← get).inBuf.len + 1)

/-! ## WebSocket framing -/

/-- Act on a ZWS frame according to the phase. -/
def dispatchWsBinary (flags : FrameFlags) (payload : Payload) : SessionM Unit := do
  match (← get).state with
  | .mechanismHandshake =>
    if !flags.command then
      throw (.handshakeFailed "peer sent data frame during handshake")
    else processMechanismCommand payload.asSlice
  | .ready => decodeAssembledFrame flags payload
  | _ => throw (.protocol "WS binary frame in unexpected state")

/-- Split the ZWS flag off an unmasked message and act on the frame. -/
def dispatchWsPayload (raw : Bytes) : SessionM Unit :=
  match raw with
  | [] => throw (.protocol "empty WS binary frame")
  | flag :: body => do
      let flags ← Attempt.ofExcept (zwsToFlags flag)
      dispatchWsBinary flags (.fromBytes body)

variable (session : Session)

/-- Largest accepted WebSocket payload in the current phase. -/
def wsPayloadCap : Option Nat :=
  if session.state = .ready then session.config.maxMessageSize else some maxHandshakeCommand

def takeWsPayload (buf : ChunkedInputBuf) (header : WsFrameHeader) : Bytes × ChunkedInputBuf :=
  let (payload, rest) := buf.splitTo header.payloadLen
  (if header.masked then applyMask payload.asSlice header.maskKey else payload.asSlice, rest)

def withFragment (wsFragment : Option Bytes) : Session :=
  { session with wsFragment }

/-- Act on a data frame: dispatch it, or collect its fragments first. -/
def handleWsDataFrame (raw : Bytes) (header : WsFrameHeader) : SessionM Unit := do
  let session ← get
  if header.opcode = .binary then
    if session.wsFragment.isSome then
      throw (.protocol "new WS binary frame before fragmented message completed")
    else if header.fin then dispatchWsPayload raw
    else set (withFragment session (some raw))
  else
    match session.wsFragment with
    | none => throw (.protocol "WS continuation frame without initial binary frame")
    | some assembled =>
      set (withFragment session none)
      let total := assembled.length + raw.length
      if usizeMax < total then throw (.protocol "WS fragmented message size overflow")
      match (wsPayloadCap session).filter fun cap => cap < total with
      | some cap =>
        throw (.protocol ("WS fragmented message too large: " ++ toString total ++
          " bytes (max " ++ toString cap ++ ")"))
      | none =>
        if header.fin then dispatchWsPayload (assembled ++ raw)
        else modify fun session => withFragment session (some (assembled ++ raw))

/-- Echo a close frame once and close. -/
def handleWsClose (raw : Bytes) : Session :=
  { session.queueWsClose (raw.take 2) with state := .closed }

variable (peerRole : WsRole)

/-- The fast path for small final data frames; `none` falls through to the full parse. -/
def tryAdvanceReadyWs : ConnectionM (Option Bool) := do
  let connection ← get
  match connection.inBuf.peekArray 2 with
  | none => return some false
  | some firstTwo => do
      let second := firstTwo.getD 1 0
      let masked : Bool := peerRole = .client
      let wsPayloadLen := (second &&& 0x7F).toNat
      if firstTwo.getD 0 0 ≠ 0x82 ∨ masked ≠ decide (second &&& 0x80 ≠ 0) ∨ 126 ≤ wsPayloadLen ∨
          wsPayloadLen = 0 ∨ maxInlineMessage < wsPayloadLen - 1 then
        return none
      let headerLen := if masked then 6 else 2
      if connection.inBuf.len < headerLen + wsPayloadLen then return some false
      let maskKey :=
        if masked then ((connection.inBuf.peekArray 6).getD []).drop 2 else [0, 0, 0, 0]
      let zmtpPayloadLen := wsPayloadLen - 1
      match connection.exceedsMax (saturatingAdd zmtpPayloadLen payloadSlot) with
      | some max => throw (.messageTooLarge zmtpPayloadLen max)
      | none => do
          let (rawFlag, buf) := (connection.inBuf.advance headerLen).readInto 1
          setInBuf buf
          let flag := rawFlag.headD 0 ^^^ if masked then maskKey.getD 0 0 else 0
          if flag ≠ 0 then
            let flags ← Attempt.ofExcept (zwsToFlags flag)
            let (payload, rest) := buf.splitTo zmtpPayloadLen
            setInBuf rest
            let payload :=
              if masked then .fromBytes (applyMaskOffset payload.asSlice maskKey 1) else payload
            onSession (dispatchWsBinary flags payload)
            return some true
          else
            let (data, rest) := buf.readInto zmtpPayloadLen
            setInBuf rest
            onSession (deliver (.fromInline
              (if masked then applyMaskOffset data maskKey 1 else data)))
            return some true

def checkWsFrame (header : WsFrameHeader) : Except Error Unit :=
  let payloadLen := header.payloadLen
  if usizeMax < payloadLen then
    .error (.protocol ("WS payload length " ++ toString payloadLen ++ " exceeds platform usize"))
  else if isizeMax < payloadLen then
    .error (.protocol
      ("WS payload length " ++ toString payloadLen ++ " exceeds maximum allocation"))
  else if usizeMax < header.headerLen + payloadLen then
    .error (.protocol "WS frame size overflow")
  else
    match (wsPayloadCap session).filter fun cap => cap < payloadLen with
    | some cap =>
      .error (.protocol ("WS frame too large: " ++ toString payloadLen ++ " bytes (max " ++
        toString cap ++ ")"))
    | none => .ok ()

/-- Consume one WebSocket frame once it is buffered; the result is whether to go on. -/
def tryAdvanceWsFrame : ConnectionM Bool := do
  let connection ← get
  match ← Attempt.ofExcept (peekWsHeader connection.inBuf peerRole) with
  | none => return false
  | some header => do
      Attempt.ofExcept (checkWsFrame connection.toSession header)
      if connection.inBuf.len < header.headerLen + header.payloadLen then return false
      let (raw, rest) := takeWsPayload (connection.inBuf.advance header.headerLen) header
      setInBuf rest
      match header.opcode with
      | .binary | .continuation => do
          onSession (handleWsDataFrame raw header)
          return true
      | .close => do
          onSession (modify fun session => handleWsClose session raw)
          return false
      | .ping => do
          onSession (modify fun session => session.queueWsPong raw)
          return true
      | .pong => return true

/-- One turn of the drive loop in ZWS mode. -/
def tryAdvanceWs : ConnectionM Bool := do
  let connection ← get
  if connection.state = .closed then return false
  if connection.state = .ready ∧ !connection.hasFrameTransform ∧ connection.pendingParts = [] then
    match ← tryAdvanceReadyWs peerRole with
    | some progress => return progress
    | none => tryAdvanceWsFrame peerRole
  else tryAdvanceWsFrame peerRole

def driveWs (role : WsRole) : ConnectionM Unit := do
  let peerRole := match role with
    | .client => WsRole.server
    | .server => WsRole.client
  driveLoop (tryAdvanceWs peerRole) ((← get).inBuf.len + 1)

/-! ## Input -/

/-- Decode whatever is buffered. -/
def drive : ConnectionM Unit := do
  match (← get).wsRole with
  | some role => driveWs role
  | none => driveZmtp

def receive (source : Bytes) : Connection :=
  { connection with inBuf := connection.inBuf.push source }

def handleInput (source : Bytes) : ConnectionM Unit := do
  match (← get).state with
  | .closed => throw .closed
  | .awaitingSuppliedPayload _ _ =>
    throw (.protocol "handle_input while awaiting supplied payload")
  | _ =>
    if source = [] then return ()
    modify fun connection => connection.receive source
    drive

/-- Feed chunks one after the other, stopping at the first error. -/
def handleInputs : List Bytes → ConnectionM Unit
  | [] => pure ()
  | chunk :: chunks => do
      handleInput chunk
      handleInputs chunks

def peekNextFramePayloadSize : Except Error (Option Nat) :=
  if connection.state ≠ .ready ∨ connection.wsRole.isSome then .ok none
  else
    match peekFrameHeader connection.inBuf with
    | .error error => .error error
    | .ok none => .ok none
    | .ok (some header) =>
      match connection.checkDeclared header with
      | .error error => .error error
      | .ok () => .ok (some header.payloadLen)

/-- The header a direct receive would take over, when the connection can hand it out. -/
def suppliedHeader : Option PeekedFrameHeader :=
  if connection.state ≠ .ready ∨ connection.wsRole.isSome then none
  else
    match peekFrameHeader connection.inBuf with
    | .ok (some header) =>
      match connection.checkDeclared header with
      | .ok () => some header
      | .error _ => none
    | _ => none

/-- Take over the payload of the next frame when only its header is buffered. -/
def beginSuppliedPayload : Option Nat × Connection :=
  match connection.suppliedHeader with
  | none => (none, connection)
  | some header =>
    if connection.inBuf.len ≠ header.headerLen then (none, connection)
    else
      (some header.payloadLen,
        { connection with
          inBuf := connection.inBuf.advance header.headerLen
          state := .awaitingSuppliedPayload header.flags header.payloadLen })

/-- Take over the payload of the next frame together with its buffered prefix. -/
def beginSuppliedPayloadWithPrefix : Option (Nat × Payload) × Connection :=
  match connection.suppliedHeader with
  | none => (none, connection)
  | some header =>
    if connection.inBuf.len < header.headerLen then (none, connection)
    else
      let buf := connection.inBuf.advance header.headerLen
      let (pre, rest) := buf.splitTo (min buf.len header.payloadLen)
      (some (header.payloadLen, pre),
        { connection with
          inBuf := rest
          state := .awaitingSuppliedPayload header.flags header.payloadLen })

/-- Deliver the payload of a frame whose header was taken over. -/
def supplyPayload (payload : Bytes) : ConnectionM Unit := do
  match (← get).state with
  | .awaitingSuppliedPayload flags payloadLen => do
      if payload.length ≠ payloadLen then
        throw (.protocol ("supplied payload length " ++ toString payload.length ++
          " != expected " ++ toString payloadLen))
      onSession (modify fun session => { session with state := .ready })
      onSession (decodeAssembledFrame flags (.fromBytes payload))
      drive
  | .closed => throw .closed
  | _ => throw (.protocol "supply_payload outside AwaitingSuppliedPayload")

end Connection

end Omq
