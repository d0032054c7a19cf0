import Omq.Proto.Mechanism.Security
import Omq.Proto.TransmitQueue
import Omq.Proto.WsCodec

/-!
# Connection state and outbound side

`Session` is the connection without its input buffer: everything a decoded frame can change.
`Connection` adds the buffer.  A method of the source which may fail after changing the connection
is a computation which keeps the changes.
-/

namespace Omq

variable [CurvePrimitives]

/-- Which side of the TCP pairing we are. -/
inductive Role
  | server
  | client
  deriving DecidableEq

structure ConnectionConfig where
  role : Role
  socketType : SocketType
  /-- Routing identity; empty for anonymous. -/
  identity : Bytes
  /-- Largest inbound message; unlimited when absent. -/
  maxMessageSize : Option Nat
  mechanism : MechanismSetup
  /-- WebSocket role; plain ZMTP framing when absent. -/
  wsRole : Option WsRole

/-- A NULL configuration with plain framing, no identity and no limit. -/
def ConnectionConfig.null (role : Role) (socketType : SocketType) : ConnectionConfig :=
  ⟨role, socketType, [], none, .null, none⟩

/-- A NULL configuration in WebSocket framing. -/
def ConnectionConfig.webSocket (role : Role) (wsRole : WsRole) : ConnectionConfig :=
  { ConnectionConfig.null role .pair with wsRole := some wsRole }

inductive Event
  | handshakeSucceeded (peerMinor : UInt8) (peerProperties : PeerProperties)
  | command (command : Command)
  deriving DecidableEq

inductive State
  | awaitingGreeting
  | mechanismHandshake
  | ready
  | awaitingSuppliedPayload (flags : FrameFlags) (payloadLen : Nat)
  | closed
  deriving DecidableEq

/-- A connection without its input buffer. -/
structure Session where
  config : ConnectionConfig
  state : State
  mechanism : SecurityMechanism
  /-- Random generator and clock. -/
  env : Environment
  transform : Option CurveTransform
  ourGreeting : Bytes
  peerGreeting : Bytes
  peerMinor : UInt8
  /-- Outbound bytes pending transmit. -/
  out : TransmitQueue
  /-- Control-plane events not yet polled. -/
  events : List Event
  /-- Application messages not yet polled. -/
  messages : List Message
  /-- Parts of the message being assembled. -/
  pendingParts : List Payload
  /-- Size charged for the message being assembled. -/
  pendingSize : Nat
  wsRole : Option WsRole
  wsCloseSent : Bool
  /-- Partially assembled WebSocket message. -/
  wsFragment : Option Bytes

structure Connection extends Session where
  /-- Bytes received and not yet decoded. -/
  inBuf : ChunkedInputBuf

/-- A fallible method which does not touch the input buffer. -/
abbrev SessionM := EStateM Error Session

namespace Session

variable (session : Session)

def hasFrameTransform : Bool := session.transform.isSome

def isReady : Bool := session.state = .ready

/-- Append chunks to the outbound queue. -/
def pushChunks (chunks : List Bytes) : Session :=
  { session with out := session.out.extend chunks }

/-- Queue a frame as a WebSocket binary message. -/
def emitWsFrame (flags : FrameFlags) (payload : Payload) (role : WsRole) : Session :=
  let flag := flagsToZws flags
  let body := payload.asSlice
  match encodeWsHeader .binary (1 + body.length) role session.env with
  | (header, some mask, env) =>
    let session := { session with env }.pushChunks [header ++ [flag ^^^ mask.getD 0 0]]
    if body = [] then session else session.pushChunks [applyMaskOffset body mask 1]
  | (header, none, env) =>
    let session := { session with env }.pushChunks [header ++ [flag]]
    if body = [] then session else session.pushChunks [body]

def emitFrame (flags : FrameFlags) (payload : Payload) : Session :=
  match session.wsRole with
  | some role => session.emitWsFrame flags payload role
  | none => session.pushChunks (encodeFrameInto ⟨flags, payload⟩)

def emitCommandFrame (payload : Bytes) : Session :=
  session.emitFrame .commandFrame (.fromBytes payload)

/-- Install or replace the frame transform. -/
def withTransform (transform : Option CurveTransform) : Session :=
  { session with transform }

/-- The transform commands traverse: only after the handshake. -/
def activeTransform : Option CurveTransform :=
  if session.state = .ready then session.transform else none

/-- Queue one command, sealed when CURVE is active. -/
def writeOutboundCommand (command : Command) : SessionM Unit := do
  let session ← get
  match session.activeTransform with
  | some transform =>
    match transform.encryptMessage false true command.encode with
    | .error _ => throw (.protocol "command encryption failed")
    | .ok (body, transform) =>
      set ((session.withTransform (some transform)).emitCommandFrame
        (CurveTransform.messageCommandFrame body))
  | none => set (session.emitCommandFrame command.encode)

def writeOutboundCommands : List Command → SessionM Unit
  | [] => pure ()
  | command :: rest => do
      writeOutboundCommand command
      writeOutboundCommands rest

def sendPartCurve (transform : CurveTransform) (more : Bool) (part : Payload) :
    SessionM Unit := do
  let (body, transform) ← Attempt.ofExcept (transform.encryptMessage more false part.asSlice)
  modify fun session =>
    (session.withTransform (some transform)).emitFrame (if more then .moreData else .last)
      (.fromBytes (CurveTransform.messageCommandFrame body))

/-- Queue the parts of a message; every part but the last carries MORE. -/
def sendParts : List Payload → SessionM Unit
  | [] => pure ()
  | part :: rest => do
      let more := !rest.isEmpty
      match (← get).transform with
      | some transform => sendPartCurve transform more part
      | none => modify fun session => session.emitFrame (if more then .moreData else .last) part
      sendParts rest

def sendMessage (message : Message) : SessionM Unit := do
  if !(← get).isReady then throw (.protocol "send_message before handshake complete")
  sendParts message.partsPayload

def sendCommand (command : Command) : SessionM Unit := do
  if !(← get).isReady then throw (.protocol "send_command before handshake complete")
  writeOutboundCommands [command]

def queueWsControl (opcode : WsOpcode) (payload : Bytes) : Session :=
  let (frame, env) := encodeWsControl opcode payload (session.wsRole.getD .server) session.env
  { session with env }.pushChunks [frame]

def queueWsClose (payload : Bytes) : Session :=
  if session.wsCloseSent then session
  else { session with wsCloseSent := true }.queueWsControl .close payload

def queueWsPong (payload : Bytes) : Session :=
  session.queueWsControl .pong payload

def pollTransmit : Bytes := session.out.pollTransmit

def advanceTransmit (count : Nat) : Session :=
  { session with out := session.out.advanceTransmit count }

def pollEvent : Option Event × Session :=
  (session.events.head?, { session with events := session.events.tail })

def pollMessage : Option Message × Session :=
  (session.messages.head?, { session with messages := session.messages.tail })

def ourProps : PeerProperties :=
  let props := PeerProperties.new.withSocketType session.config.socketType
  if session.config.identity = [] then props
  else props.withIdentity session.config.identity

/-- Take over the mechanism state and the environment after a call of the mechanism. -/
def adopt {α : Type} (session : Session) (reply : Reply SecurityMechanism α) : Session :=
  { session with mechanism := reply.mechanism, env := reply.env }

def startMechanism : SessionM Unit := do
  let session ← get
  let reply := session.mechanism.start session.env session.ourProps
  set (session.adopt reply)
  Attempt.ofExcept reply.result
  writeOutboundCommands reply.out

/-- Queue our greeting; the server bit is never set with NULL. -/
def queueGreeting : Session :=
  let name := session.config.mechanism.wireName
  let asServer := name ≠ .null ∧ session.config.role = .server
  let greeting := (Greeting.current name asServer).encode
  { session with ourGreeting := greeting }.pushChunks [greeting]

/-- Start in ZWS mode, without a greeting; a mechanism which cannot start closes the session. -/
def initWsMode : Session :=
  match startMechanism { session with state := .mechanismHandshake } with
  | .ok _ session => session
  | .error _ session => { session with state := .closed }

end Session

namespace Connection

/-- A fresh connection with our greeting queued, or in ZWS mode. -/
def new (config : ConnectionConfig) (env : Environment) : Connection :=
  let (mechanism, env) := config.mechanism.build env
  let session : Session := {
    config := config
    state := .awaitingGreeting
    mechanism := mechanism
    env := env
    transform := none
    ourGreeting := []
    peerGreeting := []
    peerMinor := zmtpMinor
    out := .new
    events := []
    messages := []
    pendingParts := []
    pendingSize := 0
    wsRole := config.wsRole
    wsCloseSent := false
    wsFragment := none }
  let session := if config.wsRole.isSome then session.initWsMode else session.queueGreeting
  { session with inBuf := .new }

end Connection

end Omq
