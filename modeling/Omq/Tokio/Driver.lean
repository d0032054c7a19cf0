import Omq.Proto.Connection.Update
import Omq.Tokio.Outbound

/-!
# The connection driver

One task per connection reads the stream into the connection, accepts commands and messages, and
writes what they produce.  `Driver.step` is one turn of its select loop: the input says which arm
fires, what the stream delivers, and how it answers writes.  An arm which is not enabled takes no
step.  A handler which waits for the stream without an answer, or which fails, ends the task; only
the flush arm is cancelled when another arm fires first.
-/

namespace Omq

open PartialWrite Attempt

def outboundBatchMaxMsgs : Nat := 512

def wireDrainMaxRounds : Nat := 1024

def wireDrainMaxBytes : Nat := 1024 * 1024

/-- Chunks a caller has framed itself: together they are the wire bytes of a message. -/
structure EncodedMessage where
  message : Message
  chunks : List Bytes
  encodes : chunks.flatten = encodeMessageFlat message

/-- What the inbox of a driver takes. -/
inductive PeerDriverCommand
  | activateDataPlane
  | sendMessage (message : Message)
  | sendEncoded (encoded : EncodedMessage)
  | sendCommand (command : Command)
  | close

def PeerDriverCommand.isEncoded : PeerDriverCommand → Bool
  | .sendEncoded _ => true
  | _ => false

def PeerDriverCommand.isClose : PeerDriverCommand → Bool
  | .close => true
  | _ => false

/-- Messages waiting for one peer, and whether their sender is gone. -/
structure SendPipe where
  queue : List Message
  disconnected : Bool

/-- The buffers the driver writes from. -/
inductive Lane
  | connection
  | frameBuffer
  | slot
  deriving DecidableEq

/-- Where the driver task stands. -/
inductive DriverPhase
  | preActivation
  | active
  | drainingSlot (rounds bytes : Nat)
  | stopped
  deriving DecidableEq

structure PeerDriverConfig where
  maxBatchBytes : Nat
  /-- Payloads of this size are read into buffers of their own; zero disables. -/
  largeMessageThreshold : Nat
  /-- Time-to-live announced in a ping, in tenths of a second. -/
  heartbeatTtl : UInt16
  /-- Prefer what socket handles framed over reading. -/
  latencyProfile : Bool

/-- The state of a driver task, with the bytes it has written and the buffer the last of them came
from. -/
structure Driver where
  config : PeerDriverConfig
  outgoing : Outgoing
  slot : Option PeerTransmitSlot
  inbox : List PeerDriverCommand
  sendPipe : Option SendPipe
  phase : DriverPhase
  written : Bytes
  /-- The buffer the last byte came from; the connection's greeting comes first. -/
  lastLane : Lane

/-- What happens in one turn. -/
inductive DriverInput
  | enqueue (command : PeerDriverCommand)
  | pipe (message : Message)
  | disconnectPipe
  | slotEncode (message : Message) (env : Environment)
  | slotPush (message : Message) (chunks : List Bytes)
  | slotCopy (message : Message)
  | slotFanOut (message : Message) (isProtected : Bool)
  | poolUsed (pool : CompressionPool)
  | read (chunk : Bytes) (payloads : List Bytes)
  | flush (outcomes : List Outcome)
  | inboxReady (outcomes : List Outcome) (endings : List (Nat × Bool))
  | slotReady (outcomes : List Outcome)
  | slotRound (outcomes : List Outcome)
  | pipeReady (outcomes : List Outcome) (endings : List (Nat × Bool))
  | offloadReady (outcomes : List Outcome)
  | heartbeat
  | stop

/-- The slot of a new peer.  None is built when the mechanism encrypts frames, or when the routing
strategy does not frame messages itself. -/
def buildTransmitSlot (mechanism : MechanismSetup) (needsTransmitSlot hasTransforms : Bool)
    (compressionKind : Option CompressionKind) (passthroughInfo : Option (Bytes × Nat))
    (arenaThreshold : Nat) (transmitSlotCap : Option Nat) (sendHwm : Nat)
    (wsRole : Option WsRole) : Option PeerTransmitSlot :=
  if mechanism.hasFrameTransform || !needsTransmitSlot then none
  else
    some (.new hasTransforms compressionKind passthroughInfo arenaThreshold
      (transmitSlotCap.getD transmitSlotCapDefault) (max sendHwm 1) wsRole)

namespace Driver

/-- A driver before the greetings are exchanged. -/
def new (config : PeerDriverConfig) (connection : Connection) (outbound : OutboundState)
    (slot : Option PeerTransmitSlot) (sendPipe : Option SendPipe) (arenaThreshold : Nat) :
    Driver where
  config := config
  outgoing := ⟨outbound, connection, .withConfigLazy arenaThreshold⟩
  slot := slot
  inbox := []
  sendPipe := sendPipe
  phase := .preActivation
  written := []
  lastLane := .connection

variable (driver : Driver)

abbrev connection : Connection := driver.outgoing.connection

def halt : Driver := { driver with phase := .stopped }

/-- Continue after a successful handler; otherwise the task ends. -/
def conclude (status : Status) : Driver :=
  if status = .done then driver else driver.halt

/-- The stream received bytes from a buffer. -/
def wrote (lane : Lane) (bytes : Bytes) : Driver :=
  { driver with
    written := driver.written ++ bytes
    lastLane := if bytes = [] then driver.lastLane else lane }

def withQueue (out : TransmitQueue) : Driver :=
  { driver with
    outgoing := { driver.outgoing with connection := { driver.connection with out := out } } }

def withFrameBuffer (eq : FrameBuffer) : Driver :=
  { driver with outgoing := { driver.outgoing with eq := eq } }

def afterFrames (result : Flushed FrameBuffer UInt8) : Driver :=
  (driver.withFrameBuffer result.state).wrote .frameBuffer result.written

def afterQueue (result : Flushed TransmitQueue UInt8) : Driver :=
  (driver.withQueue result.state).wrote .connection result.written

/-- Flush the frame buffer, then everything pending on the connection. -/
def flushAll (outcomes : List Outcome) : Driver :=
  let frames := driver.outgoing.eq.flushFrameBuffer outcomes
  let driver := driver.afterFrames frames
  if frames.status = .done then
    let queue := driver.connection.out.drainWrites frames.outcomes
    (driver.afterQueue queue).conclude queue.status
  else driver.halt

/-- Push bytes framed elsewhere and flush the frame buffer, but not the connection's queue. -/
def sendEncoded (encoded : EncodedMessage) (outcomes : List Outcome) : Driver :=
  let driver := driver.withFrameBuffer (driver.outgoing.eq.pushSharedChunks encoded.chunks)
  let frames := driver.outgoing.eq.flushFrameBuffer outcomes
  (driver.afterFrames frames).conclude frames.status

/-- Flush what is pending on the connection and end. -/
def close (outcomes : List Outcome) : Driver :=
  (driver.afterQueue (driver.connection.out.drainWrites outcomes)).halt

/-- The flush arm: the frame buffer and one write of the connection's queue.  Another arm may fire
while a write waits. -/
def flushArm (outcomes : List Outcome) : Driver :=
  let frames := driver.outgoing.eq.flushFrameBuffer outcomes
  let driver := driver.afterFrames frames
  match frames.status with
  | .failed => driver.halt
  | .blocked => driver
  | .done =>
    let queue := driver.connection.out.flushOnce frames.outcomes
    if queue.status = .failed then (driver.afterQueue queue).halt else driver.afterQueue queue

/-- Enter the main loop; the slot opens when nothing encrypts its frames. -/
def activate : Driver :=
  { driver with
    phase := .active
    slot := driver.slot.map fun slot =>
      { slot with handshakeDone := slot.handshakeDone ||
          (driver.connection.isReady && !driver.connection.hasFrameTransform) } }

/-- Run a step of encoding; a failure ends the task. -/
def perform {α : Type} (driver : Driver) (method : OutgoingM α) : Driver :=
  match method driver.outgoing with
  | .ok _ outgoing => { driver with outgoing }
  | .error _ outgoing => { driver with outgoing }.halt

def running : Bool := driver.phase ≠ .stopped

@[simp]
theorem running_halt : driver.halt.running = false := by
  simp [running, halt]

section

variable (property : Driver → Prop) (halts : ∀ {driver}, property driver → property driver.halt)
  {driver : Driver}

include halts

theorem conclude_of (holds : property driver) (status : Status) :
    property (driver.conclude status) := by
  unfold conclude
  split
  · exact holds
  · exact halts holds

theorem perform_of {α : Type} {method : OutgoingM α}
    (holds : property { driver with outgoing := finalState (method driver.outgoing) }) :
    property (driver.perform method) := by
  unfold perform
  cases result : method driver.outgoing with
  | ok value outgoing => rwa [result] at holds
  | error error outgoing =>
    rw [result] at holds
    exact halts holds

end

/-- Go on while the task runs. -/
def andThen (next : Driver → Driver) : Driver :=
  if driver.running then next driver else driver

def splitBatch (maxBytes : Nat) : (count bytes : Nat) → List Message → List Message × List Message
  | _, _, [] => ([], [])
  | count, bytes, message :: rest =>
    if count < outboundBatchMaxMsgs ∧ bytes < maxBytes then
      let (batch, later) := splitBatch maxBytes (count + 1) (bytes + message.byteLen) rest
      (message :: batch, later)
    else ([], message :: rest)

def takeInbox (maxBytes : Nat) : (count bytes : Nat) → List PeerDriverCommand →
    List Message × Option PeerDriverCommand × List PeerDriverCommand
  | _, _, [] => ([], none, [])
  | count, bytes, .sendMessage message :: rest =>
    if count < outboundBatchMaxMsgs ∧ bytes < maxBytes then
      let (batch, deferred, later) := takeInbox maxBytes (count + 1) (bytes + message.byteLen) rest
      (message :: batch, deferred, later)
    else ([], none, .sendMessage message :: rest)
  | count, bytes, command :: rest =>
    if count < outboundBatchMaxMsgs ∧ bytes < maxBytes then ([], some command, rest)
    else ([], none, command :: rest)

/-- Whether the turn encodes a batch of messages. -/
def startsBatch : DriverInput → Bool
  | .inboxReady _ _ =>
    driver.phase = .active && driver.inbox.head?.any fun
      | .sendMessage _ => true
      | _ => false
  | .pipeReady _ _ => driver.phase = .active && driver.sendPipe.any fun pipe => !pipe.queue.isEmpty
  | _ => false

/-- Whether the turn takes bytes from the inbox which a caller framed. -/
def takesEncoded : DriverInput → Bool
  | .inboxReady _ _ =>
    match driver.phase, driver.inbox with
    | .active, .sendEncoded _ :: _ => true
    | .active, .sendMessage first :: rest =>
      (takeInbox driver.config.maxBatchBytes 1 first.byteLen rest).2.1.any
        PeerDriverCommand.isEncoded
    | _, _ => false
  | _ => false

/-- Take over the payload of the next frame when it is large: its size and the buffered prefix. -/
def takeOverLarge (threshold : Nat) : Connection.ConnectionM (Option (Nat × Payload)) := do
  let connection ← get
  match ← Attempt.ofExcept connection.peekNextFramePayloadSize with
  | none => return none
  | some size =>
    if size < threshold then return none
    else
      set connection.beginSuppliedPayloadWithPrefix.2
      return connection.beginSuppliedPayloadWithPrefix.1

theorem tracks_takeOverLarge (connection : Connection) (threshold : Nat) :
    Tracks Connection.toSession connection.toSession (takeOverLarge threshold connection) := by
  unfold takeOverLarge
  rw [run_bind, run_get]
  refine .bind (.refl ?_) fun size after peeked => ?_
  · cases connection.peekNextFramePayloadSize <;> rfl
  · obtain ⟨-, rfl⟩ := ofExcept_eq_ok.mp peeked
    cases size with
    | none => exact .refl rfl
    | some size =>
      exact .ite (fun _ => .refl rfl) fun _ =>
        connection.updates_beginSuppliedPayloadWithPrefix

variable (slot : PeerTransmitSlot)

/-- The slot arm: an arena is taken out as a whole, other content chunk by chunk. -/
def slotArm (outcomes : List Outcome) : Driver :=
  match slot.tryDrainArenaOnly with
  | some (arena, _, slot) =>
    let result := writeChunks [arena] outcomes
    ({ driver with slot := some slot }.wrote .slot result.written).conclude result.status
  | none => { driver with phase := .drainingSlot wireDrainMaxRounds 0 }

def slotRound (rounds bytes : Nat) (outcomes : List Outcome) : Driver :=
  let (chunks, _, drained) := slot.drain maxDrainChunks
  if chunks = [] then { driver with slot := some drained, phase := .active }
  else
    let result := writeChunks chunks outcomes
    let bytes := saturatingAdd bytes chunks.flatten.length
    let phase : DriverPhase :=
      if 1 < rounds ∧ bytes < wireDrainMaxBytes then .drainingSlot (rounds - 1) bytes else .active
    ({ driver with slot := some drained, phase := phase }.wrote .slot result.written).conclude
      result.status

/-- The stream or the socket is gone. -/
def stopArm : Driver :=
  { driver with slot := driver.slot.map PeerTransmitSlot.markDead }.halt

/-- Whether the slot may be drained: frames are only put in after the handshake. -/
def slotEnabled : Bool :=
  slot.handshakeDone || driver.config.latencyProfile && !slot.isEmpty

/-- Whether there is something to flush. -/
def wantWrite : Bool :=
  driver.connection.out.hasPendingTransmit || !driver.outgoing.eq.isEmpty

def afterPipe (pipe : SendPipe) : Driver :=
  { driver with
    sendPipe := some
      { pipe with queue := (splitBatch driver.config.maxBatchBytes 0 0 pipe.queue).2 } }

theorem running_of_phase {driver : Driver}
    (phase : driver.phase = .active ∨ driver.phase = .preActivation) : driver.running = true := by
  obtain active | early := phase
  · simp [running, active]
  · simp [running, early]

variable [CurvePrimitives]

def sendCommand (command : Command) : OutgoingM Unit :=
  Outgoing.onConnection (Connection.onSession (Session.sendCommand command))

/-- Act on the command which ended a batch, before the batch is flushed. -/
def handleDeferred : Option PeerDriverCommand → OutgoingM Unit
  | some (.sendEncoded encoded) =>
    modify fun outgoing => { outgoing with eq := outgoing.eq.pushSharedChunks encoded.chunks }
  | some (.sendCommand command) => sendCommand command
  | _ => pure ()

/-- Read payloads of large frames past the input buffer; `false` while a payload is missing. -/
def largeMessageLoop (threshold : Nat) : List Bytes → Connection.ConnectionM Bool
  | [] => do
      let taken ← takeOverLarge threshold
      return taken.isNone
  | tail :: payloads => do
      match ← takeOverLarge threshold with
      | none => return true
      | some (size, pre) =>
        if pre.len + tail.length ≠ size then throw .closed
        else
          Connection.supplyPayload (pre.asSlice ++ tail)
          largeMessageLoop threshold payloads

/-- Feed a chunk, then payloads of large frames. -/
def readStreamInput (threshold : Nat) (chunk : Bytes) (payloads : List Bytes) :
    Connection.ConnectionM Bool := do
  Connection.handleInput chunk
  let connection ← get
  if threshold = 0 ∨ connection.hasFrameTransform ∨ connection.wsRole.isSome then return true
  else largeMessageLoop threshold payloads

theorem tracks_largeMessageLoop (connection : Connection) (threshold : Nat)
    (payloads : List Bytes) :
    Tracks Connection.toSession connection.toSession
      (largeMessageLoop threshold payloads connection) := by
  induction payloads generalizing connection with
  | nil =>
    exact .bind (tracks_takeOverLarge connection threshold) fun _ _ _ => .refl rfl
  | cons tail payloads induction =>
    refine .bind (tracks_takeOverLarge connection threshold) fun taken after _ => ?_
    cases taken with
    | none => exact .refl rfl
    | some taken =>
      refine .ite (fun _ => .refl rfl) fun _ => ?_
      exact .bind (after.evolves_supplyPayload _).1 fun _ resumed _ => induction resumed

theorem tracks_readStreamInput (connection : Connection) (threshold : Nat) (chunk : Bytes)
    (payloads : List Bytes) :
    Tracks Connection.toSession connection.toSession
      (readStreamInput threshold chunk payloads connection) := by
  refine .bind (connection.evolves_handleInput chunk).1 fun _ after _ => ?_
  rw [run_bind, run_get]
  exact .ite (fun _ => .refl rfl) fun _ => tracks_largeMessageLoop after threshold payloads

variable [CompressionPrimitives] (driver : Driver)

def readArm (chunk : Bytes) (payloads : List Bytes) : Driver :=
  match Outgoing.onConnection
      (readStreamInput driver.config.largeMessageThreshold chunk payloads) driver.outgoing with
  | .ok true outgoing => { driver with outgoing }
  | .ok false outgoing => { driver with outgoing }.halt
  | .error _ outgoing => { driver with outgoing }.halt

omit [CompressionPrimitives] in
theorem readArm_of (property : Driver → Prop)
    (halts : ∀ {driver}, property driver → property driver.halt) {driver : Driver}
    {chunk : Bytes} {payloads : List Bytes}
    (holds : property { driver with
      outgoing := finalState (Outgoing.onConnection
        (readStreamInput driver.config.largeMessageThreshold chunk payloads) driver.outgoing) }) :
    property (driver.readArm chunk payloads) := by
  unfold readArm
  split <;> next result =>
    rw [result] at holds
    first
    | exact holds
    | exact halts holds

/-- The heartbeat arm queues a ping; a refusal is ignored. -/
def heartbeatArm : Driver :=
  match sendCommand (.ping driver.config.heartbeatTtl []) driver.outgoing with
  | .ok _ outgoing => { driver with outgoing }
  | .error _ outgoing => { driver with outgoing }

omit [CompressionPrimitives] in
theorem heartbeatArm_eq :
    driver.heartbeatArm = { driver with
      outgoing := finalState
        (sendCommand (.ping driver.config.heartbeatTtl []) driver.outgoing) } := by
  unfold heartbeatArm
  split <;> next result => rw [result]; rfl

/-- Encode the batch and what the command behind it queues, flush, and end if it was `Close`. -/
def sendBatch (messages : List Message) (deferred : Option PeerDriverCommand)
    (outcomes : List Outcome) (endings : List (Nat × Bool)) : Driver :=
  ((driver.perform do
      Outgoing.batchEncode messages endings
      handleDeferred deferred).andThen (·.flushAll outcomes)).andThen
    (if deferred.any PeerDriverCommand.isClose then halt else id)

/-- Act on the oldest command. -/
def handleInboxCommand (outcomes : List Outcome) (endings : List (Nat × Bool)) : Option Driver :=
  match driver.inbox with
  | [] => none
  | .activateDataPlane :: rest => some { driver with inbox := rest }
  | .sendMessage first :: rest =>
    let (batch, deferred, rest) := takeInbox driver.config.maxBatchBytes 1 first.byteLen rest
    some ({ driver with inbox := rest }.sendBatch (first :: batch) deferred outcomes endings)
  | .sendEncoded encoded :: rest =>
    some ({ driver with inbox := rest }.sendEncoded encoded outcomes)
  | .sendCommand command :: rest =>
    some ({ driver with inbox := rest }.perform (sendCommand command))
  | .close :: rest => some ({ driver with inbox := rest }.close outcomes)

/-- Act on the oldest command before activation; data is refused. -/
def handlePreActivationInboxCommand (outcomes : List Outcome) : Option Driver :=
  match driver.inbox with
  | [] => none
  | .activateDataPlane :: rest => some ({ driver with inbox := rest }.activate)
  | .sendMessage _ :: rest => some { driver with inbox := rest }.halt
  | .sendEncoded _ :: rest => some { driver with inbox := rest }.halt
  | .sendCommand command :: rest =>
    some ({ driver with inbox := rest }.perform (sendCommand command))
  | .close :: rest => some ({ driver with inbox := rest }.close outcomes)

/-- Send what waits in the pipe; what is drained fits one batch. -/
def handleSendPipeReady (outcomes : List Outcome) (endings : List (Nat × Bool)) : Option Driver :=
  match driver.sendPipe with
  | none => none
  | some pipe =>
    let (drained, rest) := splitBatch driver.config.maxBatchBytes 0 0 pipe.queue
    let driver := { driver with sendPipe := some { pipe with queue := rest } }
    if drained = [] then some (if pipe.disconnected then driver.close outcomes else driver)
    else
      some ((driver.sendBatch drained none outcomes endings).andThen
        (if pipe.disconnected then halt else id))

/-- Collect the front of the pipeline and flush. -/
def handleOffload (outcomes : List Outcome) : Option Driver :=
  match driver.outgoing.outbound.offloadPipeline with
  | [] => none
  | task :: rest =>
    let driver := { driver with outgoing := driver.outgoing.withPipeline rest }
    some ((driver.perform (Outgoing.drainOffloadResult task)).andThen (·.flushAll outcomes))

/-- What other tasks do to the shared parts of the driver; they never wait for it. -/
def external : DriverInput → Option Driver
  | .enqueue command => some { driver with inbox := driver.inbox ++ [command] }
  | .pipe message =>
    driver.sendPipe.map fun pipe =>
      { driver with sendPipe := some { pipe with queue := pipe.queue ++ [message] } }
  | .disconnectPipe =>
    driver.sendPipe.map fun pipe =>
      { driver with sendPipe := some { pipe with disconnected := true } }
  | .slotEncode message env =>
    driver.slot.map fun slot => { driver with slot := some (slot.tryEncode message env).2.1 }
  | .slotPush message chunks =>
    if chunks.flatten = encodeMessageFlat message then
      driver.slot.map fun slot => { driver with slot := some (slot.tryPushEncoded chunks).2 }
    else none
  | .slotCopy message =>
    driver.slot.map fun slot =>
      { driver with slot := some (slot.tryPushPreFramedNoSignal (encodeMessageFlat message)).2 }
  | .slotFanOut message isProtected =>
    driver.slot.map fun slot =>
      { driver with
        slot := some (slot.tryPushFanoutDropOldest (encodeMessageFlat message) isProtected).2 }
  | .poolUsed pool =>
    driver.outgoing.outbound.compressionPool.map fun _ =>
      { driver with
        outgoing := { driver.outgoing with
          outbound := { driver.outgoing.outbound with compressionPool := some pool } } }
  | _ => none

/-- An arm of the select loop, when it is enabled. -/
def arm : DriverInput → Option Driver
  | .read chunk payloads =>
    if driver.phase = .active ∧ (!driver.config.latencyProfile ∨ driver.inbox = []) ∨
        driver.phase = .preActivation ∧ !driver.connection.isReady then
      some (driver.readArm chunk payloads)
    else none
  | .flush outcomes =>
    if (driver.phase = .active ∨ driver.phase = .preActivation) ∧ driver.wantWrite then
      some (driver.flushArm outcomes)
    else none
  | .inboxReady outcomes endings =>
    match driver.phase with
    | .active => driver.handleInboxCommand outcomes endings
    | .preActivation => driver.handlePreActivationInboxCommand outcomes
    | _ => none
  | .slotReady outcomes =>
    match driver.phase, driver.slot.filter driver.slotEnabled with
    | .active, some slot => some (driver.slotArm slot outcomes)
    | _, _ => none
  | .slotRound outcomes =>
    match driver.phase, driver.slot with
    | .drainingSlot rounds bytes, some slot => some (driver.slotRound slot rounds bytes outcomes)
    | _, _ => none
  | .pipeReady outcomes endings =>
    if driver.phase = .active then driver.handleSendPipeReady outcomes endings else none
  | .offloadReady outcomes =>
    if driver.phase = .active then driver.handleOffload outcomes else none
  | .heartbeat => if driver.phase = .active then some driver.heartbeatArm else none
  | .stop =>
    if driver.phase = .active ∨ driver.phase = .preActivation then some driver.stopArm else none
  | _ => none

/-- One turn: another task acts on what it shares with the driver, or an arm fires. -/
def step (input : DriverInput) : Option Driver :=
  (driver.external input).orElse fun _ => driver.arm input

/-- What an arm of the select loop can do. -/
inductive Fires (driver : Driver) : DriverInput → Driver → Prop
  | read {chunk payloads} (running : driver.running) :
      Fires driver (.read chunk payloads) (driver.readArm chunk payloads)
  | flush {outcomes} (running : driver.running) (pending : driver.wantWrite) :
      Fires driver (.flush outcomes) (driver.flushArm outcomes)
  | ignore {outcomes endings rest} (active : driver.phase = .active)
      (inbox_eq : driver.inbox = .activateDataPlane :: rest) :
      Fires driver (.inboxReady outcomes endings) { driver with inbox := rest }
  | batch {outcomes endings first rest} (active : driver.phase = .active)
      (inbox_eq : driver.inbox = .sendMessage first :: rest) :
      Fires driver (.inboxReady outcomes endings)
        ({ driver with
          inbox := (takeInbox driver.config.maxBatchBytes 1 first.byteLen rest).2.2 }.sendBatch
          (first :: (takeInbox driver.config.maxBatchBytes 1 first.byteLen rest).1)
          (takeInbox driver.config.maxBatchBytes 1 first.byteLen rest).2.1 outcomes endings)
  | encoded {outcomes endings encoded rest} (active : driver.phase = .active)
      (inbox_eq : driver.inbox = .sendEncoded encoded :: rest) :
      Fires driver (.inboxReady outcomes endings)
        ({ driver with inbox := rest }.sendEncoded encoded outcomes)
  | activate {outcomes endings rest} (early : driver.phase = .preActivation)
      (inbox_eq : driver.inbox = .activateDataPlane :: rest) :
      Fires driver (.inboxReady outcomes endings) { driver with inbox := rest }.activate
  | refuse {outcomes endings command rest} (early : driver.phase = .preActivation)
      (inbox_eq : driver.inbox = command :: rest) :
      Fires driver (.inboxReady outcomes endings) { driver with inbox := rest }.halt
  | command {outcomes endings command rest}
      (phase : driver.phase = .active ∨ driver.phase = .preActivation)
      (inbox_eq : driver.inbox = .sendCommand command :: rest) :
      Fires driver (.inboxReady outcomes endings)
        ({ driver with inbox := rest }.perform (sendCommand command))
  | close {outcomes endings rest}
      (phase : driver.phase = .active ∨ driver.phase = .preActivation)
      (inbox_eq : driver.inbox = .close :: rest) :
      Fires driver (.inboxReady outcomes endings) ({ driver with inbox := rest }.close outcomes)
  | slotReady {outcomes slot} (active : driver.phase = .active)
      (present : driver.slot = some slot) :
      Fires driver (.slotReady outcomes) (driver.slotArm slot outcomes)
  | slotRound {outcomes slot rounds bytes} (draining : driver.phase = .drainingSlot rounds bytes)
      (present : driver.slot = some slot) :
      Fires driver (.slotRound outcomes) (driver.slotRound slot rounds bytes outcomes)
  | pipeEmpty {outcomes endings pipe} (active : driver.phase = .active)
      (present : driver.sendPipe = some pipe)
      (nothing : (splitBatch driver.config.maxBatchBytes 0 0 pipe.queue).1 = []) :
      Fires driver (.pipeReady outcomes endings)
        (if pipe.disconnected then (driver.afterPipe pipe).close outcomes
        else driver.afterPipe pipe)
  | pipeBatch {outcomes endings pipe} (active : driver.phase = .active)
      (present : driver.sendPipe = some pipe)
      (waiting : (splitBatch driver.config.maxBatchBytes 0 0 pipe.queue).1 ≠ []) :
      Fires driver (.pipeReady outcomes endings)
        (((driver.afterPipe pipe).sendBatch
          (splitBatch driver.config.maxBatchBytes 0 0 pipe.queue).1 none outcomes endings).andThen
          (if pipe.disconnected then halt else id))
  | offload {outcomes task rest} (active : driver.phase = .active)
      (pipeline_eq : driver.outgoing.outbound.offloadPipeline = task :: rest) :
      Fires driver (.offloadReady outcomes)
        (({ driver with outgoing := driver.outgoing.withPipeline rest }.perform
          (Outgoing.drainOffloadResult task)).andThen (·.flushAll outcomes))
  | heartbeat (active : driver.phase = .active) : Fires driver .heartbeat driver.heartbeatArm
  | stop (running : driver.running) : Fires driver .stop driver.stopArm

variable {driver after : Driver} {input : DriverInput}

theorem fires_of_arm (fired : driver.arm input = some after) : driver.Fires input after := by
  revert fired
  fun_cases driver.arm input <;> intro fired
  case case5 outcomes endings phase =>
    revert fired
    fun_cases driver.handleInboxCommand outcomes endings <;> rintro ⟨⟩
    next inbox_eq => exact .ignore phase inbox_eq
    next inbox_eq _ _ _ taken =>
      simpa only [taken] using Fires.batch phase inbox_eq
    next inbox_eq => exact .encoded phase inbox_eq
    next inbox_eq => exact .command (.inl phase) inbox_eq
    next inbox_eq => exact .close (.inl phase) inbox_eq
  case case6 outcomes _ phase =>
    revert fired
    fun_cases driver.handlePreActivationInboxCommand outcomes <;> rintro ⟨⟩
    next inbox_eq => exact .activate phase inbox_eq
    next inbox_eq => exact .refuse phase inbox_eq
    next inbox_eq => exact .refuse phase inbox_eq
    next inbox_eq => exact .command (.inr phase) inbox_eq
    next inbox_eq => exact .close (.inr phase) inbox_eq
  case case12 outcomes endings active =>
    unfold handleSendPipeReady at fired
    split at fired
    · cases fired
    next pipe present =>
      dsimp only at fired
      split at fired <;> cases fired
      next nothing => exact .pipeEmpty active present nothing
      next waiting => exact .pipeBatch active present waiting
  case case14 outcomes active =>
    revert fired
    fun_cases driver.handleOffload outcomes <;> rintro ⟨⟩
    next pipeline_eq _ => exact .offload active pipeline_eq
  all_goals cases fired
  next enabled => exact .read (running_of_phase (enabled.imp And.left And.left))
  next enabled => exact .flush (running_of_phase enabled.1) enabled.2
  next found phase => exact .slotReady phase (Option.filter_eq_some_iff.mp found).1
  next found phase => exact .slotRound phase found
  next active => exact .heartbeat active
  next phase => exact .stop (running_of_phase phase)

/-- Only a running task fires an arm. -/
theorem Fires.running (fired : driver.Fires input after) : driver.running = true := by
  cases fired with
  | read running | flush running _ | stop running => exact running
  | activate early _ | refuse early _ => exact running_of_phase (.inr early)
  | command phase _ | close phase _ => exact running_of_phase phase
  | slotRound draining _ => simp [Driver.running, draining]
  | ignore active _ | batch active _ | encoded active _ | slotReady active _ | pipeEmpty active _ _
  | pipeBatch active _ _ | offload active _ | heartbeat active =>
    exact running_of_phase (.inl active)

omit [CurvePrimitives] [CompressionPrimitives] in
/-- Other tasks reach the inbox, the pipe, the slot and the pool only. -/
theorem external_eq (acted : driver.external input = some after) :
    ∃ inbox sendPipe slot compressionPool,
      (driver.slot = none → slot = none) ∧
      after = { driver with
        inbox, sendPipe, slot
        outgoing.outbound := { driver.outgoing.outbound with compressionPool } } := by
  cases input with
  | enqueue command => exact ⟨_, _, _, _, id, (Option.some.inj acted).symm⟩
  | slotPush message chunks =>
    obtain ⟨_, acted⟩ := Option.ite_none_right_eq_some.mp acted
    obtain ⟨_, present, rfl⟩ := Option.map_eq_some_iff.mp acted
    exact ⟨_, _, _, _, by simp [present], rfl⟩
  | slotEncode message env | slotCopy message | slotFanOut message isProtected =>
    obtain ⟨_, present, rfl⟩ := Option.map_eq_some_iff.mp acted
    exact ⟨_, _, _, _, by simp [present], rfl⟩
  | pipe message | disconnectPipe | poolUsed pool =>
    obtain ⟨_, _, rfl⟩ := Option.map_eq_some_iff.mp acted
    exact ⟨_, _, _, _, id, rfl⟩
  | _ => simp [external] at acted

/-- Another task acts, or an arm fires. -/
theorem step_cases (stepped : driver.step input = some after) :
    driver.external input = some after ∨ driver.Fires input after := by
  unfold step at stepped
  cases acted : driver.external input with
  | some next =>
    rw [acted] at stepped
    exact .inl stepped
  | none =>
    rw [acted] at stepped
    exact .inr (fires_of_arm stepped)

/-- Turns one after the other. -/
abbrev run (inputs : List DriverInput) (driver : Driver) : Option Driver :=
  Transition.run step inputs driver

abbrev Turns (condition : Driver → DriverInput → Prop) : Driver → Driver → Prop :=
  Transition.Runs step condition

/-- Turns one after the other, each checked before it is taken. -/
abbrev runChecked (check : Driver → DriverInput → Bool) (inputs : List DriverInput)
    (driver : Driver) : Option Driver :=
  Transition.runChecked step check inputs driver

end Driver

end Omq
