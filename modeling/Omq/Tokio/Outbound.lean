import Omq.Proto.Connection.Inbound
import Omq.Tokio.CompressionPool
import Omq.Tokio.TransmitSlot

/-!
# Encoding outbound messages

A batch of messages is encoded into the local frame buffer or, when CURVE is active, queued on the
connection.  A batch which may offload sends every message through the pipeline instead and frames
the results in the order of submission.
-/

namespace Omq

open Attempt

/-- The compression state of a connection's send side. -/
structure OutboundState where
  encoder : Option MessageEncoder
  /-- Sentinel and threshold of parts which bypass the encoder. -/
  passthrough : Option (Bytes × Nat)
  /-- Pool shared with the other connections of the socket. -/
  compressionPool : Option CompressionPool
  /-- Smallest message which is offloaded; zero disables offloading. -/
  offloadThreshold : Nat
  /-- Submitted messages whose results are not collected yet. -/
  offloadPipeline : List OffloadTask

namespace OutboundState

/-- The state a driver starts with. -/
def new (encoder : Option MessageEncoder) (compressionPool : Option CompressionPool)
    (offloadThreshold : Nat) : OutboundState where
  encoder := encoder
  passthrough := encoder.bind MessageEncoder.passthroughInfo
  compressionPool := compressionPool
  offloadThreshold := offloadThreshold
  offloadPipeline := []

/-- Whether the next batch goes through the pipeline. -/
def usePipeline (outbound : OutboundState) : Bool :=
  0 < outbound.offloadThreshold && outbound.encoder.any MessageEncoder.canOffload &&
    outbound.compressionPool.isSome

def submit [CompressionPrimitives] (outbound : OutboundState) (message : Message) : OutboundState :=
  match outbound.encoder, outbound.compressionPool with
  | some encoder, some pool =>
    let (encoder, pool, pipeline) :=
      submitToPipeline message encoder pool outbound.offloadThreshold outbound.offloadPipeline
    { outbound with
      encoder := some encoder
      compressionPool := some pool
      offloadPipeline := pipeline }
  | _, _ => outbound

/-- One offloaded compression ends, or dies. -/
def finish [CompressionPrimitives] (outbound : OutboundState) (ending : Nat × Bool) :
    OutboundState :=
  { outbound with
    offloadPipeline := outbound.offloadPipeline.modify ending.1
      (if ending.2 then OffloadTask.abort else OffloadTask.complete) }

end OutboundState

theorem Connection.preserves_onSession {α : Type} {property : Session → Prop}
    {method : SessionM α} (preserves : Preserves property method) :
    Preserves (fun connection : Connection => property connection.toSession)
      (Connection.onSession method) := by
  intro connection holds
  have kept := preserves connection.toSession holds
  unfold Connection.onSession
  cases result : method connection.toSession with
  | ok value session => rwa [result] at kept
  | error error session => rwa [result] at kept

/-- What encoding a message can change. -/
structure Outgoing where
  outbound : OutboundState
  connection : Connection
  eq : FrameBuffer

/-- A fallible step of encoding. -/
abbrev OutgoingM := EStateM Error Outgoing

namespace Outgoing

def withPipeline (outgoing : Outgoing) (offloadPipeline : List OffloadTask) : Outgoing :=
  { outgoing with outbound := { outgoing.outbound with offloadPipeline } }

def onConnection {α : Type} (method : Connection.ConnectionM α) : OutgoingM α := fun outgoing =>
  match method outgoing.connection with
  | .ok value connection => .ok value { outgoing with connection }
  | .error error connection => .error error { outgoing with connection }

/-- Lift an invariant of connections to a step of encoding. -/
theorem preserves_onConnection {α : Type} {property : Connection → Prop}
    {method : Connection.ConnectionM α} (preserves : Preserves property method)
    (rest : Outgoing → Prop)
    (frame : ∀ outgoing connection, rest outgoing → rest { outgoing with connection }) :
    Preserves (fun outgoing : Outgoing => property outgoing.connection ∧ rest outgoing)
      (onConnection method) := by
  intro outgoing holds
  have kept := preserves outgoing.connection holds.1
  unfold onConnection
  cases result : method outgoing.connection with
  | ok value connection =>
    rw [result] at kept
    exact ⟨kept, frame outgoing connection holds.2⟩
  | error error connection =>
    rw [result] at kept
    exact ⟨kept, frame outgoing connection holds.2⟩

theorem leaves_onConnection {α : Type} (method : Connection.ConnectionM α) :
    Leaves (fun outgoing : Outgoing => (outgoing.eq, outgoing.outbound)) (onConnection method) := by
  refine .of_finalState fun outgoing => ?_
  unfold onConnection
  cases method outgoing.connection <;> rfl

def frameWire (outgoing : Outgoing) (wire : Message) : Outgoing :=
  match outgoing.connection.wsRole with
  | some role =>
    let (eq, env) := outgoing.eq.frameWs wire role outgoing.connection.env
    { outgoing with eq := eq, connection := { outgoing.connection with env := env } }
  | none => { outgoing with eq := outgoing.eq.frame wire }

/-- Framing changes the local buffer and the random generator only. -/
theorem exists_frameWires (wires : List Message) (outgoing : Outgoing) :
    ∃ eq env, wires.foldl frameWire outgoing =
      { outgoing with eq, connection := { outgoing.connection with env } } := by
  induction wires generalizing outgoing with
  | nil => exact ⟨outgoing.eq, outgoing.connection.env, rfl⟩
  | cons wire rest induction =>
    obtain ⟨eq, env, frame_eq⟩ : ∃ eq env, outgoing.frameWire wire =
        { outgoing with eq, connection := { outgoing.connection with env } } := by
      unfold frameWire
      split
      · exact ⟨_, _, rfl⟩
      · exact ⟨_, _, rfl⟩
    obtain ⟨eq, env, rest_eq⟩ := induction (outgoing.frameWire wire)
    exact ⟨eq, env, by rw [List.foldl_cons, rest_eq, frame_eq]⟩

variable [CurvePrimitives] [CompressionPrimitives]

def transform (message : Message) : OutgoingM (List Message) := do
  let outgoing ← get
  match outgoing.outbound.encoder with
  | none => return [message]
  | some encoder =>
    let (encoder, result) := encoder.encode message
    set { outgoing with outbound := { outgoing.outbound with encoder := some encoder } }
    Attempt.ofExcept result

omit [CurvePrimitives] in
theorem leaves_transform (message : Message) :
    Leaves (fun outgoing : Outgoing =>
      (outgoing.connection, outgoing.eq, outgoing.outbound.offloadPipeline))
      (transform message) := by
  refine .of_finalState fun outgoing => ?_
  unfold transform
  rw [run_bind, run_get]
  dsimp only
  cases outgoing.outbound.encoder with
  | none => rfl
  | some encoder =>
    dsimp only
    cases (encoder.encode message).2 with
    | ok wires => rfl
    | error error => rfl

/-- Queue wire messages on the connection, whose frame transform seals them. -/
def sendWires : List Message → OutgoingM Unit
  | [] => pure ()
  | wire :: rest => do
      onConnection (Connection.onSession (Session.sendMessage wire))
      sendWires rest

def encodeMsg (message : Message) : OutgoingM Unit := do
  let outgoing ← get
  if outgoing.connection.hasFrameTransform then
    let wires ← transform message
    sendWires wires
  else if outgoing.connection.wsRole.isSome then
    let wires ← transform message
    modify fun outgoing => wires.foldl frameWire outgoing
  else
    match passesThrough outgoing.outbound.passthrough message with
    | some sentinel =>
      set { outgoing with eq := outgoing.eq.framePrefixed sentinel message }
    | none =>
      let wires ← transform message
      modify fun outgoing => wires.foldl frameWire outgoing

def encodeMsgs : List Message → OutgoingM Unit
  | [] => pure ()
  | message :: rest => do
      encodeMsg message
      encodeMsgs rest

/-- A property which every way to encode a message keeps. -/
structure Encodes (property : Outgoing → Prop) : Prop where
  transforms : ∀ message, Preserves property (transform message)
  sends : ∀ wire,
    Preserves property (onConnection (Connection.onSession (Session.sendMessage wire)))
  /-- Only without a frame transform messages are framed in the local buffer. -/
  frames : ∀ {outgoing : Outgoing} eq env, outgoing.connection.hasFrameTransform = false →
    property outgoing →
      property { outgoing with eq, connection := { outgoing.connection with env } }

namespace Encodes

variable {property : Outgoing → Prop} (encodes : Encodes property)

include encodes

theorem encodeMsg (message : Message) : Preserves property (encodeMsg message) := by
  have sends (wires : List Message) : Preserves property (sendWires wires) := by
    induction wires with
    | nil => exact .pure ()
    | cons wire rest induction => exact (encodes.sends wire).bind fun _ => induction
  -- without a frame transform there is none later on, so framing stays allowed
  let Plain (outgoing : Outgoing) :=
    property outgoing ∧ outgoing.connection.hasFrameTransform = false
  have transforms : Preserves Plain (transform message) :=
    .of_finalState fun outgoing ⟨holds, plain⟩ => by
      have same := congrArg Prod.fst ((leaves_transform message).finalState outgoing)
      exact ⟨(encodes.transforms message).finalState holds,
        (congrArg (fun connection => connection.hasFrameTransform) same).trans plain⟩
  have frames (wires : List Message) :
      Preserves Plain (modify fun outgoing => wires.foldl frameWire outgoing : OutgoingM Unit) :=
    .of_finalState fun outgoing ⟨holds, plain⟩ => by
      obtain ⟨eq, env, framed⟩ := exists_frameWires wires outgoing
      rw [run_modify, finalState_ok, framed]
      exact ⟨encodes.frames eq env plain holds, plain⟩
  refine .of_finalState fun outgoing holds => ?_
  unfold Outgoing.encodeMsg
  rw [run_bind, run_get]
  dsimp only
  split_ifs with transformed websocket
  · exact ((encodes.transforms message).bind sends).finalState holds
  · exact ((transforms.bind frames).finalState ⟨holds, by simpa using transformed⟩).1
  · cases passesThrough outgoing.outbound.passthrough message with
    | some sentinel =>
      exact encodes.frames _ outgoing.connection.env (by simpa using transformed) holds
    | none => exact ((transforms.bind frames).finalState ⟨holds, by simpa using transformed⟩).1

theorem encodeMsgs (messages : List Message) : Preserves property (encodeMsgs messages) := by
  induction messages with
  | nil => exact .pure ()
  | cons message rest induction => exact (encodes.encodeMsg message).bind fun _ => induction

end Encodes

/-- Return the pool encoder of a task and frame the wire messages it yields. -/
def drainOffloadResult (task : OffloadTask) : OutgoingM Unit := do
  let outgoing ← get
  let pool := outgoing.outbound.compressionPool.map fun pool => (task.collect pool).1
  set { outgoing with outbound := { outgoing.outbound with compressionPool := pool } }
  let wires ← Attempt.ofExcept task.outcome.2
  modify fun outgoing => wires.foldl frameWire outgoing

def drainTasks : List OffloadTask → OutgoingM Unit
  | [] => pure ()
  | task :: rest => do
      drainOffloadResult task
      drainTasks rest

def drainPipeline : OutgoingM Unit := do
  let outgoing ← get
  set (outgoing.withPipeline [])
  drainTasks outgoing.outbound.offloadPipeline

/-- Encode a batch.  Offloaded compressions end in the order of `endings`, and those not named
there end when they are waited for. -/
def batchEncode (messages : List Message) (endings : List (Nat × Bool)) : OutgoingM Unit := do
  let outgoing ← get
  if outgoing.outbound.usePipeline then
    set { outgoing with
      outbound := endings.foldl OutboundState.finish
        (messages.foldl OutboundState.submit outgoing.outbound) }
    drainPipeline
  else encodeMsgs messages

theorem batchEncode_of_usePipeline {messages : List Message} {endings : List (Nat × Bool)}
    {outgoing : Outgoing} (pipelined : outgoing.outbound.usePipeline = true) :
    batchEncode messages endings outgoing =
      drainTasks (endings.foldl OutboundState.finish
        (messages.foldl OutboundState.submit outgoing.outbound)).offloadPipeline
        { outgoing with
          outbound := { endings.foldl OutboundState.finish
            (messages.foldl OutboundState.submit outgoing.outbound) with
              offloadPipeline := [] } } := by
  simp [batchEncode, pipelined, drainPipeline, withPipeline]

theorem batchEncode_of_inline {messages : List Message} {endings : List (Nat × Bool)}
    {outgoing : Outgoing} (inline : outgoing.outbound.usePipeline = false) :
    batchEncode messages endings outgoing = encodeMsgs messages outgoing := by
  simp [batchEncode, inline]

end Outgoing

end Omq
