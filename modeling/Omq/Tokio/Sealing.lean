import Omq.Proto.Connection.Emission
import Omq.Tokio.Batches
import Omq.Tokio.FrameGuard

/-!
# Encryption of what the driver writes

Once CURVE has installed its frame transform, a stream of sealed pieces consists of signals and of
frames whose payload the transform encrypted.  As long as no batch goes through the offload pipeline
and no bytes are taken which a caller framed, everything the driver writes is such a stream.  The
pipeline frames its results straight into the local buffer and breaks this.  Socket handles frame
messages for a peer through its transmit slot, and a peer whose mechanism encrypts has none.
-/

namespace Omq

open Attempt PartialWrite Streams List
open scoped Computability

/-- A frame which starts with a zero byte is a short data frame; its payload starts at the third
byte. -/
theorem encodeFrame_starts {flags : FrameFlags} {payload : Payload} {size byte : UInt8}
    {rest : Bytes} (starts : [0, size, byte] <+: encodeFrame ⟨flags, payload⟩ ++ rest) :
    flags.command = false ∧ ∀ head tail, payload.asSlice = head :: tail → byte = head := by
  rw [encodeFrame_eq] at starts
  dsimp only at starts
  unfold frameHeader at starts
  split at starts
  · have first := (cons_prefix_cons.mp starts).1
    have long : flags.wire ||| flagLong ≠ 0 := by
      cases flags with
      | mk more command => cases more <;> cases command <;> decide
    exact absurd first.symm long
  · obtain ⟨first, starts⟩ := cons_prefix_cons.mp starts
    have plain : flags.command = false := by
      revert first
      cases flags with
      | mk more command => cases more <;> cases command <;> decide
    refine ⟨plain, fun head tail payload_eq => ?_⟩
    rw [payload_eq] at starts
    exact (cons_prefix_cons.mp (cons_prefix_cons.mp starts).2).1

section

variable [CurvePrimitives]

/-- A piece a connection with a frame transform may write. -/
inductive SealedPiece (wsRole : Option WsRole) : Bytes → Prop
  | signal {bytes : Bytes} (signal : Signal wsRole bytes) : SealedPiece wsRole bytes
  | part {transform next : CurveTransform} {more : Bool} {part body : Bytes}
      (encrypted : transform.encryptMessage more false part = .ok (body, next))
      (env : Environment) :
      SealedPiece wsRole (wireFrame wsRole env (if more then .moreData else .last)
        (.fromBytes (CurveTransform.messageCommandFrame body)))

def sealedPieces (wsRole : Option WsRole) : Language UInt8 := { bytes | SealedPiece wsRole bytes }

namespace Session

/-- A session past its handshake, with a transform, whose queue is `base` and sealed pieces. -/
structure Sealing (wsRole : Option WsRole) (base : Bytes) (session : Session) : Prop where
  queued : session.Queued (sealedPieces wsRole) wsRole base
  transformed : session.transform.isSome
  settled : session.state ≠ .awaitingGreeting ∧ session.state ≠ .mechanismHandshake

end Session

variable {wsRole : Option WsRole} {base : Bytes} {before after : Session}

theorem Update.sealing (update : Update before after) (sealing : before.Sealing wsRole base) :
    after.Sealing wsRole base := by
  have queued := update.queued (fun _ => .signal) sealing.queued
  have transformed := sealing.transformed
  have settled := sealing.settled
  cases update with
  | emitted _ payload =>
    have view_eq := Session.inboundView_emitCommandFrame before payload
    have state_eq := Session.state_eq_of_inboundView view_eq
    have transformed_eq := congrArg InboundView.transformed view_eq
    exact ⟨queued, transformed_eq.trans transformed, by rw [state_eq]; exact settled⟩
  | resealed => exact ⟨queued, rfl, settled⟩
  | greeted _ _ waiting => exact absurd waiting settled.1
  | succeeded negotiating => exact absurd negotiating settled.2
  | closed | handedOver | resumed => exact ⟨queued, transformed, by simp⟩
  | _ => exact ⟨queued, transformed, settled⟩

theorem Updates.sealing (updates : Updates before after) (sealing : before.Sealing wsRole base) :
    after.Sealing wsRole base :=
  updates.invariant (fun update => update.sealing) sealing

namespace Session

variable {wsRole : Option WsRole} {base : Bytes}

theorem sealing_sendPartCurve {session : Session} (transform : CurveTransform)
    (sealing : session.Sealing wsRole base) (more : Bool) (part : Payload) :
    (finalState (sendPartCurve transform more part session)).Sealing wsRole base := by
  unfold sendPartCurve
  cases encrypted : transform.encryptMessage more false part.asSlice with
  | error error => simpa using sealing
  | ok sent =>
    simp only [run_bind, run_ofExcept_ok, run_modify, finalState_ok]
    let flags : FrameFlags := if more then .moreData else .last
    let payload := Payload.fromBytes (CurveTransform.messageCommandFrame sent.1)
    let resealed := session.withTransform (some sent.2)
    have view_eq := inboundView_emitFrame resealed flags payload
    have framing := congrArg InboundView.wsRole view_eq
    have state_eq := state_eq_of_inboundView view_eq
    refine ⟨sealing.queued.push framing (mem_kstar_of_mem ?_)
      (pollTransmit_emitFrame resealed flags payload),
      congrArg InboundView.transformed view_eq, ?_⟩
    · have framing_before : resealed.wsRole = wsRole := sealing.queued.framing
      rw [framing_before]
      exact .part encrypted resealed.env
    · rw [state_eq]
      exact sealing.settled

theorem preserves_sendParts (parts : List Payload) :
    Preserves (Sealing wsRole base) (sendParts parts) := by
  induction parts with
  | nil => exact Preserves.pure ()
  | cons part rest induction =>
    intro session sealing
    obtain ⟨transform, installed⟩ := Option.isSome_iff_exists.mp sealing.transformed
    have first := sealing_sendPartCurve transform sealing (!rest.isEmpty) part
    have unfolded : sendParts (part :: rest) session =
        (sendPartCurve transform (!rest.isEmpty) part >>= fun _ => sendParts rest) session := by
      simp [sendParts, installed]
    rw [unfolded, run_bind]
    cases sent : sendPartCurve transform (!rest.isEmpty) part session with
    | ok _ after =>
      rw [sent] at first
      exact induction after first
    | error error after =>
      rw [sent] at first
      exact first

theorem preserves_sendMessage (message : Message) :
    Preserves (Sealing wsRole base) (sendMessage message) := by
  unfold sendMessage
  refine Preserves.get.bind fun session => ?_
  cases session.isReady with
  | true => exact preserves_sendParts _
  | false => exact Preserves.throw _

theorem preserves_sendCommand (command : Command) :
    Preserves (Sealing wsRole base) (sendCommand command) :=
  .of_finalState fun session => Updates.sealing (evolves_sendCommand session command).1

end Session

namespace Outgoing

variable {wsRole : Option WsRole} {base : Bytes}

/-- A sealing connection, with nothing in the local buffer or the pipeline. -/
def Sealing (wsRole : Option WsRole) (base : Bytes) (outgoing : Outgoing) : Prop :=
  outgoing.connection.Sealing wsRole base ∧ outgoing.Clear

theorem preserves_onSession {method : SessionM Unit}
    (preserves : Preserves (Session.Sealing wsRole base) method) :
    Preserves (Sealing wsRole base) (onConnection (Connection.onSession method)) :=
  preserves_onConnection (Connection.preserves_onSession preserves) Clear fun _ _ clear => clear

variable [CompressionPrimitives]

/-- With a transform every message is queued on the connection. -/
theorem encodes_sealing : Encodes (Sealing wsRole base) where
  transforms := fun message => (leaves_transform message).preserves
    fun (connection, eq, pipeline) =>
    connection.Sealing wsRole base ∧ eq.content = [] ∧ pipeline = []
  sends := fun wire => preserves_onSession (Session.preserves_sendMessage wire)
  frames := fun _ _ plain sealing => by
    have transformed : _ = true := sealing.1.transformed
    cases transformed.symm.trans plain

theorem sealing_batchEncode {outgoing : Outgoing} (sealing : outgoing.Sealing wsRole base)
    (inline : outgoing.outbound.usePipeline = false) (messages : List Message)
    (endings : List (Nat × Bool)) :
    (finalState (batchEncode messages endings outgoing)).Sealing wsRole base := by
  rw [batchEncode_of_inline inline]
  exact (encodes_sealing.encodeMsgs messages).finalState sealing

end Outgoing

/-- A stream of sealed pieces does not start with a data frame of plaintext. -/
theorem not_prefix_of_sealedPieces {stream : Bytes} (stream_mem : stream ∈ (sealedPieces none)∗)
    (size : UInt8) : ¬ [0, size, 0] <+: stream := by
  intro starts
  obtain ⟨pieces, rfl, pieces_mem⟩ := Language.mem_kstar.mp stream_mem
  cases pieces with
  | nil => simp at starts
  | cons piece rest =>
    rw [flatten_cons] at starts
    cases pieces_mem piece mem_cons_self with
    | signal signal =>
      cases signal with
      | command env payload => exact absurd (encodeFrame_starts starts).1 (by decide)
      | control websocket => simp at websocket
    | part encrypted env =>
      have third := (encodeFrame_starts starts).2 7
      simp [CurveTransform.messageCommandFrame, CurveTransform.messagePrefix] at third

end

namespace Driver

section

variable [CurvePrimitives]

/-- A turn which sends no batch through the pipeline and takes no bytes which a caller framed. -/
structure Inline (driver : Driver) (input : DriverInput) : Prop where
  batch : driver.startsBatch input → driver.outgoing.outbound.usePipeline = false
  unencoded : driver.takesEncoded input = false

/-- What was written and what waits on the connection is `base` and sealed pieces; nothing waits
elsewhere. -/
structure Sealing (wsRole : Option WsRole) (base : Bytes) (driver : Driver) : Prop where
  /-- No socket handle frames messages for this connection. -/
  unshared : driver.slot = none
  sealed : ∃ rest stream, driver.outgoing.Sealing wsRole rest ∧
    stream ∈ (sealedPieces wsRole)∗ ∧ driver.written ++ rest = base ++ stream

variable {wsRole : Option WsRole} {base : Bytes} {driver : Driver}

namespace Sealing

section

variable (sealing : driver.Sealing wsRole base)

include sealing

theorem stream :
    ∃ stream ∈ (sealedPieces wsRole)∗,
      driver.written ++ driver.connection.pollTransmit = base ++ stream := by
  obtain ⟨rest, earlier, outgoing, earlier_mem, written_eq⟩ := sealing.sealed
  obtain ⟨queued, queued_mem, queued_eq⟩ := outgoing.1.queued.queued
  refine ⟨earlier ++ queued, append_mem_kstar earlier_mem queued_mem, ?_⟩
  rw [queued_eq, ← append_assoc, written_eq, append_assoc]

theorem written_starts : ∃ stream ∈ (sealedPieces wsRole)∗, driver.written <+: base ++ stream := by
  obtain ⟨stream, stream_mem, written_eq⟩ := sealing.stream
  exact ⟨stream, stream_mem, driver.connection.pollTransmit, written_eq⟩

theorem halt : driver.halt.Sealing wsRole base :=
  ⟨sealing.unshared, sealing.sealed⟩

theorem andThen {next : Driver → Driver}
    (next_sealing : ∀ driver : Driver, driver.Sealing wsRole base →
      (next driver).Sealing wsRole base) :
    (driver.andThen next).Sealing wsRole base := by
  unfold Driver.andThen
  split
  · exact next_sealing driver sealing
  · exact sealing

/-- The outgoing state changes, sealing what it adds. -/
theorem withOutgoing {outgoing : Outgoing}
    (kept : ∀ rest, driver.outgoing.Sealing wsRole rest → outgoing.Sealing wsRole rest) :
    { driver with outgoing }.Sealing wsRole base := by
  obtain ⟨rest, stream, sealed, stream_mem, written_eq⟩ := sealing.sealed
  exact ⟨sealing.unshared, rest, stream, kept rest sealed, stream_mem, written_eq⟩

theorem perform {α : Type} {method : OutgoingM α}
    (kept : ∀ rest, driver.outgoing.Sealing wsRole rest →
      (finalState (method driver.outgoing)).Sealing wsRole rest) :
    (driver.perform method).Sealing wsRole base :=
  perform_of (Sealing wsRole base) halt (sealing.withOutgoing kept)

/-- Writing part of the queue loses nothing. -/
theorem afterQueue {result : Flushed TransmitQueue UInt8}
    (append : result.written ++ result.state.pollTransmit = driver.connection.out.pollTransmit) :
    (driver.afterQueue result).Sealing wsRole base := by
  obtain ⟨stream, stream_mem, written_eq⟩ := sealing.stream
  obtain ⟨rest, _, outgoing, _, _⟩ := sealing.sealed
  refine ⟨sealing.unshared, result.state.pollTransmit, stream,
    ⟨⟨⟨outgoing.1.queued.framing, [], Language.nil_mem_kstar _, (append_nil _).symm⟩,
      outgoing.1.transformed, outgoing.1.settled⟩, outgoing.2⟩, stream_mem, ?_⟩
  have written : (driver.afterQueue result).written = driver.written ++ result.written := rfl
  have pending : driver.connection.pollTransmit = driver.connection.out.pollTransmit := rfl
  rw [written, append_assoc, append, ← pending, written_eq]

variable (outcomes : List Outcome)

/-- An empty frame buffer writes nothing. -/
theorem afterFrames :
    (driver.afterFrames (driver.outgoing.eq.flushFrameBuffer outcomes)).Sealing wsRole base := by
  obtain ⟨rest, stream, outgoing, stream_mem, written_eq⟩ := sealing.sealed
  obtain ⟨nothing, empty⟩ := FrameBuffer.flushFrameBuffer_of_empty outgoing.2.1 outcomes
  refine ⟨sealing.unshared, rest, stream, ⟨outgoing.1, empty, outgoing.2.2⟩, stream_mem, ?_⟩
  simpa [Driver.afterFrames, wrote, withFrameBuffer, nothing] using written_eq

theorem flushAll : (driver.flushAll outcomes).Sealing wsRole base := by
  have flushed := sealing.afterFrames outcomes
  unfold Driver.flushAll
  dsimp only
  split
  · exact conclude_of (Sealing wsRole base) halt
      (flushed.afterQueue (TransmitQueue.drainWrites_append _ _)) _
  · exact flushed.halt

theorem close : (driver.close outcomes).Sealing wsRole base :=
  (sealing.afterQueue (TransmitQueue.drainWrites_append _ _)).halt

theorem flushArm : (driver.flushArm outcomes).Sealing wsRole base := by
  have flushed := sealing.afterFrames outcomes
  unfold Driver.flushArm
  dsimp only
  split
  · exact flushed.halt
  · exact flushed
  · have queued := flushed.afterQueue (TransmitQueue.flushOnce_append _
      (driver.outgoing.eq.flushFrameBuffer outcomes).outcomes)
    split
    · exact queued.halt
    · exact queued

theorem readArm (chunk : Bytes) (payloads : List Bytes) :
    (driver.readArm chunk payloads).Sealing wsRole base := by
  have reads : ∀ rest, Preserves (fun connection : Connection => connection.Sealing wsRole rest)
      (readStreamInput driver.config.largeMessageThreshold chunk payloads) := fun rest =>
    .of_finalState fun connection sealed =>
      (tracks_readStreamInput connection _ chunk payloads).sealing sealed
  exact readArm_of (Sealing wsRole base) halt (sealing.withOutgoing fun rest =>
    (Outgoing.preserves_onConnection (reads rest) Outgoing.Clear fun _ _ clear => clear).finalState)

theorem sendCommand (command : Command) :
    (driver.perform (Driver.sendCommand command)).Sealing wsRole base :=
  sealing.perform fun _ =>
    (Outgoing.preserves_onSession (Session.preserves_sendCommand command)).finalState

theorem heartbeatArm : driver.heartbeatArm.Sealing wsRole base := by
  rw [heartbeatArm_eq]
  exact sealing.withOutgoing fun _ =>
    (Outgoing.preserves_onSession (Session.preserves_sendCommand _)).finalState

end

variable {after : Driver} {input : DriverInput}

theorem external (sealing : driver.Sealing wsRole base)
    (acted : driver.external input = some after) : after.Sealing wsRole base := by
  obtain ⟨_, _, _, _, unshared, rfl⟩ := external_eq acted
  exact ⟨unshared sealing.unshared, sealing.sealed⟩

section

variable [CompressionPrimitives]

theorem sendBatch (sealing : driver.Sealing wsRole base)
    (inline : driver.outgoing.outbound.usePipeline = false) (messages : List Message)
    {deferred : Option PeerDriverCommand}
    (unencoded : deferred.any PeerDriverCommand.isEncoded = false) (outcomes : List Outcome)
    (endings : List (Nat × Bool)) :
    (driver.sendBatch messages deferred outcomes endings).Sealing wsRole base := by
  have defers (rest : Bytes) :
      Preserves (Outgoing.Sealing wsRole rest) (handleDeferred deferred) := by
    unfold handleDeferred
    split
    · simp [PeerDriverCommand.isEncoded] at unencoded
    · exact Outgoing.preserves_onSession (Session.preserves_sendCommand _)
    · exact Preserves.pure ()
  have encoded := sealing.perform fun rest sealed => Preserves.finalState_bind
    (fun _ => defers rest) (Outgoing.sealing_batchEncode sealed inline messages endings)
  refine (encoded.andThen fun _ sealed => sealed.flushAll outcomes).andThen fun _ flushed => ?_
  split
  · exact flushed.halt
  · exact flushed

/-- An arm keeps the stream sealed unless it sends a batch through the pipeline or takes bytes which
a caller framed. -/
theorem fires (sealing : driver.Sealing wsRole base) (inline : driver.Inline input)
    (fired : driver.Fires input after) : after.Sealing wsRole base := by
  have taken : ∀ inbox, { driver with inbox }.Sealing wsRole base :=
    fun _ => ⟨sealing.unshared, sealing.sealed⟩
  have drained : ∀ pipe, (driver.afterPipe pipe).Sealing wsRole base :=
    fun _ => ⟨sealing.unshared, sealing.sealed⟩
  have absent : ∀ {slot}, driver.slot ≠ some slot := by simp [sealing.unshared]
  cases fired with
  | read _ => exact sealing.readArm _ _
  | flush _ _ => exact sealing.flushArm _
  | ignore _ _ => exact taken _
  | @batch _ _ first rest active inbox_eq =>
    have direct := inline.batch (by simp [startsBatch, active, inbox_eq])
    let split := takeInbox driver.config.maxBatchBytes 1 first.byteLen rest
    have unencoded : split.2.1.any PeerDriverCommand.isEncoded = false := by
      simpa [takesEncoded, active, inbox_eq] using inline.unencoded
    exact (taken split.2.2).sendBatch direct _ unencoded _ _
  | encoded active inbox_eq =>
    have unencoded := inline.unencoded
    simp [takesEncoded, active, inbox_eq] at unencoded
  | activate _ _ =>
    refine ⟨?_, sealing.sealed⟩
    simp [activate, sealing.unshared]
  | refuse _ _ => exact (taken _).halt
  | command _ _ => exact (taken _).sendCommand _
  | close _ _ => exact (taken _).close _
  | slotReady _ present | slotRound _ present => exact absurd present absent
  | @pipeEmpty _ _ pipe _ _ _ =>
    split
    · exact (drained pipe).close _
    · exact drained pipe
  | @pipeBatch _ _ pipe active present waiting =>
    have unread : pipe.queue ≠ [] := by
      intro empty
      simp [empty, splitBatch] at waiting
    have direct := inline.batch (by simp [startsBatch, active, present, unread])
    refine ((drained pipe).sendBatch direct _ rfl _ _).andThen fun sent sealed => ?_
    split
    · exact sealed.halt
    · exact sealed
  | offload _ pipeline_eq =>
    obtain ⟨_, _, outgoing, _, _⟩ := sealing.sealed
    cases outgoing.2.2.symm.trans pipeline_eq
  | heartbeat _ => exact sealing.heartbeatArm
  | stop _ =>
    refine ⟨?_, sealing.sealed⟩
    simp [stopArm, Driver.halt, sealing.unshared]

theorem step (sealing : driver.Sealing wsRole base) (inline : driver.Inline input)
    (stepped : driver.step input = some after) : after.Sealing wsRole base :=
  (step_cases stepped).elim sealing.external (sealing.fires inline)

end

end Sealing

variable [CompressionPrimitives]

/-- A task which has ended writes nothing more. -/
theorem written_of_stopped {condition : Driver → DriverInput → Prop} {start final : Driver}
    (stopped : start.running = false) (turns : Turns condition start final) :
    final.running = false ∧ final.written = start.written := by
  induction turns with
  | refl => exact ⟨stopped, rfl⟩
  | tail _ turn induction =>
    obtain ⟨input, _, stepped⟩ := turn
    obtain acted | fired := step_cases stepped
    · obtain ⟨_, _, _, _, _, rfl⟩ := external_eq acted
      exact induction
    · cases induction.1.symm.trans fired.running

end

/-! ## A secured connection -/

/-- A key pair of transparent primitives. -/
def curveKeypair (byte : UInt8) : CurveKeypair := ⟨replicate 32 byte, replicate 32 byte⟩

/-- One side of a CURVE connection of two PAIR sockets. -/
def curveSettings (role : Role) (mechanism : MechanismSetup) : ConnectionConfig :=
  ⟨role, .pair, [], none, mechanism, none⟩

def curveClient : ConnectionConfig :=
  curveSettings .client (.curveClient (curveKeypair 1) (replicate 32 2))

def curveServer : ConnectionConfig :=
  curveSettings .server (.curveServer (curveKeypair 2) ⟨1000, none⟩)

def curveEnv : Environment := ⟨fun _ => 1, fun _ => 0, 0, 0⟩

/-- What the server answers in a number of exchanges. -/
def serverChunks : Nat → (client server : Connection) → List Bytes
  | 0, _, _ => []
  | rounds + 1, client, server =>
    let server := finalState (@Connection.handleInput .transparent client.pollTransmit server)
    let client := finalState (@Connection.handleInput .transparent server.pollTransmit
      { client with out := .new })
    server.pollTransmit :: serverChunks rounds client { server with out := .new }

/-- The client's driver; messages of `offloadThreshold` bytes are compressed in the pool. -/
def curveDriver (offloadThreshold : Nat) : Driver :=
  @spawn .transparent ⟨⟨65536, 0, 0, false⟩, curveClient, some (.lz4 .new), some (.new 4),
    offloadThreshold, true, none, 1000, 256, none⟩ curveEnv

/-- The turns of the handshake and the activation. -/
def curveHandshake : List DriverInput :=
  (serverChunks 3 (@Connection.new .transparent curveClient curveEnv)
      (@Connection.new .transparent curveServer curveEnv)).flatMap (fun chunk =>
    [.flush [.accepts 1000], .read chunk []]) ++ [.enqueue .activateDataPlane, .inboxReady [] []]

/-- One message is queued and sent. -/
def sendHi : List DriverInput :=
  [.enqueue (.sendMessage (.fromPayload (.fromBytes (ascii "hi")))), .inboxReady [.accepts 1000] []]

/-- A driver in plain framing with a transform and nothing pending. -/
def looksSecured (driver : Driver) : Bool :=
  driver.connection.hasFrameTransform && driver.connection.wsRole.isNone &&
    driver.connection.pollTransmit.isEmpty

end Driver

end Omq
