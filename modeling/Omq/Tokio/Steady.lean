import Omq.Tokio.Driver

/-!
# What holds between the turns of a driver

While the task runs, nothing waits in the local frame buffer or in the offload pipeline when a turn
starts.  Properties of the connection which input, commands and messages keep hold there too, and a
driver without a transmit slot does not get one.
-/

namespace Omq

open Attempt PartialWrite Outgoing

section

variable [CurvePrimitives]

/-- A property of sessions which input, commands and messages keep, whatever leaves the queue. -/
structure Session.Stable (property : Session → Prop) : Prop where
  update : ∀ {before after}, Update before after → property before → property after
  sends : ∀ message, Preserves property (Session.sendMessage message)
  writes : ∀ {session : Session} out env, property session → property { session with out, env }

theorem Session.Stable.updates {property : Session → Prop} (stable : Stable property)
    {before after : Session} (updates : Updates before after) (holds : property before) :
    property after :=
  updates.invariant stable.update holds

end

namespace Outgoing

/-- Nothing waits in the local buffer or in the pipeline. -/
def Clear (outgoing : Outgoing) : Prop :=
  outgoing.eq.content = [] ∧ outgoing.outbound.offloadPipeline = []

/-- The connection has the property, and the pipeline is empty. -/
def Settled (property : Session → Prop) (outgoing : Outgoing) : Prop :=
  property outgoing.connection.toSession ∧ outgoing.outbound.offloadPipeline = []

variable [CurvePrimitives] {property : Session → Prop} (stable : Session.Stable property)

include stable

theorem settled_frameWires (wires : List Message) :
    Preserves (Settled property)
      (modify fun outgoing => wires.foldl frameWire outgoing : OutgoingM Unit) :=
  .of_finalState fun outgoing settled => by
    obtain ⟨eq, env, framed⟩ := exists_frameWires wires outgoing
    rw [run_modify, finalState_ok, framed]
    exact ⟨stable.writes _ env settled.1, settled.2⟩

theorem settled_sendCommand (command : Command) :
    Preserves (Settled property) (Driver.sendCommand command) :=
  preserves_onConnection
    (Connection.preserves_onSession (.of_finalState fun session =>
      stable.updates (Session.evolves_sendCommand session command).1))
    (fun outgoing => outgoing.outbound.offloadPipeline = []) fun _ _ drained => drained

theorem settled_handleDeferred (deferred : Option PeerDriverCommand) :
    Preserves (Settled property) (Driver.handleDeferred deferred) := by
  unfold Driver.handleDeferred
  split
  · exact fun _ settled => settled
  · exact settled_sendCommand stable _
  · exact .pure ()

variable [CompressionPrimitives]

theorem settled_encodes : Encodes (Settled property) where
  transforms := fun message => (leaves_transform message).preserves fun (connection, _, pipeline) =>
    property connection.toSession ∧ pipeline = []
  sends := fun wire => preserves_onConnection (Connection.preserves_onSession (stable.sends wire))
    (fun outgoing => outgoing.outbound.offloadPipeline = []) fun _ _ drained => drained
  frames := fun _ env _ settled => ⟨stable.writes _ env settled.1, settled.2⟩

theorem settled_drainOffloadResult (task : OffloadTask) :
    Preserves (Settled property) (drainOffloadResult task) := fun _ settled =>
  (Preserves.ofExcept _).bind (settled_frameWires stable) _ settled

theorem settled_drainTasks (tasks : List OffloadTask) :
    Preserves (Settled property) (drainTasks tasks) := by
  induction tasks with
  | nil => exact .pure ()
  | cons task rest induction =>
    exact (settled_drainOffloadResult stable task).bind fun _ => induction

theorem settled_batchEncode (messages : List Message) (endings : List (Nat × Bool)) :
    Preserves (Settled property) (batchEncode messages endings) := by
  intro outgoing settled
  cases pipelined : outgoing.outbound.usePipeline with
  | true =>
    rw [batchEncode_of_usePipeline pipelined]
    exact settled_drainTasks stable _ _ ⟨settled.1, rfl⟩
  | false =>
    rw [batchEncode_of_inline pipelined]
    exact (settled_encodes stable).encodeMsgs messages outgoing settled

end Outgoing

namespace Driver

/-- The connection has the property; while the task runs nothing waits in the local buffer or the
pipeline; and there is no slot when none is shared. -/
structure Steady (property : Session → Prop) (unshared : Prop) (driver : Driver) : Prop where
  connection : property driver.connection.toSession
  clear : driver.running → driver.outgoing.Clear
  slot : unshared → driver.slot = none

variable {property : Session → Prop} {unshared : Prop} {driver after : Driver} {input : DriverInput}

theorem steady_halt (connection : property driver.connection.toSession)
    (slot : unshared → driver.slot = none) : driver.halt.Steady property unshared :=
  ⟨connection, by simp, slot⟩

theorem Steady.halt (steady : driver.Steady property unshared) :
    driver.halt.Steady property unshared :=
  steady_halt steady.connection steady.slot

theorem Steady.andThen (steady : driver.running = false → driver.Steady property unshared)
    {next : Driver → Driver} (goes_on : driver.running → (next driver).Steady property unshared) :
    (driver.andThen next).Steady property unshared := by
  unfold Driver.andThen
  split
  next running => exact goes_on running
  next stopped => exact steady (by simpa using stopped)

variable [CurvePrimitives] (stable : Session.Stable property)

include stable

theorem steady_flushAll (settled : driver.outgoing.Settled property)
    (slot : unshared → driver.slot = none) (outcomes : List Outcome) :
    (driver.flushAll outcomes).Steady property unshared := by
  unfold flushAll
  dsimp only
  split
  next done =>
    refine conclude_of (Steady property unshared) Steady.halt ?_ _
    refine ⟨?_, fun _ => ⟨?_, settled.2⟩, slot⟩
    · exact stable.writes _ driver.connection.env settled.1
    · exact (FrameBuffer.flushFrameBuffer_done done).2
  · exact steady_halt settled.1 slot

/-- Encode and flush. -/
theorem steady_perform {α : Type} {method : OutgoingM α}
    (keeps : Preserves (Settled property) method) (settled : driver.outgoing.Settled property)
    (slot : unshared → driver.slot = none) (outcomes : List Outcome) :
    ((driver.perform method).andThen (·.flushAll outcomes)).Steady property unshared := by
  have flushes (after : Driver) (settled : after.outgoing.Settled property)
      (slot : unshared → after.slot = none) :
      (after.andThen (·.flushAll outcomes)).Steady property unshared :=
    Steady.andThen (fun stopped => ⟨settled.1, fun running => by simp [stopped] at running, slot⟩)
      fun _ => steady_flushAll stable settled slot outcomes
  have settled_after := keeps.finalState settled
  unfold Driver.perform
  cases result : method driver.outgoing with
  | ok value outgoing =>
    rw [result] at settled_after
    exact flushes _ settled_after slot
  | error error outgoing =>
    rw [result] at settled_after
    exact flushes _ settled_after slot

variable (steady : driver.Steady property unshared)

include steady

theorem Steady.close (outcomes : List Outcome) : (driver.close outcomes).Steady property unshared :=
  steady_halt (stable.writes _ driver.connection.env steady.connection) steady.slot

variable [CompressionPrimitives]

theorem Steady.sendBatch (running : driver.running) (messages : List Message)
    (deferred : Option PeerDriverCommand) (outcomes : List Outcome) (endings : List (Nat × Bool)) :
    (driver.sendBatch messages deferred outcomes endings).Steady property unshared := by
  have flushed := steady_perform stable ((settled_batchEncode stable messages endings).bind fun _ =>
    settled_handleDeferred stable deferred)
      ⟨steady.connection, (steady.clear running).2⟩ steady.slot
    outcomes
  refine Steady.andThen (fun _ => flushed) fun _ => ?_
  split
  · exact flushed.halt
  · exact flushed

omit [CompressionPrimitives] in
theorem Steady.onConnection (running : driver.running) {α : Type}
    {method : Connection.ConnectionM α}
    (tracks : Tracks Connection.toSession driver.connection.toSession (method driver.connection)) :
    { driver with outgoing := finalState (onConnection method driver.outgoing) }.Steady property
      unshared := by
  have clear := ((leaves_onConnection method).preserves fun (eq, outbound) =>
    eq.content = [] ∧ outbound.offloadPipeline = []).finalState (steady.clear running)
  refine ⟨?_, fun _ => clear, steady.slot⟩
  have kept := stable.updates tracks steady.connection
  unfold Outgoing.onConnection
  cases result : method driver.connection with
  | ok value connection => rwa [result] at kept
  | error error connection => rwa [result] at kept

/-- An arm leaves nothing in the local buffer or the pipeline, or ends the task. -/
theorem Steady.fires (fired : driver.Fires input after) : after.Steady property unshared := by
  have running := fired.running
  have clear := steady.clear running
  have connection := steady.connection
  have taken : ∀ inbox, { driver with inbox }.Steady property unshared :=
    fun _ => ⟨connection, fun _ => clear, steady.slot⟩
  have drained : ∀ pipe, (driver.afterPipe pipe).Steady property unshared :=
    fun _ => ⟨connection, fun _ => clear, steady.slot⟩
  have written (out : TransmitQueue) := stable.writes out driver.connection.env connection
  have absent {slot : PeerTransmitSlot} {other : Option PeerTransmitSlot}
      (present : driver.slot = some slot) (alone : unshared) : other = none :=
    absurd (steady.slot alone) (by simp [present])
  cases fired with
  | read _ =>
    exact readArm_of (Steady property unshared) Steady.halt
      (steady.onConnection stable running (tracks_readStreamInput ..))
  | @flush outcomes _ _ =>
    have still_empty := (FrameBuffer.flushFrameBuffer_of_empty clear.1 outcomes).2
    unfold flushArm
    dsimp only
    split
    · exact steady_halt connection steady.slot
    · exact ⟨connection, fun _ => ⟨still_empty, clear.2⟩, steady.slot⟩
    · split
      · exact steady_halt (written _) steady.slot
      · exact ⟨written _, fun _ => ⟨still_empty, clear.2⟩, steady.slot⟩
  | ignore _ _ => exact taken _
  | @batch _ _ first rest _ _ =>
    let split := takeInbox driver.config.maxBatchBytes 1 first.byteLen rest
    exact (taken split.2.2).sendBatch stable running _ _ _ _
  | encoded _ _ =>
    unfold sendEncoded conclude
    dsimp only
    split
    next done =>
      exact ⟨connection, fun _ => ⟨(FrameBuffer.flushFrameBuffer_done done).2, clear.2⟩,
        steady.slot⟩
    · exact steady_halt connection steady.slot
  | activate _ _ =>
    exact ⟨connection, fun _ => clear, fun alone => by simp [activate, steady.slot alone]⟩
  | refuse _ _ => exact (taken _).halt
  | @command _ _ command rest _ _ =>
    refine perform_of (Steady property unshared) Steady.halt ?_
    exact (taken rest).onConnection stable running (Connection.evolves_onSession
      (Session.evolves_sendCommand driver.connection.toSession _)).1
  | @close _ _ rest _ _ => exact (taken rest).close stable _
  | slotReady _ present =>
    unfold slotArm
    split
    · refine conclude_of (Steady property unshared) Steady.halt ?_ _
      exact ⟨connection, fun _ => clear, absent present⟩
    · exact ⟨connection, fun _ => clear, steady.slot⟩
  | slotRound _ present =>
    unfold slotRound
    dsimp only
    split
    · exact ⟨connection, fun _ => clear, absent present⟩
    · refine conclude_of (Steady property unshared) Steady.halt ?_ _
      exact ⟨connection, fun _ => clear, absent present⟩
  | @pipeEmpty _ _ pipe _ _ _ =>
    split
    · exact (drained pipe).close stable _
    · exact drained pipe
  | @pipeBatch outcomes endings pipe _ _ _ =>
    have sent := (drained pipe).sendBatch stable running
      (splitBatch driver.config.maxBatchBytes 0 0 pipe.queue).1 none outcomes endings
    refine Steady.andThen (fun _ => sent) fun _ => ?_
    split
    · exact sent.halt
    · exact sent
  | offload _ pipeline_eq => cases clear.2.symm.trans pipeline_eq
  | heartbeat _ =>
    rw [heartbeatArm_eq]
    exact steady.onConnection stable running (Connection.evolves_onSession
      (Session.evolves_sendCommand driver.connection.toSession _)).1
  | stop _ =>
    exact steady_halt connection fun alone => by simp [steady.slot alone]

theorem Steady.step (stepped : driver.step input = some after) :
    after.Steady property unshared := by
  obtain acted | fired := step_cases stepped
  · obtain ⟨_, _, _, _, kept, rfl⟩ := external_eq acted
    exact ⟨steady.connection, steady.clear, fun alone => kept (steady.slot alone)⟩
  · exact steady.fires stable fired

end Driver

end Omq
