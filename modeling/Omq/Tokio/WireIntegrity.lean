import Omq.Tokio.Driver
import Omq.Tokio.Parcels

/-!
# The stream of a driver is well framed

The connection's queue, the local frame buffer and the transmit slot share one writer, and each of
them holds parcels.  The stream stays a sequence of parcels as long as a turn which writes one of
the buffers finds no parcel of another partly written.
-/

namespace Omq

open Attempt PartialWrite Streams List Driver Outgoing
open scoped Computability

/-! ## The driver's buffers -/

namespace Driver

section

variable (driver : Driver)

def slotContent : Bytes := (driver.slot.map fun slot => slot.eq.content).getD []

/-- The buffers of a driver share its stream. -/
def lanes : Lanes Lane UInt8 where
  written := driver.written
  pending := fun
    | .connection => driver.connection.pollTransmit
    | .frameBuffer => driver.outgoing.eq.content
    | .slot => driver.slotContent
  last := driver.lastLane

variable {driver} in
theorem lanes_eq {lanes : Lanes Lane UInt8} (written : driver.written = lanes.written)
    (last : driver.lastLane = lanes.last)
    (connection : driver.connection.pollTransmit = lanes.pending .connection)
    (frameBuffer : driver.outgoing.eq.content = lanes.pending .frameBuffer)
    (slot : driver.slotContent = lanes.pending .slot) : driver.lanes = lanes := by
  refine Lanes.ext written ?_ last
  funext lane
  cases lane with
  | connection => exact connection
  | frameBuffer => exact frameBuffer
  | slot => exact slot

theorem lanes_afterQueue (result : Flushed TransmitQueue UInt8) : (driver.afterQueue result).lanes =
      driver.lanes.transfer .connection result.written result.state.pollTransmit :=
  lanes_eq rfl rfl rfl rfl rfl

theorem lanes_afterFrames (result : Flushed FrameBuffer UInt8) : (driver.afterFrames result).lanes =
      driver.lanes.transfer .frameBuffer result.written result.state.content :=
  lanes_eq rfl rfl rfl rfl rfl

theorem lanes_wroteSlot (slot : PeerTransmitSlot) (phase : DriverPhase) (bytes : Bytes) :
    ({ driver with slot := some slot, phase := phase }.wrote .slot bytes).lanes =
      driver.lanes.transfer .slot bytes slot.eq.content :=
  lanes_eq rfl rfl rfl rfl rfl

theorem lanes_replaceSlot (slot : PeerTransmitSlot) :
    ({ driver with slot := some slot } : Driver).lanes =
      driver.lanes.replace .slot slot.eq.content :=
  lanes_eq rfl rfl rfl rfl rfl

theorem lanes_withOutgoing {driver : Driver} {outgoing : Outgoing} {queued framed : Bytes}
    (queued_eq : outgoing.connection.pollTransmit = driver.connection.pollTransmit ++ queued)
    (framed_eq : outgoing.eq.content = driver.outgoing.eq.content ++ framed) :
    ({ driver with outgoing } : Driver).lanes =
      (driver.lanes.enqueue .connection queued).enqueue .frameBuffer framed :=
  lanes_eq rfl rfl queued_eq framed_eq rfl

/-- The stream so far can be completed to parcels; while the task runs nothing waits in the frame
buffer, and the buffer written last completes the stream. -/
structure Intact (base : Bytes) (driver : Driver) : Prop where
  slot_plain : ∀ slot ∈ driver.slot, slot.wsRole = none
  starts : ∃ stream ∈ parcels∗, driver.written <+: base ++ stream
  plain : driver.running → driver.connection.wsRole = none
  sound : driver.running → driver.outgoing.eq.content = [] ∧ driver.lanes.Sound parcels base

/-- The frame buffer, and then the connection's queue, may be written. -/
structure Loaded (base : Bytes) (driver : Driver) : Prop where
  plain : driver.connection.wsRole = none
  slot_plain : ∀ slot ∈ driver.slot, slot.wsRole = none
  sound : driver.lanes.Sound parcels base
  /-- No parcel is partly written, or the rest of it is next. -/
  free : driver.outgoing.eq.content = [] ∧ driver.lastLane = .connection ∨
    driver.lanes.Whole parcels base

variable {base : Bytes} {driver : Driver}

/-- A task which ends needs only a stream which can be completed. -/
theorem intact_halt (slot_plain : ∀ slot ∈ driver.slot, slot.wsRole = none)
    (starts : ∃ stream ∈ parcels∗, driver.written <+: base ++ stream) : driver.halt.Intact base :=
  ⟨slot_plain, starts, fun running => by simp at running, fun running => by simp at running⟩

theorem Intact.halt (intact : driver.Intact base) : driver.halt.Intact base :=
  intact_halt intact.slot_plain intact.starts

theorem Loaded.halt (loaded : driver.Loaded base) : driver.halt.Intact base :=
  intact_halt loaded.slot_plain loaded.sound.starts

theorem Intact.andThen {next : Driver → Driver}
    (stopped : driver.running = false → driver.Intact base)
    (goes_on : driver.running = true → (next driver).Intact base) :
    (driver.andThen next).Intact base := by
  unfold Driver.andThen
  split
  next running => exact goes_on running
  next halted => exact stopped (by simpa using halted)

section

variable (loaded : driver.Loaded base)

include loaded

theorem Loaded.lane_free : Lane.connection = driver.lanes.last ∨ driver.lanes.Whole parcels base :=
  loaded.free.imp (fun free => free.2.symm) id

/-- Write from the connection's queue, and end or go on. -/
theorem Loaded.afterQueue (empty : driver.outgoing.eq.content = [])
    {result : Flushed TransmitQueue UInt8}
    (append : result.written ++ result.state.pollTransmit = driver.connection.out.pollTransmit) :
    (driver.afterQueue result).Intact base := by
  have moved : (driver.afterQueue result).lanes.Sound parcels base := by
    rw [lanes_afterQueue]
    exact loaded.sound.transfer loaded.lane_free append.symm
  exact ⟨loaded.slot_plain, moved.starts, fun _ => loaded.plain, fun _ => ⟨empty, moved⟩⟩

/-- A flush of the frame buffer which ends leaves it empty. -/
theorem Loaded.afterFrames (outcomes : List Outcome) :
    ((driver.outgoing.eq.flushFrameBuffer outcomes).status = .done ∨
        driver.outgoing.eq.content = [] →
      (driver.afterFrames (driver.outgoing.eq.flushFrameBuffer outcomes)).Loaded base ∧
        (driver.outgoing.eq.flushFrameBuffer outcomes).state.content = []) ∧
      ∃ stream ∈ parcels∗,
        (driver.afterFrames (driver.outgoing.eq.flushFrameBuffer outcomes)).written <+:
          base ++ stream := by
  obtain ⟨empty, last⟩ | whole := loaded.free
  · obtain ⟨nothing, still_empty⟩ := FrameBuffer.flushFrameBuffer_of_empty empty outcomes
    have unchanged : (driver.afterFrames (driver.outgoing.eq.flushFrameBuffer outcomes)).lanes =
        driver.lanes := by
      rw [lanes_afterFrames, nothing, still_empty]
      exact (lanes_eq (append_nil _).symm rfl rfl empty rfl).symm
    have sound : (driver.afterFrames
        (driver.outgoing.eq.flushFrameBuffer outcomes)).lanes.Sound parcels base := by
      rw [unchanged]
      exact loaded.sound
    refine ⟨fun _ => ⟨⟨loaded.plain, loaded.slot_plain, sound, .inl ⟨still_empty, ?_⟩⟩,
      still_empty⟩, sound.starts⟩
    exact (congrArg Lanes.last unchanged).trans last
  · have accounts := driver.outgoing.eq.flushFrameBuffer_accounts outcomes
    obtain ⟨rest, rest_eq⟩ := accounts.written_starts
    have partly : (driver.lanes.transfer .frameBuffer
        (driver.outgoing.eq.flushFrameBuffer outcomes).written rest).Sound parcels base :=
      whole.transfer .frameBuffer rest_eq.symm
    refine ⟨fun ended => ?_, partly.starts⟩
    have emptied : (driver.outgoing.eq.flushFrameBuffer outcomes).written =
          driver.outgoing.eq.content ∧
        (driver.outgoing.eq.flushFrameBuffer outcomes).state.content = [] := by
      obtain done | empty := ended
      · exact FrameBuffer.flushFrameBuffer_done done
      · rw [empty]
        exact FrameBuffer.flushFrameBuffer_of_empty empty outcomes
    have whole_after : (driver.afterFrames
        (driver.outgoing.eq.flushFrameBuffer outcomes)).lanes.Whole parcels base := by
      rw [lanes_afterFrames, emptied.1, emptied.2]
      exact loaded.sound.transfer_all (.inr whole)
    exact ⟨⟨loaded.plain, loaded.slot_plain, whole_after.sound _, .inr whole_after⟩, emptied.2⟩

theorem Loaded.flushAll (outcomes : List Outcome) : (driver.flushAll outcomes).Intact base := by
  obtain ⟨flushed, starts⟩ := loaded.afterFrames outcomes
  unfold Driver.flushAll
  dsimp only
  split
  next done =>
    obtain ⟨loaded_after, empty⟩ := flushed (.inl done)
    have written := loaded_after.afterQueue empty (TransmitQueue.drainWrites_append _
      (driver.outgoing.eq.flushFrameBuffer outcomes).outcomes)
    unfold Driver.conclude
    split
    · exact written
    · exact written.halt
  · exact intact_halt loaded.slot_plain starts

theorem Loaded.close (empty : driver.outgoing.eq.content = []) (outcomes : List Outcome) :
    (driver.close outcomes).Intact base :=
  (loaded.afterQueue empty (TransmitQueue.drainWrites_append _ _)).halt

theorem Loaded.flushArm (empty : driver.outgoing.eq.content = []) (outcomes : List Outcome) :
    (driver.flushArm outcomes).Intact base := by
  obtain ⟨loaded_after, still_empty⟩ := (loaded.afterFrames outcomes).1 (.inr empty)
  unfold Driver.flushArm
  dsimp only
  split
  · exact loaded_after.halt
  · exact ⟨loaded_after.slot_plain, loaded_after.sound.starts, fun _ => loaded_after.plain,
      fun _ => ⟨still_empty, loaded_after.sound⟩⟩
  · have written := loaded_after.afterQueue still_empty (TransmitQueue.flushOnce_append _
      (driver.outgoing.eq.flushFrameBuffer outcomes).outcomes)
    split
    · exact written.halt
    · exact written

end

/-! ## The turns of a driver -/

/-- The buffer a batch goes through. -/
def batchLane (driver : Driver) : Lane :=
  if driver.connection.hasFrameTransform && !driver.outgoing.outbound.usePipeline then .connection
  else .frameBuffer

/-- The buffer a turn writes first. -/
def nextLane (driver : Driver) : DriverInput → Option Lane
  | .flush _ => some .connection
  | .inboxReady outcomes endings =>
    if driver.takesEncoded (.inboxReady outcomes endings) then some .frameBuffer
    else
      match driver.phase, driver.inbox with
      | .active, .sendMessage _ :: _ => some driver.batchLane
      | .active, .close :: _ => some .connection
      | .preActivation, .close :: _ => some .connection
      | _, _ => none
  | .pipeReady _ _ =>
    driver.sendPipe.bind fun pipe =>
      if (splitBatch driver.config.maxBatchBytes 0 0 pipe.queue).1 ≠ [] then
        some driver.batchLane
      else if pipe.disconnected then some .connection
      else none
  | .offloadReady _ => some .frameBuffer
  | .slotReady _ => some .slot
  | .slotRound _ => some .slot
  | _ => none

/-- A push to the slot evicts nothing, or evicts whole parcels of which none is partly written. -/
def EvictsWhole (base : Bytes) (driver : Driver) (message : Message) : Prop :=
  ∀ slot ∈ driver.slot,
    (slot.evict (encodeMessageFlat message).length slot.queuedMsgs slot.eq).2.content =
        slot.eq.content ∨
      (∀ chunk ∈ slot.eq.chunks, chunk ∈ parcels∗) ∧
        (driver.lastLane = .slot → driver.lanes.Whole parcels base)

/-- A turn which writes a buffer finds no parcel of another buffer partly written, and eviction
takes out whole parcels. -/
structure Orderly (base : Bytes) (driver : Driver) (input : DriverInput) : Prop where
  /-- The buffer written first is the one written last, or no parcel is partly written. -/
  writes : ∀ lane ∈ driver.nextLane input, lane = driver.lastLane ∨ driver.lanes.Whole parcels base
  evicts : ∀ message isProtected, input = .slotFanOut message isProtected →
    driver.EvictsWhole base message

theorem Loaded.withOutgoing (loaded : driver.Loaded base) {outgoing : Outgoing}
    (grows : driver.outgoing.Grows outgoing)
    (kept : outgoing.eq.content = [] ∨ driver.lanes.Whole parcels base) :
    ({ driver with outgoing } : Driver).Loaded base := by
  obtain ⟨queued, queued_mem, queued_eq⟩ := grows.queued
  obtain ⟨framed, framed_mem, framed_eq⟩ := grows.framed
  have lanes_eq := lanes_withOutgoing queued_eq framed_eq
  have whole_after (whole : driver.lanes.Whole parcels base) :
      ({ driver with outgoing } : Driver).lanes.Whole parcels base := by
    rw [lanes_eq]
    exact (whole.enqueue .connection queued_mem).enqueue .frameBuffer framed_mem
  refine ⟨grows.plain, loaded.slot_plain, ?_, ?_⟩
  · rw [lanes_eq]
    exact (loaded.sound.enqueue .connection queued_mem).enqueue .frameBuffer framed_mem
  · obtain ⟨_, last⟩ | whole := loaded.free
    · exact kept.imp (fun empty => ⟨empty, last⟩) whole_after
    · exact .inr (whole_after whole)

/-- A step of encoding which returns goes on, one which fails ends the task. -/
theorem Loaded.perform_andThen (loaded : driver.Loaded base) (running : driver.running)
    {α : Type} {method : OutgoingM α} (adds : Outgoing.AddsParcels method)
    (kept : (finalState (method driver.outgoing)).eq.content = [] ∨
      driver.lanes.Whole parcels base) {next : Driver → Driver}
    (goes_on : ∀ after : Driver, after.Loaded base → after.running → (next after).Intact base) :
    ((driver.perform method).andThen next).Intact base := by
  have grows := adds driver.outgoing driver.outgoing (.refl loaded.plain)
  unfold Driver.perform
  cases result : method driver.outgoing with
  | ok value outgoing =>
    rw [result] at grows kept
    exact Intact.andThen (fun halted => nomatch running.symm.trans halted)
      (goes_on _ (loaded.withOutgoing grows kept))
  | error error outgoing =>
    exact Intact.andThen (fun _ => intact_halt loaded.slot_plain loaded.sound.starts) nofun

theorem lanes_activate (driver : Driver) : driver.activate.lanes = driver.lanes := by
  refine lanes_eq rfl rfl rfl rfl ?_
  simp only [lanes, slotContent, activate, Option.map_map, Function.comp_def]

theorem slotContent_eq {slot : PeerTransmitSlot} (present : driver.slot = some slot) :
    driver.slotContent = slot.eq.content := by
  simp [slotContent, present]

theorem Intact.withSlot (intact : driver.Intact base) {slot : PeerTransmitSlot}
    (slot_plain : slot.wsRole = none) {data : Bytes} (data_mem : data ∈ parcels∗)
    (content : slot.eq.content = driver.slotContent ++ data) :
    ({ driver with slot := some slot } : Driver).Intact base := by
  refine ⟨?_, intact.starts, intact.plain, fun running => ?_⟩
  · rintro other ⟨⟩
    exact slot_plain
  · obtain ⟨empty, sound⟩ := intact.sound running
    have lanes_after : ({ driver with slot := some slot } : Driver).lanes =
        driver.lanes.enqueue .slot data := lanes_eq rfl rfl rfl rfl content
    exact ⟨empty, lanes_after ▸ sound.enqueue .slot data_mem⟩

/-- A push adds parcels to the slot or changes nothing. -/
theorem Intact.pushed (intact : driver.Intact base) {slot after : PeerTransmitSlot}
    (present : driver.slot = some slot) (role : after.wsRole = slot.wsRole) {data : Bytes}
    (data_mem : data ∈ parcels∗)
    (content : after.eq.content = slot.eq.content ∨ after.eq.content = slot.eq.content ++ data) :
    ({ driver with slot := some after } : Driver).Intact base := by
  have slot_plain := role.trans (intact.slot_plain slot present)
  rw [← slotContent_eq present] at content
  obtain same | content := content
  · exact intact.withSlot slot_plain (Language.nil_mem_kstar _) (by rw [same, append_nil])
  · exact intact.withSlot slot_plain data_mem content

section

variable (intact : driver.Intact base) (running : driver.running)

include intact running

/-- Input queues parcels on the connection. -/
theorem Intact.withConnection {connection : Connection}
    (updates : Updates driver.connection.toSession connection.toSession) :
    ({ driver with outgoing := { driver.outgoing with connection } } : Driver).Intact base := by
  have before : driver.connection.Queued parcels none driver.connection.pollTransmit :=
    ⟨intact.plain running, [], Language.nil_mem_kstar _, (append_nil _).symm⟩
  have queued := updates.queued signals_mem_parcels before
  obtain ⟨data, data_mem, transmit_eq⟩ := queued.queued
  obtain ⟨empty, sound⟩ := intact.sound running
  refine ⟨intact.slot_plain, intact.starts, fun _ => queued.framing, fun _ => ⟨empty, ?_⟩⟩
  have lanes_eq : ({ driver with outgoing := { driver.outgoing with connection } } : Driver).lanes =
      (driver.lanes.enqueue .connection data).enqueue .frameBuffer [] :=
    lanes_withOutgoing transmit_eq (append_nil _).symm
  rw [lanes_eq]
  exact (sound.enqueue .connection data_mem).enqueue .frameBuffer (Language.nil_mem_kstar _)

/-- The connection's queue may be written. -/
theorem Intact.loaded (free : Lane.connection = driver.lastLane ∨ driver.lanes.Whole parcels base) :
    driver.Loaded base := by
  obtain ⟨empty, sound⟩ := intact.sound running
  exact ⟨intact.plain running, intact.slot_plain, sound,
    free.imp (fun last => ⟨empty, last.symm⟩) id⟩

theorem Intact.onConnection {α : Type} {method : Connection.ConnectionM α}
    (tracks : Tracks Connection.toSession driver.connection.toSession (method driver.connection)) :
    ({ driver with
      outgoing := finalState (Outgoing.onConnection method driver.outgoing) } : Driver).Intact
        base := by
  have kept := intact.withConnection running tracks
  unfold Outgoing.onConnection
  cases result : method driver.connection with
  | ok value connection => rwa [result] at kept
  | error error connection => rwa [result] at kept

/-- Nothing waits in the frame buffer, so no parcel of it is partly written. -/
theorem Intact.whole_of_frameBuffer
    (free : Lane.frameBuffer = driver.lastLane ∨ driver.lanes.Whole parcels base) :
    driver.lanes.Whole parcels base := by
  obtain ⟨empty, sound⟩ := intact.sound running
  obtain last | whole := free
  · have last_eq : driver.lanes.last = .frameBuffer := last.symm
    refine sound.whole ?_
    rw [last_eq]
    exact empty
  · exact whole

/-- A batch finds the buffers loaded; unless it is encrypted no parcel is partly written. -/
theorem Intact.loaded_of_batch
    (free : driver.batchLane = driver.lastLane ∨ driver.lanes.Whole parcels base) :
    driver.Loaded base ∧
      (driver.connection.hasFrameTransform = true ∧
          driver.outgoing.outbound.usePipeline = false ∨ driver.lanes.Whole parcels base) := by
  cases encrypts : driver.connection.hasFrameTransform && !driver.outgoing.outbound.usePipeline with
  | true =>
    have lane : driver.batchLane = .connection := by simp [batchLane, encrypts]
    rw [lane] at free
    exact ⟨intact.loaded running free, .inl (by simpa using encrypts)⟩
  | false =>
    have lane : driver.batchLane = .frameBuffer := by simp [batchLane, encrypts]
    rw [lane] at free
    have whole := intact.whole_of_frameBuffer running free
    exact ⟨intact.loaded running (.inr whole), .inr whole⟩

/-- Bytes framed by a caller are written when no parcel is partly written. -/
theorem Intact.sendEncoded
    (free : Lane.frameBuffer = driver.lastLane ∨ driver.lanes.Whole parcels base)
    (encoded : EncodedMessage) (outcomes : List Outcome) :
    (driver.sendEncoded encoded outcomes).Intact base := by
  have whole := intact.whole_of_frameBuffer running free
  have grows : driver.outgoing.Grows
      { driver.outgoing with eq := driver.outgoing.eq.pushSharedChunks encoded.chunks } := by
    refine (Grows.refl (intact.plain running)).frame
      (encodeSlicesFlat_mem_parcels [] encoded.message.parts) ?_
    rw [FrameBuffer.content_pushSharedChunks, encoded.encodes]
    rfl
  obtain ⟨flushed, starts⟩ :=
    ((intact.loaded running (.inr whole)).withOutgoing grows (.inr whole)).afterFrames outcomes
  unfold Driver.sendEncoded conclude
  dsimp only
  split
  next done =>
    obtain ⟨loaded, empty⟩ := flushed (.inl done)
    exact ⟨loaded.slot_plain, starts, fun _ => loaded.plain, fun _ => ⟨empty, loaded.sound⟩⟩
  · exact intact_halt intact.slot_plain starts

theorem Intact.withPhase {phase : DriverPhase} : ({ driver with phase } : Driver).Intact base :=
  ⟨intact.slot_plain, intact.starts, fun _ => intact.plain running, fun _ => intact.sound running⟩

theorem Intact.activate : driver.activate.Intact base := by
  refine ⟨?_, intact.starts, fun _ => intact.plain running, fun _ => ?_⟩
  · intro slot present
    obtain ⟨before, before_present, rfl⟩ := Option.map_eq_some_iff.mp present
    exact intact.slot_plain before before_present
  · rw [lanes_activate]
    exact intact.sound running

variable {slot : PeerTransmitSlot}

section

variable (free : Lane.slot = driver.lastLane ∨ driver.lanes.Whole parcels base)

include free

/-- Write chunks taken out of the slot, and end or go on. -/
theorem Intact.wroteSlot (slot_plain : slot.wsRole = none) (chunks : List Bytes)
    (split : driver.slotContent = chunks.flatten ++ slot.eq.content) (phase : DriverPhase)
    (outcomes : List Outcome) :
    (({ driver with slot := some slot, phase := phase }.wrote .slot
      (writeChunks chunks outcomes).written).conclude
        (writeChunks chunks outcomes).status).Intact base := by
  obtain ⟨empty, sound⟩ := intact.sound running
  have still_plain : ∀ other ∈ some slot, other.wsRole = none := by
    rintro other ⟨⟩
    exact slot_plain
  unfold conclude
  split
  next done =>
    have all : (writeChunks chunks outcomes).written = chunks.flatten :=
      chunksSource.written_of_flush_done done
    have moved := sound.transfer free split
    rw [← all, ← lanes_wroteSlot driver slot phase] at moved
    exact ⟨still_plain, moved.starts, fun _ => intact.plain running, fun _ => ⟨empty, moved⟩⟩
  · obtain ⟨rest, rest_eq⟩ : (writeChunks chunks outcomes).written <+: chunks.flatten :=
      (chunksSource.flush_accounts outcomes chunks).written_starts
    have partly := sound.transfer free (show driver.lanes.pending .slot =
      (writeChunks chunks outcomes).written ++ (rest ++ slot.eq.content) by
        rw [← append_assoc, rest_eq]
        exact split)
    exact intact_halt still_plain partly.starts

theorem Intact.slotArm (present : driver.slot = some slot) (outcomes : List Outcome) :
    (driver.slotArm slot outcomes).Intact base := by
  have slot_plain := intact.slot_plain slot present
  unfold Driver.slotArm
  cases drained : slot.tryDrainArenaOnly with
  | none => exact ⟨intact.slot_plain, intact.starts, fun _ => intact.plain running,
      fun _ => intact.sound running⟩
  | some result =>
    obtain ⟨arena, woken, after⟩ := result
    obtain ⟨arena_eq, emptied⟩ := PeerTransmitSlot.content_tryDrainArenaOnly drained
    have after_plain : after.wsRole = none := by
      unfold PeerTransmitSlot.tryDrainArenaOnly at drained
      split at drained
      · cases drained
        exact slot_plain
      · contradiction
    exact intact.wroteSlot running free after_plain [arena]
      (by simp [slotContent_eq present, arena_eq, emptied]) driver.phase outcomes

theorem Intact.slotRound (present : driver.slot = some slot) (rounds bytes : Nat)
    (outcomes : List Outcome) : (driver.slotRound slot rounds bytes outcomes).Intact base := by
  have slot_plain : (slot.drain maxDrainChunks).2.2.wsRole = none := by
    have before := intact.slot_plain slot present
    unfold PeerTransmitSlot.drain PeerTransmitSlot.settle PeerTransmitSlot.markFanoutDictShipped
    dsimp only
    split <;> exact before
  have split : driver.slotContent = (slot.drain maxDrainChunks).1.flatten ++
      (slot.drain maxDrainChunks).2.2.eq.content := by
    rw [slotContent_eq present, slot.content_drain maxDrainChunks]
  unfold Driver.slotRound
  dsimp only
  by_cases nothing : (slot.drain maxDrainChunks).1 = []
  · rw [if_pos nothing]
    rw [nothing] at split
    refine (intact.withSlot slot_plain (Language.nil_mem_kstar _) ?_).withPhase running
    rw [split, append_nil]
    rfl
  · rw [if_neg nothing]
    exact intact.wroteSlot running free slot_plain _ split _ outcomes

end

variable [CurvePrimitives]

theorem Intact.sendCommand
    (command : Command) : (driver.perform (sendCommand command)).Intact base :=
  perform_of (Intact base) Intact.halt (intact.onConnection running (Connection.evolves_onSession
    (Session.evolves_sendCommand driver.connection.toSession command)).1)

theorem Intact.heartbeatArm : driver.heartbeatArm.Intact base := by
  rw [heartbeatArm_eq]
  exact intact.onConnection running (Connection.evolves_onSession
    (Session.evolves_sendCommand driver.connection.toSession _)).1

theorem Intact.readArm (chunk : Bytes)
    (payloads : List Bytes) : (driver.readArm chunk payloads).Intact base :=
  readArm_of (Intact base) Intact.halt (intact.onConnection running
    (tracks_readStreamInput driver.connection driver.config.largeMessageThreshold chunk payloads))

end

section

variable [CurvePrimitives]

theorem addsParcels_sendCommand (command : Command) :
    Outgoing.AddsParcels (sendCommand command) := by
  refine .onSession fun session sent plain returned => ?_
  have before : session.Queued parcels none session.pollTransmit :=
    ⟨plain, [], Language.nil_mem_kstar _, (append_nil _).symm⟩
  have tracks : Updates session (finalState (Session.sendCommand command session)) :=
    (Session.evolves_sendCommand session command).1
  rw [returned] at tracks
  have queued := tracks.queued signals_mem_parcels before
  exact ⟨queued.framing, queued.queued⟩

/-- What the command behind a batch queues are parcels too. -/
theorem addsParcels_handleDeferred (deferred : Option PeerDriverCommand) :
    Outgoing.AddsParcels (handleDeferred deferred) := by
  unfold handleDeferred
  split
  next encoded =>
    intro before after grows
    refine grows.frame (encodeSlicesFlat_mem_parcels [] encoded.message.parts) ?_
    rw [FrameBuffer.content_pushSharedChunks, encoded.encodes]
    rfl
  · exact addsParcels_sendCommand _
  · exact .pure ()

theorem intact_new {settings : ConnectionConfig} (plain : settings.wsRole = none)
    (env : Environment) {slot : Option PeerTransmitSlot}
    (fresh : ∀ initial ∈ slot, initial.eq.content = [] ∧ initial.wsRole = none)
    (config : PeerDriverConfig) (outbound : OutboundState) (sendPipe : Option SendPipe)
    (arenaThreshold : Nat) :
    (new config (Connection.new settings env) outbound slot sendPipe arenaThreshold).Intact
      (Connection.new settings env).pollTransmit := by
  let start := new config (Connection.new settings env) outbound slot sendPipe arenaThreshold
  have slot_empty : start.slotContent = [] := by
    cases slot with
    | none => rfl
    | some initial => exact (fresh initial rfl).1
  have sound : start.lanes.Sound parcels (Connection.new settings env).pollTransmit := by
    refine ⟨⟨[], Language.nil_mem_kstar _, (append_nil _).symm⟩, fun lane different => ?_⟩
    cases lane with
    | connection => exact absurd rfl different
    | frameBuffer => exact Language.nil_mem_kstar _
    | slot =>
      have pending_eq : start.lanes.pending .slot = [] := slot_empty
      rw [pending_eq]
      exact Language.nil_mem_kstar _
  have framing : start.connection.wsRole = none := by
    simp only [start, new, Connection.new, plain]
    rfl
  exact ⟨fun initial present => (fresh initial present).2, sound.starts, fun _ => framing,
    fun _ => ⟨rfl, sound⟩⟩

variable [CompressionPrimitives]

/-- A batch finds the buffers loaded, and fills the frame buffer only when no parcel is partly
written. -/
theorem Intact.loaded_of_sendBatch (intact : driver.Intact base) (running : driver.running)
    (messages : List Message) (deferred : Option PeerDriverCommand) (endings : List (Nat × Bool))
    (free : (if deferred.any PeerDriverCommand.isEncoded then .frameBuffer else driver.batchLane) =
      driver.lastLane ∨ driver.lanes.Whole parcels base) :
    driver.Loaded base ∧
      ((finalState ((batchEncode messages endings >>= fun _ => handleDeferred deferred)
        driver.outgoing)).eq.content = [] ∨ driver.lanes.Whole parcels base) := by
  cases framed : deferred.any PeerDriverCommand.isEncoded with
  | true =>
    have whole := intact.whole_of_frameBuffer running (by simpa [framed] using free)
    exact ⟨intact.loaded running (.inr whole), .inr whole⟩
  | false =>
    obtain ⟨loaded, kept⟩ := intact.loaded_of_batch running (by simpa [framed] using free)
    refine ⟨loaded, kept.imp (fun ⟨encrypts, inline⟩ => ?_) id⟩
    have batched : (finalState (batchEncode messages endings driver.outgoing)).eq.content = [] := by
      rw [batchEncode_of_inline inline]
      exact ((encodes_encrypting.encodeMsgs messages).finalState
        ⟨encrypts, (intact.sound running).1⟩).2
    have defers : Preserves (fun outgoing : Outgoing => outgoing.eq.content = [])
        (handleDeferred deferred) := by
      unfold handleDeferred
      split
      · simp [PeerDriverCommand.isEncoded] at framed
      · exact (leaves_onConnection _).preserves fun (eq, _) => eq.content = []
      · exact .pure ()
    exact Preserves.finalState_bind (fun _ => defers) batched

theorem Intact.sendBatch (intact : driver.Intact base) (running : driver.running)
    (messages : List Message) (deferred : Option PeerDriverCommand)
    (free : (if deferred.any PeerDriverCommand.isEncoded then .frameBuffer else driver.batchLane) =
      driver.lastLane ∨ driver.lanes.Whole parcels base) (outcomes : List Outcome)
    (endings : List (Nat × Bool)) :
    (driver.sendBatch messages deferred outcomes endings).Intact base := by
  obtain ⟨loaded, kept⟩ := intact.loaded_of_sendBatch running messages deferred endings free
  have adds := (addsParcels_batchEncode messages endings).bind fun _ =>
    addsParcels_handleDeferred deferred
  have flushed := loaded.perform_andThen running adds kept fun _ encoded _ =>
    encoded.flushAll outcomes
  refine Intact.andThen (fun _ => flushed) fun _ => ?_
  split
  · exact flushed.halt
  · exact flushed

variable {outcomes : List Outcome} {input : DriverInput} {endings : List (Nat × Bool)}
  {after : Driver}

section

variable (intact : driver.Intact base)

include intact

omit [CurvePrimitives] in
theorem Intact.offload (running : driver.running)
    (free : Lane.frameBuffer = driver.lastLane ∨ driver.lanes.Whole parcels base)
    (task : OffloadTask) (rest : List OffloadTask) (outcomes : List Outcome) :
    (({ driver with outgoing := driver.outgoing.withPipeline rest }.perform
      (drainOffloadResult task)).andThen (·.flushAll outcomes)).Intact base := by
  have whole := intact.whole_of_frameBuffer running free
  have loaded : ({ driver with outgoing := driver.outgoing.withPipeline rest } : Driver).Loaded
      base := ⟨intact.plain running, intact.slot_plain, (intact.sound running).2, .inr whole⟩
  exact loaded.perform_andThen running (addsParcels_drainOffloadResult task) (.inr whole)
    fun _ framed _ => framed.flushAll outcomes

omit [CurvePrimitives] [CompressionPrimitives] in
/-- A push which may evict leaves parcels in the slot when eviction takes out whole ones. -/
theorem Intact.slotFanOut {message : Message} (whole : driver.EvictsWhole base message)
    {slot : PeerTransmitSlot} (present : driver.slot = some slot) (isProtected : Bool) :
    ({ driver with
      slot := some (slot.tryPushFanoutDropOldest (encodeMessageFlat message) isProtected).2 } :
        Driver).Intact base := by
  have message_mem : ∀ data ∈ [[], encodeMessageFlat message], data ∈ parcels∗ := by
    simp only [mem_cons, not_mem_nil, or_false, forall_eq_or_imp, forall_eq]
    exact ⟨Language.nil_mem_kstar _, encodeSlicesFlat_mem_parcels [] message.parts⟩
  obtain ⟨role, same | ⟨data, data_mem, content⟩⟩ :=
    slot.content_tryPushFanoutDropOldest (encodeMessageFlat message) isProtected
  · exact intact.pushed present role (Language.nil_mem_kstar _) (.inl same)
  · obtain kept | ⟨chunks_mem, settled⟩ := whole slot present
    · rw [kept] at content
      exact intact.pushed present role (message_mem data data_mem) (.inr content)
    · -- the slot now holds a selection of its chunks and perhaps the new one
      have evicted := slot.chunks_evict (encodeMessageFlat message).length slot.queuedMsgs slot.eq
      have remaining := append_mem_kstar (flatten_mem_kstar fun chunk member =>
        chunks_mem chunk (evicted.subset member)) (message_mem data data_mem)
      rw [FrameBuffer.flatten_chunks, ← content] at remaining
      refine ⟨?_, intact.starts, intact.plain, fun running => ?_⟩
      · rintro other ⟨⟩
        exact role.trans (intact.slot_plain slot present)
      · obtain ⟨empty, sound⟩ := intact.sound running
        refine ⟨empty, ?_⟩
        rw [lanes_replaceSlot]
        exact sound.replace remaining fun last => settled last.symm

omit [CurvePrimitives] [CompressionPrimitives] in
theorem Intact.external (orderly : driver.Orderly base input)
    (acted : driver.external input = some after) : after.Intact base := by
  cases input with
  | enqueue command =>
    exact Option.some.inj acted ▸ ⟨intact.slot_plain, intact.starts, intact.plain, intact.sound⟩
  | pipe message | disconnectPipe | poolUsed pool =>
    obtain ⟨_, _, rfl⟩ := Option.map_eq_some_iff.mp acted
    exact ⟨intact.slot_plain, intact.starts, intact.plain, intact.sound⟩
  | slotEncode message env =>
    obtain ⟨slot, present, rfl⟩ := Option.map_eq_some_iff.mp acted
    obtain ⟨role, same | ⟨pre, content⟩⟩ :=
      PeerTransmitSlot.content_tryEncode (intact.slot_plain slot present) message env
    · exact intact.pushed present role (Language.nil_mem_kstar _) (.inl same)
    · exact intact.pushed present role (encodeSlicesFlat_mem_parcels pre message.parts)
        (.inr content)
  | slotPush message chunks =>
    obtain ⟨encodes, acted⟩ := Option.ite_none_right_eq_some.mp acted
    obtain ⟨slot, present, rfl⟩ := Option.map_eq_some_iff.mp acted
    obtain ⟨role, content⟩ := (slot.answered_tryPushEncoded chunks).content
      (slot.eq.content_pushSharedChunks chunks)
    rw [encodes] at content
    exact intact.pushed present role (encodeSlicesFlat_mem_parcels [] message.parts) content
  | slotCopy message =>
    obtain ⟨slot, present, rfl⟩ := Option.map_eq_some_iff.mp acted
    obtain ⟨role, content⟩ := (slot.answered_tryPushPreFramedNoSignal _).content
      (slot.eq.content_pushPreFramed (encodeMessageFlat message))
    exact intact.pushed present role (encodeSlicesFlat_mem_parcels [] message.parts) content
  | slotFanOut message isProtected =>
    obtain ⟨slot, present, rfl⟩ := Option.map_eq_some_iff.mp acted
    exact intact.slotFanOut (orderly.evicts message isProtected rfl) present isProtected
  | _ => simp [external] at acted

/-- An arm keeps the stream well framed when the buffer it writes is free. -/
theorem Intact.fires (writes : ∀ lane ∈ driver.nextLane input,
      lane = driver.lastLane ∨ driver.lanes.Whole parcels base)
    (fired : driver.Fires input after) : after.Intact base := by
  have running := fired.running
  have taken : ∀ inbox, { driver with inbox }.Intact base := fun _ =>
    ⟨intact.slot_plain, intact.starts, intact.plain, intact.sound⟩
  have drained : ∀ pipe, (driver.afterPipe pipe).Intact base := fun _ =>
    ⟨intact.slot_plain, intact.starts, intact.plain, intact.sound⟩
  cases fired with
  | read _ => exact intact.readArm running _ _
  | flush _ _ =>
    have loaded := intact.loaded running (writes .connection rfl)
    exact loaded.flushArm (intact.sound running).1 _
  | ignore _ _ => exact taken _
  | @batch _ _ first rest active inbox_eq =>
    let split := takeInbox driver.config.maxBatchBytes 1 first.byteLen rest
    have free := writes (if split.2.1.any PeerDriverCommand.isEncoded then .frameBuffer
      else driver.batchLane) (by
        simp only [nextLane, takesEncoded, active, inbox_eq]
        split_ifs <;> rfl)
    exact (taken split.2.2).sendBatch running _ _ free _ _
  | @encoded _ _ encoded rest active inbox_eq =>
    have free := writes .frameBuffer (by simp [nextLane, takesEncoded, active, inbox_eq])
    exact (taken rest).sendEncoded running free encoded _
  | activate _ _ => exact (taken _).activate running
  | refuse _ _ => exact (taken _).halt
  | @command _ _ command rest _ _ => exact (taken rest).sendCommand running command
  | @close _ _ rest phase inbox_eq =>
    have free := writes .connection (by
      obtain phase | phase := phase <;> simp [nextLane, takesEncoded, phase, inbox_eq])
    exact ((taken rest).loaded running free).close (intact.sound running).1 _
  | slotReady _ present => exact intact.slotArm running (writes .slot rfl) present _
  | slotRound _ present => exact intact.slotRound running (writes .slot rfl) present _ _ _
  | @pipeEmpty _ _ pipe _ present nothing =>
    split
    next gone =>
      have free := writes .connection (by simp [nextLane, present, nothing, gone])
      exact ((drained pipe).loaded running free).close (intact.sound running).1 _
    · exact drained pipe
  | @pipeBatch outcomes endings pipe _ present waiting =>
    have free := writes driver.batchLane (by simp [nextLane, present, waiting])
    have sent := (drained pipe).sendBatch running
      (splitBatch driver.config.maxBatchBytes 0 0 pipe.queue).1 none free outcomes endings
    refine Intact.andThen (fun _ => sent) fun _ => ?_
    split
    · exact sent.halt
    · exact sent
  | offload _ _ => exact intact.offload running (writes .frameBuffer rfl) _ _ _
  | heartbeat _ => exact intact.heartbeatArm running
  | stop _ =>
    refine intact_halt (fun slot present => ?_) intact.starts
    obtain ⟨before, before_present, rfl⟩ := Option.map_eq_some_iff.mp present
    exact intact.slot_plain before before_present

theorem Intact.step (orderly : driver.Orderly base input)
    (stepped : driver.step input = some after) : after.Intact base :=
  (step_cases stepped).elim (intact.external orderly) (intact.fires orderly.writes)

end

/-- In a run of orderly turns from the start of a plain connection the stream is always the greeting
followed by a front part of whole parcels. -/
theorem written_parcels_of_orderly {config : PeerDriverConfig} {settings : ConnectionConfig}
    {env : Environment} {outbound : OutboundState} {slot : Option PeerTransmitSlot}
    {sendPipe : Option SendPipe} {arenaThreshold : Nat} {final : Driver}
    (plain : settings.wsRole = none)
    (fresh : ∀ initial ∈ slot, initial.eq.content = [] ∧ initial.wsRole = none)
    (turns : Turns (Orderly (Connection.new settings env).pollTransmit)
      (new config (Connection.new settings env) outbound slot sendPipe arenaThreshold)
      final) :
    ∃ stream ∈ parcels∗, final.written <+: (Connection.new settings env).pollTransmit ++ stream :=
  (turns.invariant (fun orderly stepped intact => intact.step orderly stepped)
    (intact_new plain env fresh config outbound sendPipe arenaThreshold)).starts

/-- A turn which changes buffers finds the one written last empty. -/
def switchesEmpty (driver : Driver) (input : DriverInput) : Bool :=
  driver.running &&
    (match input with
      | .slotFanOut _ _ => false
      | _ => true) &&
    (driver.nextLane input).all fun lane =>
      lane = driver.lastLane || (driver.lanes.pending driver.lastLane).isEmpty

/-- Changing buffers only when the one written last is empty is orderly. -/
theorem turns_of_switchesEmpty {inputs : List DriverInput} {start final : Driver}
    (intact : start.Intact base) (ran : start.runChecked switchesEmpty inputs = some final) :
    Turns (Orderly base) start final := by
  induction inputs generalizing start with
  | nil => exact Option.some.inj ran ▸ .refl
  | cons input inputs induction =>
    obtain ⟨checked, ran⟩ := Option.ite_none_right_eq_some.mp ran
    obtain ⟨next, stepped, rest⟩ := Option.bind_eq_some_iff.mp ran
    simp only [switchesEmpty, Bool.and_eq_true] at checked
    obtain ⟨⟨running, not_fanOut⟩, lanes⟩ := checked
    have orderly : start.Orderly base input := by
      refine ⟨fun lane lane_eq => ?_, fun message isProtected input_eq => ?_⟩
      · have present : start.nextLane input = some lane := lane_eq
        rw [present, Option.all_some, Bool.or_eq_true, List.isEmpty_iff] at lanes
        exact lanes.imp of_decide_eq_true (intact.sound running).2.whole
      · simp [input_eq] at not_fanOut
    exact (induction (intact.step orderly stepped) rest).head ⟨input, orderly, stepped⟩

end

end

/-! ## A torn ping -/

/-- A driver of a NULL connection of two PAIR sockets without compression. -/
def nullDriver : Driver :=
  .new ⟨65536, 0, 0, false⟩ (@Connection.new .transparent (.null .client .pair) .zero)
    (.new none none 0) none none 256

/-- The turns of the handshake and the activation. -/
def nullTurns : List DriverInput :=
  [.flush [.accepts 1000], .read (Connection.nullHandshake .pair) [], .flush [.accepts 1000],
    .enqueue .activateDataPlane, .inboxReady [] []]

/-- A ping is partly written when a message is sent. -/
def tornTurns : List DriverInput :=
  [.heartbeat, .flush [.accepts 5],
    .enqueue (.sendMessage (.fromPayload (.fromBytes (ascii "hi")))),
    .inboxReady [.accepts 1000, .accepts 1000] []]

/-- A message is written inside a ping, so that the stream is no sequence of parcels. -/
theorem message_written_inside_ping :
    ∃ final : Driver,
      @Driver.run .transparent .storing (nullTurns ++ tornTurns) nullDriver = some final ∧
      ¬ ∃ stream ∈ parcels∗, final.written <+:
        (@Connection.new .transparent (.null .client .pair) .zero).pollTransmit ++ stream := by
  let ready : Bytes := [5, 82, 69, 65, 68, 89, 11, 83, 111, 99, 107, 101, 116, 45, 84, 121, 112,
    101, 0, 0, 0, 4, 80, 65, 73, 82]
  let torn : Bytes := [4, 80, 73, 0, 2, 104, 105]
  have ran : ((@Driver.run .transparent .storing (nullTurns ++ tornTurns) nullDriver).any
      fun final => final.written =
        (@Connection.new .transparent (.null .client .pair) .zero).pollTransmit ++
          4 :: 26 :: (ready ++ 4 :: 7 :: (torn ++ [78, 71, 0, 0]))) = true := by
    decide +kernel
  obtain ⟨final, finished, written⟩ := (Option.any_eq_true _ _).mp ran
  refine ⟨final, finished, ?_⟩
  rintro ⟨stream, stream_mem, starts⟩
  rw [of_decide_eq_true written] at starts
  have after_greeting := (List.prefix_append_right_inj _).mp starts
  obtain ⟨later, later_mem, after_ready⟩ :=
    later_of_parcels stream_mem (show ready.length ≤ 255 by decide) after_greeting
  obtain ⟨last, last_mem, after_torn⟩ :=
    later_of_parcels later_mem (show torn.length ≤ 255 by decide) after_ready
  exact absurd (head_le_of_parcels last_mem after_torn) (by decide)

/-- When the ping is written in one piece the message follows it. -/
theorem message_written_after_ping :
    ∃ final : Driver, final.written.length = 105 ∧ final.running = true ∧
      ∃ stream ∈ parcels∗, final.written <+:
        (@Connection.new .transparent (.null .client .pair) .zero).pollTransmit ++ stream := by
  have ran : ((@Driver.runChecked .transparent .storing switchesEmpty (nullTurns ++
      [.heartbeat, .flush [.accepts 5], .flush [.accepts 1000],
        .enqueue (.sendMessage (.fromPayload (.fromBytes (ascii "hi")))),
        .inboxReady [.accepts 1000, .accepts 1000] []]) nullDriver).any fun final =>
      final.written.length = 105 && final.running) = true := by
    decide +kernel
  obtain ⟨final, finished, facts⟩ := (Option.any_eq_true _ _).mp ran
  obtain ⟨written, running⟩ := Bool.and_eq_true_iff.mp facts
  have fresh : ∀ initial ∈ (none : Option PeerTransmitSlot),
      initial.eq.content = [] ∧ initial.wsRole = none := by
    simp
  refine ⟨final, of_decide_eq_true written, running, ?_⟩
  exact @written_parcels_of_orderly .transparent .storing _ (.null .client .pair) .zero _ none _ _
    final rfl fresh (@turns_of_switchesEmpty _ .transparent .storing _ _ _
      (@intact_new .transparent _ rfl .zero none fresh _ _ _ _) finished)

end Driver

end Omq
