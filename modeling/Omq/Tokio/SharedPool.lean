import Omq.Tokio.Outbound

/-!
# Connections which share a compression pool

The connections of a socket take encoders from one pool and return them, in any order.  Every
connection keeps the messages it was asked to send and the wire messages they became, and a decoder
at the other end of each connection should follow.  It does as long as no LZ4 encoder is taken which
waits with the dictionary of another connection.
-/

namespace Omq

open MessageEncoder Transition List

/-- A message framed with a sentinel in front of every part. -/
def Message.behind (sentinel : Bytes) (message : Message) : Message :=
  message.partsPayload.foldl
    (fun wire part => wire.pushPartPayload (.fromBytes (sentinel ++ part.asSlice))) .empty

/-- The compressing side of one connection, with what it was asked to send. -/
structure CompressedLine where
  encoder : MessageEncoder
  passthrough : Option (Bytes × Nat)
  offloadThreshold : Nat
  /-- Submitted messages whose results are not collected yet. -/
  submitted : List Message
  offloadPipeline : List OffloadTask
  running : Bool
  sent : List Message
  /-- Wire messages in the order in which they are framed. -/
  wires : List Message

namespace CompressedLine

def new (encoder : MessageEncoder) (offloadThreshold : Nat) : CompressedLine where
  encoder := encoder
  passthrough := encoder.passthroughInfo
  offloadThreshold := offloadThreshold
  submitted := []
  offloadPipeline := []
  running := true
  sent := []
  wires := []

/-- A failed compression ends the connection; unfinished tasks are dropped. -/
def fail (line : CompressedLine) : CompressedLine :=
  { line with running := false, submitted := [], offloadPipeline := [] }

/-- A message became wire messages, or the connection ends. -/
def emit (line : CompressedLine) (message : Message) : Except Error (List Message) → CompressedLine
  | .ok wires => { line with sent := line.sent ++ [message], wires := line.wires ++ wires }
  | .error _ => line.fail

end CompressedLine

structure SharedPool (ι : Type) where
  pool : CompressionPool
  lines : ι → CompressedLine

/-- What the connections do: encode a message at once, submit one to the pipeline, end an offloaded
compression, or collect the oldest one. -/
inductive PoolAction (ι : Type)
  | encode (line : ι) (message : Message)
  | submit (line : ι) (message : Message)
  | finish (line : ι) (index : Nat) (died : Bool)
  | collect (line : ι)

namespace SharedPool

variable {ι : Type} [DecidableEq ι]

def set (shared : SharedPool ι) (index : ι) (line : CompressedLine) : SharedPool ι :=
  { shared with lines := Function.update shared.lines index line }

variable [CompressionPrimitives]

/-- One step of one connection.  A connection encodes on its own only while its pipeline is empty,
and submits to the pipeline only while offloading is safe. -/
def step (shared : SharedPool ι) : PoolAction ι → Option (SharedPool ι)
  | .encode index message =>
    let line := shared.lines index
    if line.running ∧ line.offloadPipeline = [] then
      match passesThrough line.passthrough message with
      | some sentinel => some (shared.set index (line.emit message (.ok [message.behind sentinel])))
      | none =>
        let (encoder, result) := line.encoder.encode message
        some (shared.set index ({ line with encoder }.emit message result))
    else none
  | .submit index message =>
    let line := shared.lines index
    if line.running ∧ line.encoder.canOffload ∧ 0 < line.offloadThreshold then
      let (encoder, pool, offloadPipeline) := submitToPipeline message line.encoder shared.pool
        line.offloadThreshold line.offloadPipeline
      some ({ shared with pool }.set index
        { line with encoder, offloadPipeline, submitted := line.submitted ++ [message] })
    else none
  | .finish index task died =>
    let line := shared.lines index
    some (shared.set index
      { line with
        offloadPipeline := line.offloadPipeline.modify task
          (if died then OffloadTask.abort else OffloadTask.complete) })
  | .collect index =>
    let line := shared.lines index
    match line.submitted, line.offloadPipeline with
    | message :: submitted, task :: offloadPipeline =>
      let (pool, result) := task.collect shared.pool
      some ({ shared with pool }.set index
        ({ line with submitted, offloadPipeline }.emit message result))
    | _, _ => none

def taken (shared : SharedPool ι) (index : ι) (message : Message) : Option MessageEncoder :=
  if (shared.lines index).offloadThreshold ≤ message.byteLen then
    (shared.pool.tryTake (shared.lines index).encoder).1
  else none

/-- The pool encoder which waits for the message, as its last user has returned it. -/
def waiting (shared : SharedPool ι) (index : ι) (message : Message) : Option MessageEncoder :=
  if (shared.lines index).offloadThreshold ≤ message.byteLen then
    shared.pool.waiting (shared.lines index).encoder
  else none

/-- The message is one the peer's decoder has room for, and an LZ4 encoder which waits for it in the
pool holds no dictionary or that of the connection. -/
def Matching (shared : SharedPool ι) : PoolAction ι → Prop
  | .encode index message => Admits (shared.lines index).encoder.kind message
  | .submit index message =>
    Admits (shared.lines index).encoder.kind message ∧
      ∀ waiting, shared.waiting index message = some waiting → waiting.kind = .lz4 →
        waiting.sendDict = none ∨ waiting.sendDict = (shared.lines index).encoder.sendDict
  | _ => True

/-- A socket whose connections are new: the pool is empty, and every connection has an encoder of
its own options. -/
structure Fresh (shared : SharedPool ι) : Prop where
  pool : shared.pool.encoders = []
  lines : ∀ index, ∃ options dictIdDraw kind encoder threshold,
    MessageEncoder.build options dictIdDraw kind = .ok encoder ∧
      shared.lines index = .new encoder threshold

end SharedPool

/-! ## Following the stream -/

section Following

theorem Message.parts_behind (sentinel : Bytes) (message : Message) :
    (message.behind sentinel).parts =
      (message.partsPayload.map fun part => Payload.fromBytes (sentinel ++ part.asSlice)).map
        Payload.asSlice := by
  have general : ∀ (parts : List Payload) (wire : Message),
      (parts.foldl (fun wire part =>
          wire.pushPartPayload (.fromBytes (sentinel ++ part.asSlice))) wire).parts =
        wire.parts ++ (parts.map fun part => Payload.fromBytes (sentinel ++ part.asSlice)).map
          Payload.asSlice := by
    intro parts
    induction parts with
    | nil => simp
    | cons part parts induction =>
      intro wire
      rw [foldl_cons, induction, Message.parts_pushPartPayload]
      simp
  exact general message.partsPayload .empty

variable [CompressionPrimitives] (kind : CompressionKind) (dict : Option Bytes)

/-- A decoder which holds the dictionary returns the message for the wire messages, and goes on
holding the dictionary. -/
def Follows (message : Message) (wires : List Message) : Prop :=
  ∃ plain, decodeStream MessageDecoder.decode (.having kind dict) wires =
      .ok (.having kind dict, [plain]) ∧ plain.parts = message.parts

/-- A message which bypasses the encoder is followed. -/
theorem follows_behind (message : Message) :
    Follows kind dict message [message.behind sentinelPlain] := by
  have parts_eq := message.parts_behind sentinelPlain
  have plain_parts {σ : Type} (format : PartFormat σ) (decoder : σ)
      (decodes : ∀ part, format.Decodes decoder part (plaintextPayload part.asSlice)) :
      List.Forall₂ (format.Decodes decoder) message.partsPayload
        (message.partsPayload.map fun part => .fromBytes (sentinelPlain ++ part.asSlice)) :=
    forall₂_map_right_iff.mpr (forall₂_same.mpr fun part _ => decodes part)
  cases kind with
  | lz4 =>
    obtain ⟨plain, plain_eq, same⟩ := PartFormat.decode_of_decodes parts_eq
      (plain_parts Lz4Decoder.format (.having dict) Lz4Decoder.decodes_plaintext)
    have decoded : Lz4Decoder.decode (.having dict) (message.behind sentinelPlain) =
        .ok (.having dict, some plain) := plain_eq
    exact ⟨plain, decodeStream_map MessageDecoder.lz4 (fun _ _ => rfl)
      (decodeStream_singleton decoded), same⟩
  | zstd =>
    obtain ⟨plain, plain_eq, same⟩ := PartFormat.decode_of_decodes parts_eq
      (plain_parts ZstdDecoder.format (.having dict) ZstdDecoder.decodes_plaintext)
    have decoded : ZstdDecoder.decode (.having dict) (message.behind sentinelPlain) =
        .ok (.having dict, some plain) := plain_eq
    exact ⟨plain, decodeStream_map MessageDecoder.zstd (fun _ _ => rfl)
      (decodeStream_singleton decoded), same⟩

def Reusable (encoder : MessageEncoder) : Prop := encoder.Sound ∧ encoder.Pooled

/-- A pipeline entry yields wire messages which a decoder with the dictionary follows, and a pool
encoder which can be used again. -/
def OffloadTask.Carries (message : Message) :
    OffloadTask → Prop
  | .running encoder submitted =>
    submitted = message ∧ Reusable encoder ∧ encoder.kind = kind ∧ encoder.sendDict = dict ∧
      Admits kind message
  | .finished encoder result =>
    (∀ pooled ∈ encoder, Reusable pooled) ∧
      ∀ wires, result = .ok wires → Follows kind dict message wires

namespace OffloadTask.Carries

variable {kind : CompressionKind} {dict : Option Bytes} {message : Message} {task : OffloadTask}
  (carries : task.Carries kind dict message)

include carries

theorem abort : task.abort.Carries kind dict message := by
  cases task with
  | running encoder submitted => exact ⟨by simp, by simp⟩
  | finished encoder result => exact carries

variable [LosslessCompression]

/-- Once the task has ended, its pool encoder can be used again and its result is followed. -/
theorem outcome :
    (∀ pooled ∈ task.outcome.1, Reusable pooled) ∧
      ∀ wires, task.outcome.2 = .ok wires → Follows kind dict message wires := by
  cases task with
  | running encoder submitted =>
    obtain ⟨rfl, ⟨sound, pooled⟩, rfl, rfl, admits⟩ := carries
    obtain ⟨still_pooled, same_dict⟩ := pooled.encode submitted
    refine ⟨?_, fun wires wires_eq => ?_⟩
    · rintro _ ⟨⟩
      exact ⟨sound.encode submitted, still_pooled⟩
    · have follows := sound.decodeStream_encode admits wires_eq
      rwa [pooled.shippedDict, still_pooled.shippedDict, same_dict] at follows
  | finished encoder result => exact carries

theorem complete :
    task.complete.Carries kind dict message := carries.outcome

end OffloadTask.Carries

end Following

namespace CompressedLine

variable [CompressionPrimitives]

/-- The parts of the messages a new decoder returns for the wire messages of the connection. -/
def received (line : CompressedLine) : Option (List (List Bytes)) :=
  (decodeStream MessageDecoder.decode (.having line.encoder.kind none) line.wires).toOption.map
    fun decoded => decoded.2.map Message.parts

/-- A new decoder returns the messages sent so far and then holds the dictionary. -/
def Decodes (line : CompressedLine) (dict : Option Bytes) : Prop :=
  ∃ plains, decodeStream MessageDecoder.decode (.having line.encoder.kind none) line.wires =
      .ok (.having line.encoder.kind dict, plains) ∧
    plains.map Message.parts = line.sent.map Message.parts

/-- The invariant of a connection. -/
structure Followed (line : CompressedLine) : Prop where
  sound : line.encoder.Sound
  /-- Messages which bypass the encoder are marked as plain. -/
  marked : ∀ entry ∈ line.passthrough, entry.1 = sentinelPlain
  /-- While the pipeline is in use the dictionary stays what the peer was shipped. -/
  offloads : line.offloadPipeline ≠ [] → line.running = true ∧ line.encoder.canOffload = true
  /-- The pipeline holds the submitted messages under that dictionary. -/
  carried : List.Forall₂ (OffloadTask.Carries line.encoder.kind line.encoder.sendDict)
    line.submitted line.offloadPipeline
  /-- A decoder has followed the wire messages, and holds the shipped dictionary. -/
  decoded : ∃ dict, line.Decodes dict ∧ (line.running → dict = line.encoder.shippedDict)

variable {line : CompressedLine}

theorem Followed.fail (followed : line.Followed) : line.fail.Followed where
  sound := followed.sound
  marked := followed.marked
  offloads := fun busy => absurd rfl busy
  carried := .nil
  decoded := by
    obtain ⟨dict, decodes, _⟩ := followed.decoded
    exact ⟨dict, decodes, fun running => by cases running⟩

variable {message : Message}

theorem Decodes.emit {before after : Option Bytes} (decodes : line.Decodes before)
    {wires : List Message}
    (follows : ∃ plain, decodeStream MessageDecoder.decode (.having line.encoder.kind before)
        wires = .ok (.having line.encoder.kind after, [plain]) ∧ plain.parts = message.parts) :
    (line.emit message (.ok wires)).Decodes after := by
  obtain ⟨plains, plains_eq, parts_eq⟩ := decodes
  obtain ⟨plain, plain_eq, part_eq⟩ := follows
  refine ⟨plains ++ [plain], decodeStream_append plains_eq plain_eq, ?_⟩
  simp [CompressedLine.emit, parts_eq, part_eq]

variable (followed : line.Followed)

include followed

/-- A message followed under the shipped dictionary keeps the invariant. -/
theorem Followed.emit {result : Except Error (List Message)}
    (follows : ∀ wires, result = .ok wires →
      Follows line.encoder.kind line.encoder.shippedDict message wires) (running : line.running) :
    (line.emit message result).Followed := by
  cases result with
  | error error => exact followed.fail
  | ok wires =>
    obtain ⟨dict, decodes, shipped⟩ := followed.decoded
    refine ⟨followed.sound, followed.marked, followed.offloads, followed.carried,
      line.encoder.shippedDict, ?_, fun _ => rfl⟩
    exact (shipped running ▸ decodes).emit (follows wires rfl)

/-- A submitted message joins the pipeline under the dictionary of the connection. -/
theorem Followed.submit (running : line.running) (can_offload : line.encoder.canOffload = true)
    {encoder : MessageEncoder} {task : OffloadTask} (sound : encoder.Sound)
    (same_kind : encoder.kind = line.encoder.kind) (still_offloads : encoder.canOffload = true)
    (same_dict : encoder.sendDict = line.encoder.sendDict)
    (carries : task.Carries line.encoder.kind line.encoder.sendDict message) :
    ({ line with
      encoder := encoder
      offloadPipeline := line.offloadPipeline ++ [task]
      submitted := line.submitted ++ [message] } : CompressedLine).Followed := by
  obtain ⟨dict, decodes, shipped⟩ := followed.decoded
  refine ⟨sound, followed.marked, fun _ => ⟨running, still_offloads⟩, ?_, dict, ?_, fun _ => ?_⟩
  · rw [same_kind, same_dict]
    exact rel_append followed.carried (.cons carries .nil)
  · simpa only [Decodes, same_kind] using decodes
  · rw [shipped running, shippedDict_of_canOffload can_offload,
      shippedDict_of_canOffload still_offloads, same_dict]

variable [LosslessCompression]

theorem Followed.encode (running : line.running) (idle : line.offloadPipeline = [])
    (admits : Admits line.encoder.kind message) :
    ({ line with encoder := (line.encoder.encode message).1 }.emit message
      (line.encoder.encode message).2).Followed := by
  obtain ⟨dict, decodes, shipped⟩ := followed.decoded
  have unsubmitted : line.submitted = [] :=
    length_eq_zero_iff.mp (by rw [followed.carried.length_eq, idle]; rfl)
  have parts : ({ line with encoder := (line.encoder.encode message).1 } :
      CompressedLine).Decodes dict := by
    simpa only [Decodes, kind_encode] using decodes
  cases result_eq : (line.encoder.encode message).2 with
  | error error =>
    exact ⟨followed.sound.encode message, followed.marked, fun busy => absurd rfl busy, .nil,
      dict, parts, fun running => by cases running⟩
  | ok wires =>
    refine ⟨followed.sound.encode message, followed.marked, fun busy => absurd idle busy, ?_,
      (line.encoder.encode message).1.shippedDict, parts.emit ?_, fun _ => rfl⟩
    · show List.Forall₂ _ line.submitted line.offloadPipeline
      rw [unsubmitted, idle]
      exact .nil
    · simpa only [kind_encode, shipped running] using
        followed.sound.decodeStream_encode admits result_eq

theorem Followed.finish (index : Nat) (died : Bool) :
    ({ line with
      offloadPipeline := line.offloadPipeline.modify index
        (if died then OffloadTask.abort else OffloadTask.complete) } :
          CompressedLine).Followed where
  sound := followed.sound
  marked := followed.marked
  offloads := fun busy => followed.offloads fun idle => busy (by simp [idle])
  carried := by
    refine forall₂_modify followed.carried index fun carries => ?_
    cases died with
    | true => exact carries.abort
    | false => exact carries.complete
  decoded := followed.decoded

/-- Collecting the oldest compression keeps the invariant, and its encoder can be used again. -/
theorem Followed.collect {submitted : List Message} {task : OffloadTask}
    {offloadPipeline : List OffloadTask} (submitted_eq : line.submitted = message :: submitted)
    (pipeline_eq : line.offloadPipeline = task :: offloadPipeline) :
    (∀ pooled ∈ task.outcome.1, Reusable pooled) ∧
      ({ line with submitted := submitted, offloadPipeline := offloadPipeline }.emit message
        task.outcome.2).Followed := by
  have carried := followed.carried
  obtain ⟨running, can_offload⟩ := followed.offloads (by simp [pipeline_eq])
  rw [submitted_eq, pipeline_eq] at carried
  cases carried with
  | cons first later =>
    obtain ⟨reusable, follows⟩ := first.outcome
    have rest : ({ line with submitted := submitted, offloadPipeline := offloadPipeline } :
        CompressedLine).Followed :=
      ⟨followed.sound, followed.marked, fun _ => ⟨running, can_offload⟩, later, followed.decoded⟩
    refine ⟨reusable, rest.emit (fun wires wires_eq => ?_) running⟩
    rw [shippedDict_of_canOffload can_offload]
    exact follows wires wires_eq

end CompressedLine

/-! ## The socket -/

namespace SharedPool

section Socket

variable {ι : Type} [DecidableEq ι] [CompressionPrimitives] {shared after : SharedPool ι}

/-- The invariant of the socket. -/
structure Streaming (shared : SharedPool ι) : Prop where
  pool : ∀ encoder ∈ shared.pool.encoders, Reusable encoder
  lines : ∀ index, (shared.lines index).Followed

/-- Replacing a connection by one which is followed keeps the invariant. -/
theorem Streaming.set (streaming : shared.Streaming) {pool : CompressionPool}
    (reusable : ∀ encoder ∈ pool.encoders, Reusable encoder) (index : ι) {line : CompressedLine}
    (followed : line.Followed) : ({ shared with pool := pool }.set index line).Streaming where
  pool := reusable
  lines := (Function.forall_update_iff _ fun _ line => CompressedLine.Followed line).mpr
    ⟨followed, fun other _ => streaming.lines other⟩

omit [DecidableEq ι] in
theorem Fresh.streaming (fresh : shared.Fresh) : shared.Streaming where
  pool := by simp [fresh.pool]
  lines := by
    intro index
    obtain ⟨options, dictIdDraw, kind, encoder, threshold, build_eq, line_eq⟩ := fresh.lines index
    obtain ⟨sound, _, unshipped⟩ := sound_build build_eq
    rw [line_eq]
    refine ⟨sound, ?_, fun busy => absurd rfl busy, .nil, none, ⟨[], rfl, rfl⟩, fun _ =>
      unshipped.symm⟩
    intro entry member
    cases encoder with
    | lz4 encoder =>
      obtain ⟨threshold, _, rfl⟩ := Option.map_eq_some_iff.mp member
      rfl
    | zstd encoder =>
      obtain ⟨threshold, _, rfl⟩ := Option.map_eq_some_iff.mp member
      rfl

variable [LosslessCompression] {index : ι} {message : Message}

theorem Streaming.encode (streaming : shared.Streaming)
    (matching : shared.Matching (.encode index message))
    (stepped : shared.step (.encode index message) = some after) : after.Streaming := by
  have followed := streaming.lines index
  obtain ⟨⟨running, idle⟩, stepped⟩ := Option.ite_none_right_eq_some.mp stepped
  cases through : passesThrough (shared.lines index).passthrough message with
  | some sentinel =>
    rw [through] at stepped
    obtain ⟨entry, entry_eq, rfl⟩ := Option.map_eq_some_iff.mp through
    refine Option.some.inj stepped ▸ streaming.set streaming.pool index ?_
    refine followed.emit (fun wires wires_eq => ?_) running
    rw [← Except.ok.inj wires_eq, followed.marked entry (Option.filter_eq_some_iff.mp entry_eq).1]
    exact follows_behind _ _ message
  | none =>
    rw [through] at stepped
    exact Option.some.inj stepped ▸
      streaming.set streaming.pool index (followed.encode running idle matching)

omit [DecidableEq ι] [LosslessCompression] in
/-- An encoder taken from the pool can be used by the connection and holds its dictionary; those
left there can still be used. -/
theorem Streaming.taken (streaming : shared.Streaming)
    (matching : shared.Matching (.submit index message)) {encoder : MessageEncoder}
    (taken_eq : shared.taken index message = some encoder) :
    Reusable encoder ∧ encoder.kind = (shared.lines index).encoder.kind ∧
      encoder.sendDict = (shared.lines index).encoder.sendDict ∧
      ∀ kept ∈ (shared.pool.tryTake (shared.lines index).encoder).2.encoders, Reusable kept := by
  have sound := (streaming.lines index).sound
  obtain ⟨large, taken_eq⟩ := Option.ite_none_right_eq_some.mp taken_eq
  obtain ⟨none_eq, _⟩ | ⟨new_eq, same⟩ | ⟨waiting, waiting_eq, synced_eq, subset⟩ :=
    shared.pool.tryTake_cases (shared.lines index).encoder
  · cases none_eq.symm.trans taken_eq
  · cases new_eq.symm.trans taken_eq
    refine ⟨⟨sound.newOffload, pooled_newOffload _⟩, kind_newOffload _, sendDict_newOffload _, ?_⟩
    rw [same]
    exact streaming.pool
  · cases synced_eq.symm.trans taken_eq
    obtain ⟨waiting_sound, pooled⟩ := streaming.pool waiting (mem_of_find?_eq_some waiting_eq)
    have same_kind := CompressionPool.kind_of_waiting waiting_eq
    have agrees := matching.2 waiting ((if_pos large).trans waiting_eq)
    exact ⟨⟨waiting_sound.syncDict sound pooled, pooled.syncDict _⟩,
      (kind_syncDict _ _).trans same_kind, sendDict_syncDict same_kind agrees,
      fun kept kept_mem => streaming.pool kept (subset kept kept_mem)⟩

omit [DecidableEq ι] [LosslessCompression] in
/-- A submission runs on the encoder taken, or on the connection's own when none is. -/
theorem submitToPipeline_eq (shared : SharedPool ι) (index : ι) (message : Message)
    (pipeline : List OffloadTask) :
    submitToPipeline message (shared.lines index).encoder shared.pool
        (shared.lines index).offloadThreshold pipeline =
      match shared.taken index message with
      | some encoder =>
        ((shared.lines index).encoder, (shared.pool.tryTake (shared.lines index).encoder).2,
          pipeline ++ [.running encoder message])
      | none =>
        (((shared.lines index).encoder.encode message).1, shared.pool,
          pipeline ++ [.finished none ((shared.lines index).encoder.encode message).2]) := by
  unfold submitToPipeline SharedPool.taken
  by_cases large : (shared.lines index).offloadThreshold ≤ message.byteLen
  · rw [if_pos large, if_pos large]
    cases take_eq : shared.pool.tryTake (shared.lines index).encoder with
    | mk taken left =>
      cases taken with
      | some encoder => rfl
      | none =>
        have same := shared.pool.tryTake_of_none (congrArg Prod.fst take_eq)
        rw [take_eq] at same
        rw [← same]
  · rw [if_neg large, if_neg large]

theorem Streaming.submit (streaming : shared.Streaming)
    (matching : shared.Matching (.submit index message))
    (stepped : shared.step (.submit index message) = some after) : after.Streaming := by
  have followed := streaming.lines index
  unfold SharedPool.step at stepped
  dsimp only at stepped
  rw [submitToPipeline_eq] at stepped
  obtain ⟨⟨running, can_offload, _⟩, stepped⟩ := Option.ite_none_right_eq_some.mp stepped
  have admits := matching.1
  cases taken_eq : shared.taken index message with
  | some encoder =>
    rw [taken_eq] at stepped
    obtain ⟨reusable, same_kind, same_dict, kept⟩ := streaming.taken matching taken_eq
    exact Option.some.inj stepped ▸ streaming.set kept index
      (followed.submit running can_offload followed.sound rfl can_offload rfl
        ⟨rfl, reusable, same_kind, same_dict, admits⟩)
  | none =>
    rw [taken_eq] at stepped
    obtain ⟨still_offloads, same⟩ := encode_of_canOffload can_offload message
    refine Option.some.inj stepped ▸ streaming.set streaming.pool index
      (followed.submit running can_offload (followed.sound.encode message) (kind_encode _ _)
        still_offloads same ⟨by simp, fun wires wires_eq => ?_⟩)
    have follows := followed.sound.decodeStream_encode admits wires_eq
    rwa [shippedDict_of_canOffload can_offload, shippedDict_of_canOffload still_offloads, same]
      at follows

theorem Streaming.collect (streaming : shared.Streaming)
    (stepped : shared.step (.collect index) = some after) : after.Streaming := by
  have followed := streaming.lines index
  unfold step at stepped
  dsimp only at stepped
  split at stepped
  next message submitted task offloadPipeline submitted_eq pipeline_eq =>
    obtain ⟨reusable, followed⟩ := followed.collect submitted_eq pipeline_eq
    refine Option.some.inj stepped ▸ streaming.set ?_ index followed
    show ∀ encoder ∈ (task.outcome.1.elim shared.pool shared.pool.put).encoders, Reusable encoder
    cases returned : task.outcome.1 with
    | none => exact streaming.pool
    | some pooled =>
      exact forall_mem_append.mpr
        ⟨streaming.pool, forall_mem_singleton.mpr (reusable pooled returned)⟩
  · cases stepped

theorem Streaming.step (streaming : shared.Streaming) {action : PoolAction ι}
    (matching : shared.Matching action) (stepped : shared.step action = some after) :
    after.Streaming := by
  cases action with
  | encode index message => exact streaming.encode matching stepped
  | submit index message => exact streaming.submit matching stepped
  | finish index task died =>
    exact Option.some.inj stepped ▸ streaming.set streaming.pool index
      ((streaming.lines index).finish task died)
  | collect index => exact streaming.collect stepped

/-- In every run in which no LZ4 encoder is taken which waits with a foreign dictionary, every
compression under way runs under the dictionary its connection has shipped, and a new decoder fed
the wire messages of a connection returns the messages sent on it. -/
theorem streams_decode_of_matching {start final : SharedPool ι} (fresh : start.Fresh)
    (runs : Runs SharedPool.step Matching start final) (index : ι) :
    (∀ encoder message, .running encoder message ∈ (final.lines index).offloadPipeline →
        encoder.sendDict = (final.lines index).encoder.shippedDict) ∧
      (final.lines index).received = some ((final.lines index).sent.map Message.parts) := by
  have streaming : final.Streaming :=
    runs.invariant (fun matching stepped streaming => streaming.step matching stepped)
      fresh.streaming
  have followed := streaming.lines index
  refine ⟨fun encoder message running => ?_, ?_⟩
  · have can_offload := (followed.offloads (ne_nil_of_mem running)).2
    obtain ⟨submitted, _, carries⟩ := exists_of_forall₂_of_mem followed.carried running
    rw [shippedDict_of_canOffload can_offload]
    exact carries.2.2.2.1
  · obtain ⟨dict, ⟨plains, plains_eq, parts_eq⟩, _⟩ := followed.decoded
    rw [CompressedLine.received, plains_eq]
    exact congrArg some parts_eq

end Socket

/-! ## A borrowed dictionary -/

def twoLines (encoder : Lz4Encoder) : SharedPool Bool := ⟨.new 1, fun _ => .new (.lz4 encoder) 1⟩

def uniform (byte : UInt8) (size : Nat) : Message :=
  .fromPayload (.fromBytes (List.replicate size byte))

/-- A message of each connection is offloaded, one after the other. -/
def offloadBoth : List (PoolAction Bool) :=
  [.submit false (uniform 97 64), .collect false, .submit true (uniform 97 64), .collect true]

/-- Both connections train a dictionary, each on its own messages, before they offload. -/
def trainApart : List (PoolAction Bool) :=
  List.replicate 100 (.encode false (uniform 97 4)) ++
    List.replicate 100 (.encode true (uniform 98 4)) ++ offloadBoth

/-- A message compressed under the dictionary of another connection is decoded to something
else. -/
theorem borrowed_dictionary_garbles :
    @LosslessCompression .storing ∧ @Fresh Bool .storing (twoLines Lz4Encoder.new.withAutoTrain) ∧
      ∃ final, Transition.Reaches (@step Bool _ .storing) (twoLines Lz4Encoder.new.withAutoTrain)
          final ∧
        @CompressedLine.received .storing (final.lines true) ≠
          some ((final.lines true).sent.map Message.parts) := by
  refine ⟨.storing, @Fresh.mk _ .storing _ rfl fun _ => ?_,
    Transition.exists_reaches trainApart (by decide +kernel)⟩
  exact ⟨⟨none, true, none, none, none⟩, 0, .lz4, _, 1, rfl, rfl⟩

/-- The dictionary both connections are configured with. -/
def commonDict : Bytes := List.replicate 64 97

def commonEncoder : Lz4Encoder :=
  { Lz4Encoder.new with sendDict := some commonDict, compressor := some commonDict, seeded := rfl }

/-- With a common dictionary both messages arrive. -/
theorem common_dictionary_decodes :
    ∃ final : SharedPool Bool,
      Transition.Reaches (@step Bool _ .storing) (twoLines commonEncoder) final ∧
        (final.lines true).sent = [uniform 98 4, uniform 97 64] ∧
        @CompressedLine.received .storing (final.lines true) =
          some ((final.lines true).sent.map Message.parts) := by
  let check (shared : SharedPool Bool) : PoolAction Bool → Bool
    | .encode index message =>
      (shared.lines index).encoder.kind = .lz4 && decide message.Allocatable
    | .submit index message =>
      (shared.lines index).encoder.kind = .lz4 && decide message.Allocatable &&
        (shared.waiting index message).all fun waiting =>
          waiting.sendDict = (shared.lines index).encoder.sendDict
    | _ => true
  have ran : ((Transition.runChecked (@step Bool _ .storing) check
      ([.encode false (uniform 98 4), .encode true (uniform 98 4)] ++ offloadBoth)
      (twoLines commonEncoder)).any fun final =>
        (final.lines true).sent = [uniform 98 4, uniform 97 64]) = true := by
    decide +kernel
  obtain ⟨final, reached, sent⟩ := (Option.any_eq_true _ _).mp ran
  have matching : ∀ shared action, check shared action = true → Matching shared action := by
    intro shared action checked
    cases action with
    | encode index message =>
      simp only [check, Bool.and_eq_true, decide_eq_true_eq] at checked
      exact ⟨checked.2, by simp [checked.1]⟩
    | submit index message =>
      simp only [check, Bool.and_eq_true, decide_eq_true_eq, Option.all_eq_true] at checked
      exact ⟨⟨checked.1.2, by simp [checked.1.1]⟩, fun waiting waiting_eq _ =>
        .inr (checked.2 waiting waiting_eq)⟩
    | finish index task died => trivial
    | collect index => trivial
  have fresh : @Fresh Bool .storing (twoLines commonEncoder) := @Fresh.mk _ .storing _ rfl fun _ =>
    ⟨⟨some commonDict, false, none, none, none⟩, 0, .lz4, _, 1, rfl, rfl⟩
  have runs := Transition.Runs.of_runChecked matching reached
  exact ⟨final, runs.reaches, of_decide_eq_true sent,
    (@streams_decode_of_matching Bool _ .storing .storing _ _ fresh runs true).2⟩

end SharedPool

end Omq
