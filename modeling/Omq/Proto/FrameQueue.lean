import Omq.Library.Transition
import Omq.Proto.RawFrameBuffer

/-!
# The frame buffer as a byte queue

A frame buffer together with what was pushed into it and what it handed out.  Over every sequence of
operations the bytes handed out are a front part of the bytes pushed, and the buffer counts and
holds the rest, provided that bytes are taken from the arena only while nothing else waits and that
the arena stays addressable by 32 bits.
-/

namespace Omq

open Transition List RawFrameBuffer
open FrameBuffer (headerBytes)

/-- A frame buffer with its history. -/
structure FrameQueue where
  buffer : RawFrameBuffer
  pushed : Bytes
  handed : Bytes

/-- Operations of a frame buffer. -/
inductive QueueAction
  | frame (message : Message)
  | frameInline (message : Message)
  | frameGather (message : Message)
  | frameRep (message : Message) (built : message.Built)
  | framePrefixed (pre : Bytes) (message : Message)
  | framePrefixedInline (pre : Bytes) (message : Message)
  | framePrefixedGather (pre : Bytes) (message : Message)
  | frameWs (message : Message) (role : WsRole) (env : Environment)
  | pushPreFramed (data : Bytes)
  | pushRaw (chunks : List Bytes) (isProtected : Bool)
  | pushSharedChunks (chunks : List Bytes)
  | drain (maxChunks : Nat)
  | advanceArena (count : Nat)
  | takeArenaBytes
  /-- A partial write returns drained chunks. -/
  | putBackUnwritten (returned : List Bytes) (written : Nat)

def QueueAction.pushes : QueueAction → Bytes
  | .frame message | .frameInline message | .frameGather message => encodeMessageFlat message
  | .frameRep message _ => encodeSlicesFlat [] ([] :: message.parts)
  | .framePrefixed pre message | .framePrefixedInline pre message
  | .framePrefixedGather pre message => encodeMessagePrefixedFlat pre message
  | .frameWs message role env => (FrameBuffer.encodeSlicesFlatWs role message.parts env).1
  | .pushPreFramed data => data
  | .pushRaw chunks _ | .pushSharedChunks chunks => chunks.flatten
  | .drain _ | .advanceArena _ | .takeArenaBytes | .putBackUnwritten _ _ => []

namespace FrameQueue

def new (arenaThreshold : Nat) : FrameQueue := ⟨.withConfigLazy arenaThreshold, [], []⟩

variable (queue : FrameQueue)

def push (buffer : RawFrameBuffer) (action : QueueAction) : FrameQueue :=
  { queue with buffer, pushed := queue.pushed ++ action.pushes }

def hand (buffer : RawFrameBuffer) (data : Bytes) : FrameQueue :=
  { queue with buffer, handed := queue.handed ++ data }

/-- One operation; `none` when a drain fails, or when what is put back was not handed out last. -/
def step (action : QueueAction) : Option FrameQueue :=
  match action with
  | .frame message => some (queue.push (queue.buffer.frame message) action)
  | .frameInline message => some (queue.push (queue.buffer.frameInline message) action)
  | .frameGather message => some (queue.push (queue.buffer.frameGather message) action)
  | .frameRep message _ => some (queue.push (queue.buffer.frameRep message) action)
  | .framePrefixed pre message =>
    some (queue.push (queue.buffer.framePrefixed pre message) action)
  | .framePrefixedInline pre message =>
    some (queue.push (queue.buffer.framePrefixedInline pre message) action)
  | .framePrefixedGather pre message =>
    some (queue.push (queue.buffer.framePrefixedGather pre message) action)
  | .frameWs message role env => some (queue.push (queue.buffer.frameWs message role env) action)
  | .pushPreFramed data => some (queue.push (queue.buffer.pushPreFramed data) action)
  | .pushRaw chunks isProtected =>
    some (queue.push (queue.buffer.pushRawWithProtection chunks isProtected) action)
  | .pushSharedChunks chunks => some (queue.push (queue.buffer.pushSharedChunks chunks) action)
  | .drain maxChunks =>
    (queue.buffer.drain maxChunks).map fun (chunks, _, buffer) =>
      queue.hand buffer chunks.flatten
  | .advanceArena count =>
    some (queue.hand (queue.buffer.advanceArena count) (queue.buffer.arena.take count))
  | .takeArenaBytes =>
    some (queue.hand queue.buffer.takeArenaBytes.2 queue.buffer.takeArenaBytes.1)
  | .putBackUnwritten returned written =>
    let undelivered := returned.flatten.drop written
    if undelivered <:+ queue.handed then
      some { queue with
        buffer := queue.buffer.putBackUnwritten returned written
        handed := queue.handed.take (queue.handed.length - undelivered.length) }
    else none

/-- The arena stays addressable when it grows by the given length. -/
def Addressable (growth : Nat) : Prop :=
  queue.buffer.arena.length + growth < arenaOffsetBound

/-- A range of the arena is committed only while the arena is addressable, and bytes are taken from
the arena only while no entry waits. -/
def Allowed : QueueAction → Prop
  | .frame message => queue.buffer.arenaThreshold ≤ message.byteLen →
      message.partsPayload ≠ [] → queue.Addressable (headerBytes none message.partsPayload)
  | .frameGather message =>
    message.partsPayload ≠ [] → queue.Addressable (headerBytes none message.partsPayload)
  | .frameRep message _ =>
    message.partsPayload ≠ [] → queue.Addressable (2 + headerBytes none message.partsPayload)
  | .framePrefixed pre message =>
    queue.buffer.arenaThreshold ≤ message.byteLen + pre.length * message.len →
      message.partsPayload ≠ [] → queue.Addressable (headerBytes (some pre) message.partsPayload)
  | .framePrefixedGather pre message =>
    message.partsPayload ≠ [] → queue.Addressable (headerBytes (some pre) message.partsPayload)
  | .pushRaw _ _ | .pushSharedChunks _ | .drain _ => queue.Addressable 0
  | .advanceArena _ | .takeArenaBytes => queue.buffer.entries = []
  | .frameInline _ | .framePrefixedInline _ _ | .frameWs _ _ _ | .pushPreFramed _
  | .putBackUnwritten _ _ => True

/-- What was handed out is a front part of what was pushed, the rest is counted and comes out of an
unlimited drain, and without entries nothing of the arena is marked. -/
structure Faithful (queue : FrameQueue) : Prop where
  front : queue.handed <+: queue.pushed
  counted : queue.handed.length + queue.buffer.totalBytes = queue.pushed.length
  unmarked : queue.buffer.entries = [] → queue.buffer.arenaMark = 0
  drained : ∀ maxChunks, queue.buffer.entries.length < maxChunks → queue.Addressable 0 →
    ∃ chunks count buffer, queue.buffer.drain maxChunks = some (chunks, count, buffer) ∧
      queue.handed ++ chunks.flatten = queue.pushed

/-- The buffer keeps its invariant and holds what was not handed out. -/
def Sound : Prop :=
  ∃ buffer : FrameBuffer, queue.buffer = buffer.raw ∧ buffer.Proper ∧
    queue.handed ++ buffer.content = queue.pushed

variable {queue : FrameQueue}

theorem sound_new (arenaThreshold : Nat) : (new arenaThreshold).Sound :=
  ⟨.withConfigLazy arenaThreshold, rfl, nofun, rfl⟩

variable {before after : FrameBuffer} {raw : RawFrameBuffer} {action : QueueAction} {data : Bytes}

/-- An operation which appends its bytes to the content keeps the queue sound. -/
theorem sound_push {pushed handed : Bytes} (whole : handed ++ before.content = pushed)
    (raw_eq : raw = after.raw) (proper : after.Proper)
    (content_eq : after.content = before.content ++ action.pushes) :
    (push ⟨before.raw, pushed, handed⟩ raw action).Sound := by
  refine ⟨after, raw_eq, proper, ?_⟩
  rw [content_eq, ← append_assoc]
  exact congrArg (· ++ action.pushes) whole

/-- An operation which takes its bytes off the front keeps the queue sound. -/
theorem sound_hand {pushed handed : Bytes} (whole : handed ++ before.content = pushed)
    (raw_eq : raw = after.raw) (proper : after.Proper)
    (content_eq : data ++ after.content = before.content) :
    (hand ⟨before.raw, pushed, handed⟩ raw data).Sound := by
  refine ⟨after, raw_eq, proper, ?_⟩
  simp only [hand]
  rw [append_assoc, content_eq, whole]

theorem Sound.step {after : FrameQueue} (sound : queue.Sound) (allowed : queue.Allowed action)
    (stepped : queue.step action = some after) : after.Sound := by
  obtain ⟨raw, pushed, handed⟩ := queue
  obtain ⟨buffer, raw_eq, proper, whole⟩ := sound
  dsimp only at raw_eq whole
  subst raw_eq
  cases action with
  | frame message =>
    cases stepped
    exact sound_push whole (buffer.raw_frame message allowed) (proper.frame message)
      (buffer.content_frame message)
  | frameInline message =>
    cases stepped
    exact sound_push whole (buffer.raw_frameInline message) proper (buffer.content_pushPreFramed _)
  | frameGather message =>
    cases stepped
    exact sound_push whole (buffer.raw_frameGather message allowed)
      (proper.gatherParts none message.partsPayload) (buffer.content_frameGather message)
  | frameRep message built =>
    cases stepped
    have fits (some_parts : message.partsPayload ≠ []) :
        buffer.arena.length + 2 + headerBytes none message.partsPayload < arenaOffsetBound := by
      have room : buffer.arena.length + (2 + headerBytes none message.partsPayload) <
        arenaOffsetBound := allowed some_parts
      omega
    exact sound_push whole (buffer.raw_frameRep built fits)
      ((proper.pushPreFramed _).gatherParts none message.partsPayload)
      (buffer.content_frameRep message)
  | framePrefixed pre message =>
    cases stepped
    exact sound_push whole (buffer.raw_framePrefixed pre message allowed)
      (proper.framePrefixed pre message) (buffer.content_framePrefixed pre message)
  | framePrefixedInline pre message =>
    cases stepped
    exact sound_push whole (buffer.raw_framePrefixedInline pre message) proper
      (buffer.content_pushPreFramed _)
  | framePrefixedGather pre message =>
    cases stepped
    exact sound_push whole (buffer.raw_framePrefixedGather pre message allowed)
      (proper.gatherParts (some pre) message.partsPayload)
      (buffer.content_framePrefixedGather pre message)
  | frameWs message role env =>
    cases stepped
    exact sound_push whole (buffer.raw_pushPreFramed _) proper (buffer.content_pushPreFramed _)
  | pushPreFramed data =>
    cases stepped
    exact sound_push whole (buffer.raw_pushPreFramed data) proper
      (buffer.content_pushPreFramed data)
  | pushRaw chunks isProtected =>
    cases stepped
    exact sound_push whole (buffer.raw_pushRawWithProtection chunks isProtected allowed)
      (proper.commitArenaRange.foldl isProtected chunks)
      (buffer.content_pushRawWithProtection chunks isProtected)
  | pushSharedChunks chunks =>
    cases stepped
    exact sound_push whole (buffer.raw_pushSharedChunks chunks allowed)
      (proper.commitArenaRange.foldl false chunks) (buffer.content_pushSharedChunks chunks)
  | drain maxChunks =>
    have drained := proper.raw_drain maxChunks allowed
    simp only [FrameQueue.step, drained, Option.map_some] at stepped
    cases stepped
    exact sound_hand whole rfl (FrameBuffer.Proper.dropFront buffer maxChunks)
      (buffer.drain_append maxChunks)
  | advanceArena count =>
    cases stepped
    have empty : buffer.entries = [] := allowed
    refine sound_hand whole (buffer.raw_advanceArena count empty)
      (proper.advanceArena count empty) ?_
    rw [buffer.content_advanceArena count empty, FrameBuffer.content_of_entries_nil empty]
    exact take_append_drop count buffer.arena
  | takeArenaBytes =>
    cases stepped
    have empty : buffer.entries = [] := allowed
    refine sound_hand whole (FrameBuffer.raw_clearArena empty) nofun ?_
    rw [FrameBuffer.content_of_entries_nil empty]
    exact append_nil _
  | putBackUnwritten returned written =>
    simp only [FrameQueue.step] at stepped
    split_ifs at stepped with suffix
    cases stepped
    obtain ⟨kept, rfl⟩ := suffix
    refine ⟨_, buffer.raw_putBackUnwritten returned written,
      proper.putBackUnwritten returned written, ?_⟩
    rw [FrameBuffer.content_putBackUnwritten, ← whole]
    simp

theorem Sound.faithful (sound : queue.Sound) : queue.Faithful := by
  obtain ⟨raw, pushed, handed⟩ := queue
  obtain ⟨buffer, raw_eq, proper, whole⟩ := sound
  dsimp only at raw_eq whole
  subst raw_eq
  refine ⟨⟨buffer.content, whole⟩, ?_, buffer.unmarked, ?_⟩
  · have counted : buffer.raw.totalBytes = buffer.content.length := buffer.length_content.symm
    rw [← whole, length_append, ← counted]
  · intro maxChunks enough fits
    refine ⟨_, _, _, proper.raw_drain maxChunks fits, ?_⟩
    rw [← whole, ← buffer.drain_append maxChunks]
    have taken : buffer.commitArenaRange.entries.length ≤ maxChunks :=
      le_trans buffer.length_commitArenaRange_le enough
    have rest_eq : (buffer.drain maxChunks).2.2.content = [] := by
      simp [FrameBuffer.drain, FrameBuffer.dropFront, FrameBuffer.content, drop_of_length_le taken]
    rw [rest_eq, append_nil]

/-- Whatever is done with a frame buffer, it hands out what was pushed into it, as long as ranges
are committed while the arena is addressable and the arena is taken from while no entry waits. -/
theorem faithful_of_allowed {arenaThreshold : Nat} {final : FrameQueue}
    (runs : Runs step Allowed (new arenaThreshold) final) : final.Faithful :=
  (runs.invariant (fun allowed stepped sound => Sound.step sound allowed stepped)
    (sound_new arenaThreshold)).faithful

instance (growth : Nat) : Decidable (queue.Addressable growth) :=
  inferInstanceAs (Decidable (_ < _))

instance (action : QueueAction) : Decidable (queue.Allowed action) :=
  match action with
  | .frame _ | .framePrefixed _ _ => inferInstanceAs (Decidable (_ → _ → _))
  | .frameGather _ | .frameRep _ _ | .framePrefixedGather _ _ => inferInstanceAs (Decidable (_ → _))
  | .pushRaw _ _ | .pushSharedChunks _ | .drain _ => inferInstanceAs (Decidable (_ < _))
  | .advanceArena _ | .takeArenaBytes => inferInstanceAs (Decidable (_ = _))
  | .frameInline _ | .framePrefixedInline _ _ | .frameWs _ _ _ | .pushPreFramed _
  | .putBackUnwritten _ _ => .isTrue trivial

/-- Two messages, a drain of one chunk, and a partial write. -/
theorem faithful_after_partial_write : ∃ final,
    Runs step Allowed (new 2) final ∧ final.handed = [0, 1] ∧
      final.buffer.totalBytes = 5 ∧ final.Faithful := by
  have runs : Runs step Allowed (new 2) _ :=
    .computed [.frame (.ofSingle [7]), .frame (.ofSingle [8, 9]), .drain 1,
      .putBackUnwritten [[0, 1, 7, 0, 2]] 2] (by decide +kernel)
  exact ⟨_, runs, by decide +kernel, by decide +kernel, faithful_of_allowed runs⟩

/-- An arena of exactly 2³² bytes is committed as an empty range and dropped by the next drain. -/
theorem lost_of_length_eq (long : data.length = arenaOffsetBound) :
    run step [.pushPreFramed data, .pushRaw [[1]] false, .drain 1024] (new 0) =
      some ⟨⟨[], arenaOffsetBound, [], 0, 0⟩, data ++ [1], [1]⟩ := by
  have committed : (⟨[], arenaOffsetBound, data, 0, 0⟩ : RawFrameBuffer).commitArenaRange =
      ⟨[], arenaOffsetBound, data, 0, 0⟩ := by
    simp [commitArenaRange, long]
  have raised : (⟨[.external [1] false], arenaOffsetBound + 1, data, 0, 0⟩ :
      RawFrameBuffer).commitArenaRange =
        ⟨[.external [1] false], arenaOffsetBound + 1, data, 0, 0⟩ := by
    simp [commitArenaRange, long]
  have pushed : (⟨[], arenaOffsetBound, data, 0, 0⟩ :
      RawFrameBuffer).pushRawWithProtection [[1]] false =
      ⟨[.external [1] false], arenaOffsetBound + 1, data, 0, 0⟩ := by
    simp [pushRawWithProtection, committed, pushExternal]
  have drained : (⟨[.external [1] false], arenaOffsetBound + 1, data, 0, 0⟩ :
      RawFrameBuffer).drain 1024 = some ([[1]], 0, ⟨[], arenaOffsetBound, [], 0, 0⟩) := by
    simp [drain, raised, Entry.slice?, Entry.protection]
  have framed : (withConfigLazy 0).pushPreFramed data =
      ⟨[], arenaOffsetBound, data, 0, 0⟩ := by
    simp [pushPreFramed, withConfigLazy, long]
  simp [run, step, push, hand, new, framed, pushed, drained, QueueAction.pushes]

/-- Taking the arena while a payload waits beside it loses the count of the payload, and an arena of
2³² bytes loses its bytes. -/
theorem not_faithful_outside_conditions :
    (∃ final, run step [.frameGather (.ofSingle [7]), .takeArenaBytes] (new 0) =
      some final ∧ ¬final.Faithful) ∧
    ∃ data final, run step [.pushPreFramed data, .pushRaw [[1]] false, .drain 1024]
      (new 0) = some final ∧ ¬final.Faithful := by
  constructor
  · obtain ⟨final, ran, seen⟩ := (Option.any_eq_true
      (fun final : FrameQueue => decide
        (final.handed.length + final.buffer.totalBytes ≠ final.pushed.length))
      (run step [.frameGather (.ofSingle [7]), .takeArenaBytes] (new 0))).mp (by decide +kernel)
    exact ⟨final, ran, fun faithful => of_decide_eq_true seen faithful.counted⟩
  · have long : (0 :: List.replicate (arenaOffsetBound - 1) 0 : Bytes).length =
        arenaOffsetBound := by
      rw [length_cons, length_replicate]
      rfl
    refine ⟨_, _, lost_of_length_eq long, fun faithful => ?_⟩
    have front := faithful.front
    rw [cons_append, cons_prefix_cons] at front
    exact absurd front.1 (by decide)

end FrameQueue

end Omq
