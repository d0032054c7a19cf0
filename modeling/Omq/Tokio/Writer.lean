import Omq.Library.PartialWrite
import Omq.Proto.FrameBuffer
import Omq.Proto.TransmitQueue

/-!
# Writing buffers to the stream

The driver owns the writing half of the stream and writes three kinds of buffers to it: its local
frame buffer, chunks taken out of the transmit slot, and the outbound queue of the connection.
-/

namespace Omq

open PartialWrite List

/-- Number of frame-buffer chunks in one gather-write. -/
def maxDrainChunks : Nat := 1024

def maxTransmitChunks : Nat := 128

namespace FrameBuffer

abbrev ArenaOnly := { buffer : FrameBuffer // buffer.entries = [] }

def ArenaOnly.advance (buffer : ArenaOnly) (count : Nat) : ArenaOnly :=
  ⟨buffer.val.advanceArena count buffer.property, by
    unfold advanceArena
    split
    · rfl
    · exact buffer.property⟩

def arenaSource : Source ArenaOnly UInt8 where
  content := fun buffer => buffer.val.content
  idle := fun buffer => buffer.val.arena.isEmpty
  offer := fun buffer => buffer.val.arena
  advance := ArenaOnly.advance
  abandon := id
  offer_prefix := fun buffer => by
    rw [content_of_entries_nil buffer.property]
  content_of_idle := fun buffer idle => by
    rw [content_of_entries_nil buffer.property]
    exact isEmpty_iff.mp idle
  abandon_ends := fun _ => suffix_rfl
  content_advance := fun buffer count _ => content_advanceArena buffer.val count buffer.property

variable (buffer : FrameBuffer)

/-- The buffer after a write of drained chunks: a partial write puts the rest back. -/
def advanceDrained (count : Nat) : FrameBuffer :=
  let (chunks, _, rest) := buffer.drain maxDrainChunks
  if count < chunks.flatten.length then rest.putBackUnwritten chunks count else rest

theorem content_advanceDrained (count : Nat)
    (within : count ≤ (buffer.drain maxDrainChunks).1.flatten.length) :
    (buffer.advanceDrained count).content = buffer.content.drop count := by
  rw [← buffer.drain_append maxDrainChunks, drop_append_of_le_length within]
  unfold advanceDrained
  dsimp only
  split
  · exact content_putBackUnwritten _ _ _
  next whole => rw [drop_eq_nil_of_le (not_lt.mp whole), nil_append]

/-- Chunks are drained for each write; chunks of a write which is given up are lost. -/
def drainSource : Source FrameBuffer UInt8 where
  content := content
  idle := fun buffer => (buffer.drain maxDrainChunks).1.isEmpty
  offer := fun buffer => (buffer.drain maxDrainChunks).1.flatten
  advance := advanceDrained
  abandon := fun buffer => (buffer.drain maxDrainChunks).2.2
  offer_prefix := fun buffer => ⟨_, buffer.drain_append maxDrainChunks⟩
  content_of_idle := fun buffer idle => by
    have no_chunks : (buffer.commitArenaRange.entries.take maxDrainChunks).map
        (Entry.resolve buffer.commitArenaRange.arena) = [] := isEmpty_iff.mp idle
    have no_entries : buffer.commitArenaRange.entries = [] := by
      simpa [maxDrainChunks] using no_chunks
    have whole_arena := buffer.commitArenaRange.unmarked no_entries
    rw [← buffer.content_commitArenaRange, content_of_entries_nil no_entries]
    exact length_eq_zero_iff.mp (buffer.arenaMark_commitArenaRange.symm.trans whole_arena)
  abandon_ends := fun buffer => ⟨_, buffer.drain_append maxDrainChunks⟩
  content_advance := content_advanceDrained

def flushFrameBuffer (outcomes : List Outcome) : Flushed FrameBuffer UInt8 :=
  if arena_only : buffer.hasArenaOnly then
    (arenaSource.flush outcomes ⟨buffer, by
      simp only [hasArenaOnly, Bool.and_eq_true, List.isEmpty_iff] at arena_only
      exact arena_only.1⟩).map Subtype.val
  else drainSource.flush outcomes buffer

theorem flushFrameBuffer_accounts (outcomes : List Outcome) :
    drainSource.Accounts buffer (buffer.flushFrameBuffer outcomes) := by
  unfold flushFrameBuffer
  split
  · exact ⟨(arenaSource.flush_accounts outcomes _).written_starts,
      (arenaSource.flush_accounts outcomes _).waiting_ends,
      fun _ => (arenaSource.flush_accounts outcomes _).written_append (.inr fun _ => rfl)⟩
  · exact drainSource.flush_accounts outcomes buffer

theorem flushFrameBuffer_done {buffer : FrameBuffer} {outcomes : List Outcome}
    (done : (buffer.flushFrameBuffer outcomes).status = .done) :
    (buffer.flushFrameBuffer outcomes).written = buffer.content ∧
      (buffer.flushFrameBuffer outcomes).state.content = [] := by
  unfold flushFrameBuffer at done ⊢
  split at done
  next arena_only =>
    rw [dif_pos arena_only]
    exact ⟨arenaSource.written_of_flush_done done, arenaSource.content_of_flush_done done⟩
  next gather =>
    rw [dif_neg gather]
    exact ⟨drainSource.written_of_flush_done done, drainSource.content_of_flush_done done⟩

theorem flushFrameBuffer_of_empty {buffer : FrameBuffer} (empty : buffer.content = [])
    (outcomes : List Outcome) :
    (buffer.flushFrameBuffer outcomes).written = [] ∧
      (buffer.flushFrameBuffer outcomes).state.content = [] := by
  have accounts := buffer.flushFrameBuffer_accounts outcomes
  have written_starts := accounts.written_starts
  have waiting_ends := accounts.waiting_ends
  change _ <+: buffer.content at written_starts
  change _ <:+ buffer.content at waiting_ends
  rw [empty] at written_starts waiting_ends
  exact ⟨prefix_nil.mp written_starts, suffix_nil.mp waiting_ends⟩

end FrameBuffer

namespace TransmitQueue

variable (queue : TransmitQueue)

/-- Nothing waits in a queue which has no chunk to offer. -/
theorem pollTransmit_of_idle (idle : (queue.transmitChunksCapped maxTransmitChunks).isEmpty) :
    queue.pollTransmit = [] := by
  have positive : 0 < maxTransmitChunks := by decide
  have pending := (queue.transmitChunksCapped_eq_nil_iff positive).mp (isEmpty_iff.mp idle)
  rw [← length_eq_zero_iff, length_pollTransmit, pendingTransmitSize]
  simp only [hasPendingTransmit, decide_eq_false_iff_not] at pending
  omega

/-- The outbound queue of a connection. -/
def source : Source TransmitQueue UInt8 where
  content := pollTransmit
  idle := fun queue => (queue.transmitChunksCapped maxTransmitChunks).isEmpty
  offer := fun queue => (queue.transmitChunksCapped maxTransmitChunks).flatten
  advance := advanceTransmit
  abandon := id
  offer_prefix := fun queue => queue.transmitChunksCapped_prefix _
  content_of_idle := pollTransmit_of_idle
  abandon_ends := fun _ => suffix_rfl
  content_advance := fun queue count _ => queue.pollTransmit_advanceTransmit count

variable (outcomes : List Outcome)

def flushOnce : Flushed TransmitQueue UInt8 :=
  source.writeOnce queue outcomes

theorem flushOnce_append :
    (queue.flushOnce outcomes).written ++ (queue.flushOnce outcomes).state.pollTransmit =
      queue.pollTransmit :=
  (source.writeOnce_accounts queue outcomes).written_append (.inr fun _ => rfl)

def drainWrites : Flushed TransmitQueue UInt8 :=
  source.flush outcomes queue

theorem drainWrites_append :
    (queue.drainWrites outcomes).written ++ (queue.drainWrites outcomes).state.pollTransmit =
      queue.pollTransmit :=
  (source.flush_accounts outcomes queue).written_append (.inr fun _ => rfl)

end TransmitQueue

def skipChunks : List Bytes → Nat → List Bytes
  | [], _ => []
  | chunk :: rest, skip =>
    if chunk.length ≤ skip then skipChunks rest (skip - chunk.length)
    else chunk.drop skip :: rest

theorem flatten_skipChunks (chunks : List Bytes) (skip : Nat) :
    (skipChunks chunks skip).flatten = chunks.flatten.drop skip := by
  induction chunks generalizing skip with
  | nil => simp [skipChunks]
  | cons chunk rest induction =>
    rw [skipChunks]
    split
    next whole =>
      rw [induction, flatten_cons, drop_append, drop_eq_nil_of_le whole, nil_append]
    next inside =>
      rw [flatten_cons, flatten_cons, drop_append_of_le_length (Nat.le_of_not_le inside)]

/-- Chunks held by the driver. -/
def chunksSource : Source (List Bytes) UInt8 where
  content := List.flatten
  idle := fun chunks => chunks.flatten.isEmpty
  offer := List.flatten
  advance := skipChunks
  abandon := id
  offer_prefix := fun _ => prefix_rfl
  content_of_idle := fun _ idle => isEmpty_iff.mp idle
  abandon_ends := fun _ => suffix_rfl
  content_advance := fun chunks count _ => flatten_skipChunks chunks count

def writeChunks (chunks : List Bytes) (outcomes : List Outcome) : Flushed (List Bytes) UInt8 :=
  chunksSource.flush outcomes chunks

end Omq
