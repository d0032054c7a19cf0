import Omq.Library.Transition
import Omq.Proto.Frame

/-!
# The outbound queue of a connection

Chunks waiting to be written, with the part of the first chunk which a partial write already took
and the cached total.  The queue stands for the byte string `pollTransmit`; queueing appends to it
and acknowledging a write drops from it.
-/

namespace Omq

open List

structure TransmitQueue where
  outChunks : List Bytes
  /-- Bytes of the first chunk already written. -/
  frontConsumed : Nat
  /-- Cached sum of the chunk lengths. -/
  outBytesTotal : Nat
  /-- Only bytes of the first chunk count as consumed. -/
  within : frontConsumed ≤ (outChunks.headD []).length
  total_eq : outBytesTotal = (outChunks.map List.length).sum

namespace TransmitQueue

theorem within_nil : 0 ≤ (([] : List Bytes).headD []).length := Nat.le_refl 0

def new : TransmitQueue := ⟨[], 0, 0, within_nil, rfl⟩

/-- The first chunk of a longer queue is no shorter. -/
theorem headD_append_length (chunks more : List Bytes) :
    (chunks.headD []).length ≤ ((chunks ++ more).headD []).length := by
  cases chunks <;> simp

variable (queue : TransmitQueue)

def extend (chunks : List Bytes) : TransmitQueue where
  outChunks := queue.outChunks ++ chunks
  frontConsumed := queue.frontConsumed
  outBytesTotal := queue.outBytesTotal + (chunks.map List.length).sum
  within := queue.within.trans (headD_append_length _ _)
  total_eq := by rw [queue.total_eq, map_append, sum_append]

def pollTransmit : Bytes :=
  match queue.outChunks with
  | [] => []
  | front :: rest => front.drop queue.frontConsumed ++ rest.flatten

theorem pollTransmit_eq :
    queue.pollTransmit = queue.outChunks.flatten.drop queue.frontConsumed := by
  have within := queue.within
  unfold pollTransmit
  split
  next empty => simp [empty]
  next front rest chunks_eq =>
    have front_within : queue.frontConsumed ≤ front.length := by simpa [chunks_eq] using within
    rw [chunks_eq, flatten_cons, drop_append_of_le_length front_within]

@[simp]
theorem pollTransmit_new : new.pollTransmit = [] := rfl

@[simp]
theorem pollTransmit_extend (chunks : List Bytes) :
    (queue.extend chunks).pollTransmit = queue.pollTransmit ++ chunks.flatten := by
  have within : queue.frontConsumed ≤ queue.outChunks.flatten.length := by
    refine queue.within.trans ?_
    cases queue.outChunks <;> simp
  rw [pollTransmit_eq, pollTransmit_eq, extend, flatten_append, drop_append_of_le_length within]

def pendingTransmitSize : Nat := queue.outBytesTotal - queue.frontConsumed

theorem length_pollTransmit : queue.pollTransmit.length = queue.pendingTransmitSize := by
  rw [pollTransmit_eq, length_drop, length_flatten, pendingTransmitSize, queue.total_eq]

def hasPendingTransmit : Bool := queue.frontConsumed < queue.outBytesTotal

def pendingChunks : List Bytes :=
  match queue.outChunks with
  | [] => []
  | front :: rest => front.drop queue.frontConsumed :: rest

/-- At most `max` nonempty chunks for one gather-write. -/
def transmitChunksCapped (max : Nat) : List Bytes :=
  (queue.pendingChunks.filter fun chunk => !chunk.isEmpty).take max

theorem flatten_pendingChunks :
    (queue.pendingChunks.filter fun chunk => !chunk.isEmpty).flatten = queue.pollTransmit := by
  rw [flatten_filter_not_isEmpty]
  unfold pendingChunks pollTransmit
  split <;> rfl

/-- One gather-write offers the front of the pending bytes. -/
theorem transmitChunksCapped_prefix (max : Nat) :
    (queue.transmitChunksCapped max).flatten <+: queue.pollTransmit := by
  rw [← queue.flatten_pendingChunks, transmitChunksCapped]
  exact ⟨_, by rw [← flatten_append, take_append_drop]⟩

/-- There is something to offer exactly when bytes wait. -/
theorem transmitChunksCapped_eq_nil_iff {max : Nat} (max_pos : 0 < max) :
    queue.transmitChunksCapped max = [] ↔ queue.hasPendingTransmit = false := by
  have pending_iff : queue.hasPendingTransmit = false ↔ queue.pollTransmit = [] := by
    rw [← length_eq_zero_iff, length_pollTransmit, pendingTransmitSize, hasPendingTransmit,
      decide_eq_false_iff_not]
    omega
  rw [pending_iff, ← queue.flatten_pendingChunks, transmitChunksCapped, take_eq_nil_iff]
  constructor
  · rintro (zero | empty)
    · omega
    · rw [empty]
      rfl
  · intro flat_empty
    refine .inr (filter_eq_nil_iff.mpr fun chunk member => ?_)
    intro nonempty
    have kept : chunk ∈ queue.pendingChunks.filter fun chunk => !chunk.isEmpty :=
      mem_filter.mpr ⟨member, nonempty⟩
    have chunk_empty := flatten_eq_nil_iff.mp flat_empty chunk kept
    simp [chunk_empty] at nonempty

/-- Drop acknowledged chunks, then note what is left of the count on the first one. -/
def advanceLoop : (outChunks : List Bytes) → (frontConsumed outBytesTotal count : Nat) →
    frontConsumed ≤ (outChunks.headD []).length →
    outBytesTotal = (outChunks.map List.length).sum → TransmitQueue
  | [], frontConsumed, outBytesTotal, _, within, total_eq =>
    ⟨[], frontConsumed, outBytesTotal, within, total_eq⟩
  | front :: rest, frontConsumed, outBytesTotal, count, within, total_eq =>
    if count = 0 then ⟨front :: rest, frontConsumed, outBytesTotal, within, total_eq⟩
    else if partly : count < front.length - frontConsumed then
      ⟨front :: rest, frontConsumed + count, outBytesTotal, by simp; omega, total_eq⟩
    else
      advanceLoop rest 0 (outBytesTotal - front.length)
        (count - (front.length - frontConsumed)) (Nat.zero_le _) (by simp [total_eq])

/-- Acknowledge that `count` bytes were written. -/
def advanceTransmit (count : Nat) : TransmitQueue :=
  advanceLoop queue.outChunks queue.frontConsumed queue.outBytesTotal count queue.within
    queue.total_eq

theorem pollTransmit_advanceLoop (outChunks : List Bytes) (frontConsumed outBytesTotal count : Nat)
    (within : frontConsumed ≤ (outChunks.headD []).length)
    (total_eq : outBytesTotal = (outChunks.map List.length).sum) :
    (advanceLoop outChunks frontConsumed outBytesTotal count within total_eq).pollTransmit =
      (outChunks.flatten.drop frontConsumed).drop count := by
  induction outChunks generalizing frontConsumed outBytesTotal count with
  | nil => simp [advanceLoop, pollTransmit]
  | cons front rest ih =>
    have front_within : frontConsumed ≤ front.length := within
    rw [advanceLoop]
    split_ifs with zero partly
    · rw [pollTransmit_eq, zero, drop_zero]
    · rw [pollTransmit_eq, drop_drop]
    · have covered : (front.drop frontConsumed).drop count = [] := by
        rw [drop_eq_nil_iff, length_drop]
        omega
      rw [ih, flatten_cons, drop_append_of_le_length front_within, drop_append,
        covered, nil_append, length_drop, drop_zero]

@[simp]
theorem pollTransmit_advanceTransmit (count : Nat) :
    (queue.advanceTransmit count).pollTransmit = queue.pollTransmit.drop count := by
  rw [advanceTransmit, pollTransmit_advanceLoop, ← pollTransmit_eq]

def cloneTransmitChunks : List Bytes :=
  queue.pendingChunks.filter fun chunk => !chunk.isEmpty

theorem total_encodeFrameInto (frame : Frame) :
    ((encodeFrameInto frame).map List.length).sum =
      headerLenFor frame.payload.len + frame.payload.len := by
  unfold encodeFrameInto
  split
  next empty => simp [length_frameHeader, ← Payload.length_asSlice, empty]
  · simp [length_frameHeader]

/-- Queue a ZMTP frame; the total grows by the computed length of the frame. -/
def emitFrame (frame : Frame) : TransmitQueue :=
  { queue.extend (encodeFrameInto frame) with
    outBytesTotal := queue.outBytesTotal + (headerLenFor frame.payload.len + frame.payload.len)
    total_eq := by rw [← total_encodeFrameInto]; exact (queue.extend _).total_eq }

/-- The computed length is that of the queued chunks. -/
theorem emitFrame_eq (frame : Frame) :
    queue.emitFrame frame = queue.extend (encodeFrameInto frame) := by
  simp [emitFrame, extend, total_encodeFrameInto]

inductive Operation where
  | emitFrame (frame : Frame)
  /-- A greeting, or a chunk of a WebSocket frame. -/
  | pushBack (chunk : Bytes)
  | advanceTransmit (count : Nat)

/-- The queue, with everything ever queued and the number of bytes acknowledged. -/
structure Account where
  queue : TransmitQueue
  queued : Bytes
  acknowledged : Nat

namespace Account

def start : Account := ⟨new, [], 0⟩

variable (account : Account)

def step : Operation → Option Account
  | .emitFrame frame =>
    some ⟨account.queue.emitFrame frame, account.queued ++ encodeFrame frame, account.acknowledged⟩
  | .pushBack chunk =>
    some ⟨account.queue.extend [chunk], account.queued ++ chunk, account.acknowledged⟩
  | .advanceTransmit count =>
    -- The source asserts that no more is acknowledged than is pending.
    if account.queue.pendingTransmitSize < count then none
    else some ⟨account.queue.advanceTransmit count, account.queued, account.acknowledged + count⟩

/-- Bytes queued and not yet acknowledged. -/
def left : Bytes := account.queued.drop account.acknowledged

/-- The queue stands for the bytes which are left. -/
def Sound : Prop :=
  account.acknowledged ≤ account.queued.length ∧ account.queue.pollTransmit = account.left

theorem Sound.step {before after : Account} {operation : Operation}
    (stepped : before.step operation = some after) (sound : before.Sound) : after.Sound := by
  obtain ⟨within, offered⟩ := sound
  have grows (more : Bytes) : (before.queued ++ more).drop before.acknowledged =
      before.queue.pollTransmit ++ more := by
    rw [offered, left, drop_append_of_le_length within]
  cases operation with
  | emitFrame frame =>
    cases stepped
    refine ⟨by simp; omega, ?_⟩
    rw [emitFrame_eq, pollTransmit_extend]
    exact (grows _).symm
  | pushBack chunk =>
    cases stepped
    refine ⟨by simp; omega, ?_⟩
    rw [pollTransmit_extend, flatten_singleton]
    exact (grows _).symm
  | advanceTransmit count =>
    obtain ⟨pending, after_eq⟩ := Option.ite_none_left_eq_some.mp stepped
    cases after_eq
    rw [← length_pollTransmit, offered, left, length_drop] at pending
    refine ⟨by simp; omega, ?_⟩
    rw [pollTransmit_advanceTransmit, offered, left, left, drop_drop]

/-- All views offer the bytes which are left, a capped one the front of them. -/
theorem offers_left {account : Account} (reached : Transition.Reaches step start account) :
    account.acknowledged ≤ account.queued.length ∧
      account.queue.pollTransmit = account.left ∧
      account.queue.cloneTransmitChunks.flatten = account.left ∧
      (∀ max, (account.queue.transmitChunksCapped max).flatten <+: account.left) ∧
      account.queue.outBytesTotal - account.queue.frontConsumed = account.left.length ∧
      ∀ count after, account.step (.advanceTransmit count) = some after →
        count ≤ account.left.length ∧ after.left = account.left.drop count ∧
          after.queue.pollTransmit = after.left := by
  have sound := reached.invariant (fun _ => Sound.step) ⟨Nat.le_refl 0, rfl⟩
  have ⟨within, offered⟩ := sound
  refine ⟨within, offered, offered ▸ flatten_pendingChunks _,
    fun max => offered ▸ transmitChunksCapped_prefix _ max, ?_, ?_⟩
  · rw [← offered, length_pollTransmit]
    rfl
  · intro count after stepped
    have after_sound := Sound.step stepped sound
    obtain ⟨pending, after_eq⟩ := Option.ite_none_left_eq_some.mp stepped
    cases after_eq
    rw [← length_pollTransmit, offered] at pending
    exact ⟨Nat.not_lt.mp pending, by simp [left], after_sound.2⟩

theorem total_counts_written :
    ∃ account, Transition.Reaches step start account ∧
      account.queue.outBytesTotal ≠ account.left.length :=
  Transition.exists_reaches [.pushBack [1, 2], .advanceTransmit 1] (by decide)

theorem rest_offered :
    ∃ account, Transition.Reaches step start account ∧ account.queue.pollTransmit = [2] := by
  obtain ⟨account, reached, left_eq⟩ :
      ∃ account, Transition.Reaches step start account ∧ account.left = [2] :=
    Transition.exists_reaches [.pushBack [1, 2], .advanceTransmit 1] (by decide)
  exact ⟨account, reached, (offers_left reached).2.1.trans left_eq⟩

end Account

end TransmitQueue

end Omq
