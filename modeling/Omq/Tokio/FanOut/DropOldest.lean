import Omq.Tokio.TransmitSlot

/-!
# Dropping the oldest frames

A fan-out push into a slot of a drop-oldest socket evicts frames until its own fits.  Whatever is
pushed and drained, whole frames leave the slot in order, and a protected frame is never lost.  A
push which fails has evicted every frame which is not protected.
-/

namespace Omq.PeerTransmitSlot

open List

/-- What a push does to the queue: it adds its frame behind what eviction left, it fails, or the
slot is dead. -/
theorem frames_tryPushFanoutDropOldest (slot : PeerTransmitSlot) (chunk : Bytes)
    (isProtected : Bool) :
    (∃ left after, slot.tryPushFanoutDropOldest chunk isProtected = (.ok, after) ∧
      after.eq.frames = left ++ [(chunk, isProtected)] ∧ left <+ slot.eq.frames ∧
      left.filter Prod.snd = slot.eq.frames.filter Prod.snd) ∨
    (∃ after, slot.tryPushFanoutDropOldest chunk isProtected = (.full, after) ∧
      after.eq.frames = slot.eq.frames.filter Prod.snd ∧ after.queuedMsgs = slot.queuedMsgs) ∨
    slot.tryPushFanoutDropOldest chunk isProtected = (.dead, slot) := by
  obtain ⟨sublist, kept, failed⟩ := slot.frames_evict chunk.length slot.queuedMsgs slot.eq
  obtain ⟨-, pushed⟩ | ⟨-, eq, ⟨evicted, pushed⟩ | ⟨_, evicted, pushed⟩⟩ :=
    slot.tryPushFanoutDropOldest_cases chunk isProtected
  · exact .inr (.inr pushed)
  · rw [evicted] at failed
    exact .inr (.inl ⟨_, pushed, failed rfl, rfl⟩)
  · rw [evicted] at sublist kept
    exact .inl ⟨eq.frames, _, pushed, eq.frames_pushExternal chunk isProtected, sublist, kept⟩

inductive DropOldestCall
  | push (chunk : Bytes) (isProtected : Bool)
  | drain (maxChunks : Nat)

/-- A slot with the frames it accepted and what was drained of it. -/
structure DropOldestRun where
  slot : PeerTransmitSlot
  accepted : List (Bytes × Bool)
  drained : List Bytes

namespace DropOldestRun

def step (run : DropOldestRun) : DropOldestCall → DropOldestRun
  | .push chunk isProtected =>
    let (result, slot) := run.slot.tryPushFanoutDropOldest chunk isProtected
    { run with
      slot
      accepted := if result = .ok then run.accepted ++ [(chunk, isProtected)] else run.accepted }
  | .drain maxChunks =>
    let (chunks, _, slot) := run.slot.drain maxChunks
    { run with slot, drained := run.drained ++ chunks }

/-- The frames of all pushes. -/
def pushes (calls : List DropOldestCall) : List (Bytes × Bool) :=
  calls.filterMap fun
    | .push chunk isProtected => some (chunk, isProtected)
    | .drain _ => none

/-- What was drained and what waits are whole frames out of those given, in order, and every
protected frame which was accepted is among them. -/
def Whole (run : DropOldestRun) (given before : List (Bytes × Bool)) : Prop :=
  ∃ gone, gone.map Prod.fst = run.drained ∧ gone ++ run.slot.eq.frames <+ given ∧
    (gone ++ run.slot.eq.frames).filter Prod.snd = (before ++ run.accepted).filter Prod.snd

variable {run : DropOldestRun} {given before : List (Bytes × Bool)}

theorem Whole.step (whole : run.Whole given before) (call : DropOldestCall) :
    (run.step call).Whole (given ++ pushes [call]) before := by
  obtain ⟨gone, drained, among, kept⟩ := whole
  cases call with
  | push chunk isProtected =>
    have more : given <+ given ++ [(chunk, isProtected)] := sublist_append_left ..
    obtain ⟨left, after, pushed, frames_eq, sublist, same⟩ | ⟨after, pushed, frames_eq, -⟩ |
      pushed := run.slot.frames_tryPushFanoutDropOldest chunk isProtected
    all_goals simp only [DropOldestRun.step, pushed]
    · refine ⟨gone, drained, ?_, ?_⟩
      · rw [frames_eq, ← append_assoc]
        exact ((sublist.append_left gone).trans among).append_right _
      · rw [filter_append, filter_append] at kept
        simp [frames_eq, same, ← append_assoc, kept]
    · refine ⟨gone, drained, ?_, ?_⟩
      · rw [frames_eq]
        exact ((filter_sublist.append_left gone).trans among).trans more
      · simpa [frames_eq] using kept
    · exact ⟨gone, drained, among.trans more, by simpa using kept⟩
  | drain maxChunks =>
    obtain ⟨chunks_eq, frames_eq⟩ := run.slot.eq.frames_drain maxChunks
    have queue_eq : gone ++ run.slot.eq.frames.take maxChunks ++
        (run.slot.drain maxChunks).2.2.eq.frames = gone ++ run.slot.eq.frames := by
      rw [append_assoc]
      exact congrArg (gone ++ ·) ((congrArg _ frames_eq).trans (take_append_drop ..))
    refine ⟨gone ++ run.slot.eq.frames.take maxChunks, ?_, ?_, ?_⟩
    · rw [map_append, drained, ← chunks_eq]
      rfl
    · simpa [pushes, DropOldestRun.step, queue_eq] using among
    · simpa [DropOldestRun.step, queue_eq] using kept

/-- Whatever a slot holds and whatever is pushed and drained, what leaves it and what waits are
whole frames in order, and no protected frame is lost.  A push which fails leaves the counter, but
it leaves the queue only if all of it is protected. -/
theorem whole_and_full_iff (slot : PeerTransmitSlot) (calls : List DropOldestCall) (chunk : Bytes)
    (isProtected : Bool) :
    (calls.foldl step ⟨slot, [], []⟩).Whole (slot.eq.frames ++ pushes calls) slot.eq.frames ∧
      ∀ after, (calls.foldl step ⟨slot, [], []⟩).slot.tryPushFanoutDropOldest chunk isProtected =
          (.full, after) →
        after.queuedMsgs = (calls.foldl step ⟨slot, [], []⟩).slot.queuedMsgs ∧
          (after.eq.frames = (calls.foldl step ⟨slot, [], []⟩).slot.eq.frames ↔
            ∀ frame ∈ (calls.foldl step ⟨slot, [], []⟩).slot.eq.frames, frame.2 = true) := by
  constructor
  · induction calls using reverseRecOn with
    | nil => exact ⟨[], rfl, by simp [pushes], by simp⟩
    | append_singleton calls call induction =>
      rw [foldl_append, pushes, filterMap_append, ← append_assoc]
      exact induction.step call
  · intro after failed
    obtain ⟨_, _, pushed, -⟩ | ⟨_, pushed, frames_eq, counter_eq⟩ | pushed :=
      (calls.foldl step ⟨slot, [], []⟩).slot.frames_tryPushFanoutDropOldest chunk isProtected
    all_goals
      rw [pushed] at failed
      cases failed
    rw [frames_eq, filter_eq_self]
    exact ⟨counter_eq, Iff.rfl⟩

/-- A slot of ten bytes with a dictionary and a message. -/
def nearlyFull : DropOldestRun :=
  [.push (replicate 8 0) true, .push [1] false].foldl step
    ⟨.new false none none 0 10 10 none, [], []⟩

/-- The push fails, the message is gone, and the counter still counts it. -/
theorem full_evicts :
    (nearlyFull.slot.tryPushFanoutDropOldest [2, 2, 2, 2, 2] false).1 = .full ∧
      nearlyFull.slot.eq.frames = [(replicate 8 0, true), ([1], false)] ∧
      (nearlyFull.slot.tryPushFanoutDropOldest [2, 2, 2, 2, 2] false).2.eq.frames =
        [(replicate 8 0, true)] ∧
      (nearlyFull.slot.tryPushFanoutDropOldest [2, 2, 2, 2, 2] false).2.queuedMsgs = 2 := by
  decide +kernel

end DropOldestRun

end Omq.PeerTransmitSlot
