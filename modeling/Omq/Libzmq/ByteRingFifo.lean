import Mathlib.Data.Nat.Log
import Omq.Libzmq.InprocPoll

/-!
# The byte ring as a queue

Both halves of a byte ring are called in any order: several entries may be written before they are
published, and an entry may be looked at again before it is passed.  Memory always holds the
payloads which were accepted and not passed.  A look at an empty payload behind the last header of
the buffer panics, so the sender has to keep such entries away.  An empty ring still refuses an
entry for which neither the end of the buffer nor its start has room.
-/

namespace Omq.Libzmq

open Transition List
open WrappingCursor (cursorAt cursorAt_add_ofNat)

namespace ByteRing

variable (layout : RingLayout) (ring : ByteRing)

/-- Where the entry at a position begins. -/
def entryStart (cursor : BitVec 64) : BitVec 64 :=
  if ring.header layout cursor = wrapSentinel then
    cursor + BitVec.ofNat 64 (layout.capacity - layout.offset cursor)
  else cursor

/-- The payloads which lie in memory from a position on. -/
def payloads (ring : ByteRing) : Nat → BitVec 64 → List Bytes
  | 0, _ => []
  | count + 1, cursor =>
    let start := ring.entryStart layout cursor
    let data := ring.payload layout start
    data :: ring.payloads count (start + BitVec.ofNat 64 (alignedEntrySize data.length))

/-- Payloads which were accepted and not passed, as memory has them. -/
def waiting : List Bytes :=
  ring.payloads layout (ring.accepted.length - ring.received.length) ring.consumer.head

/-- The access, if the sender is where it comes next. -/
def attempt (action : SendAction) : ByteRing :=
  (ring.sendStep layout action).getD ring

/-- A whole `try_push`, without an access of the receiver in between. -/
def tryPush (data : Bytes) : ByteRing :=
  ((ring.attempt layout (.push data)).attempt layout .loadHead).attempt layout .loadHeadToWrap

/-- Room for an entry in an empty ring: before the end of the buffer, or at its start when the rest
up to the end is given up. -/
def Fits (payloadLen : Nat) : Prop :=
  payloadLen < wrapSentinel ∧ alignedEntrySize payloadLen + headerSize ≤ layout.capacity ∧
    (alignedEntrySize payloadLen ≤ ring.contiguous layout ∨
      ring.contiguous layout + alignedEntrySize payloadLen + headerSize ≤ layout.capacity)

end ByteRing

variable {layout : RingLayout} {careful : Prop} {ring : ByteRing} {marks : RingMarks}
  {seen unseen unpublished : List Entry}

theorem Entry.Lies.entryStart_eq {entry : Entry} {position : Nat}
    (lies : entry.Lies layout careful ring.ring.buf position) :
    ring.entryStart layout (cursorAt 0 position) = cursorAt 0 (entry.start layout position) := by
  unfold ByteRing.entryStart
  cases wrapped : entry.wrapped with
  | false =>
    have start_eq : entry.start layout position = position := by simp [Entry.start, wrapped]
    have header_eq := start_eq ▸ lies.payload_eq.1
    rw [if_neg (header_eq ▸ lies.short.ne), start_eq]
  | true =>
    have marked : ring.header layout (cursorAt 0 position) = wrapSentinel := by
      rw [ByteRing.header, layout.offset_cursorAt, lies.marked wrapped]
    rw [if_pos marked, layout.offset_cursorAt, cursorAt_add_ofNat, Entry.start, if_pos wrapped,
      RingLayout.nextStart]

/-- Memory is read back as the entries which lie there. -/
theorem Stored.payloads_eq {entries : List Entry} {position : Nat}
    (stored : Stored layout careful ring.ring.buf position entries) :
    ring.payloads layout entries.length (cursorAt 0 position) = entries.map Entry.data := by
  induction entries generalizing position with
  | nil => rfl
  | cons entry rest induction =>
    obtain ⟨lies, later⟩ := stored
    simp only [length_cons, ByteRing.payloads, lies.entryStart_eq, lies.payload_eq.2,
      cursorAt_add_ofNat, map_cons]
    exact congrArg _ (induction later)

theorem Represents.waiting_eq
    (represents : Represents layout careful ring marks seen unseen unpublished) :
    ring.waiting layout = (seen ++ unseen ++ unpublished).map Entry.data := by
  have count_eq : ring.accepted.length - ring.received.length =
      (seen ++ unseen ++ unpublished).length := by
    rw [represents.history, length_append, Nat.add_sub_cancel_left, length_map]
  rw [ByteRing.waiting, count_eq, represents.head, represents.stored.payloads_eq]

theorem Represents.waiting_eq_nil
    (represents : Represents layout careful ring marks seen unseen unpublished)
    (published : seen ++ unseen = []) (flushed : ring.ring.tail = ring.producer.tail) :
    ring.waiting layout = [] := by
  have tails := represents.ringTail.symm.trans (flushed.trans represents.tail)
  rw [published, nil_append] at tails
  have whole : unpublished ++ [] = seen ++ unseen ++ unpublished := by simp [published]
  rw [represents.waiting_eq, published, (represents.cursorAt_finishOf_iff whole).mp tails]
  rfl

/-- The room of an empty ring, as the sender knows it before and after it loads the head. -/
theorem Represents.free_of_empty (represents : Represents layout careful ring marks [] [] [])
    (released : marks.released = marks.read) :
    ring.free layout ≤ layout.capacity ∧ ring.reloadHead.free layout = layout.capacity := by
  have known := represents.free_add
  have loaded := represents.reloadHead.free_add
  have cached := represents.cachedHead_le
  simp only [append_nil, finishOf, foldl_nil] at known loaded
  omega

namespace ByteRing

theorem attempt_loadHead_writeOrWrap (ring : ByteRing) (data : Bytes) :
    (ring.writeOrWrap layout data).attempt layout .loadHead = ring.writeOrWrap layout data := by
  unfold writeOrWrap
  split_ifs <;> rfl

/-- What is left of an attempt once the room in total suffices. -/
theorem settle_writeOrWrap {data : Bytes} (known : ring.free layout ≤ layout.capacity)
    (loaded : ring.reloadHead.free layout = layout.capacity) :
    ((ring.writeOrWrap layout data).attempt layout .loadHeadToWrap).accepted =
      ring.accepted ++ [data] ↔ alignedEntrySize data.length ≤ ring.contiguous layout ∨
        ring.contiguous layout + alignedEntrySize data.length + headerSize ≤ layout.capacity := by
  unfold writeOrWrap
  split_ifs with cut wide
  · have free_eq : ({ ring with sending := .loadingHeadToWrap data } : ByteRing).reloadHead.free
        layout = layout.capacity := loaded
    have contiguous_eq : ({ ring with sending := .loadingHeadToWrap data } :
        ByteRing).reloadHead.contiguous layout = ring.contiguous layout := rfl
    simp only [attempt, sendStep, free_eq, contiguous_eq]
    split_ifs with refused
    · simp [refuse, reloadHead]
      omega
    · simp [writeEntry, writeWrap, reloadHead]
      omega
  · simp [attempt, sendStep, writeEntry, writeWrap]
    omega
  · simp [attempt, sendStep, writeEntry]
    omega

/-- An attempt on an empty ring succeeds exactly when the entry fits. -/
theorem tryPush_accepted_iff (represents : Represents layout careful ring marks [] [] [])
    (released : marks.released = marks.read) (idle : ring.sending = .idle) (data : Bytes) :
    (ring.tryPush layout data).accepted = ring.accepted ++ [data] ↔
      ring.Fits layout data.length := by
  obtain ⟨known, loaded⟩ := represents.free_of_empty released
  unfold Fits tryPush
  by_cases long : wrapSentinel ≤ data.length
  · simp [attempt, sendStep, idle, long, refuse]
  by_cases narrow : ring.free layout < alignedEntrySize data.length + headerSize
  · have began : ring.attempt layout (.push data) = { ring with sending := .loadingHead data } := by
      simp [attempt, sendStep, idle, long, narrow]
    have free_eq : ({ ring with sending := .loadingHead data } : ByteRing).reloadHead.free
        layout = layout.capacity := loaded
    rw [began]
    by_cases small : layout.capacity < alignedEntrySize data.length + headerSize
    · simp only [attempt, sendStep, free_eq, if_pos small, Option.getD_some]
      simp [refuse, reloadHead]
      omega
    · have went_on : ({ ring with sending := .loadingHead data } : ByteRing).attempt layout
          .loadHead = ring.reloadHead.writeOrWrap layout data := by
        simp only [attempt, sendStep, free_eq, if_neg small, Option.getD_some]
        rfl
      rw [went_on]
      refine (settle_writeOrWrap loaded.le loaded).trans ?_
      change _ ≤ ring.contiguous layout ∨ ring.contiguous layout + _ + _ ≤ _ ↔ _
      omega
  · have began : ring.attempt layout (.push data) = ring.writeOrWrap layout data := by
      simp [attempt, sendStep, idle, long, narrow]
    rw [began, attempt_loadHead_writeOrWrap, settle_writeOrWrap known loaded]
    omega

theorem writeOrWrap_grows (ring : ByteRing) (data : Bytes) :
    (ring.writeOrWrap layout data).received = ring.received ∧
      ring.accepted <+: (ring.writeOrWrap layout data).accepted := by
  unfold writeOrWrap
  split_ifs
  · exact ⟨rfl, prefix_rfl⟩
  · exact ⟨rfl, prefix_append _ _⟩
  · exact ⟨rfl, prefix_append _ _⟩

/-- The sender adds payloads behind the others. -/
theorem sendStep_grows {action : SendAction} {after : ByteRing}
    (sent : ring.sendStep layout action = some after) :
    after.received = ring.received ∧ ring.accepted <+: after.accepted := by
  revert sent
  fun_cases ring.sendStep layout action <;> rintro ⟨⟩
  case case3 data _ _ _ => exact writeOrWrap_grows ring data
  case case6 data _ _ _ => exact writeOrWrap_grows ring.reloadHead data
  case case9 => exact ⟨rfl, prefix_append _ _⟩
  all_goals exact ⟨rfl, prefix_rfl⟩

end ByteRing

variable (sendHwm recvHwm : Option UInt32)

/-- The bytes asked for a sender and a receiver with these high-water marks. -/
def byteRingCap : Nat :=
  max (min (sendHwm.getD 1000).toNat (recvHwm.getD 1000).toNat) 16 * 1024

/-- The ring of a bypass: its size is rounded up to a power of two. -/
def RingLayout.ofHighWaterMarks : RingLayout where
  exponent := Nat.clog 2 (byteRingCap sendHwm recvHwm)
  aligned := (Nat.lt_clog_iff_pow_lt (by decide)).mpr (by unfold byteRingCap; omega)
  fits := by
    have below := (sendHwm.getD 1000).toNat_lt
    have small : byteRingCap sendHwm recvHwm ≤ 2 ^ 42 := by unfold byteRingCap; omega
    exact Nat.lt_of_le_of_lt (Nat.clog_le_of_le_pow small) (by decide)

theorem RingLayout.capacity_ofHighWaterMarks :
    (ofHighWaterMarks sendHwm recvHwm).capacity = 2 ^ Nat.clog 2 (byteRingCap sendHwm recvHwm) :=
  rfl

/-! ## Calls in any order -/

namespace InprocPoll

/-- Accesses of either half, and where its calls begin and end. -/
inductive RingCall
  | send (action : ByteRing.SendAction)
  /-- `try_push` or `flush` returns. -/
  | leave
  | flush
  | peek
  | load
  | advance

/-- One access.  A look may be repeated before the entry is passed. -/
def call (layout : RingLayout) (poll : InprocPoll) : RingCall → Option InprocPoll
  | .send action => poll.step layout (.send action)
  | .leave =>
    match poll.bytes.sending with
    | .loadingTail | .signalling =>
      some { poll with bytes := { poll.bytes with sending := .idle } }
    | _ => none
  | .flush =>
    if poll.bytes.sending = .idle then
      some { poll with bytes := { poll.bytes with sending := .loadingTail } }
    else none
  | .peek =>
    match poll.receiving with
    | .idle | .releasing _ => some (poll.peek layout)
    | _ => none
  | .load =>
    match poll.receiving with
    | .peeking phase => some (poll.peeked (poll.bytes.loadPeek layout phase))
    | _ => none
  | .advance =>
    match poll.receiving with
    | .releasing data =>
      some { poll with bytes := poll.bytes.advanceAndRelease data, receiving := .idle }
    | _ => none

/-- An empty payload is not pushed where the last header of the buffer is. -/
def Indexed (layout : RingLayout) (poll : InprocPoll) : RingCall → Prop
  | .send (.push data) => poll.bytes.Indexed layout data
  | _ => True

instance (poll : InprocPoll) (action : RingCall) : Decidable (poll.Indexed layout action) :=
  match action with
  | .send (.push data) => inferInstanceAs (Decidable (data = [] → _ < layout.capacity))
  | .send .loadHead | .send .loadHeadToWrap | .send .loadTail | .send .look | .send .publish
  | .leave | .flush | .peek | .load | .advance => .isTrue trivial

variable {poll after : InprocPoll} {data : Bytes}

theorem peek_again
    (valid : poll.bytes.Valid layout careful marks (⟨false, data⟩ :: seen) unseen unpublished)
    (releasing : poll.receiving = .releasing data) :
    (careful → (poll.peek layout).receiving = .releasing data) ∧
      (poll.peek layout).Sound layout careful := by
  obtain ⟨nil, _⟩ | ⟨entry, rest, same, found⟩ := valid.beginPeek
  · cases nil
  · rw [peek, found]
    refine ⟨fun taken => ?_, (readEntry_followed valid rfl rfl rfl (by simp [releasing])).2⟩
    obtain read | ⟨-, careless, -⟩ := valid.enter.entryAt_eq
    · rw [valid.readEntry, read]
      rfl
    · exact absurd taken careless

theorem Sound.call {action : RingCall} (called : poll.call layout action = some after)
    (indexed : careful → poll.Indexed layout action) (sound : poll.Sound layout careful) :
    after.Sound layout careful := by
  obtain ⟨marks, seen, unseen, unpublished, valid, holds⟩ := id sound
  revert called indexed
  fun_cases poll.call layout action <;> intro called indexed
  case case1 =>
    obtain ⟨bytes, sent, rfl⟩ := Option.map_eq_some_iff.mp called
    refine sound.send sent fun {data} pushed => ?_
    subst pushed
    exact indexed
  all_goals cases called
  · -- leave a flush
    exact ⟨marks, seen, unseen, unpublished, ⟨valid.sending .idle, trivial⟩, holds⟩
  · -- leave a signal
    exact ⟨marks, seen, unseen, unpublished, ⟨valid.sending .idle, trivial⟩, holds⟩
  · -- flush
    exact ⟨marks, seen, unseen, unpublished, ⟨valid.sending .loadingTail, trivial⟩, holds⟩
  next idle => -- peek
    rw [idle] at holds
    exact (peek_followed valid holds (by simp [idle])).2
  next data releasing => -- peek again
    rw [releasing] at holds
    obtain ⟨rest, rfl⟩ := holds
    exact (peek_again valid releasing).2
  next phase peeking => -- load
    rw [peeking] at holds
    obtain ⟨rfl, rested⟩ := holds
    exact (loadPeek_followed valid rested (by simp [peeking])).2
  next data releasing => -- advance
    rw [releasing] at holds
    obtain ⟨rest, rfl⟩ := holds
    exact ⟨_, rest, unseen, unpublished, ⟨valid.advanceAndRelease, valid.ready⟩, rfl⟩

theorem sound_new (layout : RingLayout) (careful : Prop) : new.Sound layout careful :=
  ⟨_, _, _, _, ⟨.new layout careful, trivial⟩, rfl⟩

theorem sound_of_reaches (reached : Reaches (call layout) new poll) : poll.Sound layout False :=
  reached.invariant (fun _ called => Sound.call called False.elim) (sound_new layout False)

theorem sound_of_indexed (runs : Runs (call layout) (Indexed layout) new poll) :
    poll.Sound layout True :=
  runs.invariant (fun met called => Sound.call called fun _ => met) (sound_new layout True)

theorem Sound.accepted_eq (sound : poll.Sound layout careful) :
    poll.bytes.accepted = poll.bytes.received ++ poll.bytes.waiting layout := by
  obtain ⟨marks, seen, unseen, unpublished, valid, _⟩ := sound
  rw [valid.waiting_eq, valid.history]

/-- While no empty payload is pushed where the last header of the buffer is, memory always holds, in
order, the payloads which were accepted and not passed.  What is looked at is the first of them,
also when it is looked at again; nothing is found only when all that was published was passed; the
receiver does not panic; and the sender leaves in memory what is there. -/
theorem refines_queue (runs : Runs (call layout) (Indexed layout) new poll) :
    poll.bytes.accepted = poll.bytes.received ++ poll.bytes.waiting layout ∧
      (∀ data, poll.receiving = .releasing data →
        (poll.bytes.waiting layout).head? = some data ∧
          poll.bytes.payload layout poll.bytes.consumer.head = data ∧
          ∀ {after}, poll.call layout .peek = some after → after.receiving = .releasing data) ∧
      (∀ {after}, poll.call layout .load = some after → after.receiving = .idle →
        poll.bytes.ring.tail = poll.bytes.producer.tail → poll.bytes.waiting layout = []) ∧
      poll.receiving ≠ .panicked ∧
      ∀ {action after}, poll.call layout (.send action) = some after →
        poll.bytes.waiting layout <+: after.bytes.waiting layout := by
  have sound := sound_of_indexed runs
  obtain ⟨marks, seen, unseen, unpublished, valid, holds⟩ := id sound
  refine ⟨sound.accepted_eq, fun data releasing => ?_, fun {after} called nothing flushed => ?_,
    fun panicked => ?_, fun {action after} called => ?_⟩
  · rw [releasing] at holds
    obtain ⟨rest, rfl⟩ := holds
    refine ⟨by rw [valid.waiting_eq]; rfl, valid.payload_eq.2, fun {after} called => ?_⟩
    simp only [call, releasing] at called
    exact Option.some.inj called ▸ (peek_again valid releasing).1 trivial
  · simp only [call] at called
    split at called
    next phase peeking =>
      rw [peeking] at holds
      obtain ⟨rfl, -⟩ := holds
      cases called
      obtain ⟨published, -⟩ | ⟨entry, rest, published, found⟩ := valid.loadPeek
      · exact valid.waiting_eq_nil published flushed
      · have loaded := published ▸ valid.reloadTail
        obtain read | ⟨-, careless, -⟩ := loaded.enter.entryAt_eq
        · rw [found, loaded.readEntry, read] at nothing
          cases nothing
        · exact absurd trivial careless
    · cases called
  · rw [panicked] at holds
    exact holds.1 trivial
  · have reached := sound_of_reaches runs.reaches
    have grown := (reached.call called False.elim).accepted_eq
    obtain ⟨bytes, sent, rfl⟩ := Option.map_eq_some_iff.mp called
    obtain ⟨received_eq, more⟩ := ByteRing.sendStep_grows sent
    rw [sound.accepted_eq, grown, received_eq] at more
    exact (prefix_append_right_inj _).mp more

/-- A run which writes two entries, one of them empty, before it publishes them and looks twice. -/
theorem refines_queue_twice : ∃ final, Runs (call smallRing) (Indexed smallRing) new final ∧
    final.receiving = .releasing [2] ∧ final.bytes.received = [[]] ∧
      final.bytes.accepted = final.bytes.received ++ final.bytes.waiting smallRing := by
  have runs : Runs (call smallRing) (Indexed smallRing) new _ :=
    .computed [.send (.push []), .leave, .send (.push [2]), .send .loadTail, .send .look,
      .send .publish, .leave, .peek, .load, .advance, .peek, .peek] (by decide +kernel)
  exact ⟨_, runs, by decide +kernel, by decide +kernel, (refines_queue runs).1⟩

/-- An entry of 60 bytes is passed, and the empty one behind it has its header at the end of the
buffer: it is accepted and published, and the look at it panics. -/
theorem peek_panics : ∃ final, Reaches (call smallRing) new final ∧
    final.bytes.accepted = [replicate 56 1, []] ∧ final.bytes.received = [replicate 56 1] ∧
      final.receiving = .panicked :=
  exists_reaches [.send (.push (replicate 56 1)), .send .loadTail, .send .look, .send .publish,
    .leave, .peek, .load, .advance, .send (.push []), .send .loadHead, .send .loadTail,
    .send .look, .send .publish, .leave, .peek, .load] (by decide +kernel)

theorem released_of_nothing {phase : RecvPhase} (holds : receivingHolds careful phase marks []) :
    marks.released = marks.read := by
  cases phase with
  | releasing data =>
    obtain ⟨rest, nil⟩ := holds
    cases nil
  | panicked =>
    obtain ⟨-, rest, nil⟩ := holds
    cases nil
  | peeking phase => exact holds.2
  | _ => exact holds

/-! ## Messages which never fit -/

/-- On a ring whose payloads were all passed `try_push` succeeds exactly when the entry fits; a
blocking send parks otherwise, with nobody left to make room. -/
theorem accepts_when_empty_iff {sendHwm recvHwm : Option UInt32}
    (reached : Reaches (call (.ofHighWaterMarks sendHwm recvHwm)) new poll)
    (idle : poll.bytes.sending = .idle) (empty : poll.bytes.received = poll.bytes.accepted)
    (data : Bytes) :
    (poll.bytes.tryPush (.ofHighWaterMarks sendHwm recvHwm) data).accepted =
        poll.bytes.accepted ++ [data] ↔
      poll.bytes.Fits (.ofHighWaterMarks sendHwm recvHwm) data.length := by
  obtain ⟨marks, seen, unseen, unpublished, valid, holds⟩ := sound_of_reaches reached
  obtain ⟨rfl, rfl, rfl⟩ : seen = [] ∧ unseen = [] ∧ unpublished = [] := by
    simpa [empty] using valid.history
  exact ByteRing.tryPush_accepted_iff valid.toRepresents (released_of_nothing holds) idle data

theorem capacity_smallest : (RingLayout.ofHighWaterMarks (some 1) (some 1)).capacity = 2 ^ 14 := by
  have asked : byteRingCap (some 1) (some 1) = 2 ^ 14 := by simp [byteRingCap]
  rw [RingLayout.capacity_ofHighWaterMarks, asked, Nat.clog_pow 2 14 (by decide)]

theorem accepts_when_empty_short :
    (new.bytes.tryPush (.ofHighWaterMarks (some 1) (some 1)) [7]).accepted = [[7]] := by
  refine (accepts_when_empty_iff .refl rfl rfl [7]).mpr ⟨by decide, ?_, .inl ?_⟩
  · rw [capacity_smallest]
    decide
  · rw [ByteRing.contiguous, RingLayout.offset, capacity_smallest]
    decide

/-- With the smallest high-water marks an empty ring refuses a message of 16 KiB. -/
theorem refuses_when_empty : ∃ data : Bytes, data.length = 16384 ∧
    (new.bytes.tryPush (.ofHighWaterMarks (some 1) (some 1)) data).accepted ≠
      new.bytes.accepted ++ [data] := by
  refine ⟨List.replicate 16384 0, length_replicate, fun accepted => ?_⟩
  obtain ⟨-, room, -⟩ :=
    (ByteRing.tryPush_accepted_iff (.new _ False) rfl rfl (List.replicate 16384 0)).mp accepted
  rw [length_replicate, capacity_smallest] at room
  exact absurd room (by decide)

end InprocPoll

end Omq.Libzmq
