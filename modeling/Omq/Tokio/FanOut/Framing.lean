import Omq.Proto.RawFrameBuffer
import Omq.Tokio.FanOut.Lane

/-!
# Framing for a fan-out

A message for several peers is framed once, through a scratch buffer which is cleared before the
next message.  The frame is drained with a limit of 1024 chunks, and clearing the arena does not
clear the entries.  So what a message has beyond that limit is missing in its frame and stays in
front of the next one.  The messages framed faithfully are exactly those which need no more chunks
and whose arena, if it has to be drained, is addressable by 32 bits.
-/

namespace Omq

open RawFrameBuffer List

/-- A message to be framed for a number of peers. -/
structure FanOutRequest where
  message : Message
  targetCount : Nat
  /-- Bytes copied into slots before chunks are shared instead. -/
  copyBudget : Nat

namespace FanOutRequest

variable (request : FanOutRequest)

/-- Whether copying the message to every peer exceeds the budget. -/
def exceedsBudget : Bool :=
  request.copyBudget < saturatingMul (encodedMessageLen request.message) request.targetCount

variable (eq : RawFrameBuffer)

def encode : RawFrameBuffer :=
  if request.exceedsBudget then eq.frameGather request.message else eq.frame request.message

/-- Whether copies of an arena stay within the budget; the product wraps around. -/
def copies (length : Nat) : Bool :=
  length * request.targetCount % (usizeMax + 1) ≤ request.copyBudget

def finish : Option (FanOutFrame × RawFrameBuffer) :=
  if eq.hasArenaOnly && request.copies eq.uncommittedArena.length then
    some (.arena eq.uncommittedArena, eq)
  else (eq.drain fanOutMaxChunks).map fun (chunks, _, eq) => (.chunks chunks, eq)

/-- Encode the message for reuse across peers. -/
def build : Option (FanOutFrame × RawFrameBuffer) :=
  request.finish (request.encode eq)

/-- Whether the payloads stay outside the arena. -/
def gathers (arenaThreshold : Nat) : Bool :=
  request.exceedsBudget || arenaThreshold ≤ request.message.byteLen

end FanOutRequest

/-- Chunks of parts whose payloads stay outside the arena: the headers and nonempty payloads. -/
def chunkCount (parts : List Payload) : Nat :=
  (parts.map fun part => if part.asSlice = [] then 1 else 2).sum

/-- The message needs no more chunks than a drain takes; a message inside the arena is copied from
there, or addressable. -/
def FanOutRequest.Fits (arenaThreshold : Nat) (request : FanOutRequest) : Prop :=
  if request.gathers arenaThreshold then chunkCount request.message.partsPayload ≤ fanOutMaxChunks
  else request.copies (encodeMessageFlat request.message).length = true ∨
    (encodeMessageFlat request.message).length < arenaOffsetBound

def FramedFaithfully : RawFrameBuffer → List FanOutRequest → Prop
  | _, [] => True
  | eq, request :: rest => ∃ frame after, request.build eq = some (frame, after) ∧
      frame.bytes = encodeMessageFlat request.message ∧
      (after.clearArena.entries = [] ∧ after.clearArena.arena = []) ∧
      FramedFaithfully after.clearArena rest

/-! ## Counting entries -/

namespace RawFrameBuffer

theorem entries_prefix_commitArenaRange (raw : RawFrameBuffer) :
    raw.entries <+: raw.commitArenaRange.entries := by
  simp only [commitArenaRange]
  split_ifs
  · exact prefix_append _ _
  · exact prefix_refl _

theorem length_entries_le_gatherCounted (count index : Nat) (parts : List Payload)
    (raw : RawFrameBuffer) :
    raw.entries.length ≤ (gatherCounted none count index parts raw).entries.length := by
  induction parts generalizing index raw with
  | nil => exact Nat.le_refl _
  | cons part rest induction =>
    rw [gatherCounted]
    refine Nat.le_trans ?_ (induction _ _)
    have committed (header : Bytes) : raw.entries.length ≤
        (raw.pushPreFramed header).commitArenaRange.entries.length :=
      (raw.pushPreFramed header).entries_prefix_commitArenaRange.length_le
    dsimp only [Option.elim]
    split_ifs
    · exact committed _
    · rw [pushExternal, length_append]
      exact Nat.le_add_right_of_le (committed _)

theorem gatherCounted_append (count index : Nat) (firsts lasts : List Payload)
    (raw : RawFrameBuffer) :
    gatherCounted none count index (firsts ++ lasts) raw =
      gatherCounted none count (index + firsts.length) lasts
        (gatherCounted none count index firsts raw) := by
  induction firsts generalizing index raw with
  | nil => rfl
  | cons part rest induction =>
    rw [cons_append, gatherCounted, gatherCounted, induction, length_cons,
      Nat.add_right_comm, Nat.add_assoc]

/-- While the arena is addressable every header and every nonempty payload is an entry. -/
theorem length_entries_gatherCounted (count index : Nat) (parts : List Payload)
    (raw : RawFrameBuffer) (marked : raw.arenaMark ≤ raw.arena.length)
    (fits : raw.arena.length + 9 * parts.length < arenaOffsetBound) :
    (gatherCounted none count index parts raw).entries.length =
      raw.entries.length + chunkCount parts := by
  induction parts generalizing index raw with
  | nil => simp [gatherCounted, chunkCount]
  | cons part rest induction =>
    let header := writeFrameHeader (decide (index + 1 < count)) (0 + part.len)
    have header_length : 2 ≤ header.length ∧ header.length ≤ 9 := by
      rw [FrameBuffer.length_writeFrameHeader]
      unfold headerLenFor maxFrameHeaderLen
      split_ifs <;> omega
    rw [length_cons] at fits
    have committed : (raw.pushPreFramed header).commitArenaRange =
        { raw with
          entries := raw.entries ++ [.arena raw.arenaMark
            (raw.arena.length + header.length - raw.arenaMark) false]
          totalBytes := raw.totalBytes + header.length
          arena := raw.arena ++ header
          arenaMark := raw.arena.length + header.length } := by
      have small : (raw.arena.length + header.length) % arenaOffsetBound =
          raw.arena.length + header.length := Nat.mod_eq_of_lt (by omega)
      have pending : raw.arenaMark < raw.arena.length + header.length := by omega
      simp [commitArenaRange, pushPreFramed, small, pending]
    rw [gatherCounted]
    simp only [Option.elim_none, Option.getD_none, length_nil]
    rw [committed]
    by_cases empty : part.asSlice = []
    · rw [if_pos empty, induction]
      · simp [chunkCount, empty]
        omega
      · simp
      · simp only [length_append]
        omega
    · rw [if_neg empty, induction]
      · simp [chunkCount, empty, pushExternal]
        omega
      · simp [pushExternal]
      · simp only [pushExternal, length_append]
        omega

theorem length_le_chunkCount (parts : List Payload) : parts.length ≤ chunkCount parts := by
  induction parts with
  | nil => exact Nat.le_refl _
  | cons part rest induction =>
    simp only [chunkCount, map_cons, sum_cons, length_cons] at induction ⊢
    split_ifs <;> omega

/-- A message of too many chunks has too many entries, truncated or not. -/
theorem length_entries_frameGather (arenaThreshold : Nat) {message : Message}
    (many : fanOutMaxChunks < chunkCount message.partsPayload) :
    fanOutMaxChunks < ((withConfigLazy arenaThreshold).frameGather message).entries.length := by
  let parts := message.partsPayload
  -- Only the first 1025 parts are counted; their headers fit into the arena in any case.
  have first_many : fanOutMaxChunks < chunkCount (parts.take (fanOutMaxChunks + 1)) := by
    by_cases few : parts.length ≤ fanOutMaxChunks + 1
    · rw [take_of_length_le few]
      exact many
    · have taken : (parts.take (fanOutMaxChunks + 1)).length = fanOutMaxChunks + 1 := by
        rw [length_take]
        omega
      have counted := length_le_chunkCount (parts.take (fanOutMaxChunks + 1))
      omega
  have fits : ([] : Bytes).length + 9 * (parts.take (fanOutMaxChunks + 1)).length <
      arenaOffsetBound := by
    rw [length_take]
    unfold fanOutMaxChunks arenaOffsetBound
    simp only [length_nil]
    omega
  have counted := length_entries_gatherCounted parts.length 0 (parts.take (fanOutMaxChunks + 1))
    (withConfigLazy arenaThreshold) (Nat.le_refl _) fits
  have later := length_entries_le_gatherCounted parts.length
    (0 + (parts.take (fanOutMaxChunks + 1)).length) (parts.drop (fanOutMaxChunks + 1))
    (gatherCounted none parts.length 0 (parts.take (fanOutMaxChunks + 1))
      (withConfigLazy arenaThreshold))
  rw [← gatherCounted_append, take_append_drop] at later
  have fresh : (withConfigLazy arenaThreshold).entries.length = 0 := rfl
  have whole : gatherCounted none parts.length 0 parts (withConfigLazy arenaThreshold) =
      (withConfigLazy arenaThreshold).frameGather message := rfl
  rw [← whole]
  omega

/-- What a drain leaves behind stays an entry. -/
theorem entries_drain_ne_nil {raw after : RawFrameBuffer} {maxChunks count : Nat}
    {chunks : List Bytes} (many : maxChunks < raw.entries.length)
    (drained : raw.drain maxChunks = some (chunks, count, after)) : after.entries ≠ [] := by
  have longer := raw.entries_prefix_commitArenaRange.length_le
  have some_wait : ¬raw.commitArenaRange.entries = [] := by
    intro empty
    rw [empty, length_nil] at longer
    omega
  simp only [drain, if_neg some_wait] at drained
  obtain ⟨resolved, _, drained⟩ := Option.bind_eq_some_iff.mp drained
  obtain ⟨kept, kept_eq, drained⟩ := Option.bind_eq_some_iff.mp drained
  obtain rfl := (Prod.mk.inj (Prod.mk.inj (Option.some.inj drained)).2).2
  intro empty
  dsimp only at empty
  subst empty
  cases rest : raw.commitArenaRange.entries.drop maxChunks with
  | nil =>
    have dropped := congrArg List.length rest
    rw [length_drop, length_nil] at dropped
    omega
  | cons entry rest_entries =>
    rw [rest, mapM_cons] at kept_eq
    obtain ⟨_, _, kept_eq⟩ := Option.bind_eq_some_iff.mp kept_eq
    obtain ⟨_, _, kept_eq⟩ := Option.bind_eq_some_iff.mp kept_eq
    cases kept_eq

/-- A drain of an arena without entries hands out its addressable part. -/
theorem drain_arena (wire : Bytes) (arenaThreshold maxChunks : Nat) (some_chunks : 0 < maxChunks) :
    ∃ chunks after, (⟨[], wire.length, wire, arenaThreshold, 0⟩ : RawFrameBuffer).drain maxChunks =
        some (chunks, 0, after) ∧
      chunks.flatten = wire.take (wire.length % arenaOffsetBound) ∧
      after.clearArena = withConfigLazy arenaThreshold := by
  by_cases cut : 0 < wire.length % arenaOffsetBound
  · have nonempty : wire ≠ [] := by
      rintro rfl
      simp at cut
    have within : wire.length % arenaOffsetBound ≤ wire.length := Nat.mod_le _ _
    obtain ⟨maxChunks, rfl⟩ := Nat.exists_eq_succ_of_ne_zero some_chunks.ne'
    refine ⟨[wire.take (wire.length % arenaOffsetBound)], ⟨[], wire.length -
      wire.length % arenaOffsetBound, [], arenaThreshold, 0⟩, ?_, by simp, rfl⟩
    simp [drain, commitArenaRange, cut, nonempty, Entry.slice?, Entry.protection, within]
  · refine ⟨[], ⟨[], wire.length, wire, arenaThreshold, 0⟩, ?_, ?_, rfl⟩
    · simp [drain, commitArenaRange, cut]
    · rw [Nat.eq_zero_of_not_pos cut]
      rfl

end RawFrameBuffer

/-! ## One message -/

namespace FrameBuffer

theorem Committed.gatherParts {buffer : FrameBuffer} (committed : buffer.Committed)
    (pre : Option Bytes) (parts : List Payload) : (gatherParts pre parts buffer).Committed := by
  induction parts generalizing buffer with
  | nil => exact committed
  | cons part rest induction =>
    rw [FrameBuffer.gatherParts]
    apply induction
    split_ifs
    · cases pre
      · exact committed_commitArenaRange _
      · exact committed_pushExternal _ _ _
    · exact committed_pushExternal _ _ _

theorem length_arena_gatherParts (pre : Option Bytes) (parts : List Payload)
    (buffer : FrameBuffer) :
    (gatherParts pre parts buffer).arena.length = buffer.arena.length + headerBytes pre parts := by
  induction parts generalizing buffer with
  | nil => rfl
  | cons part rest induction =>
    rw [gatherParts, induction]
    cases pre <;> split_ifs <;>
      simp [pushPreFramed, headerBytes, length_writeFrameHeader, Nat.add_assoc]

theorem arenaThreshold_gatherParts (pre : Option Bytes) (parts : List Payload)
    (buffer : FrameBuffer) :
    (gatherParts pre parts buffer).arenaThreshold = buffer.arenaThreshold := by
  induction parts generalizing buffer with
  | nil => rfl
  | cons part rest induction =>
    rw [gatherParts, induction]
    cases pre <;> split_ifs <;> simp [pushPreFramed, pushExternal]

theorem drain_of_few {buffer : FrameBuffer} (committed : buffer.Committed) {maxChunks : Nat}
    (few : buffer.entries.length ≤ maxChunks) :
    (buffer.drain maxChunks).1.flatten = buffer.content ∧
      (buffer.drain maxChunks).2.2.raw.clearArena = .withConfigLazy buffer.arenaThreshold := by
  have kept_eq : (buffer.drain maxChunks).2.2.entries = [] := by
    simp [drain, dropFront, commitArenaRange_of_committed committed, drop_of_length_le few]
  constructor
  · rw [← buffer.drain_append maxChunks, content_of_entries_nil kept_eq]
    exact (append_nil _).symm
  · simp only [raw, kept_eq]
    rfl

end FrameBuffer

namespace FanOutRequest

variable {request : FanOutRequest} {arenaThreshold : Nat}

/-- A message whose payloads stay outside the arena. -/
theorem encode_of_gathers (gathers : request.gathers arenaThreshold = true) :
    request.encode (.withConfigLazy arenaThreshold) =
      (withConfigLazy arenaThreshold).frameGather request.message := by
  unfold encode
  by_cases exceeds : request.exceedsBudget = true
  · rw [if_pos exceeds]
  · have large : arenaThreshold ≤ request.message.byteLen := by
      simpa [FanOutRequest.gathers, exceeds] using gathers
    rw [if_neg exceeds, frame]
    exact if_neg (not_lt.mpr large)

theorem encode_of_not_gathers (inlined : ¬request.gathers arenaThreshold = true) :
    request.encode (.withConfigLazy arenaThreshold) =
      ⟨[], (encodeMessageFlat request.message).length, encodeMessageFlat request.message,
        arenaThreshold, 0⟩ := by
  simp only [FanOutRequest.gathers, Bool.or_eq_true, not_or, decide_eq_true_iff, not_le] at inlined
  obtain ⟨within_budget, small⟩ := inlined
  rw [encode, if_neg within_budget, frame]
  refine (if_pos small).trans ?_
  rw [frameInline, encodeCounted_message]
  simp [pushPreFramed, withConfigLazy, encodeMessagePrefixedFlat, encodeMessageFlat]

/-- Few chunks are drained at once. -/
theorem build_of_few (gathers : request.gathers arenaThreshold = true)
    (few : chunkCount request.message.partsPayload ≤ fanOutMaxChunks) :
    ∃ frame after, request.build (.withConfigLazy arenaThreshold) = some (frame, after) ∧
      frame.bytes = encodeMessageFlat request.message ∧
      after.clearArena = .withConfigLazy arenaThreshold := by
  let parts := request.message.partsPayload
  let fresh := FrameBuffer.withConfigLazy arenaThreshold
  let gathered := fresh.frameGather request.message
  have short : parts.length ≤ fanOutMaxChunks := (length_le_chunkCount parts).trans few
  have room : ([] : Bytes).length + 9 * parts.length < arenaOffsetBound := by
    unfold fanOutMaxChunks at short
    unfold arenaOffsetBound
    simp only [length_nil]
    omega
  have headers : FrameBuffer.headerBytes none parts ≤ 9 * parts.length :=
    FrameBuffer.headerBytes_le none parts
  have raw_eq : request.encode (.withConfigLazy arenaThreshold) = gathered.raw := by
    rw [encode_of_gathers gathers]
    exact fresh.raw_frameGather request.message fun _ => Nat.lt_of_le_of_lt
      (Nat.add_le_add_left headers _) room
  have committed : gathered.Committed :=
    FrameBuffer.Committed.gatherParts (rfl : fresh.Committed) none parts
  have proper : gathered.Proper := FrameBuffer.Proper.gatherParts none parts (nofun : fresh.Proper)
  have counted : gathered.entries.length = chunkCount parts := by
    have counted := length_entries_gatherCounted parts.length 0 parts fresh.raw (Nat.le_refl 0) room
    have same : (gatherCounted none parts.length 0 parts fresh.raw) =
        gathered.raw := (encode_of_gathers gathers).symm.trans raw_eq
    rw [same] at counted
    exact counted.trans (Nat.zero_add _)
  have arena_length : gathered.arena.length < arenaOffsetBound :=
    calc gathered.arena.length = fresh.arena.length + FrameBuffer.headerBytes none parts :=
          FrameBuffer.length_arena_gatherParts none parts fresh
      _ ≤ fresh.arena.length + 9 * parts.length := Nat.add_le_add_left headers _
      _ < arenaOffsetBound := room
  have drained := proper.raw_drain fanOutMaxChunks arena_length
  obtain ⟨bytes_eq, cleared⟩ := FrameBuffer.drain_of_few committed (counted.trans_le few)
  have not_arena : gathered.raw.hasArenaOnly = false := by
    cases entries : gathered.entries with
    | nil =>
      have empty : gathered.raw.arena = [] := committed.arena_eq_nil entries
      simp [hasArenaOnly, empty]
    | cons entry rest =>
      have some_wait : gathered.raw.entries = entry :: rest := entries
      simp [hasArenaOnly, some_wait]
  refine ⟨.chunks (gathered.drain fanOutMaxChunks).1, (gathered.drain fanOutMaxChunks).2.2.raw,
    ?_, ?_, ?_⟩
  · rw [build, raw_eq, finish, not_arena, drained]
    rfl
  · exact bytes_eq.trans (fresh.content_frameGather request.message)
  · rw [cleared]
    exact congrArg _ (FrameBuffer.arenaThreshold_gatherParts none parts fresh)

/-- A message which fits is framed, and the cleared buffer is as good as new. -/
theorem build_of_fits (fits : request.Fits arenaThreshold) :
    ∃ frame after, request.build (.withConfigLazy arenaThreshold) = some (frame, after) ∧
      frame.bytes = encodeMessageFlat request.message ∧
      after.clearArena = .withConfigLazy arenaThreshold := by
  unfold Fits at fits
  split_ifs at fits with gathers
  · exact build_of_few gathers fits
  · rw [build, encode_of_not_gathers gathers, finish]
    split_ifs with copied
    · exact ⟨_, _, rfl, rfl, rfl⟩
    · obtain ⟨chunks, after, drained, bytes_eq, cleared⟩ := drain_arena
        (encodeMessageFlat request.message) arenaThreshold fanOutMaxChunks (by decide)
      refine ⟨.chunks chunks, after, by rw [drained]; rfl, ?_, cleared⟩
      have whole : (encodeMessageFlat request.message).length % arenaOffsetBound =
          (encodeMessageFlat request.message).length := by
        obtain copies | short := fits
        · have unused : encodeMessageFlat request.message = [] := by
            by_contra nonempty
            apply copied
            rw [Bool.and_eq_true]
            exact ⟨by simp [hasArenaOnly, nonempty], copies⟩
          simp [unused]
        · exact Nat.mod_eq_of_lt short
      rw [FanOutFrame.bytes, bytes_eq, whole, take_length]

/-- A message which does not fit is cut, or leaves entries behind. -/
theorem fits_of_build {frame : FanOutFrame} {after : RawFrameBuffer}
    (built : request.build (.withConfigLazy arenaThreshold) = some (frame, after))
    (bytes_eq : frame.bytes = encodeMessageFlat request.message)
    (cleared : after.clearArena.entries = []) : request.Fits arenaThreshold := by
  unfold Fits
  split_ifs with gathers
  · by_contra many
    have waiting := length_entries_frameGather arenaThreshold (not_le.mp many)
    rw [build, encode_of_gathers gathers, finish] at built
    have not_arena : ((withConfigLazy arenaThreshold).frameGather
        request.message).hasArenaOnly = false := by
      cases entries : ((withConfigLazy arenaThreshold).frameGather request.message).entries with
      | nil => simp [entries] at waiting
      | cons entry rest => simp [hasArenaOnly, entries]
    rw [not_arena] at built
    obtain ⟨⟨chunks, count, left⟩, drained, same⟩ := Option.map_eq_some_iff.mp built
    obtain ⟨-, rfl⟩ := Prod.mk.inj same
    exact entries_drain_ne_nil waiting drained cleared
  · by_cases copied : request.copies (encodeMessageFlat request.message).length = true
    · exact .inl copied
    · right
      rw [build, encode_of_not_gathers gathers, finish] at built
      obtain ⟨chunks, left, drained, chunks_eq, -⟩ := drain_arena
        (encodeMessageFlat request.message) arenaThreshold fanOutMaxChunks (by decide)
      split_ifs at built with uncopied
      · exact absurd (Bool.and_eq_true_iff.mp uncopied).2 copied
      rw [drained] at built
      obtain ⟨rfl, -⟩ := Prod.mk.inj (Option.some.inj built)
      rw [FanOutFrame.bytes, chunks_eq] at bytes_eq
      have lengths := congrArg List.length bytes_eq
      rw [length_take] at lengths
      have below : (encodeMessageFlat request.message).length % arenaOffsetBound <
          arenaOffsetBound := Nat.mod_lt _ (by decide)
      omega

end FanOutRequest

theorem fits_of_framedFaithfully {arenaThreshold : Nat} {request : FanOutRequest}
    {rest : List FanOutRequest}
    (framed : FramedFaithfully (.withConfigLazy arenaThreshold) (request :: rest)) :
    request.Fits arenaThreshold := by
  obtain ⟨frame, after, built, bytes_eq, ⟨entries_eq, -⟩, -⟩ := framed
  exact FanOutRequest.fits_of_build built bytes_eq entries_eq

/-- A sequence of messages is framed faithfully through one scratch buffer exactly when each of them
fits. -/
theorem framedFaithfully_iff_fits (arenaThreshold : Nat) (requests : List FanOutRequest) :
    FramedFaithfully (.withConfigLazy arenaThreshold) requests ↔
      ∀ request ∈ requests, request.Fits arenaThreshold := by
  induction requests with
  | nil => simp [FramedFaithfully]
  | cons request rest induction =>
    rw [forall_mem_cons, ← induction, FramedFaithfully]
    constructor
    · rintro ⟨frame, after, built, bytes_eq, ⟨entries_eq, clean⟩, later⟩
      have fits := fits_of_framedFaithfully
        ⟨frame, after, built, bytes_eq, ⟨entries_eq, clean⟩, later⟩
      obtain ⟨_, _, again, -, cleared⟩ := FanOutRequest.build_of_fits fits
      obtain ⟨-, rfl⟩ := Prod.mk.inj (Option.some.inj (built.symm.trans again))
      exact ⟨fits, cleared ▸ later⟩
    · rintro ⟨fits, later⟩
      obtain ⟨frame, after, built, bytes_eq, cleared⟩ := FanOutRequest.build_of_fits fits
      refine ⟨frame, after, built, bytes_eq, ?_, cleared.symm ▸ later⟩
      rw [cleared]
      exact ⟨rfl, rfl⟩

/-- A message of 4096 parts of one byte, for one peer. -/
def manyParts : FanOutRequest :=
  ⟨.multi (List.replicate 4096 (.fromBytes [7])), 1, fanOutTotalCopyBudget⟩

/-- The later frames of a message of 4096 parts are missing in its fan-out frame, or stay in the
cleared buffer. -/
theorem framing_cuts_manyParts :
    ¬FramedFaithfully (.withConfigLazy fanOutArenaThreshold) [manyParts] := by
  apply mt (@fits_of_framedFaithfully fanOutArenaThreshold manyParts [])
  have one_byte : (Payload.fromBytes [7]).len = 1 := by decide
  have large : manyParts.message.byteLen = 4096 := by
    simp [-List.reduceReplicate, manyParts, Message.byteLen, one_byte]
  have gathers : manyParts.gathers fanOutArenaThreshold = true := by
    simp [FanOutRequest.gathers, large, fanOutArenaThreshold]
  have counted : chunkCount manyParts.message.partsPayload = 8192 := by
    simp [-List.reduceReplicate, manyParts, Message.partsPayload, chunkCount]
  rw [FanOutRequest.Fits, if_pos gathers, counted]
  decide

end Omq
