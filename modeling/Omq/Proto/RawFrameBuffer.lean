import Omq.Proto.FrameBuffer

/-!
# The frame buffer as it is stored

The code keeps arena offsets in 32 bits and its operations check nothing, apart from assertions of
debug builds.  A `FrameBuffer` forgets its invariant to become a `RawFrameBuffer`.  This commutes
with every operation, as long as the arena is shorter than 2³² bytes whenever a range of it is
committed and nothing but the arena waits whenever bytes are taken out of the arena directly.
-/

namespace Omq

open List Entry

def arenaOffsetBound : Nat := 2 ^ 32

/-- Encoded output waiting to be written, without an invariant. -/
structure RawFrameBuffer where
  entries : List Entry
  totalBytes : Nat
  arena : Bytes
  arenaThreshold : Nat
  arenaMark : Nat

def Entry.slice? (frozen : Option Bytes) : Entry → Option Bytes
  | .arena offset len _ =>
    frozen.bind fun bytes =>
      if offset + len ≤ bytes.length then some ((bytes.drop offset).take len) else none
  | .external bytes _ => some bytes

def Entry.detach? (frozen : Option Bytes) : Entry → Option Entry
  | .arena offset len isProtected =>
    match frozen with
    | none => some (.arena offset len isProtected)
    | some bytes => (slice? (some bytes) (.arena offset len isProtected)).map
        (external · isProtected)
  | .external bytes isProtected => some (.external bytes isProtected)

/-- Data frames for the slices of a message of `count` parts, from an index on. -/
def encodeCounted (pre : Bytes) (count : Nat) : Nat → List Bytes → Bytes
  | _, [] => []
  | index, slice :: rest =>
    writeFrameHeader (decide (index + 1 < count)) (pre.length + slice.length) ++ pre ++ slice ++
      encodeCounted pre count (index + 1) rest

/-- Counting the parts tells which of them is the last. -/
theorem encodeCounted_eq (pre : Bytes) (index : Nat) (slices : List Bytes) :
    encodeCounted pre (index + slices.length) index slices = encodeSlicesFlat pre slices := by
  induction slices generalizing index with
  | nil => rfl
  | cons slice rest induction =>
    have more : decide (index + 1 < index + (slice :: rest).length) = !rest.isEmpty := by
      cases rest <;> simp
    have later : index + (slice :: rest).length = index + 1 + rest.length := by
      rw [length_cons]
      omega
    rw [encodeCounted, encodeSlicesFlat, more, later, induction]

theorem encodeCounted_message (pre : Bytes) (message : Message) :
    encodeCounted pre message.len 0 message.parts = encodeMessagePrefixedFlat pre message := by
  have counted := encodeCounted_eq pre 0 message.parts
  rw [Nat.zero_add, message.length_parts] at counted
  exact counted

namespace RawFrameBuffer

def withConfigLazy (arenaThreshold : Nat) : RawFrameBuffer := ⟨[], 0, [], arenaThreshold, 0⟩

variable (raw : RawFrameBuffer)

def hasArenaOnly : Bool := raw.entries.isEmpty && !raw.arena.isEmpty

/-- The arena range which no entry names yet. -/
def uncommittedArena : Bytes := raw.arena.drop raw.arenaMark

def content : Bytes :=
  (raw.entries.map (resolve raw.arena)).flatten ++ raw.uncommittedArena

def clearArena : RawFrameBuffer :=
  { raw with totalBytes := 0, arena := [], arenaMark := 0 }

/-- Drop written bytes from the arena. -/
def advanceArena (count : Nat) : RawFrameBuffer :=
  if raw.arena.length ≤ count then raw.clearArena
  else { raw with totalBytes := raw.totalBytes - count, arena := raw.arena.drop count }

def takeArenaBytes : Bytes × RawFrameBuffer :=
  (raw.arena, { raw with totalBytes := 0, arena := [], arenaMark := 0 })

def pushPreFramed (data : Bytes) : RawFrameBuffer :=
  { raw with totalBytes := raw.totalBytes + data.length, arena := raw.arena ++ data }

/-- Name the unnamed rest of the arena by an entry; the length of the arena is truncated. -/
def commitArenaRange : RawFrameBuffer :=
  let finish := raw.arena.length % arenaOffsetBound
  if raw.arenaMark < finish then
    { raw with
      entries := raw.entries ++ [.arena raw.arenaMark (finish - raw.arenaMark) false]
      arenaMark := finish }
  else raw

def pushExternal (bytes : Bytes) (isProtected : Bool) : RawFrameBuffer :=
  { raw with
    entries := raw.entries ++ [.external bytes isProtected]
    totalBytes := raw.totalBytes + bytes.length }

variable (message : Message)

def frameInline : RawFrameBuffer :=
  raw.pushPreFramed (encodeCounted [] message.len 0 message.parts)

def framePrefixedInline (pre : Bytes) (message : Message) : RawFrameBuffer :=
  raw.pushPreFramed (encodeCounted pre message.len 0 message.parts)

/-- Frame the parts of a message with external payloads, each behind an optional prefix. -/
def gatherCounted (pre : Option Bytes) (count : Nat) :
    Nat → List Payload → RawFrameBuffer → RawFrameBuffer
  | _, [], raw => raw
  | index, part :: rest, raw =>
    let payloadLen := (pre.getD []).length + part.len
    let raw := (raw.pushPreFramed
      (writeFrameHeader (decide (index + 1 < count)) payloadLen)).commitArenaRange
    let raw := pre.elim raw fun pre => raw.pushExternal pre false
    let raw := if part.asSlice = [] then raw else raw.pushExternal part.asSlice false
    gatherCounted pre count (index + 1) rest raw

def frameGather : RawFrameBuffer :=
  gatherCounted none message.partsPayload.length 0 message.partsPayload raw

def framePrefixedGather (pre : Bytes) (message : Message) : RawFrameBuffer :=
  gatherCounted (some pre) message.partsPayload.length 0 message.partsPayload raw

def frame : RawFrameBuffer :=
  if message.byteLen < raw.arenaThreshold then raw.frameInline message
  else raw.frameGather message

def framePrefixed (pre : Bytes) (message : Message) : RawFrameBuffer :=
  if message.byteLen + pre.length * message.len < raw.arenaThreshold then
    raw.framePrefixedInline pre message
  else raw.framePrefixedGather pre message

/-- Frame a reply behind an empty delimiter. -/
def frameRep : RawFrameBuffer :=
  let raw := raw.pushPreFramed (writeFrameHeader (!message.isEmpty) 0)
  if message.isEmpty then raw
  else gatherCounted none message.partsPayload.length 0 message.partsPayload raw

def frameWs (role : WsRole) (env : Environment) : RawFrameBuffer :=
  raw.pushPreFramed (FrameBuffer.encodeSlicesFlatWs role message.parts env).1

/-- Append external chunks behind everything else. -/
def pushRawWithProtection (chunks : List Bytes) (isProtected : Bool) : RawFrameBuffer :=
  chunks.foldl (fun raw chunk => raw.pushExternal chunk isProtected) raw.commitArenaRange

def pushSharedChunks (chunks : List Bytes) : RawFrameBuffer :=
  chunks.foldl (fun raw chunk => raw.pushExternal chunk false) raw.commitArenaRange

/-- Take at most `maxChunks` chunks off the front, and count the protected ones; `none` when an
entry names a range the arena does not have. -/
def drain (maxChunks : Nat) : Option (List Bytes × Nat × RawFrameBuffer) :=
  let raw := raw.commitArenaRange
  if raw.entries = [] then some ([], 0, raw)
  else do
    let frozen := if raw.arena = [] then none else some raw.arena
    let taken := raw.entries.take maxChunks
    let chunks ← taken.mapM (slice? frozen)
    let kept ← (raw.entries.drop maxChunks).mapM (detach? frozen)
    pure (chunks, (taken.filter protection).length,
      { raw with
        entries := kept
        totalBytes := raw.totalBytes - chunks.flatten.length
        arena := []
        arenaMark := 0 })

/-- The chunks to restore after a partial write. -/
def restored (written : Nat) : Nat → List Bytes → List Bytes
  | _, [] => []
  | consumed, chunk :: rest =>
    if written ≤ consumed then chunk :: restored written consumed rest
    else if consumed + chunk.length ≤ written then
      restored written (consumed + chunk.length) rest
    else chunk.drop (written - consumed) :: restored written written rest

def putBackUnwritten (returned : List Bytes) (written : Nat) : RawFrameBuffer :=
  { raw with
    entries := (restored written 0 returned).map (external · false) ++ raw.entries
    totalBytes := raw.totalBytes + (restored written 0 returned).flatten.length }

end RawFrameBuffer

namespace FrameBuffer

variable (buffer : FrameBuffer)

/-- Forget the invariant. -/
def raw : RawFrameBuffer :=
  ⟨buffer.entries, buffer.totalBytes, buffer.arena, buffer.arenaThreshold, buffer.arenaMark⟩

theorem raw_pushPreFramed (data : Bytes) :
    buffer.raw.pushPreFramed data = (buffer.pushPreFramed data).raw := rfl

theorem raw_frameInline (message : Message) :
    buffer.raw.frameInline message = (buffer.frameInline message).raw := by
  rw [RawFrameBuffer.frameInline, encodeCounted_message]
  rfl

theorem raw_commitArenaRange (fits : buffer.arena.length < arenaOffsetBound) :
    buffer.raw.commitArenaRange = buffer.commitArenaRange.raw := by
  unfold RawFrameBuffer.commitArenaRange commitArenaRange
  simp only [raw, Nat.mod_eq_of_lt fits]
  split_ifs <;> rfl

@[simp]
theorem arena_commitArenaRange : buffer.commitArenaRange.arena = buffer.arena := by
  unfold commitArenaRange
  split_ifs <;> rfl

@[simp]
theorem arena_pushExternal (bytes : Bytes) (isProtected : Bool) :
    (buffer.pushExternal bytes isProtected).arena = buffer.arena :=
  buffer.arena_commitArenaRange

def Committed : Prop := buffer.arenaMark = buffer.arena.length

theorem committed_commitArenaRange : buffer.commitArenaRange.Committed :=
  buffer.arenaMark_commitArenaRange

theorem committed_pushExternal (bytes : Bytes) (isProtected : Bool) :
    (buffer.pushExternal bytes isProtected).Committed :=
  buffer.arenaMark_commitArenaRange

variable {buffer : FrameBuffer}

theorem Committed.raw_pushExternal (committed : buffer.Committed) (bytes : Bytes)
    (isProtected : Bool) :
    buffer.raw.pushExternal bytes isProtected = (buffer.pushExternal bytes isProtected).raw := by
  unfold RawFrameBuffer.pushExternal pushExternal
  simp only [raw, commitArenaRange_of_committed committed]

/-- Chunks follow a committed arena one by one. -/
theorem Committed.raw_foldl (committed : buffer.Committed) (isProtected : Bool)
    (chunks : List Bytes) :
    chunks.foldl (fun raw chunk => raw.pushExternal chunk isProtected) buffer.raw =
      (chunks.foldl (fun buffer chunk => buffer.pushExternal chunk isProtected) buffer).raw := by
  induction chunks generalizing buffer with
  | nil => rfl
  | cons chunk rest induction =>
    rw [foldl_cons, foldl_cons, committed.raw_pushExternal,
      induction (buffer.committed_pushExternal chunk isProtected)]

def pushRawWithProtection (buffer : FrameBuffer) (chunks : List Bytes) (isProtected : Bool) :
    FrameBuffer :=
  chunks.foldl (fun buffer chunk => buffer.pushExternal chunk isProtected) buffer.commitArenaRange

@[simp]
theorem content_pushRawWithProtection (buffer : FrameBuffer) (chunks : List Bytes)
    (isProtected : Bool) :
    (buffer.pushRawWithProtection chunks isProtected).content =
      buffer.content ++ chunks.flatten := by
  have folded (start : FrameBuffer) :
      (chunks.foldl (fun buffer chunk => buffer.pushExternal chunk isProtected) start).content =
        start.content ++ chunks.flatten := by
    induction chunks generalizing start with
    | nil => simp
    | cons chunk rest induction => simp [induction]
  rw [pushRawWithProtection, folded, content_commitArenaRange]

theorem raw_pushRawWithProtection (buffer : FrameBuffer) (chunks : List Bytes)
    (isProtected : Bool) (fits : buffer.arena.length < arenaOffsetBound) :
    buffer.raw.pushRawWithProtection chunks isProtected =
      (buffer.pushRawWithProtection chunks isProtected).raw := by
  rw [RawFrameBuffer.pushRawWithProtection, raw_commitArenaRange buffer fits]
  exact buffer.committed_commitArenaRange.raw_foldl isProtected chunks

theorem raw_pushSharedChunks (buffer : FrameBuffer) (chunks : List Bytes)
    (fits : buffer.arena.length < arenaOffsetBound) :
    buffer.raw.pushSharedChunks chunks = (buffer.pushSharedChunks chunks).raw := by
  rw [RawFrameBuffer.pushSharedChunks, raw_commitArenaRange buffer fits]
  exact buffer.committed_commitArenaRange.raw_foldl false chunks

/-! ## Gathering -/

variable (pre : Option Bytes)

/-- Length of the headers of frames whose payloads are behind a prefix. -/
def headerBytes (parts : List Payload) : Nat :=
  (parts.map fun part => headerLenFor ((pre.getD []).length + part.len)).sum

theorem length_writeFrameHeader (more : Bool) (payloadLen : Nat) :
    (writeFrameHeader more payloadLen).length = headerLenFor payloadLen := by
  unfold writeFrameHeader headerLenFor
  split_ifs <;> simp [maxFrameHeaderLen]

theorem headerBytes_le (parts : List Payload) : headerBytes pre parts ≤ 9 * parts.length := by
  induction parts with
  | nil => exact Nat.le_refl 0
  | cons part rest induction =>
    simp only [headerBytes, map_cons, sum_cons, length_cons] at induction ⊢
    have header : headerLenFor ((pre.getD []).length + part.len) ≤ 9 := by
      unfold headerLenFor maxFrameHeaderLen
      split_ifs <;> omega
    omega

/-- Counting the parts of a message tells which of them is the last, and as long as the headers fit
into the arena nothing is truncated. -/
theorem raw_gatherParts (index : Nat) (parts : List Payload) (buffer : FrameBuffer)
    (fits : parts ≠ [] → buffer.arena.length + headerBytes pre parts < arenaOffsetBound) :
    RawFrameBuffer.gatherCounted pre (index + parts.length) index parts buffer.raw =
      (gatherParts pre parts buffer).raw := by
  induction parts generalizing buffer index with
  | nil => rfl
  | cons part rest induction =>
    have more : decide (index + 1 < index + (part :: rest).length) = !rest.isEmpty := by
      cases rest <;> simp
    have later : index + (part :: rest).length = index + 1 + rest.length := by
      rw [length_cons]
      omega
    rw [RawFrameBuffer.gatherCounted, gatherParts, more, later]
    let header := writeFrameHeader (!rest.isEmpty) ((pre.getD []).length + part.len)
    have room : (buffer.pushPreFramed header).arena.length + headerBytes pre rest <
        arenaOffsetBound := by
      have fits := fits (cons_ne_nil part rest)
      simp only [headerBytes, map_cons, sum_cons] at fits
      simp only [pushPreFramed, length_append, header, length_writeFrameHeader, headerBytes]
      omega
    let framed := (buffer.pushPreFramed header).commitArenaRange
    have framed_raw : (buffer.raw.pushPreFramed header).commitArenaRange = framed.raw := by
      rw [raw_pushPreFramed, raw_commitArenaRange _ (by omega)]
    let prefixed := pre.elim framed fun pre => framed.pushExternal pre false
    have committed : prefixed.Committed := by
      cases pre with
      | none => exact committed_commitArenaRange _
      | some pre => exact framed.committed_pushExternal pre false
    have prefixed_raw : (pre.elim framed.raw fun pre => framed.raw.pushExternal pre false) =
        prefixed.raw := by
      cases pre with
      | none => rfl
      | some pre => exact (committed_commitArenaRange _).raw_pushExternal pre false
    have prefixed_arena : prefixed.arena = (buffer.pushPreFramed header).arena := by
      cases pre <;> simp [prefixed, framed]
    simp only [header] at framed_raw
    simp only [framed_raw]
    rw [prefixed_raw]
    by_cases empty : part.asSlice = []
    · rw [if_pos empty, if_pos empty]
      exact induction _ prefixed fun _ => by rw [prefixed_arena]; exact room
    · rw [if_neg empty, if_neg empty, committed.raw_pushExternal]
      exact induction _ (prefixed.pushExternal part.asSlice false)
        fun _ => by rw [arena_pushExternal, prefixed_arena]; exact room

theorem raw_frameGather (buffer : FrameBuffer) (message : Message)
    (fits : message.partsPayload ≠ [] →
      buffer.arena.length + headerBytes none message.partsPayload < arenaOffsetBound) :
    buffer.raw.frameGather message = (buffer.frameGather message).raw := by
  have gathered := raw_gatherParts none 0 message.partsPayload buffer fits
  rw [Nat.zero_add] at gathered
  exact gathered

def framePrefixedGather (buffer : FrameBuffer) (pre : Bytes) (message : Message) : FrameBuffer :=
  gatherParts (some pre) message.partsPayload buffer

theorem raw_framePrefixedGather (buffer : FrameBuffer) (pre : Bytes) (message : Message)
    (fits : message.partsPayload ≠ [] →
      buffer.arena.length + headerBytes (some pre) message.partsPayload < arenaOffsetBound) :
    buffer.raw.framePrefixedGather pre message = (buffer.framePrefixedGather pre message).raw := by
  have gathered := raw_gatherParts (some pre) 0 message.partsPayload buffer fits
  rw [Nat.zero_add] at gathered
  exact gathered

def framePrefixedInline (buffer : FrameBuffer) (pre : Bytes) (message : Message) : FrameBuffer :=
  buffer.pushPreFramed (encodeMessagePrefixedFlat pre message)

theorem raw_frame (buffer : FrameBuffer) (message : Message)
    (fits : buffer.arenaThreshold ≤ message.byteLen → message.partsPayload ≠ [] →
      buffer.arena.length + headerBytes none message.partsPayload < arenaOffsetBound) :
    buffer.raw.frame message = (buffer.frame message).raw := by
  unfold frame
  split_ifs with small
  · exact (if_pos small).trans (buffer.raw_frameInline message)
  · exact (if_neg small).trans (buffer.raw_frameGather message (fits (not_lt.mp small)))

theorem raw_framePrefixedInline (buffer : FrameBuffer) (pre : Bytes) (message : Message) :
    buffer.raw.framePrefixedInline pre message = (buffer.framePrefixedInline pre message).raw := by
  rw [RawFrameBuffer.framePrefixedInline, encodeCounted_message]
  rfl

theorem raw_framePrefixed (buffer : FrameBuffer) (pre : Bytes) (message : Message)
    (fits : buffer.arenaThreshold ≤ message.byteLen + pre.length * message.len →
      message.partsPayload ≠ [] →
        buffer.arena.length + headerBytes (some pre) message.partsPayload < arenaOffsetBound) :
    buffer.raw.framePrefixed pre message = (buffer.framePrefixed pre message).raw := by
  unfold framePrefixed
  split_ifs with small
  · exact (if_pos small).trans (buffer.raw_framePrefixedInline pre message)
  · exact (if_neg small).trans (buffer.raw_framePrefixedGather pre message (fits (not_lt.mp small)))

def frameRep (buffer : FrameBuffer) (message : Message) : FrameBuffer :=
  gatherParts none message.partsPayload
    (buffer.pushPreFramed (writeFrameHeader (!message.partsPayload.isEmpty) 0))

theorem raw_frameRep (buffer : FrameBuffer) {message : Message} (built : message.Built)
    (fits : message.partsPayload ≠ [] →
      buffer.arena.length + 2 + headerBytes none message.partsPayload < arenaOffsetBound) :
    buffer.raw.frameRep message = (buffer.frameRep message).raw := by
  have empty_iff : message.isEmpty = message.partsPayload.isEmpty := by
    rw [Bool.eq_iff_iff, built.isEmpty_iff, List.isEmpty_iff, message.partsPayload_eq_nil_iff]
  have delimiter : (writeFrameHeader (!message.isEmpty) 0).length = 2 := by
    rw [length_writeFrameHeader]
    rfl
  have gathered := raw_gatherParts none 0 message.partsPayload
    (buffer.pushPreFramed (writeFrameHeader (!message.isEmpty) 0))
    (by simpa [pushPreFramed, delimiter, Nat.add_assoc] using fits)
  rw [Nat.zero_add] at gathered
  simp only [RawFrameBuffer.frameRep, raw_pushPreFramed, gathered]
  rw [frameRep, empty_iff]
  cases parts : message.partsPayload <;> rfl

/-- A reply goes out behind an empty part. -/
theorem content_frameRep (buffer : FrameBuffer) (message : Message) :
    (buffer.frameRep message).content =
      buffer.content ++ encodeSlicesFlat [] ([] :: message.parts) := by
  rw [frameRep, content_gatherParts, content_pushPreFramed, message.parts_partsPayload,
    encodeSlicesFlat, ← message.parts_partsPayload, isEmpty_map]
  simp

theorem content_framePrefixedGather (buffer : FrameBuffer) (pre : Bytes) (message : Message) :
    (buffer.framePrefixedGather pre message).content =
      buffer.content ++ encodeMessagePrefixedFlat pre message := by
  rw [framePrefixedGather, content_gatherParts, message.parts_partsPayload]
  rfl

theorem content_frameGather (buffer : FrameBuffer) (message : Message) :
    (buffer.frameGather message).content = buffer.content ++ encodeMessageFlat message := by
  rw [frameGather, content_gatherParts, message.parts_partsPayload]
  rfl

/-! ## Taking bytes off the front -/

theorem raw_clearArena (empty : buffer.entries = []) :
    buffer.raw.clearArena = buffer.clearArena.raw := by
  simp [RawFrameBuffer.clearArena, raw, clearArena, withConfigLazy, empty]

theorem raw_advanceArena (buffer : FrameBuffer) (count : Nat) (empty : buffer.entries = []) :
    buffer.raw.advanceArena count = (buffer.advanceArena count empty).raw := by
  unfold RawFrameBuffer.advanceArena advanceArena
  by_cases whole : buffer.arena.length ≤ count
  · rw [if_pos whole]
    exact (if_pos whole).trans (raw_clearArena empty)
  · rw [if_neg whole]
    exact if_neg whole

end FrameBuffer

/-- The entry names at least one byte, if it names a range of the arena. -/
def Entry.Proper : Entry → Prop
  | .arena _ len _ => 0 < len
  | .external _ _ => True

/-- Reading a proper entry never fails. -/
theorem Entry.Proper.slice?_eq {entry : Entry} {bytes : Bytes} (proper : entry.Proper)
    (within : entry.Within bytes.length) :
    entry.slice? (if bytes = [] then none else some bytes) = some (entry.resolve bytes) := by
  cases entry with
  | external data isProtected => rfl
  | arena offset len isProtected =>
    have nonempty : bytes ≠ [] := by
      rintro rfl
      have bounded : offset + len ≤ 0 := within
      have positive : 0 < len := proper
      omega
    have bounded : offset + len ≤ bytes.length := within
    rw [if_neg nonempty]
    simp [slice?, resolve, bounded]

theorem Entry.Proper.detach?_eq {entry : Entry} {bytes : Bytes} (proper : entry.Proper)
    (within : entry.Within bytes.length) :
    entry.detach? (if bytes = [] then none else some bytes) = some (entry.detach bytes) := by
  cases entry with
  | external data isProtected => rfl
  | arena offset len isProtected =>
    have sliced := proper.slice?_eq within
    split_ifs at sliced ⊢ with empty
    · simp [slice?] at sliced
    · simp [detach?, sliced, detach, protection]

theorem Entry.mapM_eq {result : Type} {read : Entry → Option result} {value : Entry → result}
    {entries : List Entry} (reads : ∀ entry ∈ entries, read entry = some (value entry)) :
    entries.mapM read = some (entries.map value) := by
  induction entries with
  | nil => rfl
  | cons entry rest induction =>
    rw [mapM_cons, reads entry mem_cons_self,
      induction fun later member => reads later (mem_cons_of_mem entry member)]
    rfl

namespace FrameBuffer

variable (buffer : FrameBuffer)

/-- No entry names an empty range of the arena. -/
def Proper : Prop := ∀ entry ∈ buffer.entries, entry.Proper

namespace Proper

variable {buffer : FrameBuffer}

theorem commitArenaRange (proper : buffer.Proper) : buffer.commitArenaRange.Proper := by
  unfold FrameBuffer.commitArenaRange
  split_ifs with pending
  · exact forall_mem_append.mpr ⟨proper, forall_mem_singleton.mpr (Nat.sub_pos_of_lt pending)⟩
  · exact proper

theorem pushExternal (proper : buffer.Proper) (bytes : Bytes) (isProtected : Bool) :
    (buffer.pushExternal bytes isProtected).Proper :=
  forall_mem_append.mpr ⟨proper.commitArenaRange, forall_mem_singleton.mpr trivial⟩

theorem pushPreFramed (proper : buffer.Proper) (data : Bytes) :
    (buffer.pushPreFramed data).Proper := proper

theorem gatherParts (pre : Option Bytes) (parts : List Payload) (proper : buffer.Proper) :
    (gatherParts pre parts buffer).Proper := by
  induction parts generalizing buffer with
  | nil => exact proper
  | cons part rest induction =>
    rw [FrameBuffer.gatherParts]
    apply induction
    have framed := (proper.pushPreFramed (writeFrameHeader (!rest.isEmpty)
      ((pre.getD []).length + part.len))).commitArenaRange
    cases pre with
    | none =>
      split_ifs
      · exact framed
      · exact framed.pushExternal part.asSlice false
    | some pre =>
      have prefixed := framed.pushExternal pre false
      split_ifs
      · exact prefixed
      · exact prefixed.pushExternal part.asSlice false

theorem frame (proper : buffer.Proper) (message : Message) : (buffer.frame message).Proper := by
  unfold FrameBuffer.frame
  split_ifs
  · exact proper
  · exact proper.gatherParts none message.partsPayload

theorem framePrefixed (proper : buffer.Proper) (pre : Bytes) (message : Message) :
    (buffer.framePrefixed pre message).Proper := by
  unfold FrameBuffer.framePrefixed
  split_ifs
  · exact proper
  · exact proper.gatherParts (some pre) message.partsPayload

theorem advanceArena (proper : buffer.Proper) (count : Nat) (empty : buffer.entries = []) :
    (buffer.advanceArena count empty).Proper := by
  unfold FrameBuffer.advanceArena
  split_ifs
  · intro entry member
    cases member
  · exact proper

theorem foldl (proper : buffer.Proper) (isProtected : Bool) (chunks : List Bytes) :
    (chunks.foldl (fun buffer chunk => buffer.pushExternal chunk isProtected) buffer).Proper := by
  induction chunks generalizing buffer with
  | nil => exact proper
  | cons chunk rest induction => exact induction (proper.pushExternal chunk isProtected)

theorem dropFront (buffer : FrameBuffer) (maxChunks : Nat) :
    (buffer.dropFront maxChunks).Proper := by
  intro entry member
  obtain ⟨kept, _, rfl⟩ := mem_map.mp member
  trivial

theorem putBackUnwritten (proper : buffer.Proper) (returned : List Bytes) (written : Nat) :
    (buffer.putBackUnwritten returned written).Proper :=
  forall_mem_append.mpr ⟨forall_mem_map.mpr fun _ _ => trivial, proper⟩

end Proper

@[simp]
theorem totalBytes_commitArenaRange : buffer.commitArenaRange.totalBytes = buffer.totalBytes := by
  unfold commitArenaRange
  split_ifs <;> rfl

@[simp]
theorem arenaThreshold_commitArenaRange :
    buffer.commitArenaRange.arenaThreshold = buffer.arenaThreshold := by
  unfold commitArenaRange
  split_ifs <;> rfl

theorem length_commitArenaRange_le :
    buffer.commitArenaRange.entries.length ≤ buffer.entries.length + 1 := by
  unfold commitArenaRange
  split_ifs <;> simp

theorem Committed.arena_eq_nil {buffer : FrameBuffer} (committed : buffer.Committed)
    (empty : buffer.entries = []) : buffer.arena = [] := by
  rw [← length_eq_zero_iff, ← committed, buffer.unmarked empty]

/-- A drain of a proper buffer never fails. -/
theorem Proper.raw_drain {buffer : FrameBuffer} (proper : buffer.Proper) (maxChunks : Nat)
    (fits : buffer.arena.length < arenaOffsetBound) :
    buffer.raw.drain maxChunks = some ((buffer.drain maxChunks).1, (buffer.drain maxChunks).2.1,
      (buffer.drain maxChunks).2.2.raw) := by
  let committed := buffer.commitArenaRange
  have settled : committed.Committed := buffer.committed_commitArenaRange
  have named (entry : Entry) (member : entry ∈ committed.entries) :
      entry.Proper ∧ entry.Within committed.arena.length :=
    ⟨proper.commitArenaRange entry member, settled ▸ committed.within entry member⟩
  have after_eq : (buffer.drain maxChunks).2.2.raw =
      ⟨(committed.entries.drop maxChunks).map (detach committed.arena),
        buffer.totalBytes - (committed.front maxChunks).flatten.length, [],
        buffer.arenaThreshold, 0⟩ := rfl
  have total_eq : committed.raw.totalBytes = buffer.totalBytes := buffer.totalBytes_commitArenaRange
  have threshold_eq : committed.raw.arenaThreshold = buffer.arenaThreshold :=
    buffer.arenaThreshold_commitArenaRange
  rw [after_eq, RawFrameBuffer.drain, raw_commitArenaRange buffer fits]
  by_cases empty : committed.entries = []
  · have cleared : committed.raw =
        ⟨[], buffer.totalBytes, [], buffer.arenaThreshold, 0⟩ := by
      rw [← total_eq, ← threshold_eq, raw, empty, settled.arena_eq_nil empty,
        committed.unmarked empty]
    simp only [committed] at cleared empty
    simp [committed, cleared, empty, drain, front]
  · have chunks_eq := mapM_eq fun entry (member : entry ∈ committed.entries.take maxChunks) =>
      (named entry (mem_of_mem_take member)).1.slice?_eq (named entry (mem_of_mem_take member)).2
    have kept_eq := mapM_eq fun entry (member : entry ∈ committed.entries.drop maxChunks) =>
      (named entry (mem_of_mem_drop member)).1.detach?_eq (named entry (mem_of_mem_drop member)).2
    have frozen_eq : committed.raw.arena = committed.arena := rfl
    have entries_eq : committed.raw.entries = committed.entries := rfl
    simp only [committed] at empty chunks_eq kept_eq frozen_eq entries_eq total_eq threshold_eq
    simp only [frozen_eq, entries_eq, if_neg empty, chunks_eq, kept_eq, total_eq,
      threshold_eq, Option.bind_eq_bind, Option.bind_some, Option.pure_def]
    rfl

/-- The code counts what was written, the model what is still to skip. -/
theorem restored_eq (written consumed : Nat) (returned : List Bytes) :
    RawFrameBuffer.restored written consumed returned =
      unwritten returned (written - consumed) := by
  induction returned generalizing consumed with
  | nil => rfl
  | cons chunk rest induction =>
    rw [RawFrameBuffer.restored, unwritten]
    by_cases done : written ≤ consumed
    · rw [if_pos done, if_pos (Nat.sub_eq_zero_of_le done), induction, Nat.sub_eq_zero_of_le done]
    · have pending : written - consumed ≠ 0 := by omega
      rw [if_neg done, if_neg pending]
      by_cases whole : consumed + chunk.length ≤ written
      · have skipped : chunk.length ≤ written - consumed := by omega
        rw [if_pos whole, if_pos skipped, induction, Nat.sub_sub]
      · have cut : ¬chunk.length ≤ written - consumed := by omega
        rw [if_neg whole, if_neg cut, induction, Nat.sub_self]

theorem raw_putBackUnwritten (returned : List Bytes) (written : Nat) :
    buffer.raw.putBackUnwritten returned written =
      (buffer.putBackUnwritten returned written).raw := by
  unfold RawFrameBuffer.putBackUnwritten putBackUnwritten
  simp only [raw, restored_eq, Nat.sub_zero, Nat.add_comm]

end FrameBuffer

end Omq
