import Omq.Proto.WsCodec

/-!
# The frame buffer

Encoded output waiting for one gather-write.  Headers and small messages share an arena; large
payloads stay external.  Entries name ranges of the arena until a drain resolves them.  The buffer
stands for the byte string `content`: framing appends to it, draining takes chunks off its front,
and putting back what a partial write left restores it.
-/

namespace Omq

open Function List

/-- One entry of the encoded output. -/
inductive Entry
  | arena (offset len : Nat) (isProtected : Bool)
  | external (bytes : Bytes) (isProtected : Bool)

namespace Entry

/-- Whether eviction must keep the entry. -/
def protection : Entry → Bool
  | .arena _ _ isProtected => isProtected
  | .external _ isProtected => isProtected

def resolve (arena : Bytes) : Entry → Bytes
  | .arena offset len _ => (arena.drop offset).take len
  | .external bytes _ => bytes

def Within (mark : Nat) : Entry → Prop
  | .arena offset len _ => offset + len ≤ mark
  | .external _ _ => True

def detach (arena : Bytes) (entry : Entry) : Entry :=
  .external (entry.resolve arena) entry.protection

theorem Within.mono {entry : Entry} {mark later : Nat} (within : entry.Within mark)
    (grows : mark ≤ later) : entry.Within later := by
  cases entry with
  | arena offset len isProtected => exact Nat.le_trans within grows
  | external bytes isProtected => trivial

/-- Appending to the arena does not change the entries below the mark. -/
theorem resolve_append {entry : Entry} {arena : Bytes} {mark : Nat} (within : entry.Within mark)
    (mark_le : mark ≤ arena.length) (data : Bytes) :
    entry.resolve (arena ++ data) = entry.resolve arena := by
  cases entry with
  | external bytes isProtected => rfl
  | arena offset len isProtected =>
    have range_le : offset + len ≤ mark := within
    have offset_le : offset ≤ arena.length := by omega
    have len_le : len ≤ (arena.drop offset).length := by
      rw [length_drop]
      omega
    rw [resolve, resolve, drop_append_of_le_length offset_le, take_append_of_le_length len_le]

@[simp]
theorem resolve_detach (entry : Entry) (arena later : Bytes) :
    (entry.detach arena).resolve later = entry.resolve arena := rfl

theorem within_of_mem_detach {arena : Bytes} {entries : List Entry} (mark : Nat) :
    ∀ entry ∈ entries.map (detach arena), entry.Within mark := by
  intro entry member
  obtain ⟨kept, _, rfl⟩ := mem_map.mp member
  trivial

end Entry

/-- Encoded output waiting to be written. -/
structure FrameBuffer where
  entries : List Entry
  totalBytes : Nat
  /-- Headers and small messages. -/
  arena : Bytes
  /-- Messages below this size go to the arena. -/
  arenaThreshold : Nat
  /-- Start of the arena range which no entry names yet. -/
  arenaMark : Nat
  mark_le : arenaMark ≤ arena.length
  within : ∀ entry ∈ entries, entry.Within arenaMark
  unmarked : entries = [] → arenaMark = 0
  total_eq : totalBytes =
    ((entries.map (Entry.resolve arena)).flatten ++ arena.drop arenaMark).length

namespace FrameBuffer

variable (buffer : FrameBuffer)

/-- The bytes waiting to be written. -/
def content : Bytes :=
  (buffer.entries.map (Entry.resolve buffer.arena)).flatten ++ buffer.arena.drop buffer.arenaMark

theorem length_content : buffer.content.length = buffer.totalBytes :=
  buffer.total_eq.symm

theorem mark_le_nil : 0 ≤ ([] : Bytes).length := Nat.le_refl 0

theorem total_nil :
    0 = ((([] : List Entry).map (Entry.resolve [])).flatten ++ ([] : Bytes).drop 0).length := rfl

def withConfigLazy (arenaThreshold : Nat) : FrameBuffer :=
  ⟨[], 0, [], arenaThreshold, 0, mark_le_nil, forall_mem_nil _, fun _ => rfl, total_nil⟩

@[simp]
theorem content_withConfigLazy (arenaThreshold : Nat) :
    (withConfigLazy arenaThreshold).content = [] := rfl

def isEmpty : Bool :=
  buffer.entries.isEmpty && buffer.arena.length == buffer.arenaMark

def hasArenaOnly : Bool := buffer.entries.isEmpty && !buffer.arena.isEmpty

theorem content_of_entries_nil {buffer : FrameBuffer} (empty : buffer.entries = []) :
    buffer.content = buffer.arena := by
  simp [content, empty, buffer.unmarked empty]

/-- Appending to the arena does not change what the entries stand for. -/
theorem map_resolve_append (data : Bytes) :
    buffer.entries.map (Entry.resolve (buffer.arena ++ data)) =
      buffer.entries.map (Entry.resolve buffer.arena) :=
  map_congr_left fun entry member =>
    Entry.resolve_append (buffer.within entry member) buffer.mark_le data

def pushPreFramed (data : Bytes) : FrameBuffer where
  entries := buffer.entries
  totalBytes := buffer.totalBytes + data.length
  arena := buffer.arena ++ data
  arenaThreshold := buffer.arenaThreshold
  arenaMark := buffer.arenaMark
  mark_le := by
    rw [length_append]
    exact Nat.le_add_right_of_le buffer.mark_le
  within := buffer.within
  unmarked := buffer.unmarked
  total_eq := by
    rw [buffer.map_resolve_append, drop_append_of_le_length buffer.mark_le,
      ← append_assoc, length_append, ← buffer.total_eq]

@[simp]
theorem content_pushPreFramed (data : Bytes) :
    (buffer.pushPreFramed data).content = buffer.content ++ data := by
  simp only [content, pushPreFramed, buffer.map_resolve_append]
  rw [drop_append_of_le_length buffer.mark_le, append_assoc]

/-- Name the unnamed rest of the arena by an entry, so that external entries can follow. -/
def commitArenaRange : FrameBuffer :=
  if pending : buffer.arenaMark < buffer.arena.length then
    { entries := buffer.entries ++
        [.arena buffer.arenaMark (buffer.arena.length - buffer.arenaMark) false]
      totalBytes := buffer.totalBytes
      arena := buffer.arena
      arenaThreshold := buffer.arenaThreshold
      arenaMark := buffer.arena.length
      mark_le := Nat.le_refl _
      within := by
        intro entry member
        obtain old | new := mem_append.mp member
        · exact (buffer.within entry old).mono buffer.mark_le
        · rw [mem_singleton.mp new]
          exact (Nat.add_sub_cancel' buffer.mark_le).le
      unmarked := by simp
      total_eq := by
        rw [buffer.total_eq]
        simp [Entry.resolve, take_of_length_le] }
  else buffer

@[simp]
theorem content_commitArenaRange : buffer.commitArenaRange.content = buffer.content := by
  unfold commitArenaRange
  split
  · simp [content, Entry.resolve, take_of_length_le]
  · rfl

theorem arenaMark_commitArenaRange :
    buffer.commitArenaRange.arenaMark = buffer.commitArenaRange.arena.length := by
  unfold commitArenaRange
  split
  · rfl
  next settled => exact Nat.le_antisymm buffer.mark_le (not_lt.mp settled)

/-- Append an external chunk behind everything else. -/
def pushExternal (bytes : Bytes) (isProtected : Bool) : FrameBuffer where
  entries := buffer.commitArenaRange.entries ++ [.external bytes isProtected]
  totalBytes := buffer.commitArenaRange.totalBytes + bytes.length
  arena := buffer.commitArenaRange.arena
  arenaThreshold := buffer.commitArenaRange.arenaThreshold
  arenaMark := buffer.commitArenaRange.arenaMark
  mark_le := buffer.commitArenaRange.mark_le
  within := by
    intro entry member
    obtain old | new := mem_append.mp member
    · exact buffer.commitArenaRange.within entry old
    · rw [mem_singleton.mp new]
      trivial
  unmarked := by simp
  total_eq := by
    rw [buffer.commitArenaRange.total_eq, buffer.arenaMark_commitArenaRange]
    simp [Entry.resolve]

@[simp]
theorem content_pushExternal (bytes : Bytes) (isProtected : Bool) :
    (buffer.pushExternal bytes isProtected).content = buffer.content ++ bytes := by
  rw [← buffer.content_commitArenaRange]
  simp [content, pushExternal, buffer.arenaMark_commitArenaRange, Entry.resolve]

def pushSharedChunks (chunks : List Bytes) : FrameBuffer :=
  chunks.foldl (fun buffer chunk => buffer.pushExternal chunk false) buffer.commitArenaRange

@[simp]
theorem content_pushSharedChunks (chunks : List Bytes) :
    (buffer.pushSharedChunks chunks).content = buffer.content ++ chunks.flatten := by
  have folded (start : FrameBuffer) :
      (chunks.foldl (fun buffer chunk => buffer.pushExternal chunk false) start).content =
        start.content ++ chunks.flatten := by
    induction chunks generalizing start with
    | nil => simp
    | cons chunk rest induction => simp [induction]
  rw [pushSharedChunks, folded, content_commitArenaRange]

/-! ## Framing -/

/-- Frame the parts of a message with external payloads, each behind an optional prefix. -/
def gatherParts (pre : Option Bytes) : List Payload → FrameBuffer → FrameBuffer
  | [], buffer => buffer
  | part :: rest, buffer =>
    let payloadLen := (pre.getD []).length + part.len
    let buffer := (buffer.pushPreFramed
      (writeFrameHeader (!rest.isEmpty) payloadLen)).commitArenaRange
    let buffer := pre.elim buffer fun pre => buffer.pushExternal pre false
    let buffer := if part.asSlice = [] then buffer else buffer.pushExternal part.asSlice false
    gatherParts pre rest buffer

variable (message : Message)

def frameInline : FrameBuffer :=
  buffer.pushPreFramed (encodeMessageFlat message)

def frameGather : FrameBuffer :=
  gatherParts none message.partsPayload buffer

def frame : FrameBuffer :=
  if message.byteLen < buffer.arenaThreshold then buffer.frameInline message
  else buffer.frameGather message

def framePrefixed (pre : Bytes) (message : Message) : FrameBuffer :=
  if message.byteLen + pre.length * message.len < buffer.arenaThreshold then
    buffer.pushPreFramed (encodeMessagePrefixedFlat pre message)
  else gatherParts (some pre) message.partsPayload buffer

theorem content_gatherParts (pre : Option Bytes) (parts : List Payload) (buffer : FrameBuffer) :
    (gatherParts pre parts buffer).content =
      buffer.content ++ encodeSlicesFlat (pre.getD []) (parts.map Payload.asSlice) := by
  induction parts generalizing buffer with
  | nil => simp [gatherParts, encodeSlicesFlat]
  | cons part rest ih =>
    rw [gatherParts, ih]
    cases pre <;> by_cases empty : part.asSlice = [] <;>
      simp [encodeSlicesFlat, empty, ← Payload.length_asSlice]

@[simp]
theorem content_frame :
    (buffer.frame message).content = buffer.content ++ encodeMessageFlat message := by
  unfold frame
  split
  · exact content_pushPreFramed buffer _
  · rw [frameGather, content_gatherParts, Message.parts_partsPayload]
    rfl

@[simp]
theorem content_framePrefixed (pre : Bytes) (message : Message) :
    (buffer.framePrefixed pre message).content =
      buffer.content ++ encodeMessagePrefixedFlat pre message := by
  unfold framePrefixed
  split
  · exact content_pushPreFramed buffer _
  · rw [content_gatherParts, Message.parts_partsPayload]
    rfl

/-! ## WebSocket framing -/

/-- WebSocket binary frames for the given slices, each behind its ZWS flag. -/
def encodeSlicesFlatWs (role : WsRole) : List Bytes → Environment → Bytes × Environment
  | [], env => ([], env)
  | slice :: rest, env =>
    let flag := flagsToZws (if rest.isEmpty then .last else .moreData)
    match encodeWsHeader .binary (1 + slice.length) role env with
    | (header, mask, env) =>
      let mask := mask.getD [0, 0, 0, 0]
      let (later, env) := encodeSlicesFlatWs role rest env
      (header ++ [flag ^^^ mask.getD 0 0] ++ applyMaskOffset slice mask 1 ++ later, env)

/-- Frame a message for a WebSocket peer; a client masks its frames. -/
def frameWs (role : WsRole) (env : Environment) : FrameBuffer × Environment :=
  let (data, env) := encodeSlicesFlatWs role message.parts env
  (buffer.pushPreFramed data, env)

/-! ## Taking bytes off the front -/

/-- Forget the arena, which holds everything that waits. -/
def clearArena : FrameBuffer := withConfigLazy buffer.arenaThreshold

/-- Drop written bytes from an arena which holds everything that waits. -/
def advanceArena (count : Nat) (empty : buffer.entries = []) : FrameBuffer :=
  if buffer.arena.length ≤ count then buffer.clearArena
  else
    { entries := buffer.entries
      totalBytes := buffer.totalBytes - count
      arena := buffer.arena.drop count
      arenaThreshold := buffer.arenaThreshold
      arenaMark := buffer.arenaMark
      mark_le := by simp [buffer.unmarked empty]
      within := buffer.within
      unmarked := buffer.unmarked
      total_eq := by
        rw [buffer.total_eq, empty, buffer.unmarked empty]
        simp }

theorem content_advanceArena (count : Nat) (empty : buffer.entries = []) :
    (buffer.advanceArena count empty).content = buffer.content.drop count := by
  rw [content_of_entries_nil empty]
  unfold advanceArena
  split
  next whole =>
    rw [drop_eq_nil_of_le whole]
    rfl
  · simp [content, empty, buffer.unmarked empty]

variable (maxChunks : Nat)

/-- The chunks of the first entries. -/
def front : List Bytes :=
  (buffer.entries.take maxChunks).map (Entry.resolve buffer.arena)

/-- A committed buffer is its first chunks and the later ones. -/
theorem front_append :
    (buffer.commitArenaRange.front maxChunks).flatten ++
        ((buffer.commitArenaRange.entries.drop maxChunks).map
          (Entry.resolve buffer.commitArenaRange.arena)).flatten =
      buffer.content := by
  rw [← buffer.content_commitArenaRange, content, buffer.arenaMark_commitArenaRange, drop_length,
    append_nil, front, ← flatten_append, ← map_append, take_append_drop]

theorem length_dropFront :
    buffer.totalBytes - (buffer.commitArenaRange.front maxChunks).flatten.length =
      ((((buffer.commitArenaRange.entries.drop maxChunks).map
        (Entry.detach buffer.commitArenaRange.arena)).map (Entry.resolve [])).flatten ++
          ([] : Bytes).drop 0).length := by
  rw [← buffer.length_content, ← buffer.front_append maxChunks, length_append,
    Nat.add_sub_cancel_left, map_map]
  simp [comp_def]

/-- Keep all but the first chunks; what stays no longer refers to the arena. -/
def dropFront : FrameBuffer where
  entries := (buffer.commitArenaRange.entries.drop maxChunks).map
    (Entry.detach buffer.commitArenaRange.arena)
  totalBytes := buffer.totalBytes - (buffer.commitArenaRange.front maxChunks).flatten.length
  arena := []
  arenaThreshold := buffer.arenaThreshold
  arenaMark := 0
  mark_le := mark_le_nil
  within := Entry.within_of_mem_detach 0
  unmarked := fun _ => rfl
  total_eq := buffer.length_dropFront maxChunks

/-- Take at most `maxChunks` chunks off the front, and count the protected ones. -/
def drain : List Bytes × Nat × FrameBuffer :=
  (buffer.commitArenaRange.front maxChunks,
    ((buffer.commitArenaRange.entries.take maxChunks).filter Entry.protection).length,
    buffer.dropFront maxChunks)

/-- A drain takes a front part of the content. -/
theorem drain_append :
    (buffer.drain maxChunks).1.flatten ++ (buffer.drain maxChunks).2.2.content =
      buffer.content := by
  rw [← buffer.front_append maxChunks]
  simp [drain, dropFront, content, map_map, comp_def]

/-- The chunks a partial write left, the first of them cut. -/
def unwritten : (returned : List Bytes) → (written : Nat) → List Bytes
  | [], _ => []
  | chunk :: rest, written =>
    if written = 0 then chunk :: unwritten rest 0
    else if chunk.length ≤ written then unwritten rest (written - chunk.length)
    else chunk.drop written :: unwritten rest 0

variable (returned : List Bytes)

theorem flatten_unwritten (written : Nat) :
    (unwritten returned written).flatten = returned.flatten.drop written := by
  induction returned generalizing written with
  | nil => simp [unwritten]
  | cons chunk rest ih =>
    rw [unwritten]
    split_ifs with zero whole
    · simp [zero, ih]
    · rw [ih, flatten_cons, drop_append, drop_eq_nil_of_le whole, nil_append]
    · rw [flatten_cons, ih, drop_zero, flatten_cons,
        drop_append_of_le_length (Nat.le_of_not_le whole)]

/-- Put back what a partial write of drained chunks left. -/
def putBackUnwritten (written : Nat) : FrameBuffer where
  entries := (unwritten returned written).map (Entry.external · false) ++ buffer.entries
  totalBytes := (unwritten returned written).flatten.length + buffer.totalBytes
  arena := buffer.arena
  arenaThreshold := buffer.arenaThreshold
  arenaMark := buffer.arenaMark
  mark_le := buffer.mark_le
  within := by
    intro entry member
    obtain new | old := mem_append.mp member
    · obtain ⟨chunk, _, rfl⟩ := mem_map.mp new
      trivial
    · exact buffer.within entry old
  unmarked := fun empty => buffer.unmarked (append_eq_nil_iff.mp empty).2
  total_eq := by
    rw [buffer.total_eq, map_append, flatten_append, append_assoc, length_append, map_map]
    simp [comp_def, Entry.resolve]

@[simp]
theorem content_putBackUnwritten (written : Nat) :
    (buffer.putBackUnwritten returned written).content =
      returned.flatten.drop written ++ buffer.content := by
  rw [← flatten_unwritten]
  simp [content, putBackUnwritten, comp_def, Entry.resolve]

/-! ## Eviction -/

/-- The chunks a drain without a limit would take. -/
def chunks : List Bytes :=
  buffer.commitArenaRange.entries.map (Entry.resolve buffer.commitArenaRange.arena)

theorem flatten_chunks : buffer.chunks.flatten = buffer.content := by
  rw [← buffer.content_commitArenaRange, content, buffer.arenaMark_commitArenaRange,
    drop_length, append_nil, chunks]

theorem commitArenaRange_of_committed {buffer : FrameBuffer}
    (committed : buffer.arenaMark = buffer.arena.length) : buffer.commitArenaRange = buffer := by
  unfold commitArenaRange
  rw [dif_neg (by omega)]

theorem commitArenaRange_commitArenaRange :
    buffer.commitArenaRange.commitArenaRange = buffer.commitArenaRange :=
  commitArenaRange_of_committed buffer.arenaMark_commitArenaRange

@[simp]
theorem chunks_commitArenaRange : buffer.commitArenaRange.chunks = buffer.chunks := by
  rw [chunks, commitArenaRange_commitArenaRange, chunks]

/-- The chunks with their protection. -/
def frames : List (Bytes × Bool) :=
  buffer.commitArenaRange.entries.map fun entry =>
    (entry.resolve buffer.commitArenaRange.arena, entry.protection)

theorem map_fst_frames : buffer.frames.map Prod.fst = buffer.chunks := map_map

theorem frames_of_committed {buffer : FrameBuffer}
    (committed : buffer.arenaMark = buffer.arena.length) : buffer.frames =
      buffer.entries.map fun entry => (entry.resolve buffer.arena, entry.protection) := by
  rw [frames, commitArenaRange_of_committed committed]

@[simp]
theorem frames_pushExternal (bytes : Bytes) (isProtected : Bool) :
    (buffer.pushExternal bytes isProtected).frames = buffer.frames ++ [(bytes, isProtected)] := by
  have committed : (buffer.pushExternal bytes isProtected).arenaMark =
      (buffer.pushExternal bytes isProtected).arena.length := buffer.arenaMark_commitArenaRange
  rw [frames_of_committed committed]
  simp [pushExternal, frames, Entry.resolve, Entry.protection]

@[simp]
theorem chunks_pushExternal (bytes : Bytes) (isProtected : Bool) :
    (buffer.pushExternal bytes isProtected).chunks = buffer.chunks ++ [bytes] := by
  simp [← map_fst_frames]

theorem frames_drain :
    (buffer.drain maxChunks).1 = (buffer.frames.take maxChunks).map Prod.fst ∧
      (buffer.drain maxChunks).2.2.frames = buffer.frames.drop maxChunks := by
  refine ⟨?_, ?_⟩
  · simp [drain, front, frames, ← map_take]
  · rw [frames_of_committed rfl]
    simp only [drain, dropFront, frames, map_drop, map_map]
    rfl

theorem length_flatten_eraseIdx (resolve : Entry → Bytes) (entries : List Entry) (index : Nat) :
    ((entries.eraseIdx index).map resolve).flatten.length =
      (entries.map resolve).flatten.length - ((entries[index]?).elim [] resolve).length := by
  induction entries generalizing index with
  | nil => simp
  | cons entry rest induction =>
    cases index with
    | zero => simp
    | succ index =>
      have rest_eq := induction index
      have fits : ((rest[index]?).elim [] resolve).length ≤ (rest.map resolve).flatten.length := by
        cases found : rest[index]? with
        | none => simp
        | some kept =>
          have member := mem_map_of_mem (f := resolve) (mem_of_getElem? found)
          exact (sublist_flatten_of_mem member).length_le
      simp only [eraseIdx_cons_succ, map_cons, flatten_cons, length_append,
        List.getElem?_cons_succ, rest_eq]
      omega

def removeEntry (committed : buffer.arenaMark = buffer.arena.length)
    (index : Nat) : FrameBuffer where
  entries := buffer.entries.eraseIdx index
  totalBytes :=
    buffer.totalBytes - ((buffer.entries[index]?).elim [] (Entry.resolve buffer.arena)).length
  arena := if buffer.entries.eraseIdx index = [] then [] else buffer.arena
  arenaThreshold := buffer.arenaThreshold
  arenaMark := if buffer.entries.eraseIdx index = [] then 0 else buffer.arenaMark
  mark_le := by
    split
    · exact Nat.le_refl 0
    · exact buffer.mark_le
  within := by
    intro entry member
    rw [if_neg (ne_nil_of_mem member)]
    exact buffer.within entry (mem_of_mem_eraseIdx member)
  unmarked := fun empty => if_pos empty
  total_eq := by
    rw [buffer.total_eq, committed, drop_length, append_nil, ← length_flatten_eraseIdx]
    by_cases empty : buffer.entries.eraseIdx index = []
    · simp [empty]
    · simp [empty]

/-- Remove the oldest entry which is not protected; `false` when there is none. -/
def popOldestUnprotectedEntry : Bool × FrameBuffer :=
  match buffer.commitArenaRange.entries.findIdx? (fun entry => !entry.protection) with
  | none => (false, buffer.commitArenaRange)
  | some index =>
    (true, buffer.commitArenaRange.removeEntry buffer.arenaMark_commitArenaRange index)

/-- Eviction takes out the first frame which is not protected. -/
theorem frames_popOldestUnprotectedEntry :
    buffer.popOldestUnprotectedEntry.1 = buffer.frames.any (!·.2) ∧
      buffer.popOldestUnprotectedEntry.2.frames = buffer.frames.eraseP (!·.2) := by
  rw [frames, any_map, eraseP_map, comp_def, ← findIdx?_isSome, eraseP_eq_eraseIdx]
  unfold popOldestUnprotectedEntry
  cases buffer.commitArenaRange.entries.findIdx? (fun entry => !entry.protection) with
  | none => exact ⟨rfl, frames_of_committed buffer.arenaMark_commitArenaRange⟩
  | some index =>
    refine ⟨rfl, ?_⟩
    by_cases empty : buffer.commitArenaRange.entries.eraseIdx index = []
    all_goals rw [frames_of_committed] <;>
      simp [removeEntry, empty, buffer.arenaMark_commitArenaRange]

end FrameBuffer

end Omq
