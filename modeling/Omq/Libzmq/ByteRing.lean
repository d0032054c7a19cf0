import Omq.Library.CircularMemory
import Omq.Library.WrappingCursor
import Omq.Proto.Message

/-!
# The byte ring of an inproc bypass

A sender writes entries of a header with the length and a payload into a ring of bytes, and
publishes the write position; a receiver reads entries at its own position and publishes that.  An
entry which does not fit before the end of the buffer is preceded by a header which tells the
receiver to go on at the start.  Every access to a published position is one step.
-/

namespace Omq.Libzmq

open CircularMemory

/-- Bytes of the length before a payload. -/
def headerSize : Nat := 4

/-- The header which says that the next entry is at the start of the buffer. -/
def wrapSentinel : Nat := 2 ^ 32 - 1

/-- Bytes of an entry, rounded up so that every header is aligned. -/
def alignedEntrySize (payloadLen : Nat) : Nat := (headerSize + payloadLen + 3) / 4 * 4

/-- The size of a ring: a power of two which whole headers fit into. -/
structure RingLayout where
  exponent : Nat
  aligned : 2 ≤ exponent
  fits : exponent < 64

namespace RingLayout

/-- The number of cells. -/
def capacity (layout : RingLayout) : Nat := 2 ^ layout.exponent

/-- The cell a cursor stands at. -/
def offset (layout : RingLayout) (cursor : BitVec 64) : Nat := cursor.toNat % layout.capacity

end RingLayout

/-- Shared memory.  The buffer ends at the capacity of the ring: indexing it is checked, and raw
copies stay before the end. -/
structure RingBuf where
  buf : Nat → UInt8
  /-- Published write position. -/
  tail : BitVec 64
  /-- Published read position. -/
  head : BitVec 64

/-- The writing half. -/
structure RingProducer where
  tail : BitVec 64
  cachedHead : BitVec 64

/-- The reading half. -/
structure RingConsumer where
  head : BitVec 64
  cachedTail : BitVec 64

/-- Where the sender is between two accesses. -/
inductive SendPhase
  | idle
  /-- The entry looks too large; load the head. -/
  | loadingHead (data : Bytes)
  /-- The entry looks too large behind the end of the buffer; load the head. -/
  | loadingHeadToWrap (data : Bytes)
  /-- The entry is written; load the published tail. -/
  | loadingTail
  /-- Load the head to compare it with the tail which was published before. -/
  | looking (prevTail : BitVec 64)
  | publishing (wasEmpty : Bool)
  | signalling
  deriving DecidableEq

/-- Where a look at the next entry is. -/
inductive PeekPhase
  | loadingTail
  /-- The head was moved to the start of the buffer; load the tail. -/
  | loadingTailAtStart
  deriving DecidableEq

/-- A ring with both halves. -/
structure ByteRing where
  ring : RingBuf
  producer : RingProducer
  consumer : RingConsumer
  sending : SendPhase
  /-- Payloads accepted, oldest first. -/
  accepted : List Bytes
  /-- Payloads read, oldest first. -/
  received : List Bytes

namespace ByteRing

variable (layout : RingLayout)

/-- An empty ring. -/
def new : ByteRing where
  ring := ⟨fun _ => 0, 0, 0⟩
  producer := ⟨0, 0⟩
  consumer := ⟨0, 0⟩
  sending := .idle
  accepted := []
  received := []

/-! ## Sending -/

/-- Room between two positions. -/
def freeSpace (tail head : BitVec 64) : Nat :=
  if layout.capacity ≤ (tail - head).toNat then 0 else layout.capacity - (tail - head).toNat

variable (ring : ByteRing)

/-- Room as far as the sender knows. -/
def free : Nat := freeSpace layout ring.producer.tail ring.producer.cachedHead

/-- Bytes from the write position to the end of the buffer. -/
def contiguous : Nat := layout.capacity - layout.offset ring.producer.tail

/-- Write a header and a payload at the write position. -/
def writeEntry (data : Bytes) : ByteRing :=
  { ring with
    ring := { ring.ring with
      buf := write ring.ring.buf (layout.offset ring.producer.tail)
        (BigEndian.encode headerSize data.length ++ data) }
    producer := { ring.producer with
      tail := ring.producer.tail + BitVec.ofNat 64 (alignedEntrySize data.length) }
    sending := .loadingTail
    accepted := ring.accepted ++ [data] }

/-- Go on at the start of the buffer. -/
def writeWrap : ByteRing :=
  { ring with
    ring := { ring.ring with
      buf := write ring.ring.buf (layout.offset ring.producer.tail)
        (BigEndian.encode headerSize wrapSentinel) }
    producer := { ring.producer with
      tail := ring.producer.tail + BitVec.ofNat 64 (ring.contiguous layout) } }

/-- Write an entry for which there is room in total, unless the end of the buffer is in the way. -/
def writeOrWrap (data : Bytes) : ByteRing :=
  if ring.contiguous layout < alignedEntrySize data.length then
    if ring.free layout < ring.contiguous layout + alignedEntrySize data.length + headerSize then
      { ring with sending := .loadingHeadToWrap data }
    else (ring.writeWrap layout).writeEntry layout data
  else ring.writeEntry layout data

/-- The sender gives up. -/
def refuse : ByteRing := { ring with sending := .idle }

/-- Load the published read position. -/
def reloadHead : ByteRing :=
  { ring with producer := { ring.producer with cachedHead := ring.ring.head } }

/-- Accesses of the sender. -/
inductive SendAction
  | push (data : Bytes)
  | loadHead
  | loadHeadToWrap
  | loadTail
  | look
  | publish

/-- One access of the sender; a signal follows when the ring was empty. -/
def sendStep : SendAction → Option ByteRing
  | .push data =>
    match ring.sending with
    | .idle =>
      if wrapSentinel ≤ data.length then some ring.refuse
      else if ring.free layout < alignedEntrySize data.length + headerSize then
        some { ring with sending := .loadingHead data }
      else some (ring.writeOrWrap layout data)
    | _ => none
  | .loadHead =>
    match ring.sending with
    | .loadingHead data =>
      let loaded := ring.reloadHead
      if loaded.free layout < alignedEntrySize data.length + headerSize then
        some loaded.refuse
      else some (loaded.writeOrWrap layout data)
    | _ => none
  | .loadHeadToWrap =>
    match ring.sending with
    | .loadingHeadToWrap data =>
      let loaded := ring.reloadHead
      if loaded.free layout <
          loaded.contiguous layout + alignedEntrySize data.length + headerSize then
        some loaded.refuse
      else some ((loaded.writeWrap layout).writeEntry layout data)
    | _ => none
  | .loadTail =>
    match ring.sending with
    | .loadingTail => some { ring with sending := .looking ring.ring.tail }
    | _ => none
  | .look =>
    match ring.sending with
    | .looking prevTail => some { ring with sending := .publishing (prevTail = ring.ring.head) }
    | _ => none
  | .publish =>
    match ring.sending with
    | .publishing wasEmpty =>
      some { ring with
        ring := { ring.ring with tail := ring.producer.tail }
        sending := if wasEmpty then .signalling else .idle }
    | _ => none

/-! ## Receiving -/

variable (cursor : BitVec 64)

/-- The length at a position. -/
def header : Nat :=
  BigEndian.decode (read ring.ring.buf (layout.offset cursor) headerSize)

/-- The payload of the entry at a position. -/
def payload : Bytes :=
  read ring.ring.buf (layout.offset cursor + headerSize) (ring.header layout cursor)

/-- What a look at the next entry comes to. -/
inductive Peeked
  | load (phase : PeekPhase)
  | found (data : Bytes)
  | nothing
  /-- An index was not inside the buffer. -/
  | panicked

/-- The entry at a position.  Its payload is found by an index, so also an empty one needs a cell
behind its header. -/
def entryAt : Peeked :=
  if layout.offset cursor + headerSize < layout.capacity then .found (ring.payload layout cursor)
  else .panicked

/-- Move the private read position. -/
def moveHead (head : BitVec 64) : ByteRing :=
  { ring with consumer := { ring.consumer with head } }

/-- Look at the entry at the read position, behind a mark or not. -/
def readEntry : Peeked × ByteRing :=
  if ring.header layout ring.consumer.head = wrapSentinel then
    let moved := ring.moveHead (ring.consumer.head +
      BitVec.ofNat 64 (layout.capacity - layout.offset ring.consumer.head))
    if moved.consumer.head = moved.consumer.cachedTail then (.load .loadingTailAtStart, moved)
    else (moved.entryAt layout moved.consumer.head, moved)
  else (ring.entryAt layout ring.consumer.head, ring)

/-- Look at the next entry as far as the tail is known. -/
def beginPeek : Peeked × ByteRing :=
  if ring.consumer.head = ring.consumer.cachedTail then (.load .loadingTail, ring)
  else ring.readEntry layout

/-- Load the published write position. -/
def reloadTail : ByteRing :=
  { ring with consumer := { ring.consumer with cachedTail := ring.ring.tail } }

/-- Load the tail and go on. -/
def loadPeek (phase : PeekPhase) : Peeked × ByteRing :=
  let loaded := ring.reloadTail
  if loaded.consumer.head = loaded.consumer.cachedTail then (.nothing, loaded)
  else
    match phase with
    | .loadingTail => loaded.readEntry layout
    | .loadingTailAtStart => (loaded.entryAt layout loaded.consumer.head, loaded)

/-- Advance past an entry and publish the new head. -/
def advanceAndRelease (data : Bytes) : ByteRing :=
  let head := ring.consumer.head + BitVec.ofNat 64 (alignedEntrySize data.length)
  { ring with
    ring := { ring.ring with head }
    consumer := { ring.consumer with head }
    received := ring.received ++ [data] }

/-- Nothing is published behind the read position. -/
def isEmpty : Bool := ring.consumer.head = ring.ring.tail

end ByteRing

end Omq.Libzmq
