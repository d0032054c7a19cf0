import Mathlib.Data.Nat.Log
import Omq.Library.WrappingCursor

/-!
# The single-producer single-consumer ring

The producer writes slots at a private cursor and publishes it as the tail; the consumer reads
slots at a private cursor and publishes it as the head.  Each half keeps a cached copy of what the
other one published.  Every access to shared memory is one step, so the two halves interleave
between any two accesses.  The history records what the callers saw.
-/

namespace Omq.Yring

/-- The size of a ring: a power of two of at most half the cursor range. -/
structure Layout (width : Nat) where
  /-- Binary logarithm of the capacity. -/
  exponent : Nat
  /-- At most half the cursor range. -/
  fits : 2 ^ exponent ≤ (2 ^ width - 1) / 2

namespace Layout

variable {width : Nat} (layout : Layout width)

def capacity : Nat := 2 ^ layout.exponent

/-- The bits of a cursor which select the slot. -/
def mask : BitVec width := BitVec.ofNat width (layout.capacity - 1)

theorem capacity_pos : 0 < layout.capacity :=
  Nat.two_pow_pos layout.exponent

theorem capacity_lt : layout.capacity < 2 ^ width := by
  have fits : layout.capacity ≤ (2 ^ width - 1) / 2 := layout.fits
  have positive := layout.capacity_pos
  omega

theorem exponent_le : layout.exponent ≤ width :=
  (Nat.pow_lt_pow_iff_right (by omega)).mp layout.capacity_lt |>.le

theorem and_mask_lt (cursor : BitVec width) : (cursor &&& layout.mask).toNat < layout.capacity := by
  rw [mask, capacity, WrappingCursor.toNat_and_mask layout.exponent_le]
  exact Nat.mod_lt _ (Nat.two_pow_pos _)

/-- The slot a cursor names. -/
def index (cursor : BitVec width) : Fin layout.capacity :=
  ⟨(cursor &&& layout.mask).toNat, layout.and_mask_lt cursor⟩

end Layout

/-- One cell of the buffer. -/
structure Slot (α : Type) where
  /-- The value in the cell; `none` for memory without a live value. -/
  content : Option α
  /-- The number of the item last written here. -/
  serial : Option Nat

/-- Shared memory. -/
structure Ring {width : Nat} (layout : Layout width) (α : Type) where
  buf : Fin layout.capacity → Slot α
  /-- Read position the consumer published. -/
  head : BitVec width
  /-- Write position the producer published. -/
  tail : BitVec width
  producerDropped : Bool
  consumerDropped : Bool

inductive FlushResult
  | flushed (count : Nat) (wasEmpty : Bool)
  | nothingToFlush
  deriving DecidableEq

/-- Where the producer is between two accesses. -/
inductive ProducerPhase (width : Nat) (α : Type)
  | idle
  | loadingHead (value : α)
  | writing (value : α)
  | probing
  | checkingHead (prevTail : BitVec width)
  | publishing (result : FlushResult)
  | closing
  | leaving
  | left
  deriving DecidableEq

/-- Where the consumer is between two accesses. -/
inductive ConsumerPhase
  | idle
  | closing
  | leaving
  | left
  deriving DecidableEq

/-- The sending half. -/
structure Producer (width : Nat) (α : Type) where
  /-- Private write position. -/
  cursor : BitVec width
  cachedHead : BitVec width
  phase : ProducerPhase width α

/-- The receiving half. -/
structure Consumer (width : Nat) where
  /-- Private read position. -/
  head : BitVec width
  cachedTail : BitVec width
  phase : ConsumerPhase

/-- What the callers saw so far. -/
structure History (α : Type) where
  pushed : List α
  popped : List α
  refused : List α
  dropped : List α
  /-- How many items were handed out when the head was last published. -/
  released : Nat
  flushes : List FlushResult
  /-- A slot without a live value was read. -/
  undefined : Bool

/-- A ring with its two halves. -/
structure Spsc {width : Nat} (layout : Layout width) (α : Type) where
  ring : Ring layout α
  producer : Producer width α
  consumer : Consumer width
  history : History α

/-- One access of one half. -/
inductive Action (α : Type)
  | push (value : α)
  | loadHead
  | write
  | isFull
  | probe
  | flush
  | flushAndCheck
  | checkHead
  | publish
  | closeProducer
  | markProducerDropped
  | producerLeaves
  | prefetch
  | pop
  | release
  | closeConsumer
  | markConsumerDropped
  | consumerLeaves

variable {width : Nat} {layout : Layout width} {α : Type}

/-- Whether the ring looks full from the cached head. -/
def Producer.appearsFull (producer : Producer width α) (capacity : Nat) : Bool :=
  capacity ≤ (producer.cursor - producer.cachedHead).toNat

namespace Ring

/-- Drop the items from `i` up to `tail`; `none` when a slot without a live value is read or the
loop would not end. -/
def dropLoop (layout : Layout width) (tail : BitVec width) :
    (fuel : Nat) → (i : BitVec width) → (Fin layout.capacity → Slot α) →
      Option (List α × (Fin layout.capacity → Slot α))
  | 0, i, buf => if i = tail then some ([], buf) else none
  | fuel + 1, i, buf =>
    if i = tail then some ([], buf)
    else
      match (buf (layout.index i)).content with
      | none => none
      | some value =>
        (dropLoop layout tail fuel (i + 1) (Function.update buf (layout.index i)
          { buf (layout.index i) with content := none })).map fun rest => (value :: rest.1, rest.2)

/-- Drop all items between head and tail. -/
def dropRemaining (ring : Ring layout α) : Option (List α × Ring layout α) :=
  (dropLoop layout ring.tail (2 ^ width) ring.head ring.buf).map fun dropped =>
    (dropped.1, { ring with head := ring.tail, buf := dropped.2 })

end Ring

namespace Spsc

def withCursors (layout : Layout width) (α : Type) (start : BitVec width) : Spsc layout α where
  ring := ⟨fun _ => ⟨none, none⟩, start, start, false, false⟩
  producer := ⟨start, start, .idle⟩
  consumer := ⟨start, start, .idle⟩
  history := ⟨[], [], [], [], 0, [], false⟩

variable (state : Spsc layout α)

def produce (phase : ProducerPhase width α) : Spsc layout α :=
  { state with producer := { state.producer with phase := phase } }

def consume (phase : ConsumerPhase) : Spsc layout α :=
  { state with consumer := { state.consumer with phase := phase } }

def reloadHead : Spsc layout α :=
  { state with producer := { state.producer with cachedHead := state.ring.head } }

def writeSlot (value : α) : Spsc layout α :=
  { state with
    ring := { state.ring with
      buf := Function.update state.ring.buf (layout.index state.producer.cursor)
        ⟨some value, some state.history.pushed.length⟩ }
    producer := { state.producer with cursor := state.producer.cursor + 1 }
    history := { state.history with pushed := state.history.pushed ++ [value] } }

def storeTail : Spsc layout α :=
  { state with ring := { state.ring with tail := state.producer.cursor } }

def storeHead : Spsc layout α :=
  { state with
    ring := { state.ring with head := state.consumer.head }
    history := { state.history with released := state.history.popped.length } }

def reloadTail : Spsc layout α :=
  { state with consumer := { state.consumer with cachedTail := state.ring.tail } }

/-- Move the value out of the slot at the head and advance the head. -/
def readSlot : Spsc layout α :=
  match (state.ring.buf (layout.index state.consumer.head)).content with
  | none => { state with history := { state.history with undefined := true } }
  | some value =>
    { state with
      ring := { state.ring with
        buf := Function.update state.ring.buf (layout.index state.consumer.head)
          { state.ring.buf (layout.index state.consumer.head) with content := none } }
      consumer := { state.consumer with head := state.consumer.head + 1 }
      history := { state.history with popped := state.history.popped ++ [value] } }

/-- The last half to leave drops the ring. -/
def teardown : Spsc layout α :=
  match state.ring.dropRemaining with
  | none => { state with history := { state.history with undefined := true } }
  | some (items, ring) =>
    { state with ring := ring, history := { state.history with dropped := items } }

def produceStep : Action α → Option (Spsc layout α)
  | .push value =>
    match state.producer.phase with
    | .idle => some (state.produce
        (if state.producer.appearsFull layout.capacity then .loadingHead value
          else .writing value))
    | _ => none
  | .loadHead =>
    match state.producer.phase with
    | .loadingHead value =>
      let loaded := state.reloadHead
      if loaded.producer.appearsFull layout.capacity then
        some { loaded.produce .idle with
          history := { state.history with refused := state.history.refused ++ [value] } }
      else some (loaded.produce (.writing value))
    | _ => none
  | .write =>
    match state.producer.phase with
    | .writing value => some ((state.writeSlot value).produce .idle)
    | _ => none
  | .isFull =>
    match state.producer.phase with
    | .idle => some (state.produce
        (if state.producer.appearsFull layout.capacity then .probing else .idle))
    | _ => none
  | .probe =>
    match state.producer.phase with
    | .probing => some (state.reloadHead.produce .idle)
    | _ => none
  | .flush =>
    match state.producer.phase with
    | .idle => some state.storeTail
    | _ => none
  | .flushAndCheck =>
    match state.producer.phase with
    | .idle =>
      if state.producer.cursor = state.ring.tail then
        some { state with
          history := { state.history with
            flushes := state.history.flushes ++ [.nothingToFlush] } }
      else some (state.produce (.checkingHead state.ring.tail))
    | _ => none
  | .checkHead =>
    match state.producer.phase with
    | .checkingHead prevTail =>
      some (state.reloadHead.produce (.publishing
        (.flushed (state.producer.cursor - prevTail).toNat (prevTail = state.ring.head))))
    | _ => none
  | .publish =>
    match state.producer.phase with
    | .publishing result =>
      some { state.storeTail.produce .idle with
        history := { state.history with flushes := state.history.flushes ++ [result] } }
    | _ => none
  | .closeProducer =>
    match state.producer.phase with
    | .idle => some (state.storeTail.produce .closing)
    | _ => none
  | .markProducerDropped =>
    match state.producer.phase with
    | .closing =>
      some { state.produce .leaving with ring := { state.ring with producerDropped := true } }
    | _ => none
  | .producerLeaves =>
    match state.producer.phase with
    | .leaving =>
      let gone := state.produce .left
      some (if state.consumer.phase = .left then gone.teardown else gone)
    | _ => none
  | _ => none

def consumeStep : Action α → Option (Spsc layout α)
  | .prefetch =>
    match state.consumer.phase with
    | .idle => some state.reloadTail
    | _ => none
  | .pop =>
    match state.consumer.phase with
    | .idle =>
      some (if state.consumer.head = state.consumer.cachedTail then state
        else state.readSlot)
    | _ => none
  | .release =>
    match state.consumer.phase with
    | .idle => some state.storeHead
    | _ => none
  | .closeConsumer =>
    match state.consumer.phase with
    | .idle => some (state.storeHead.consume .closing)
    | _ => none
  | .markConsumerDropped =>
    match state.consumer.phase with
    | .closing =>
      some { state.consume .leaving with ring := { state.ring with consumerDropped := true } }
    | _ => none
  | .consumerLeaves =>
    match state.consumer.phase with
    | .leaving =>
      let gone := state.consume .left
      some (if state.producer.phase matches .left then gone.teardown else gone)
    | _ => none
  | _ => none

def step (action : Action α) : Option (Spsc layout α) :=
  (state.produceStep action).or (state.consumeStep action)

end Spsc

end Omq.Yring
