import Omq.Proto.Transform.Codec

/-!
# The compression pool and the offload pipeline

The connections of a socket share a pool of encoders.  A batch which may offload submits its
messages in order: large ones run on a pool encoder beside the driver, the others are encoded by
the connection's own encoder at once.  Results leave the pipeline in the order of submission, and
only then the pool encoder is returned.
-/

namespace Omq

/-- Encoders shared by the connections of a socket. -/
structure CompressionPool where
  encoders : List MessageEncoder
  /-- Number of encoders taken. -/
  inFlight : Nat
  /-- Largest number of encoders taken at a time. -/
  cap : Nat

namespace CompressionPool

def new (cap : Nat) : CompressionPool := ⟨[], 0, cap⟩

/-- Remove one element and put the last one in its place. -/
def swapRemove {α : Type} (list : List α) (index : Nat) : List α :=
  if index + 1 = list.length then list.dropLast
  else
    match list.getLast? with
    | some last => list.dropLast.set index last
    | none => []

variable (pool : CompressionPool) (primary : MessageEncoder)

/-- Take an encoder of the primary's kind with the dictionary synchronised, or make one. -/
def tryTake : Option MessageEncoder × CompressionPool :=
  match pool.encoders.findIdx? (·.variantMatches primary) with
  | some index =>
    match pool.encoders[index]? with
    | some encoder =>
      (some (encoder.syncDict primary),
        { pool with
          encoders := swapRemove pool.encoders index
          inFlight := pool.inFlight + 1 })
    | none => (none, pool)
  | none =>
    if pool.cap ≤ pool.inFlight then (none, pool)
    else (some primary.newOffload, { pool with inFlight := pool.inFlight + 1 })

def put (encoder : MessageEncoder) : CompressionPool :=
  { pool with encoders := pool.encoders ++ [encoder], inFlight := pool.inFlight - 1 }

/-- The encoder which waits for a connection of the primary's kind. -/
def waiting : Option MessageEncoder :=
  pool.encoders.find? (·.variantMatches primary)

variable {pool} in
theorem kind_of_waiting {primary encoder : MessageEncoder}
    (waiting_eq : pool.waiting primary = some encoder) : encoder.kind = primary.kind := by
  unfold waiting at waiting_eq
  exact MessageEncoder.variantMatches_iff.mp (by simpa using List.find?_some waiting_eq)

theorem mem_of_mem_swapRemove {α : Type} {list : List α} {index : Nat} {element : α}
    (member : element ∈ swapRemove list index) : element ∈ list := by
  unfold swapRemove at member
  split at member
  · exact List.dropLast_subset _ member
  · split at member
    next last last_eq =>
      obtain kept | rfl := List.mem_or_eq_of_mem_set member
      · exact List.dropLast_subset _ kept
      · exact List.mem_of_getLast? last_eq
    · cases member

/-- A taken encoder is a new one, or a waiting one of the primary's kind, synchronised. -/
theorem tryTake_cases :
    (pool.tryTake primary).1 = none ∧ (pool.tryTake primary).2 = pool ∨
      (pool.tryTake primary).1 = some primary.newOffload ∧
        (pool.tryTake primary).2.encoders = pool.encoders ∨
      ∃ encoder, pool.waiting primary = some encoder ∧
        (pool.tryTake primary).1 = some (encoder.syncDict primary) ∧
        ∀ kept ∈ (pool.tryTake primary).2.encoders, kept ∈ pool.encoders := by
  unfold tryTake
  split
  next index found =>
    split
    next encoder encoder_eq =>
      obtain ⟨in_range, matching, earlier⟩ := List.findIdx?_eq_some_iff_getElem.mp found
      obtain ⟨_, rfl⟩ := List.getElem?_eq_some_iff.mp encoder_eq
      refine .inr (.inr ⟨_, ?_, rfl, fun kept member => mem_of_mem_swapRemove member⟩)
      exact List.find?_eq_some_iff_getElem.mpr
        ⟨matching, index, in_range, rfl, by simpa using earlier⟩
    · exact .inl ⟨rfl, rfl⟩
  · split
    · exact .inl ⟨rfl, rfl⟩
    · exact .inr (.inl ⟨rfl, rfl⟩)

theorem tryTake_of_none {primary : MessageEncoder}
    (none_eq : (pool.tryTake primary).1 = none) : (pool.tryTake primary).2 = pool := by
  obtain ⟨_, same⟩ | ⟨some_eq, _⟩ | ⟨_, _, some_eq, _⟩ := pool.tryTake_cases primary
  · exact same
  · cases none_eq.symm.trans some_eq
  · cases none_eq.symm.trans some_eq

end CompressionPool

/-- One entry of the offload pipeline. -/
inductive OffloadTask
  | running (encoder : MessageEncoder) (message : Message)
  | finished (encoder : Option MessageEncoder) (result : Except Error (List Message))

namespace OffloadTask

def abort : OffloadTask → OffloadTask
  | .running _ _ => .finished none (.error (.protocol "compression offload task panicked"))
  | .finished encoder result => .finished encoder result

variable [CompressionPrimitives]

/-- What the task yields once it has ended: the pool encoder to return and the result. -/
def outcome : OffloadTask → Option MessageEncoder × Except Error (List Message)
  | .running encoder message => (some (encoder.encode message).1, (encoder.encode message).2)
  | .finished encoder result => (encoder, result)

/-- The task ends: the pool encoder has encoded the message. -/
def complete (task : OffloadTask) : OffloadTask := .finished task.outcome.1 task.outcome.2

def collect (task : OffloadTask) (pool : CompressionPool) :
    CompressionPool × Except Error (List Message) :=
  (task.outcome.1.elim pool pool.put, task.outcome.2)

end OffloadTask

def submitToPipeline [CompressionPrimitives] (message : Message) (encoder : MessageEncoder)
    (pool : CompressionPool) (threshold : Nat) (pipeline : List OffloadTask) :
    MessageEncoder × CompressionPool × List OffloadTask :=
  match (if threshold ≤ message.byteLen then pool.tryTake encoder else (none, pool)) with
  | (some poolEncoder, pool) => (encoder, pool, pipeline ++ [.running poolEncoder message])
  | (none, pool) =>
    let (encoder, result) := encoder.encode message
    (encoder, pool, pipeline ++ [.finished none result])

end Omq
