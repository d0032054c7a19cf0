import Mathlib.Logic.Relation
import Mathlib.Data.List.Basic

/-!
# Bounded queues with deferred release

Items enter at one end and are handed out in the same order at the other.  An item keeps its place
until it is released, which may be later than it was handed out; at most `capacity` places are
taken at any time.
-/

/-- The history of a bounded queue. -/
structure BoundedFifo (α : Type*) (capacity : Nat) where
  /-- Items which entered, oldest first. -/
  pushed : List α
  /-- How many were handed out. -/
  popped : Nat
  /-- How many gave their place back. -/
  released : Nat
  released_le : released ≤ popped
  popped_le : popped ≤ pushed.length
  bounded : pushed.length ≤ released + capacity

namespace BoundedFifo

variable {α : Type*} {capacity : Nat}

/-- The queue nothing has entered. -/
def empty : BoundedFifo α capacity := ⟨[], 0, 0, Nat.le_refl 0, Nat.le_refl 0, Nat.zero_le _⟩

variable (fifo : BoundedFifo α capacity)

def handedOut : List α := fifo.pushed.take fifo.popped

/-- The items which entered and were not handed out. -/
def remaining : List α := fifo.pushed.drop fifo.popped

theorem length_handedOut : fifo.handedOut.length = fifo.popped := by
  rw [handedOut, List.length_take, Nat.min_eq_left fifo.popped_le]

/-- Items are handed out in the order they entered. -/
theorem handedOut_prefix : fifo.handedOut <+: fifo.pushed :=
  List.take_prefix _ _

theorem handedOut_append_remaining : fifo.handedOut ++ fifo.remaining = fifo.pushed :=
  List.take_append_drop _ _

/-- One more item enters. -/
def push (value : α)
    (room : fifo.pushed.length < fifo.released + capacity) : BoundedFifo α capacity where
  pushed := fifo.pushed ++ [value]
  popped := fifo.popped
  released := fifo.released
  released_le := fifo.released_le
  popped_le := List.length_append ▸ Nat.le_add_right_of_le fifo.popped_le
  bounded := List.length_append ▸ room

/-- The oldest item left is handed out. -/
def pop (waiting : fifo.popped < fifo.pushed.length) : BoundedFifo α capacity where
  pushed := fifo.pushed
  popped := fifo.popped + 1
  released := fifo.released
  released_le := Nat.le_succ_of_le fifo.released_le
  popped_le := waiting
  bounded := fifo.bounded

/-- The places of the items handed out are given back. -/
def release : BoundedFifo α capacity where
  pushed := fifo.pushed
  popped := fifo.popped
  released := fifo.popped
  released_le := Nat.le_refl _
  popped_le := fifo.popped_le
  bounded := Nat.le_trans fifo.bounded (Nat.add_le_add_right fifo.released_le _)

/-- What a bounded queue can do. -/
inductive Step : BoundedFifo α capacity → BoundedFifo α capacity → Prop
  | push (fifo : BoundedFifo α capacity) (value : α)
      (room : fifo.pushed.length < fifo.released + capacity) : Step fifo (fifo.push value room)
  | pop (fifo : BoundedFifo α capacity) (waiting : fifo.popped < fifo.pushed.length) :
      Step fifo (fifo.pop waiting)
  | release (fifo : BoundedFifo α capacity) : Step fifo fifo.release

theorem handedOut_pop (waiting : fifo.popped < fifo.pushed.length) :
    (fifo.pop waiting).handedOut = fifo.handedOut ++ [fifo.pushed[fifo.popped]] :=
  List.take_succ_eq_append_getElem waiting

theorem handedOut_push (value : α) (room : fifo.pushed.length < fifo.released + capacity) :
    (fifo.push value room).handedOut = fifo.handedOut :=
  List.take_append_of_le_length fifo.popped_le

end BoundedFifo
