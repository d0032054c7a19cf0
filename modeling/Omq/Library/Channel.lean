import Mathlib.Data.List.Basic

/-!
# Bounded channels

A channel holds at most `capacity` items for a reader, which may be gone.  An offered item is
taken, or the channel stays as it is.
-/

structure Channel (α : Type*) where
  capacity : Nat
  /-- The items which wait, oldest first. -/
  items : List α
  closed : Bool

namespace Channel

variable {α : Type*}

inductive Answer
  | ok
  | full
  | closed

def new (capacity : Nat) : Channel α := ⟨capacity, [], false⟩

variable (channel : Channel α)

def hasRoom : Bool := channel.items.length < channel.capacity

def takes : Bool := !channel.closed && channel.hasRoom

/-- Append an item if it fits, whether or not there is a reader. -/
def push (item : α) : Bool × Channel α :=
  if channel.hasRoom then (true, { channel with items := channel.items ++ [item] })
  else (false, channel)

def trySend (item : α) : Answer × Channel α :=
  if channel.closed then (.closed, channel)
  else
    match channel.push item with
    | (true, channel) => (.ok, channel)
    | (false, channel) => (.full, channel)

variable {channel : Channel α}

theorem push_of_hasRoom (room : channel.hasRoom = true) (item : α) :
    channel.push item = (true, { channel with items := channel.items ++ [item] }) :=
  if_pos room

theorem push_of_not_hasRoom (full : ¬channel.hasRoom = true) (item : α) :
    channel.push item = (false, channel) :=
  if_neg full

theorem trySend_of_takes (taken : channel.takes = true) (item : α) :
    channel.trySend item = (.ok, { channel with items := channel.items ++ [item] }) := by
  obtain ⟨open_end, room⟩ := Bool.and_eq_true_iff.mp taken
  have reader : ¬channel.closed = true := by simpa using open_end
  rw [trySend, if_neg reader, push_of_hasRoom room]

theorem trySend_of_not_takes (refused : ¬channel.takes = true) (item : α) :
    (channel.trySend item).1 ≠ .ok ∧ (channel.trySend item).2 = channel := by
  unfold trySend
  by_cases closed : channel.closed = true
  · rw [if_pos closed]
    exact ⟨nofun, rfl⟩
  · have full : ¬channel.hasRoom = true := by simpa [takes, closed] using refused
    rw [if_neg closed, push_of_not_hasRoom full]
    exact ⟨nofun, rfl⟩

end Channel
