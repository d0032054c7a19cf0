import Mathlib.Data.List.Basic
import Mathlib.Data.List.Range
import Mathlib.Tactic

/-!
# Memory which is used in circles

Positions count without end and are folded into a memory of fixed capacity.  Intervals which do not
wrap, and which lie within one capacity of each other, do not share a cell after folding, so a write
to the later one leaves the earlier one as it is.
-/

namespace CircularMemory

variable {α : Type*} (memory : Nat → α)

def read (offset length : Nat) : List α :=
  (List.range length).map fun index => memory (offset + index)

def write (offset : Nat) (values : List α) : Nat → α := fun index =>
  if offset ≤ index then (values[index - offset]?).getD (memory index) else memory index

@[simp]
theorem length_read (offset length : Nat) : (read memory offset length).length = length := by
  simp [read]

theorem read_append (offset first second : Nat) :
    read memory offset (first + second) =
      read memory offset first ++ read memory (offset + first) second := by
  simp [read, List.range_add, Nat.add_assoc]

theorem read_write (offset : Nat) (values : List α) :
    read (write memory offset values) offset values.length = values := by
  apply List.ext_getElem
  · simp
  · intro index _ inside
    simp [read, write, inside]

/-- A write leaves other cells alone. -/
theorem read_write_of_apart {start length offset : Nat} {values : List α}
    (apart : start + length ≤ offset ∨ offset + values.length ≤ start) :
    read (write memory offset values) start length = read memory start length := by
  apply List.map_congr_left
  intro index member
  have inside := List.mem_range.mp member
  unfold write
  split_ifs with beyond
  · rw [List.getElem?_eq_none (by omega), Option.getD_none]
  · rfl

/-- Intervals within one capacity of each other stay apart when they are folded. -/
theorem apart_of_window {capacity : Nat} (first firstLength second secondLength : Nat)
    (ordered : first + firstLength ≤ second)
    (near : second + secondLength ≤ first + capacity) (positive : 0 < secondLength) :
    first % capacity + firstLength ≤ second % capacity ∨
      second % capacity + secondLength ≤ first % capacity := by
  have capacity_pos : 0 < capacity := by omega
  have first_eq := Nat.div_add_mod first capacity
  have first_lt := Nat.mod_lt first capacity_pos
  by_cases same_turn : second < capacity * (first / capacity + 1)
  · left
    have second_eq : second % capacity = second - capacity * (first / capacity) := by
      rw [← Nat.sub_mul_mod (show capacity * (first / capacity) ≤ second by omega)]
      apply Nat.mod_eq_of_lt
      rw [Nat.mul_add, Nat.mul_one] at same_turn
      omega
    omega
  · right
    rw [Nat.mul_add, Nat.mul_one] at same_turn
    have next_turn : capacity * (first / capacity + 1) ≤ second := by
      rw [Nat.mul_add, Nat.mul_one]
      omega
    have second_eq : second % capacity = second - capacity * (first / capacity + 1) := by
      rw [← Nat.sub_mul_mod next_turn]
      apply Nat.mod_eq_of_lt
      rw [Nat.mul_add, Nat.mul_one]
      omega
    rw [second_eq, Nat.mul_add, Nat.mul_one]
    omega

end CircularMemory
