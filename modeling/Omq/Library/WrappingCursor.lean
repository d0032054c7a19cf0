import Mathlib.Data.Nat.Bitwise
import Mathlib.Tactic

/-!
# Cursors which wrap around the machine word

A cursor counts in a word of fixed width from an arbitrary start.  As long as two cursors are less
than the range of the word apart, their wrapped difference is their distance and they are equal
only at the same count.  The low bits of a cursor name a slot; cursors less than the number of
slots apart name different slots.
-/

namespace WrappingCursor

variable {width : Nat} (start : BitVec width)

/-- The cursor after `count` increments. -/
def cursorAt (count : Nat) : BitVec width := start + BitVec.ofNat width count

@[simp]
theorem cursorAt_zero : cursorAt start 0 = start := by simp [cursorAt]

theorem cursorAt_add_one (count : Nat) : cursorAt start count + 1 = cursorAt start (count + 1) := by
  have one : (1 : BitVec width) = BitVec.ofNat width 1 := rfl
  rw [cursorAt, cursorAt, BitVec.add_assoc, one, ← BitVec.ofNat_add]

theorem cursorAt_add_ofNat (count distance : Nat) :
    cursorAt start count + BitVec.ofNat width distance = cursorAt start (count + distance) := by
  rw [cursorAt, cursorAt, BitVec.add_assoc, ← BitVec.ofNat_add]

theorem toNat_cursorAt (count : Nat) :
    (cursorAt start count).toNat = (start.toNat + count) % 2 ^ width := by
  simp [cursorAt]

variable {earlier later exponent : Nat}

/-- The wrapped difference of two cursors is their distance. -/
theorem toNat_sub_cursorAt (ordered : earlier ≤ later) (near : later - earlier < 2 ^ width) :
    (cursorAt start later - cursorAt start earlier).toNat = later - earlier := by
  obtain ⟨distance, rfl⟩ := Nat.exists_eq_add_of_le ordered
  have difference : cursorAt start (earlier + distance) - cursorAt start earlier =
      BitVec.ofNat width distance := by
    rw [cursorAt, cursorAt, BitVec.ofNat_add, ← BitVec.add_assoc, BitVec.add_comm,
      BitVec.add_sub_cancel]
  rw [difference, BitVec.toNat_ofNat, Nat.add_sub_cancel_left]
  rw [Nat.add_sub_cancel_left] at near
  exact Nat.mod_eq_of_lt near

/-- Cursors less than the range of the word apart are equal only at the same count. -/
theorem cursorAt_inj (ordered : earlier ≤ later) (near : later - earlier < 2 ^ width) :
    cursorAt start earlier = cursorAt start later ↔ earlier = later := by
  refine ⟨fun same => ?_, fun same => by rw [same]⟩
  have distance := toNat_sub_cursorAt start ordered near
  rw [same, BitVec.sub_self, BitVec.toNat_zero] at distance
  omega

theorem toNat_and_mask (narrow : exponent ≤ width) (cursor : BitVec width) :
    (cursor &&& BitVec.ofNat width (2 ^ exponent - 1)).toNat = cursor.toNat % 2 ^ exponent := by
  have power_le : 2 ^ exponent ≤ 2 ^ width := Nat.pow_le_pow_right (by omega) narrow
  have power_pos : 0 < 2 ^ exponent := Nat.two_pow_pos exponent
  rw [BitVec.toNat_and, BitVec.toNat_ofNat, Nat.mod_eq_of_lt (by omega),
    Nat.and_two_pow_sub_one_eq_mod]

theorem toNat_cursorAt_mod (narrow : exponent ≤ width) (count : Nat) :
    (cursorAt start count).toNat % 2 ^ exponent = (start.toNat + count) % 2 ^ exponent := by
  rw [toNat_cursorAt, Nat.mod_mod_of_dvd _ (pow_dvd_pow 2 narrow)]

theorem eq_of_mod_eq {modulus offset : Nat} (ordered : earlier ≤ later)
    (near : later < earlier + modulus)
    (same : (offset + earlier) % modulus = (offset + later) % modulus) : earlier = later := by
  have congruent : offset + earlier ≡ offset + later [MOD modulus] := same
  have divides := (Nat.modEq_iff_dvd' (by omega)).mp congruent
  have zero := Nat.eq_zero_of_dvd_of_lt divides (by omega)
  omega

end WrappingCursor
