import Mathlib.Data.List.Basic
import Mathlib.Tactic

/-!
# Fixed-width unsigned words in network byte order

`encode width value` is the big-endian image of `value` in `width` bytes and `decode` reads a
byte string of any length as one unsigned number.  The two are inverse on the values which fit.
-/

namespace BigEndian

open List

/-- The `width` low-order bytes of `value`, most significant first. -/
def encode : (width value : Nat) → List UInt8
  | 0, _ => []
  | width + 1, value => encode width (value / 256) ++ [UInt8.ofNat value]

variable (bytes : List UInt8)

def decode : Nat := bytes.foldl (fun value byte => value * 256 + byte.toNat) 0

variable (width value : Nat)

@[simp]
theorem length_encode : (encode width value).length = width := by
  induction width generalizing value with
  | zero => rfl
  | succ width ih => simp [encode, ih]

@[simp]
theorem decode_nil : decode [] = 0 := rfl

theorem decode_append_singleton (byte : UInt8) :
    decode (bytes ++ [byte]) = decode bytes * 256 + byte.toNat := by
  simp [decode, foldl_append]

/-- Reading a written word returns it modulo the width of the field. -/
theorem decode_encode : decode (encode width value) = value % 256 ^ width := by
  induction width generalizing value with
  | zero => simp [encode, Nat.mod_one]
  | succ width ih =>
    have byte_value : (UInt8.ofNat value).toNat = value % 256 := by simp
    have split : value % 256 ^ (width + 1) = value % 256 + 256 * (value / 256 % 256 ^ width) := by
      rw [Nat.pow_succ', Nat.mod_mul]
    rw [encode, decode_append_singleton, ih, byte_value, split]
    omega

theorem decode_encode_of_lt {width value : Nat} (fits : value < 256 ^ width) :
    decode (encode width value) = value := by
  rw [decode_encode, Nat.mod_eq_of_lt fits]

/-- A field of `length` bytes holds a number below `256 ^ length`. -/
theorem decode_lt : decode bytes < 256 ^ bytes.length := by
  induction bytes using List.reverseRecOn with
  | nil => simp
  | append_singleton bytes byte ih =>
    have byte_lt : byte.toNat < 256 := byte.toNat_lt
    rw [decode_append_singleton, length_append, length_singleton, Nat.pow_succ]
    omega

/-- Writing a number read from a field gives the field back. -/
theorem encode_decode : encode bytes.length (decode bytes) = bytes := by
  induction bytes using List.reverseRecOn with
  | nil => rfl
  | append_singleton bytes byte ih =>
    have high : (decode bytes * 256 + byte.toNat) / 256 = decode bytes := by
      have byte_lt : byte.toNat < 256 := byte.toNat_lt
      omega
    have low : UInt8.ofNat (decode bytes * 256 + byte.toNat) = byte := by
      apply UInt8.toNat_inj.mp
      have byte_lt : byte.toNat < 256 := byte.toNat_lt
      simp only [UInt8.toNat_ofNat']
      omega
    rw [length_append, length_singleton, decode_append_singleton, encode, high, low, ih]

/-- The bytes in front weigh more than all the others. -/
theorem decode_append (front back : List UInt8) :
    decode (front ++ back) = decode front * 256 ^ back.length + decode back := by
  induction back using List.reverseRecOn with
  | nil => simp
  | append_singleton back byte ih =>
    rw [← append_assoc, decode_append_singleton, decode_append_singleton, ih,
      length_append, length_singleton, Nat.pow_succ]
    ring

theorem encode_xor (left right : Nat) :
    encode width (left ^^^ right) = zipWith (· ^^^ ·) (encode width left) (encode width right) := by
  induction width generalizing left right with
  | zero => rfl
  | succ width ih =>
    have high : (left ^^^ right) / 256 = left / 256 ^^^ right / 256 := Nat.xor_div_two_pow (n := 8)
    rw [encode, encode, encode, high, ih, zipWith_append (by simp)]
    simp

/-! ## Little-endian fields -/

/-- The `width` low-order bytes of `value`, least significant first. -/
def encodeLittle : List UInt8 := (encode width value).reverse

def decodeLittle : Nat := decode bytes.reverse

@[simp]
theorem length_encodeLittle : (encodeLittle width value).length = width := by
  simp [encodeLittle]

theorem decodeLittle_encodeLittle_of_lt {width value : Nat} (fits : value < 256 ^ width) :
    decodeLittle (encodeLittle width value) = value := by
  rw [decodeLittle, encodeLittle, reverse_reverse, decode_encode_of_lt fits]

end BigEndian
