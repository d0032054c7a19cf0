import Omq.Proto.Error

/-!
# UTF-8 text in commands

Validation and lossy decoding of peer-supplied text, and the quoted rendering error messages use.
-/

namespace Omq

def isContinuation (byte : UInt8) : Bool := byte &&& 0xC0 = 0x80

/-- The second bytes a three- or four-byte leader admits. -/
def secondByteOk (leader second : UInt8) : Bool :=
  if leader = 0xE0 then 0xA0 ≤ second ∧ second ≤ 0xBF
  else if leader = 0xED then 0x80 ≤ second ∧ second ≤ 0x9F
  else if leader = 0xF0 then 0x90 ≤ second ∧ second ≤ 0xBF
  else if leader = 0xF4 then 0x80 ≤ second ∧ second ≤ 0x8F
  else isContinuation second

def continuationBits (byte : UInt8) : Nat := byte.toNat % 64

/-- Length of the first sequence, valid or not, and its code point when it is valid. -/
def utf8Step : Bytes → Nat × Option Nat
  | [] => (0, none)
  | leader :: rest =>
    if leader < 0x80 then (1, some leader.toNat)
    else if 0xC2 ≤ leader ∧ leader ≤ 0xDF then
      match rest with
      | second :: _ =>
        if isContinuation second then
          (2, some (leader.toNat % 32 * 64 + continuationBits second))
        else (1, none)
      | [] => (1, none)
    else if 0xE0 ≤ leader ∧ leader ≤ 0xEF then
      match rest with
      | second :: third :: _ =>
        if !secondByteOk leader second then (1, none)
        else if isContinuation third then
          (3, some ((leader.toNat % 16 * 64 + continuationBits second) * 64 +
            continuationBits third))
        else (2, none)
      | [second] => if secondByteOk leader second then (2, none) else (1, none)
      | [] => (1, none)
    else if 0xF0 ≤ leader ∧ leader ≤ 0xF4 then
      match rest with
      | second :: third :: fourth :: _ =>
        if !secondByteOk leader second then (1, none)
        else if !isContinuation third then (2, none)
        else if isContinuation fourth then
          (4, some (((leader.toNat % 8 * 64 + continuationBits second) * 64 +
            continuationBits third) * 64 + continuationBits fourth))
        else (3, none)
      | [second, third] =>
        if !secondByteOk leader second then (1, none)
        else if isContinuation third then (3, none) else (2, none)
      | [second] => if secondByteOk leader second then (2, none) else (1, none)
      | [] => (1, none)
    else (1, none)

/-- The code points of a byte string, with `none` for every invalid sequence. -/
def utf8Points : (fuel : Nat) → Bytes → List (Option Nat)
  | 0, _ => []
  | _, [] => []
  | fuel + 1, bytes =>
    let (width, point) := utf8Step bytes
    point :: utf8Points fuel (bytes.drop width)

variable (bytes : Bytes)

def isUtf8 : Bool := (utf8Points bytes.length bytes).all Option.isSome

/-- Decode with a replacement character for every invalid sequence. -/
def fromUtf8Lossy : List Char :=
  (utf8Points bytes.length bytes).map fun point => Char.ofNat (point.getD 0xFFFD)

/-- The escaped form of a character inside a quoted rendering.  Characters which do not print are
left as they are. -/
def escapeDebug (character : Char) : List Char :=
  if character = '"' then ['\\', '"']
  else if character = '\\' then ['\\', '\\']
  else if character = '\n' then ['\\', 'n']
  else if character = '\r' then ['\\', 'r']
  else if character = '\t' then ['\\', 't']
  else if character = '\x00' then ['\\', '0']
  else [character]

/-- The quoted rendering of text. -/
def debugText : String :=
  String.ofList (['"'] ++ (fromUtf8Lossy bytes).flatMap escapeDebug ++ ['"'])

def displayText : String := String.ofList (fromUtf8Lossy bytes)

/-- The bytes of a code point. -/
def utf8Encode (point : Nat) : Bytes :=
  if point < 0x80 then [.ofNat point]
  else if point < 0x800 then [.ofNat (0xC0 + point / 64), .ofNat (0x80 + point % 64)]
  else if point < 0x10000 then
    [.ofNat (0xE0 + point / 4096), .ofNat (0x80 + point / 64 % 64), .ofNat (0x80 + point % 64)]
  else
    [.ofNat (0xF0 + point / 262144), .ofNat (0x80 + point / 4096 % 64),
      .ofNat (0x80 + point / 64 % 64), .ofNat (0x80 + point % 64)]

theorem isContinuation_iff (byte : UInt8) :
    isContinuation byte = true ↔ 0x80 ≤ byte.toNat ∧ byte.toNat < 0xC0 := by
  have bytes : ∀ code < 256, isContinuation (.ofNat code) = true ↔ 0x80 ≤ code ∧ code < 0xC0 := by
    decide +kernel
  simpa using bytes byte.toNat byte.toNat_lt

theorem secondByteOk_iff (leader second : UInt8) : secondByteOk leader second = true ↔
    0x80 ≤ second.toNat ∧ second.toNat < 0xC0 ∧ (leader.toNat = 0xE0 → 0xA0 ≤ second.toNat) ∧
      (leader.toNat = 0xED → second.toNat < 0xA0) ∧ (leader.toNat = 0xF0 → 0x90 ≤ second.toNat) ∧
      (leader.toNat = 0xF4 → second.toNat < 0x90) := by
  unfold secondByteOk
  split_ifs <;> simp_all [isContinuation_iff, UInt8.le_iff_toNat_le, ← UInt8.toNat_inj] <;> omega

/-- A valid sequence is the encoding of its code point. -/
theorem utf8Step_eq_some {bytes : Bytes} {width point : Nat}
    (stepped : utf8Step bytes = (width, some point)) :
    point.isValidChar ∧ bytes.take width = utf8Encode point := by
  have spelled {byte : UInt8} {value : Nat} (same : byte.toNat = value) : byte = .ofNat value := by
    rw [← same, UInt8.ofNat_toNat]
  revert stepped
  fun_cases utf8Step bytes <;> rintro ⟨⟩ <;>
    simp only [Bool.not_eq_true', Bool.not_eq_false, secondByteOk_iff, isContinuation_iff,
      UInt8.lt_iff_toNat_lt, UInt8.le_iff_toNat_le, UInt8.reduceToNat, continuationBits,
      Nat.isValidChar, List.take_succ_cons, List.take_zero] at * <;>
    refine ⟨by omega, ?_⟩ <;> unfold utf8Encode
  · rw [if_pos (by omega), UInt8.ofNat_toNat]
  · rw [if_neg (by omega), if_pos (by omega), List.cons.injEq, List.cons.injEq]
    exact ⟨spelled (by omega), spelled (by omega), rfl⟩
  · rw [if_neg (by omega), if_neg (by omega), if_pos (by omega)]
    simp only [List.cons.injEq, and_true]
    exact ⟨spelled (by omega), spelled (by omega), spelled (by omega)⟩
  · rw [if_neg (by omega), if_neg (by omega), if_neg (by omega)]
    simp only [List.cons.injEq, and_true]
    exact ⟨spelled (by omega), spelled (by omega), spelled (by omega), spelled (by omega)⟩

/-- Valid text is decoded without loss. -/
theorem flatMap_utf8Points {fuel : Nat} {bytes : Bytes} (enough : bytes.length ≤ fuel)
    (valid : (utf8Points fuel bytes).all Option.isSome = true) :
    ((utf8Points fuel bytes).map fun point => Char.ofNat (point.getD 0xFFFD)).flatMap
      (utf8Encode ·.toNat) = bytes := by
  fun_induction utf8Points fuel bytes with
  | case1 bytes => exact (List.length_eq_zero_iff.mp (Nat.le_zero.mp enough)).symm
  | case2 => rfl
  | case3 fuel bytes nonempty width point stepped induction =>
    obtain ⟨some_point, valid⟩ := Bool.and_eq_true_iff.mp (List.all_cons .. ▸ valid)
    obtain ⟨point, rfl⟩ := Option.isSome_iff_exists.mp some_point
    obtain ⟨scalar, encoded⟩ := utf8Step_eq_some stepped
    have advances : width ≠ 0 := by
      rintro rfl
      unfold utf8Encode at encoded
      split_ifs at encoded <;> cases encoded
    have shorter : (bytes.drop width).length ≤ fuel := by
      rw [List.length_drop]
      omega
    have read_back : (Char.ofNat point).toNat = point := by
      rw [Char.ofNat, dif_pos scalar]
      rfl
    rw [List.map_cons, List.flatMap_cons, induction shorter valid, Option.getD_some, read_back,
      ← encoded, List.take_append_drop]

theorem fromUtf8Lossy_inj {left right : Bytes} (valid : isUtf8 left = true)
    (also_valid : isUtf8 right = true) (same : fromUtf8Lossy left = fromUtf8Lossy right) :
    left = right :=
  (flatMap_utf8Points le_rfl valid).symm.trans ((congrArg _ same).trans
    (flatMap_utf8Points le_rfl also_valid))

end Omq
