import Omq.Proto.Text

/-!
# Z85

Four bytes as five digits to the base 85.  Five digits may stand for a number beyond four bytes,
which is refused.
-/

namespace Omq.Z85

open List

/-- The characters of the digits in their order. -/
def alphabet : Bytes := ascii
  "0123456789abcdefghijklmnopqrstuvwxyzABCDEFGHIJKLMNOPQRSTUVWXYZ.-:+=^!/*?&<>()[]\x7b\x7d@%$#"

/-- The digit of every character; 0xFF for a character without one. -/
def buildDecoder : Bytes :=
  alphabet.zipIdx.foldl (fun table (character, digit) => table.set character.toNat (.ofNat digit))
    (replicate 256 0xFF)

def encodeChunk (value : Nat) : Bytes :=
  [4, 3, 2, 1, 0].map fun power => alphabet.getD (value / 85 ^ power % 85) 0

def encodeChunks : Bytes → Bytes
  | first :: second :: third :: fourth :: rest =>
    encodeChunk (BigEndian.decode [first, second, third, fourth]) ++ encodeChunks rest
  | _ => []

def encode (data : Bytes) : Except Error Bytes :=
  if data.length % 4 ≠ 0 then
    .error (.protocol s!"Z85 input must be a multiple of 4 bytes, got {data.length}")
  else .ok (encodeChunks data)

/-- The quoted rendering of a character. -/
def debugCharacter (character : UInt8) : String :=
  let shown := if character = 0x27 then ['\\', '\x27'] else if character = 0x22 then ['"']
    else escapeDebug (Char.ofNat character.toNat)
  "'" ++ String.ofList shown ++ "'"

def decodeDigit (character : UInt8) : Except Error Nat :=
  let digit := buildDecoder.getD character.toNat 0
  if digit = 0xFF then .error (.protocol ("Z85 invalid character: " ++ debugCharacter character))
  else .ok digit.toNat

def decodeChunk (chunk : Bytes) : Except Error Bytes := do
  let value ← chunk.foldlM (fun value character => do
    return value * 85 + (← decodeDigit character)) 0
  if value > 2 ^ 32 - 1 then throw (.protocol "Z85 chunk overflowed u32")
  return BigEndian.encode 4 value

def decodeChunks : Bytes → Except Error Bytes
  | first :: second :: third :: fourth :: fifth :: rest => do
    let block ← decodeChunk [first, second, third, fourth, fifth]
    return block ++ (← decodeChunks rest)
  | _ => .ok []

def decode (text : Bytes) : Except Error Bytes :=
  if text.length % 5 ≠ 0 then
    .error (.protocol s!"Z85 input must be a multiple of 5 chars, got {text.length}")
  else decodeChunks text

theorem decodeDigit_eq_ok_iff {character : UInt8} {digit : Nat} :
    decodeDigit character = .ok digit ↔ digit < 85 ∧ alphabet.getD digit 0 = character := by
  have inverse : ∀ code < 256, buildDecoder.getD code 0 = 0xFF ∨
      (buildDecoder.getD code 0).toNat < 85 ∧
        alphabet.getD (buildDecoder.getD code 0).toNat 0 = .ofNat code := by decide +kernel
  have digits : ∀ digit < 85, decodeDigit (alphabet.getD digit 0) = .ok digit := by
    decide +kernel
  constructor
  · fun_cases decodeDigit character with
    | case1 => rintro ⟨⟩
    | case2 _ valid =>
      rintro ⟨⟩
      rw [← character.ofNat_toNat]
      exact (inverse character.toNat character.toNat_lt).resolve_left valid
  · rintro ⟨small, rfl⟩
    exact digits digit small

theorem decodeChunk_eq_ok_iff {block : Bytes} {a b c d e : UInt8} :
    decodeChunk [a, b, c, d, e] = .ok block ↔
      block.length = 4 ∧ encodeChunk (BigEndian.decode block) = [a, b, c, d, e] := by
  simp only [decodeChunk, foldlM_cons, foldlM_nil, exceptBind_eq_ok, exceptGuard_eq_ok,
    decodeDigit_eq_ok_iff, encodeChunk, map_cons, map_nil, cons.injEq, and_true]
  constructor
  · rintro ⟨_, ⟨_, ⟨d₄, ⟨lt₄, rfl⟩, ⟨⟩⟩, _, ⟨d₃, ⟨lt₃, rfl⟩, ⟨⟩⟩, _, ⟨d₂, ⟨lt₂, rfl⟩, ⟨⟩⟩,
      _, ⟨d₁, ⟨lt₁, rfl⟩, ⟨⟩⟩, _, ⟨d₀, ⟨lt₀, rfl⟩, ⟨⟩⟩, ⟨⟩⟩, small, ⟨⟩⟩
    rw [BigEndian.decode_encode_of_lt (by omega)]
    refine ⟨BigEndian.length_encode .., ?_, ?_, ?_, ?_, ?_⟩ <;> congr 1 <;> omega
  · rintro ⟨four, rfl, rfl, rfl, rfl, rfl⟩
    have small := BigEndian.decode_lt block
    have digit power : BigEndian.decode block / 85 ^ power % 85 < 85 := Nat.mod_lt _ (by decide)
    rw [four] at small
    refine ⟨BigEndian.decode block, ⟨_, ⟨_, ⟨digit 4, rfl⟩, rfl⟩, _, ⟨_, ⟨digit 3, rfl⟩, rfl⟩,
      _, ⟨_, ⟨digit 2, rfl⟩, rfl⟩, _, ⟨_, ⟨digit 1, rfl⟩, rfl⟩, _, ⟨_, ⟨digit 0, rfl⟩, rfl⟩,
      congrArg Except.ok ?_⟩, by omega, congrArg Except.ok ?_⟩
    · omega
    · rw [← four, BigEndian.encode_decode]

theorem decodeChunks_eq_ok_iff {data text : Bytes} (whole : text.length % 5 = 0) :
    decodeChunks text = .ok data ↔ data.length % 4 = 0 ∧ encodeChunks data = text := by
  fun_induction decodeChunks text generalizing data with
  | case1 a b c d e rest induction =>
    simp only [length_cons] at whole
    simp only [exceptBind_eq_ok, decodeChunk_eq_ok_iff, induction (by omega)]
    constructor
    · rintro ⟨block, ⟨four, encoded⟩, blocks, ⟨fours, rfl⟩, ⟨⟩⟩
      match block with
      | [w, x, y, z] =>
        simp only [cons_append, nil_append, length_cons, encodeChunks, encoded, and_true]
        omega
    · rintro ⟨fours, encoded⟩
      match data with
      | w :: x :: y :: z :: data =>
        obtain ⟨chunk_eq, rest_eq⟩ := append_inj (show _ = [a, b, c, d, e] ++ rest from encoded) rfl
        simp only [length_cons] at fours
        exact ⟨[w, x, y, z], ⟨rfl, chunk_eq⟩, data, ⟨by omega, rest_eq⟩, rfl⟩
      | [] | [_] | [_, _] | [_, _, _] => cases encoded
  | case2 text short =>
    match text with
    | [] =>
      constructor
      · rintro ⟨⟩
        exact ⟨rfl, rfl⟩
      · rintro ⟨fours, encoded⟩
        match data with
        | [] => rfl
        | w :: x :: y :: z :: data => cases encoded
        | [_] | [_, _] | [_, _, _] => simp at fours
    | [_] | [_, _] | [_, _, _] | [_, _, _, _] => simp at whole
    | a :: b :: c :: d :: e :: rest => cases short a b c d e rest rfl

theorem length_encodeChunks : ∀ data : Bytes, (encodeChunks data).length % 5 = 0
  | _ :: _ :: _ :: _ :: rest => by
    rw [encodeChunks, length_append, show (encodeChunk _).length = 5 from rfl]
    have induction := length_encodeChunks rest
    omega
  | [] | [_] | [_, _] | [_, _, _] => rfl

/-- The texts which are accepted are the encodings, and every encoding is read back. -/
theorem decode_eq_ok_iff_encode_eq_ok (data text : Bytes) :
    (decode text = .ok data ↔ encode data = .ok text) ∧
      (data.length % 4 = 0 ↔ ∃ text, encode data = .ok text ∧ decode text = .ok data) := by
  have read_back text : decode text = .ok data ↔ encode data = .ok text := by
    constructor
    · intro decoded
      unfold decode at decoded
      split_ifs at decoded with whole
      obtain ⟨fours, rfl⟩ := (decodeChunks_eq_ok_iff (by omega)).mp decoded
      exact if_neg (by omega)
    · intro encoded
      unfold encode at encoded
      split_ifs at encoded with fours
      cases encoded
      have whole := length_encodeChunks data
      exact (if_neg (by omega)).trans ((decodeChunks_eq_ok_iff whole).mpr ⟨by omega, rfl⟩)
  refine ⟨read_back text, fun fours => ?_, fun ⟨text, encoded, _⟩ => ?_⟩
  · exact ⟨_, if_neg (by omega), (read_back _).mpr (if_neg (by omega))⟩
  · by_contra odd
    rw [encode, if_pos odd] at encoded
    cases encoded

end Omq.Z85
