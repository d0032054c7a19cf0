import Mathlib.Data.List.GetD
import Omq.Proto.ChunkedBuf

/-!
# The ZMTP greeting

The 64-byte greeting, its early refusal of old peers after eleven bytes, and the flat decoder
which agrees with the one over the input buffer.
-/

namespace Omq

open List

def greetingLen : Nat := 64

/-- Bytes needed to see the peer's major version. -/
def versionSniffLen : Nat := 11

def zmtpMajor : UInt8 := 3

def zmtpMinor : UInt8 := 1

def signature : Bytes := [0xFF, 0, 0, 0, 0, 0, 0, 0, 0, 0x7F]

def mechanismBytes : Nat := 20

/-- A mechanism name, zero-padded to its field on the wire. -/
structure MechanismName where
  padded : Bytes
  width : padded.length = mechanismBytes
  deriving DecidableEq

namespace MechanismName

def ofAscii (name : Bytes) (short : name.length ≤ mechanismBytes) : MechanismName where
  padded := name ++ List.replicate (mechanismBytes - name.length) 0
  width := by simp; omega

/-- No encryption and no authentication. -/
def null : MechanismName := ofAscii (ascii "NULL") (by decide)

/-- CurveZMQ encryption. -/
def curve : MechanismName := ofAscii (ascii "CURVE") (by decide)

/-- Username and password without encryption. -/
def plain : MechanismName := ofAscii (ascii "PLAIN") (by decide)

/-- The name up to its first NUL. -/
def asBytes (name : MechanismName) : Bytes := name.padded.takeWhile (· ≠ 0)

end MechanismName

structure Greeting where
  major : UInt8
  minor : UInt8
  mechanism : MechanismName
  asServer : Bool

namespace Greeting

/-- A greeting for our wire version. -/
def current (mechanism : MechanismName) (asServer : Bool) : Greeting :=
  ⟨zmtpMajor, zmtpMinor, mechanism, asServer⟩

variable (greeting : Greeting)

def encode : Bytes :=
  signature ++ [greeting.major, greeting.minor] ++ greeting.mechanism.padded ++
    [if greeting.asServer then 1 else 0] ++
    List.replicate (greetingLen - (10 + 2 + mechanismBytes + 1)) 0

/-- Check the first eleven bytes of a greeting. -/
def peekMajor (sniff : Bytes) : Except Error (Option UInt8) :=
  if sniff.length < versionSniffLen then .ok none
  else if sniff.getD 0 0 ≠ 0xFF ∨ sniff.getD 9 0 ≠ 0x7F then
    .error (.protocol "bad ZMTP greeting signature")
  else
    let major := sniff.getD 10 0
    if major < 3 then .error (.unsupportedZmtpVersion major 0) else .ok (some major)

def bytesAfterNul : (sawZero : Bool) → Bytes → Bool
  | _, [] => false
  | sawZero, byte :: rest =>
    if byte = 0 then bytesAfterNul true rest
    else if sawZero then true
    else bytesAfterNul sawZero rest

def parse (raw : Bytes) (width : raw.length = greetingLen) : Except Error Greeting :=
  let major := raw.getD 10 0
  let minor := raw.getD 11 0
  if major < zmtpMajor then .error (.unsupportedZmtpVersion major minor)
  else
    let field := (raw.drop 12).take mechanismBytes
    if bytesAfterNul false field then .error (.protocol "mechanism name has bytes after NUL")
    else
      .ok {
        major := major
        minor := minor
        mechanism := ⟨field, by simp [field, width, greetingLen, mechanismBytes]⟩
        asServer := raw.getD 32 0 ≠ 0 }

/-- Outcome of decoding a greeting: refused before or after its bytes were consumed. -/
inductive Decoded (Buffer : Type)
  | incomplete
  | refused (error : Error)
  | consumed (result : Except Error Greeting) (rest : Buffer)

def tryDecode (buf : ChunkedInputBuf) : Decoded ChunkedInputBuf :=
  match buf.peekArray versionSniffLen with
  | none => .incomplete
  | some sniff =>
    match peekMajor sniff with
    | .error error => .refused error
    | .ok none => .incomplete
    | .ok (some _) =>
      match buf.peekArray greetingLen with
      | none => .incomplete
      | some raw =>
        if width : raw.length = greetingLen then
          .consumed (parse raw width) (buf.splitTo greetingLen).2
        else .incomplete

/-- Decode a greeting from the front of a byte string. -/
def flatDecode (bytes : Bytes) : Decoded Bytes :=
  match peekMajor (bytes.take versionSniffLen) with
  | .error error => .refused error
  | .ok none => .incomplete
  | .ok (some _) =>
    if width : (bytes.take greetingLen).length = greetingLen then
      .consumed (parse (bytes.take greetingLen) width) (bytes.drop greetingLen)
    else .incomplete

/-- Rename the buffer of an outcome. -/
def Decoded.map {α β : Type} (rename : α → β) : Decoded α → Decoded β
  | .incomplete => .incomplete
  | .refused error => .refused error
  | .consumed result rest => .consumed result (rename rest)

theorem tryDecode_eq (buf : ChunkedInputBuf) :
    (tryDecode buf).map ChunkedInputBuf.bytes = flatDecode buf.bytes := by
  unfold tryDecode flatDecode
  rw [buf.peekArray_eq versionSniffLen, buf.peekArray_eq greetingLen]
  by_cases short : buf.bytes.length < versionSniffLen
  · simp [short, peekMajor, Decoded.map]
  · simp only [short, if_false]
    split
    · rfl
    · rfl
    · by_cases partly : buf.bytes.length < greetingLen
      · simp [partly, Decoded.map]
      · have width : (buf.bytes.take greetingLen).length = greetingLen := by simp; omega
        simp [partly, width, Decoded.map]

variable {bytes rest : Bytes} {result : Except Error Greeting}

/-- A greeting once determined, accepted or refused, is not changed by later bytes. -/
theorem flatDecode_append (determined : flatDecode bytes ≠ .incomplete) (more : Bytes) :
    flatDecode (bytes ++ more) = (flatDecode bytes).map (· ++ more) := by
  have sniffed : versionSniffLen ≤ bytes.length := by
    by_contra short
    apply determined
    rw [flatDecode, peekMajor, if_pos (by simp; omega)]
  unfold flatDecode at determined ⊢
  rw [take_append_of_le_length sniffed]
  split
  · rfl
  next incomplete => simp [incomplete] at determined
  next major accepted =>
    simp only [accepted] at determined ⊢
    split at determined
    next width =>
      have whole : greetingLen ≤ bytes.length := by
        rw [length_take] at width
        omega
      simp only [take_append_of_le_length whole, drop_append_of_le_length whole,
        width, dite_true, Decoded.map]
    · exact absurd rfl determined

section

variable (decoded : flatDecode bytes = .consumed result rest)

include decoded

theorem length_of_consumed : greetingLen ≤ bytes.length := by
  unfold flatDecode at decoded
  split at decoded
  · cases decoded
  · cases decoded
  · split at decoded
    next width =>
      rw [length_take] at width
      omega
    · cases decoded

theorem rest_of_consumed : rest = bytes.drop greetingLen := by
  unfold flatDecode at decoded
  split at decoded
  · cases decoded
  · cases decoded
  · split at decoded
    · cases decoded
      rfl
    · cases decoded

theorem parse_of_consumed : ∃ width, parse (bytes.take greetingLen) width = result := by
  unfold flatDecode at decoded
  split at decoded
  · cases decoded
  · cases decoded
  · split at decoded
    next width =>
      cases decoded
      exact ⟨width, rfl⟩
    · cases decoded

end

def effectiveMinor (peerMinor : UInt8) : UInt8 := min peerMinor zmtpMinor

@[simp]
theorem length_encode : greeting.encode.length = greetingLen := by
  simp [encode, signature, greeting.mechanism.width, greetingLen, mechanismBytes]

theorem encode_eq :
    greeting.encode =
      [0xFF, 0, 0, 0, 0, 0, 0, 0, 0, 0x7F, greeting.major, greeting.minor] ++
        (greeting.mechanism.padded ++
          (if greeting.asServer then 1 else 0) :: List.replicate 31 0) := by
  simp [encode, signature, greetingLen, mechanismBytes]

/-- The decoder reads back an encoded greeting of a supported version and a canonical name. -/
theorem flatDecode_encode (supported : ¬greeting.major < 3)
    (canonical : bytesAfterNul false greeting.mechanism.padded = false) (rest : Bytes) :
    flatDecode (greeting.encode ++ rest) = .consumed (.ok greeting) rest := by
  have whole : (greeting.encode ++ rest).take greetingLen = greeting.encode :=
    take_left' (length_encode greeting)
  have name_width : greeting.mechanism.padded.length = 20 := greeting.mechanism.width
  have sniff : (greeting.encode ++ rest).take versionSniffLen =
      [0xFF, 0, 0, 0, 0, 0, 0, 0, 0, 0x7F, greeting.major] := by
    rw [encode_eq]
    rfl
  have major_eq : greeting.encode.getD 10 0 = greeting.major := by rw [encode_eq]; rfl
  have minor_eq : greeting.encode.getD 11 0 = greeting.minor := by rw [encode_eq]; rfl
  have name_eq : (greeting.encode.drop 12).take mechanismBytes = greeting.mechanism.padded := by
    rw [encode_eq]
    exact take_left' name_width
  have server_eq : greeting.encode.getD 32 0 = if greeting.asServer then 1 else 0 := by
    rw [encode_eq, getD_append_right _ _ _ _ (by simp),
      getD_append_right _ _ _ _ (by simp [name_width])]
    simp [name_width]
  have parsed : parse greeting.encode (length_encode greeting) = .ok greeting := by
    unfold parse
    simp only [major_eq, minor_eq, name_eq, server_eq, canonical, zmtpMajor]
    rw [if_neg supported]
    cases greeting with
    | mk major minor mechanism asServer => cases asServer <;> simp
  have accepted : peekMajor [0xFF, 0, 0, 0, 0, 0, 0, 0, 0, 0x7F, greeting.major] =
      .ok (some greeting.major) := by
    simp [peekMajor, versionSniffLen, supported]
  unfold flatDecode
  simp only [sniff, accepted, whole, length_encode, dite_true, parsed]
  rw [drop_left' (length_encode greeting)]

end Greeting

end Omq
