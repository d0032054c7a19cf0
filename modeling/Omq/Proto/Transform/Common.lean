import Omq.Proto.Message

/-!
# What the compression transforms share

The LZ4 and zstd libraries are third-party code and enter as the class `CompressionPrimitives`.
`LosslessCompression` states what the transforms rely on: a block decompresses to its plaintext
under the dictionary it was compressed with.
-/

namespace Omq

open List Message

/-- The compression libraries the transforms call. -/
class CompressionPrimitives where
  lz4Compress : (dict : Option Bytes) → (plain : Bytes) → Except String Bytes
  lz4Decompress : (dict : Option Bytes) → (block : Bytes) → (size : Nat) → Except String Bytes
  lz4Train : (capacity : Nat) → (samples : List Bytes) → Bytes
  zstdCompress : (dict : Option Bytes) → (level : Int) → (plain : Bytes) → Except String Bytes
  zstdContentSize : (frame : Bytes) → Except String (Option Nat)
  zstdDecompress : (dict : Option Bytes) → (frame : Bytes) → (limit : Nat) → Except String Bytes
  zstdDictionary : (dict : Bytes) → Except String Unit
  zstdTrain : (capacity : Nat) → (samples : List Bytes) → Bytes

open CompressionPrimitives

/-- What the transforms rely on: a block decompresses under the dictionary it was compressed with,
and the formats keep their documented size bounds. -/
class LosslessCompression [CompressionPrimitives] : Prop where
  /-- An LZ4 block decompresses to its plaintext. -/
  lz4_decompress {dict : Option Bytes} {plain block : Bytes} :
    lz4Compress dict plain = .ok block → lz4Decompress dict block plain.length = .ok plain
  /-- An LZ4 block outgrows its plaintext by little. -/
  lz4_compress_bound {dict : Option Bytes} {plain block : Bytes} :
    lz4Compress dict plain = .ok block → block.length ≤ plain.length + plain.length / 255 + 16
  /-- An LZ4 block and its length prefix expand at most 255 times. -/
  lz4_expansion_bound {dict : Option Bytes} {plain block : Bytes} :
    lz4Compress dict plain = .ok block → plain.length ≤ (4 + block.length) * 255
  /-- A trained LZ4 dictionary fits the capacity. -/
  lz4_train_bound (capacity : Nat) (samples : List Bytes) :
    (lz4Train capacity samples).length ≤ capacity
  /-- A zstd frame decompresses to its plaintext. -/
  zstd_decompress {dict : Option Bytes} {level : Int} {plain frame : Bytes} :
    zstdCompress dict level plain = .ok frame → zstdDecompress dict frame plain.length = .ok plain
  /-- A zstd frame declares the size of its plaintext. -/
  zstd_contentSize {dict : Option Bytes} {level : Int} {plain frame : Bytes} :
    zstdCompress dict level plain = .ok frame → zstdContentSize frame = .ok (some plain.length)
  /-- A zstd frame starts with the frame magic. -/
  zstd_magic {dict : Option Bytes} {level : Int} {plain frame : Bytes} :
    zstdCompress dict level plain = .ok frame → frame.take 4 = [0x28, 0xB5, 0x2F, 0xFD]
  /-- A trained zstd dictionary fits the largest capacity. -/
  zstd_train_bound {capacity : Nat} (samples : List Bytes) :
    capacity ≤ 8192 → (zstdTrain capacity samples).length ≤ 8192

/-- A codec to evaluate the model on concrete inputs: a short plaintext which starts the dictionary
is one byte, anything else is stored. -/
@[reducible]
def CompressionPrimitives.storing : CompressionPrimitives where
  lz4Compress dict plain :=
    if plain.length ≤ 255 ∧ dict.any plain.isPrefixOf then .ok [0] else .ok (1 :: plain)
  lz4Decompress dict block size :=
    match block with
    | 0 :: _ => .ok ((dict.getD []).take size)
    | _ => .ok ((block.drop 1).take size)
  lz4Train capacity samples := samples.flatten.take capacity
  zstdCompress _ _ plain := .ok ([0x28, 0xB5, 0x2F, 0xFD] ++ plain)
  zstdContentSize frame := .ok (some (frame.length - 4))
  zstdDecompress _ frame limit := .ok ((frame.drop 4).take limit)
  zstdDictionary _ := .ok ()
  zstdTrain capacity samples := samples.flatten.take capacity

theorem LosslessCompression.storing : @LosslessCompression .storing :=
  letI := CompressionPrimitives.storing
  { lz4_decompress := by
      intro dict plain block compressed
      simp only [lz4Compress] at compressed
      split at compressed
      next short =>
        cases compressed
        cases dict with
        | none => simp at short
        | some dict =>
          have front := isPrefixOf_iff_prefix.mp short.2
          have taken := prefix_iff_eq_take.mp front
          simp [lz4Decompress, ← taken]
      · cases compressed
        simp [lz4Decompress]
    lz4_compress_bound := by
      intro dict plain block compressed
      simp only [lz4Compress] at compressed
      split at compressed <;> cases compressed
      · simp
      · simp only [length_cons]
        omega
    lz4_expansion_bound := by
      intro dict plain block compressed
      simp only [lz4Compress] at compressed
      split at compressed
      next short =>
        cases compressed
        simp only [length_cons, length_nil]
        omega
      · cases compressed
        simp only [length_cons]
        omega
    lz4_train_bound := by
      intro capacity samples
      exact length_take_le _ _
    zstd_decompress := by
      intro dict level plain frame compressed
      cases compressed
      simp [zstdDecompress]
    zstd_contentSize := by
      intro dict level plain frame compressed
      cases compressed
      simp [zstdContentSize]
    zstd_magic := by
      intro dict level plain frame compressed
      cases compressed
      rfl
    zstd_train_bound := by
      intro capacity samples bound
      exact (length_take_le _ _).trans bound }

def sentinelPlain : Bytes := [0, 0, 0, 0]

def envelopePlain : Nat := 4

def takeBudget (budget : Option Nat) (take : Nat) : Except Error (Option Nat) :=
  match budget with
  | none => .ok none
  | some left => if left < take then .error (.messageTooLarge take left)
    else .ok (some (left - take))

/-- A part the transform did not compress. -/
def plaintextPayload (plain : Bytes) : Payload := .fromBytes (sentinelPlain ++ plain)

/-- Check a dictionary against the cap of a transform. -/
def validateDict (dict : Bytes) (label : String) (maxBytes : Nat) : Except Error Unit :=
  if dict = [] then .error (.protocol (label ++ " dictionary must not be empty"))
  else if maxBytes < dict.length then
    .error (.protocol (label ++ " dictionary " ++ toString dict.length ++ " bytes exceeds max " ++
      toString maxBytes))
  else .ok ()

theorem map_eq_ok {ε α β : Type} {f : α → β} {result : Except ε α} {value : β}
    (mapped : result.map f = .ok value) : ∃ before, result = .ok before ∧ f before = value := by
  cases result with
  | error error => cases mapped
  | ok before => exact ⟨before, rfl, Except.ok.inj mapped⟩

theorem mapError_eq_ok {ε δ α : Type} {f : ε → δ} {result : Except ε α} {value : α}
    (mapped : result.mapError f = .ok value) : result = .ok value := by
  cases result with
  | error error => cases mapped
  | ok before => rw [Except.ok.inj mapped]

theorem validateDict_eq_ok_iff {dict : Bytes} (label : String) {maxBytes : Nat} :
    validateDict dict label maxBytes = .ok () ↔ dict ≠ [] ∧ dict.length ≤ maxBytes := by
  unfold validateDict
  split
  next empty => simp [empty]
  next nonempty =>
    split
    next long => simp [nonempty, not_le.mpr long]
    next short => simp [nonempty, not_lt.mp short]

def buildDictShipment (sentinel dict : Bytes) : Message := .ofSingle (sentinel ++ dict)

variable {σ : Type}

def encodeParts (encodePart : σ → Payload → σ × Except Error Payload) :
    σ → List Payload → Message → σ × Except Error Message
  | encoder, [], wire => (encoder, .ok wire)
  | encoder, part :: rest, wire =>
    match encodePart encoder part with
    | (encoder, .error error) => (encoder, .error error)
    | (encoder, .ok encoded) =>
      encodeParts encodePart encoder rest (wire.pushPartPayload encoded)

/-- Every state on the way keeps the invariant, and every part of the wire message encodes the
part of the message at its place. -/
theorem encodeParts_spec (encodePart : σ → Payload → σ × Except Error Payload)
    (invariant : σ → Prop) (encodes : Payload → Payload → Prop) (parts : List Payload)
    (each : ∀ encoder, ∀ part ∈ parts, invariant encoder →
      invariant (encodePart encoder part).1 ∧
        ∀ encoded, (encodePart encoder part).2 = .ok encoded → encodes part encoded)
    (encoder : σ) (wire : Message) (holds : invariant encoder) :
    invariant (encodeParts encodePart encoder parts wire).1 ∧
      ∀ out, (encodeParts encodePart encoder parts wire).2 = .ok out →
        ∃ encoded, out.parts = wire.parts ++ encoded.map Payload.asSlice ∧
          List.Forall₂ encodes parts encoded := by
  induction parts generalizing encoder wire with
  | nil =>
    refine ⟨holds, fun out out_eq => ⟨[], ?_, .nil⟩⟩
    cases out_eq
    simp
  | cons part rest induction =>
    obtain ⟨kept, encodes_part⟩ := each encoder part mem_cons_self holds
    unfold encodeParts
    split
    next next error part_eq =>
      rw [part_eq] at kept
      exact ⟨kept, fun out out_eq => nomatch out_eq⟩
    next next encoded part_eq =>
      rw [part_eq] at kept encodes_part
      obtain ⟨kept_rest, encodes_rest⟩ := induction
        (fun encoder part member => each encoder part (mem_cons_of_mem _ member))
        next (wire.pushPartPayload encoded) kept
      refine ⟨kept_rest, fun out out_eq => ?_⟩
      obtain ⟨later, parts_eq, later_encodes⟩ := encodes_rest out out_eq
      refine ⟨encoded :: later, ?_, .cons (encodes_part encoded rfl) later_encodes⟩
      rw [parts_eq, parts_pushPartPayload, append_assoc]
      rfl

/-- What tells the receive side of one transform from the other's. -/
structure PartFormat (σ : Type) where
  /-- Refusal of a part without a sentinel. -/
  shortPart : String
  /-- Refusal of a dictionary beside other parts. -/
  notSingle : String
  dictSentinel : Bytes
  install : σ → Bytes → Except Error σ
  decodePart : σ → Bytes → Option Nat → Except Error (Payload × Option Nat)

namespace PartFormat

variable {σ : Type} (format : PartFormat σ) (decoder : σ)

/-- Decode the parts of a message in order, or install the dictionary it ships. -/
def decodeParts (multipart : Bool) :
    (index : Nat) → List Bytes → Option Nat → Message → Except Error (σ × Option Message)
  | _, [], _, out => .ok (decoder, some out)
  | index, bytes :: rest, budget, out =>
    if bytes.length < 4 then .error (.protocol format.shortPart)
    else if bytes.take 4 = format.dictSentinel then
      if multipart ∨ index ≠ 0 then .error (.protocol format.notSingle)
      else
        match format.install decoder bytes with
        | .error error => .error error
        | .ok decoder => .ok (decoder, none)
    else
      match format.decodePart decoder bytes budget with
      | .error error => .error error
      | .ok (payload, budget) =>
        decodeParts multipart (index + 1) rest budget (out.pushPartPayload payload)

/-- Decode one wire message; `none` was consumed by the transform. -/
def decode (budget : Option Nat) (message : Message) : Except Error (σ × Option Message) :=
  format.decodeParts decoder (1 < message.partsPayload.length) 0
    (message.partsPayload.map Payload.asSlice) budget .empty

/-- The bytes are a data part which decodes to `part` without a budget. -/
structure Decodes (part encoded : Payload) : Prop where
  long : 4 ≤ encoded.asSlice.length
  data : encoded.asSlice.take 4 ≠ format.dictSentinel
  plain : format.decodePart decoder encoded.asSlice none = .ok (.fromBytes part.asSlice, none)

variable {format decoder}

theorem decodeParts_of_decodes (multipart : Bool) {parts encoded : List Payload}
    (decodes : List.Forall₂ (format.Decodes decoder) parts encoded) (index : Nat) (out : Message) :
    ∃ plain, format.decodeParts decoder multipart index (encoded.map Payload.asSlice) none out =
        .ok (decoder, some plain) ∧
      plain.parts = out.parts ++ parts.map Payload.asSlice := by
  induction decodes generalizing index out with
  | nil => exact ⟨out, rfl, by simp⟩
  | @cons part payload parts encoded first _ induction =>
    obtain ⟨plain, plain_eq, parts_eq⟩ :=
      induction (index + 1) (out.pushPartPayload (.fromBytes part.asSlice))
    refine ⟨plain, ?_, ?_⟩
    · rw [map_cons, decodeParts, if_neg (by have := first.long; omega),
        if_neg first.data, first.plain]
      exact plain_eq
    · rw [parts_eq, parts_pushPartPayload, Payload.asSlice_fromBytes, append_assoc]
      rfl

theorem decode_of_decodes {message wire : Message} {encoded : List Payload}
    (wire_parts : wire.parts = encoded.map Payload.asSlice)
    (decodes : List.Forall₂ (format.Decodes decoder) message.partsPayload encoded) :
    ∃ plain, format.decode decoder none wire = .ok (decoder, some plain) ∧
      plain.parts = message.parts := by
  obtain ⟨plain, plain_eq, parts_eq⟩ :=
    decodeParts_of_decodes (1 < wire.partsPayload.length) decodes 0 .empty
  refine ⟨plain, ?_, ?_⟩
  · rw [decode, parts_partsPayload, wire_parts]
    exact plain_eq
  · rw [parts_eq, parts_partsPayload]
    rfl

/-- A single-part message behind the dictionary sentinel installs the dictionary. -/
theorem decode_shipment {shipment : Bytes} {installed : σ} (budget : Option Nat)
    (long : 4 ≤ shipment.length) (sentinel : shipment.take 4 = format.dictSentinel)
    (install_eq : format.install decoder shipment = .ok installed) :
    format.decode decoder budget (.ofSingle shipment) = .ok (installed, none) := by
  have parts_eq : (ofSingle shipment).partsPayload.map Payload.asSlice = [shipment] := by
    rw [parts_partsPayload, parts_ofSingle]
  have single : (ofSingle shipment).partsPayload.length = 1 := by
    rw [← length_map Payload.asSlice, parts_eq]
    rfl
  rw [decode, parts_eq, single, decodeParts, if_neg (by omega), if_pos sentinel, install_eq]
  rfl

end PartFormat

def decodeStream (decode : σ → Message → Except Error (σ × Option Message)) :
    σ → List Message → Except Error (σ × List Message)
  | decoder, [] => .ok (decoder, [])
  | decoder, wire :: rest =>
    match decode decoder wire with
    | .error error => .error error
    | .ok (decoder, message) =>
      match decodeStream decode decoder rest with
      | .error error => .error error
      | .ok (decoder, messages) => .ok (decoder, message.toList ++ messages)

theorem decodeStream_singleton {decode : σ → Message → Except Error (σ × Option Message)}
    {decoder next : σ} {wire : Message} {message : Option Message}
    (wire_eq : decode decoder wire = .ok (next, message)) :
    decodeStream decode decoder [wire] = .ok (next, message.toList) := by
  simp [decodeStream, wire_eq]

theorem decodeStream_map {σ τ : Type}
    {decode : σ → Message → Except Error (σ × Option Message)}
    {wrapped : τ → Message → Except Error (τ × Option Message)} (lift : σ → τ)
    (wraps : ∀ decoder message,
      wrapped (lift decoder) message = (decode decoder message).map (Prod.map lift id))
    {first last : σ} {wires messages : List Message}
    (stream_eq : decodeStream decode first wires = .ok (last, messages)) :
    decodeStream wrapped (lift first) wires = .ok (lift last, messages) := by
  induction wires generalizing first messages with
  | nil => cases stream_eq; rfl
  | cons wire rest induction =>
    rw [decodeStream] at stream_eq ⊢
    rw [wraps]
    split at stream_eq
    · cases stream_eq
    next decoder message wire_eq =>
      rw [wire_eq]
      split at stream_eq
      · cases stream_eq
      next decoder' later rest_eq =>
        cases stream_eq
        simp only [Except.map, Prod.map, induction rest_eq, id_eq]

theorem decodeStream_append {decode : σ → Message → Except Error (σ × Option Message)}
    {first middle last : σ} {left right : List Message} {before later : List Message}
    (left_eq : decodeStream decode first left = .ok (middle, before))
    (right_eq : decodeStream decode middle right = .ok (last, later)) :
    decodeStream decode first (left ++ right) = .ok (last, before ++ later) := by
  induction left generalizing first before with
  | nil =>
    cases left_eq
    exact right_eq
  | cons wire rest induction =>
    rw [decodeStream] at left_eq
    split at left_eq
    · cases left_eq
    next decoder message wire_eq =>
      split at left_eq
      · cases left_eq
      next decoder' messages rest_eq =>
        cases left_eq
        rw [cons_append, decodeStream, wire_eq, append_assoc]
        simp only [induction rest_eq]

end Omq
