import Omq.Proto.Transform.Codec

/-!
# Streams of messages through a transform

A fresh decoder which is fed everything an encoder wrote returns the messages which were sent.  Both
transforms switch dictionaries in the middle of a stream; the zstd decoder alone refuses what its
encoder writes for a part beyond an absolute limit.
-/

namespace Omq

open CompressionPrimitives MessageEncoder Message

/-- Encode messages in order; the first failure ends the stream. -/
def encodeStream {σ : Type} (encode : σ → Message → σ × Except Error (List Message)) :
    σ → List Message → Except Error (List Message)
  | _, [] => .ok []
  | encoder, message :: rest => do
      let wires ← (encode encoder message).2
      let later ← encodeStream encode (encode encoder message).1 rest
      return wires ++ later

theorem decodeStream_encodeStream {σ τ : Type}
    {encode : σ → Message → σ × Except Error (List Message)}
    {decode : τ → Message → Except Error (τ × Option Message)} (follower : σ → τ)
    {sound : σ → Prop} {admits : Message → Prop}
    (keeps : ∀ {encoder}, sound encoder → ∀ message, sound (encode encoder message).1)
    (follows : ∀ {encoder message wires}, sound encoder → admits message →
      (encode encoder message).2 = .ok wires → ∃ plain,
        decodeStream decode (follower encoder) wires =
          .ok (follower (encode encoder message).1, [plain]) ∧ plain.parts = message.parts)
    {encoder : σ} (holds : sound encoder) {messages wires : List Message}
    (admitted : ∀ message ∈ messages, admits message)
    (encoded : encodeStream encode encoder messages = .ok wires) :
    ∃ decoder plains, decodeStream decode (follower encoder) wires = .ok (decoder, plains) ∧
      plains.map parts = messages.map parts := by
  induction messages generalizing encoder wires with
  | nil =>
    cases encoded
    exact ⟨_, [], rfl, rfl⟩
  | cons message rest induction =>
    rw [encodeStream] at encoded
    cases first_eq : (encode encoder message).2 with
    | error error => simp [first_eq, bind, Except.bind] at encoded
    | ok first =>
      cases later_eq : encodeStream encode (encode encoder message).1 rest with
      | error error => simp [first_eq, later_eq, bind, Except.bind] at encoded
      | ok later =>
        simp only [first_eq, later_eq, bind, Except.bind, pure, Except.pure,
          Except.ok.injEq] at encoded
        subst encoded
        obtain ⟨plain, plain_eq, parts_eq⟩ := follows holds (admitted _ (by simp)) first_eq
        obtain ⟨decoder, plains, plains_eq, later_parts⟩ :=
          induction (keeps holds message) (fun other member => admitted other (by simp [member]))
            later_eq
        exact ⟨decoder, plain :: plains, decodeStream_append plain_eq plains_eq, by
          simp [parts_eq, later_parts]⟩

namespace Lz4Encoder

variable [CompressionPrimitives] [LosslessCompression]

/-- Every stream an LZ4 encoder writes, with any dictionary set-up and threshold, is decoded to the
messages which were sent. -/
theorem decodeStream_new {options : CompressionOptions} {encoder : Lz4Encoder}
    (built : buildLz4 options = .ok encoder) {messages wires : List Message}
    (allocatable : ∀ message ∈ messages, message.Allocatable)
    (encoded : encodeStream encode encoder messages = .ok wires) :
    ∃ decoder plains, decodeStream Lz4Decoder.decode .new wires = .ok (decoder, plains) ∧
      plains.map parts = messages.map parts := by
  obtain ⟨sound, unshipped⟩ := sound_buildLz4 built
  have fresh : Lz4Decoder.having encoder.shippedDict = .new := by
    rw [shippedDict, unshipped]
    rfl
  rw [← fresh]
  exact decodeStream_encodeStream
    (fun encoder : Lz4Encoder => Lz4Decoder.having encoder.shippedDict)
    Sound.encode (fun sound admitted wires_eq => sound.decodeStream_encode admitted wires_eq) sound
    allocatable encoded

end Lz4Encoder

/-- The options of a socket which only lowers the threshold. -/
def CompressionOptions.eager : CompressionOptions := ⟨none, false, none, some 0, none⟩

/-- A dictionary long enough to make a block of a part which repeats it. -/
def sixteenOnes : Bytes := List.replicate 16 1

/-- A static dictionary, and a message which repeats it. -/
theorem Lz4Encoder.decodeStream_new_static :
    let _ := CompressionPrimitives.storing
    ∃ encoder wires decoder plains,
      buildLz4 { CompressionOptions.eager with compressionDict := some sixteenOnes } = .ok encoder ∧
      encodeStream encode encoder [.ofSingle sixteenOnes, .ofSingle [3]] = .ok wires ∧
      wires.map byteLen = [20, 13, 5] ∧
      decodeStream Lz4Decoder.decode .new wires = .ok (decoder, plains) ∧
      plains.map parts = [[sixteenOnes], [[3]]] := by
  let _ := CompressionPrimitives.storing
  have _ := LosslessCompression.storing
  obtain ⟨encoder, built⟩ : ∃ encoder, buildLz4
      { CompressionOptions.eager with compressionDict := some sixteenOnes } = .ok encoder :=
    ⟨_, rfl⟩
  have encodes : (buildLz4
      { CompressionOptions.eager with compressionDict := some sixteenOnes }).toOption.any
        fun encoder => (encodeStream encode encoder
          [.ofSingle sixteenOnes, .ofSingle [3]]).toOption.any (·.map byteLen = [20, 13, 5]) := by
    decide +kernel
  rw [built] at encodes
  cases encoded : encodeStream encode encoder [.ofSingle sixteenOnes, .ofSingle [3]] with
  | error error => simp [encoded, Except.toOption] at encodes
  | ok wires =>
    obtain ⟨decoder, plains, decoded, parts_eq⟩ :=
      Lz4Encoder.decodeStream_new built (by decide) encoded
    exact ⟨encoder, wires, decoder, plains, built, encoded,
      by simpa [encoded, Except.toOption] using encodes, decoded, by simpa using parts_eq⟩

namespace ZstdEncoder

variable [CompressionPrimitives] [LosslessCompression]

/-- Every stream a zstd encoder writes, of parts within the decoder's absolute limit and of others
which are not compressed, is decoded to the messages which were sent. -/
theorem decodeStream_of_short_parts {options : CompressionOptions} {dictIdDraw : Nat}
    {encoder : ZstdEncoder} (built : buildZstd options dictIdDraw = .ok encoder)
    {messages wires : List Message}
    (decodable : ∀ message ∈ messages, ∀ part ∈ message.parts, Decodable part)
    (encoded : encodeStream encode encoder messages = .ok wires) :
    ∃ decoder plains, decodeStream ZstdDecoder.decode .new wires = .ok (decoder, plains) ∧
      plains.map parts = messages.map parts := by
  obtain ⟨sound, unshipped⟩ := sound_buildZstd built
  have fresh : ZstdDecoder.having encoder.shippedDict = .new := by
    rw [shippedDict, unshipped]
    rfl
  rw [← fresh]
  exact decodeStream_encodeStream
    (fun encoder : ZstdEncoder => ZstdDecoder.having encoder.shippedDict) Sound.encode
    (fun sound admitted wires_eq => sound.decodeStream_encode admitted wires_eq) sound decodable
    encoded

omit [LosslessCompression] in
/-- A part which compresses well is written as its frame, whatever its size. -/
theorem encode_single {encoder : ZstdEncoder} (untrained : encoder.train = none)
    (unseeded : encoder.sendDict = none) {part : Payload} {frame : Bytes}
    (long : encoder.effectiveThreshold ≤ part.asSlice.length)
    (compressed : zstdCompress none encoder.level part.asSlice = .ok frame)
    (shorter : frame.length < part.asSlice.length - envelopePlain) :
    (encoder.encode (.single part)).2 = .ok [.single (.fromBytes frame)] := by
  have context : (encoder.ship.compress part.asSlice).2 = .ok frame := by
    unfold compress
    split
    next dict seeded_eq =>
      rw [encoder.ship.seeded dict seeded_eq]
      simp [ship, unseeded, compressed, Except.mapError]
    · simp [ship, unseeded, compressed, Except.mapError]
  have written : (encoder.ship.encodePart part).2 = .ok (.fromBytes frame) := by
    unfold encodePart
    dsimp only
    have reaches : encoder.ship.effectiveThreshold ≤ part.asSlice.length := long
    rw [if_neg (not_lt.mpr reaches), context]
    exact congrArg Except.ok (if_neg (not_le.mpr shorter))
  have shipment : encoder.pendingShipment = none := by simp [pendingShipment, unseeded]
  rw [encode, trainParts_of_untrained untrained, shipment, partsPayload]
  dsimp only
  rw [encodeParts]
  cases part_eq : encoder.ship.encodePart part with
  | mk after result =>
    obtain rfl : result = .ok (.fromBytes frame) := by rw [← written, part_eq]
    rfl

end ZstdEncoder

/-- The decoder refuses every frame of a part beyond its absolute limit. -/
theorem ZstdDecoder.decode_overlong [CompressionPrimitives] [LosslessCompression] {level : Int}
    {plain frame : Bytes} (large : maxDecompressedSize < plain.length)
    (fits : plain.length ≤ usizeMax) (compressed : zstdCompress none level plain = .ok frame) :
    ZstdDecoder.new.decode (.single (.fromBytes frame)) =
      .error (.protocol "zstd declared size exceeds absolute limit") := by
  have magic := LosslessCompression.zstd_magic compressed
  have content_size := LosslessCompression.zstd_contentSize compressed
  have long : 4 ≤ frame.length := by
    have length_eq := congrArg List.length magic
    simp at length_eq
    omega
  simp [decode, PartFormat.decode, partsPayload, PartFormat.decodeParts, not_lt.mpr long,
    magic, format, zdictMagic, decodePart, sentinelPlain, zstdMagic, decodeZstd, content_size,
    not_lt.mpr fits, large, Except.mapError, bind, Except.bind, throw, throwThe,
    MonadExceptOf.throw]

/-- A codec which writes down how many zeros a part has, and stores any other part. -/
@[reducible]
def CompressionPrimitives.counting : CompressionPrimitives :=
  { CompressionPrimitives.storing with
    zstdCompress := fun _ _ plain =>
      if plain.length < 256 ^ 8 ∧ plain = List.replicate plain.length 0 then
        .ok ([0x28, 0xB5, 0x2F, 0xFD] ++ 0 :: BigEndian.encode 8 plain.length)
      else .ok ([0x28, 0xB5, 0x2F, 0xFD] ++ 1 :: plain)
    zstdContentSize := fun frame => .ok (some
      (match frame.drop 4 with
      | 0 :: count => BigEndian.decode count
      | _ => frame.length - 5))
    zstdDecompress := fun _ frame limit => .ok
      (match frame.drop 4 with
      | 0 :: _ => List.replicate limit 0
      | _ => (frame.drop 5).take limit) }

theorem LosslessCompression.counting : @LosslessCompression .counting :=
  letI := CompressionPrimitives.counting
  have stored := LosslessCompression.storing
  { lz4_decompress := @stored.lz4_decompress
    lz4_compress_bound := @stored.lz4_compress_bound
    lz4_expansion_bound := @stored.lz4_expansion_bound
    lz4_train_bound := stored.lz4_train_bound
    zstd_train_bound := @stored.zstd_train_bound
    zstd_decompress := by
      intro dict level plain frame compressed
      simp only [zstdCompress] at compressed
      split at compressed
      next zeros =>
        cases compressed
        exact congrArg Except.ok zeros.2.symm
      · cases compressed
        simp [zstdDecompress]
    zstd_contentSize := by
      intro dict level plain frame compressed
      simp only [zstdCompress] at compressed
      split at compressed
      next zeros =>
        cases compressed
        simp [zstdContentSize, BigEndian.decode_encode_of_lt zeros.1]
      · cases compressed
        simp [zstdContentSize]
    zstd_magic := by
      intro dict level plain frame compressed
      simp only [zstdCompress] at compressed
      split at compressed <;> cases compressed <;> simp }

theorem ZstdEncoder.decodeStream_new_short :
    let _ := CompressionPrimitives.counting
    ∃ encoder wires decoder plains,
      buildZstd .eager 0 = .ok encoder ∧
      encodeStream encode encoder [.ofSingle [0, 0]] = .ok wires ∧
      decodeStream ZstdDecoder.decode .new wires = .ok (decoder, plains) ∧
      plains.map parts = [[[0, 0]]] := by
  let _ := CompressionPrimitives.counting
  have _ := LosslessCompression.counting
  obtain ⟨encoder, built⟩ : ∃ encoder, buildZstd .eager 0 = .ok encoder := ⟨_, rfl⟩
  have encodes : ((buildZstd .eager 0).toOption.any fun encoder =>
      (encodeStream encode encoder [.ofSingle [0, 0]]).isOk) := by
    decide +kernel
  have small : ∀ message ∈ [ofSingle [0, 0]], ∀ part ∈ message.parts,
      part.length ≤ maxDecompressedSize := by decide
  rw [built] at encodes
  cases encoded : encodeStream encode encoder [.ofSingle [0, 0]] with
  | error error => simp [encoded, Except.toOption, Except.isOk, Except.toBool] at encodes
  | ok wires =>
    obtain ⟨decoder, plains, decoded, parts_eq⟩ :=
      ZstdEncoder.decodeStream_of_short_parts built
        (fun message member part inside => .inl (small message member part inside)) encoded
    exact ⟨encoder, wires, decoder, plains, built, encoded, decoded, by simpa using parts_eq⟩

/-- One gigabyte of zeros is encoded, and a decoder without a configured limit refuses it. -/
theorem ZstdEncoder.decodeStream_overlong :
    let _ := CompressionPrimitives.counting
    LosslessCompression ∧ ∃ encoder wires, buildZstd .eager 0 = .ok encoder ∧
      encodeStream encode encoder [.single (.fromBytes (List.replicate (2 ^ 30) 0))] = .ok wires ∧
      decodeStream ZstdDecoder.decode .new wires =
        .error (.protocol "zstd declared size exceeds absolute limit") := by
  let _ := CompressionPrimitives.counting
  have _ := LosslessCompression.counting
  obtain ⟨plain, length_eq, zeros⟩ : ∃ plain : Bytes, plain.length = 2 ^ 30 ∧
      plain = List.replicate (2 ^ 30) 0 := ⟨_, List.length_replicate, rfl⟩
  obtain ⟨frame, short, compressed⟩ : ∃ frame, frame.length = 13 ∧ ∀ level,
      zstdCompress none level plain = .ok frame :=
    ⟨_, by simp, fun _ => if_pos ⟨by omega, by rw [length_eq]; exact zeros⟩⟩
  have encoded : ((new 0).withThreshold 0 |>.encode (.single (.fromBytes plain))).2 =
      .ok [.single (.fromBytes frame)] := by
    refine encode_single rfl rfl (Nat.zero_le _) ?_ ?_
    · rw [Payload.asSlice_fromBytes]
      exact compressed _
    · rw [Payload.asSlice_fromBytes, length_eq, short]
      decide
  rw [← zeros]
  refine ⟨inferInstance, (new 0).withThreshold 0, [.single (.fromBytes frame)], rfl, ?_, ?_⟩
  · rw [encodeStream, encoded]
    rfl
  · rw [decodeStream, ZstdDecoder.decode_overlong _ _ (compressed 1)]
    · rw [length_eq]
      decide
    · rw [length_eq]
      decide

end Omq
