import Omq.Proto.Transform.Zstd

/-!
# Zstd streams decode to what was sent

The same statements as for LZ4, for parts which the decoder's absolute size limit admits or which
are not compressed.
-/

namespace Omq

open BigEndian CompressionPrimitives

namespace ZstdEncoder

/-! ## One part -/

variable {encoder : ZstdEncoder}

/-- The part of an encoder which training and shipping change. -/
def dictState (encoder : ZstdEncoder) : Option Bytes × Bool × Option (List Bytes) :=
  (encoder.sendDict, encoder.sendDictShipped, encoder.train)

theorem sendDict_of_dictState {other : ZstdEncoder} (same : other.dictState = encoder.dictState) :
    other.sendDict = encoder.sendDict :=
  congrArg Prod.fst same

theorem shippedDict_of_dictState {other : ZstdEncoder}
    (same : other.dictState = encoder.dictState) : other.shippedDict = encoder.shippedDict := by
  obtain ⟨dict_eq, rest⟩ := Prod.mk.inj same
  obtain ⟨shipped_eq, _⟩ := Prod.mk.inj rest
  rw [shippedDict, shippedDict, dict_eq, shipped_eq]

variable [CompressionPrimitives]

theorem dictState_compress (encoder : ZstdEncoder) (plain : Bytes) :
    (encoder.compress plain).1.dictState = encoder.dictState := by
  fun_cases encoder.compress plain <;> rfl

theorem dictState_encodePart (encoder : ZstdEncoder) (part : Payload) :
    (encoder.encodePart part).1.dictState = encoder.dictState := by
  unfold encodePart
  dsimp only
  split
  · rfl
  · exact dictState_compress encoder part.asSlice

/-- The context compresses under the outbound dictionary. -/
theorem compress_eq_ok {plain frame : Bytes} (compressed : (encoder.compress plain).2 = .ok frame) :
    zstdCompress encoder.sendDict encoder.level plain = .ok frame := by
  unfold compress at compressed
  split at compressed
  next dict cctx_eq =>
    rw [← encoder.seeded dict cctx_eq]
    exact mapError_eq_ok compressed
  · split at compressed
    · cases compressed
    · exact mapError_eq_ok compressed

theorem encodePart_cases {part encoded : Payload}
    (encoded_eq : (encoder.encodePart part).2 = .ok encoded) :
    encoded = plaintextPayload part.asSlice ∨
      ∃ frame, zstdCompress encoder.sendDict encoder.level part.asSlice = .ok frame ∧
        frame.length < part.asSlice.length - envelopePlain ∧ encoded = .fromBytes frame := by
  unfold encodePart at encoded_eq
  dsimp only at encoded_eq
  split at encoded_eq
  · exact .inl (Except.ok.inj encoded_eq).symm
  · obtain ⟨frame, frame_eq, choice⟩ := map_eq_ok encoded_eq
    split at choice
    · exact .inl choice.symm
    next shorter => exact .inr ⟨frame, compress_eq_ok frame_eq, not_le.mp shorter, choice.symm⟩

/-- The part is within the decoder's absolute limit, or no dictionary makes it shorter. -/
def Decodable (part : Bytes) : Prop :=
  part.length ≤ maxDecompressedSize ∨ ∀ dict level frame, zstdCompress dict level part = .ok frame →
    part.length - envelopePlain ≤ frame.length

end ZstdEncoder

namespace ZstdDecoder

variable [CompressionPrimitives] {decoder : ZstdDecoder}

theorem decodes_plaintext (part : Payload) :
    format.Decodes decoder part (plaintextPayload part.asSlice) where
  long := by simp [plaintextPayload, sentinelPlain]
  data := by simp [plaintextPayload, sentinelPlain, format, zdictMagic]
  plain := by simp [plaintextPayload, sentinelPlain, format, decodePart, takeBudget, bind,
    Except.bind, pure, Except.pure]

variable [LosslessCompression]

theorem decodes_frame {level : Int} {part : Payload} {frame : Bytes}
    (small : part.len ≤ maxDecompressedSize)
    (compressed : zstdCompress decoder.recvDict level part.asSlice = .ok frame) :
    format.Decodes decoder part (.fromBytes frame) := by
  have magic := LosslessCompression.zstd_magic compressed
  have content_size := LosslessCompression.zstd_contentSize compressed
  have decompressed := LosslessCompression.zstd_decompress compressed
  rw [Payload.length_asSlice] at content_size decompressed
  have within : ¬usizeMax < part.len := by
    unfold maxDecompressedSize at small
    unfold usizeMax
    omega
  constructor
  · have length_eq := congrArg List.length magic
    rw [Payload.asSlice_fromBytes]
    simp at length_eq
    omega
  · simp [magic, format, zdictMagic]
  · simp [format, decodePart, magic, sentinelPlain, zstdMagic, decodeZstd, content_size, within,
      not_lt.mpr small, decompressed, takeBudget, Except.mapError, bind, Except.bind, pure,
      Except.pure]

theorem decodes_of_encodePart {encoder : ZstdEncoder} {part encoded : Payload}
    (same_dict : decoder.recvDict = encoder.sendDict)
    (decodable : ZstdEncoder.Decodable part.asSlice)
    (encoded_eq : (encoder.encodePart part).2 = .ok encoded) :
    format.Decodes decoder part encoded := by
  rcases ZstdEncoder.encodePart_cases encoded_eq with rfl | ⟨frame, frame_eq, shorter, rfl⟩
  · exact decodes_plaintext part
  · have small := decodable.resolve_right fun stays =>
      absurd (stays _ _ frame frame_eq) (not_le.mpr shorter)
    rw [Payload.length_asSlice] at small
    exact decodes_frame small (same_dict ▸ frame_eq)

end ZstdDecoder

namespace ZstdEncoder

/-! ## Sound encoders -/

@[simp]
theorem train_syncDict (encoder primary : ZstdEncoder) :
    (encoder.syncDict primary).train = encoder.train := by
  unfold ZstdEncoder.syncDict
  split <;> rfl

@[simp]
theorem sendDictShipped_syncDict (encoder primary : ZstdEncoder) :
    (encoder.syncDict primary).sendDictShipped = encoder.sendDictShipped := by
  unfold ZstdEncoder.syncDict
  split <;> rfl

@[simp]
theorem shippedDict_ship (encoder : ZstdEncoder) : encoder.ship.shippedDict = encoder.sendDict := by
  cases dict_eq : encoder.sendDict <;> simp [ZstdEncoder.ship, shippedDict, dict_eq]

variable [CompressionPrimitives]

/-- What the constructors establish and every message keeps: a dictionary every receiver
accepts, and training only while there is no dictionary. -/
structure Sound (encoder : ZstdEncoder) : Prop where
  /-- A dictionary has the magic, is within the cap and parses. -/
  dict_valid : ∀ dict ∈ encoder.sendDict, dict.take 4 = zdictMagic ∧
    dict.length ≤ zstdMaxDictBytes ∧ zstdDictionary dict = .ok ()
  training : encoder.train.isSome → encoder.sendDict = none

theorem sound_new (dictIdDraw : Nat) : (new dictIdDraw).Sound := by
  constructor <;> simp [new]

variable {dict : Bytes} {dictIdDraw : Nat} {message : Message}

theorem sound_withSendDict {encoder : ZstdEncoder}
    (encoder_eq : withSendDict dict dictIdDraw = .ok encoder) : encoder.Sound := by
  revert encoder_eq
  fun_cases withSendDict dict dictIdDraw <;> rintro ⟨⟩
  next valid magic parsed =>
    refine ⟨?_, by simp [new]⟩
    intro shipped shipped_eq
    cases shipped_eq
    exact ⟨not_not.mp (not_or.mp magic).2, ((validateDict_eq_ok_iff _).mp valid).2, parsed⟩

theorem sendDictShipped_withSendDict {encoder : ZstdEncoder}
    (encoder_eq : withSendDict dict dictIdDraw = .ok encoder) :
    encoder.sendDictShipped = false := by
  revert encoder_eq
  fun_cases withSendDict dict dictIdDraw <;> rintro ⟨⟩
  rfl

variable {encoder : ZstdEncoder}

section

variable (sound : encoder.Sound)

include sound

theorem Sound.of_dictState {other : ZstdEncoder} (same : other.dictState = encoder.dictState) :
    other.Sound := by
  obtain ⟨dict_eq, rest⟩ := Prod.mk.inj same
  obtain ⟨_, train_eq⟩ := Prod.mk.inj rest
  exact ⟨by rw [dict_eq]; exact sound.dict_valid, by rw [dict_eq, train_eq]; exact sound.training⟩

theorem Sound.withAutoTrain : encoder.withAutoTrain.Sound := by
  unfold ZstdEncoder.withAutoTrain
  split
  next no_dict => exact ⟨sound.dict_valid, fun _ => Option.isNone_iff_eq_none.mp no_dict⟩
  · exact sound

theorem Sound.newOffload : encoder.newOffload.Sound :=
  ⟨sound.dict_valid, by simp [ZstdEncoder.newOffload]⟩

theorem Sound.syncDict {primary : ZstdEncoder} (primary_sound : primary.Sound)
    (untrained : encoder.train = none) : (encoder.syncDict primary).Sound := by
  unfold ZstdEncoder.syncDict
  split
  · exact sound
  · exact ⟨primary_sound.dict_valid, by simp [untrained]⟩

theorem Sound.ship : encoder.ship.Sound :=
  ⟨sound.dict_valid, sound.training⟩

end

/-! ## Whole messages -/

theorem trainZdict_eq_some {samples : List Bytes} {capacity random : Nat}
    (trained : trainZdict samples capacity random = some dict) :
    dict.take 4 = zdictMagic ∧ zstdDictionary dict = .ok () ∧
      dict.length = (zstdTrain (min capacity zstdMaxDictBytes) samples).length := by
  revert trained
  fun_cases trainZdict samples capacity random <;> rintro ⟨⟩
  next patched_eq parsed =>
    unfold patchUserDictId at patched_eq
    split at patched_eq
    · cases patched_eq
    next long =>
      obtain ⟨enough, magic⟩ := not_or.mp long
      cases patched_eq
      refine ⟨?_, parsed, ?_⟩
      · rw [List.append_assoc, List.take_append_of_le_length (by simp; omega), List.take_take]
        exact not_not.mp magic
      · simp
        omega

/-- Sampling a part ships nothing: the dictionary changes only from none to an unshipped one. -/
theorem shippedDict_maybeTrain (sound : encoder.Sound) (plain : Bytes) :
    (encoder.maybeTrain plain).shippedDict = encoder.shippedDict := by
  fun_cases encoder.maybeTrain plain
  case case5 samples_eq _ _ _ _ _ =>
    simp [shippedDict, sound.training (by rw [samples_eq]; rfl)]
  all_goals rfl

theorem maybeTrain_of_untrained (untrained : encoder.train = none) (plain : Bytes) :
    encoder.maybeTrain plain = encoder := by
  unfold maybeTrain
  rw [untrained]

theorem trainParts_of_untrained (untrained : encoder.train = none) (message : Message) :
    encoder.trainParts message = encoder := by
  unfold trainParts
  induction message.partsPayload.map Payload.asSlice with
  | nil => rfl
  | cons plain rest induction =>
    rw [List.foldl_cons, maybeTrain_of_untrained untrained, induction]

theorem dictState_encode (encoder : ZstdEncoder) (message : Message) :
    (encoder.encode message).1.dictState = (encoder.trainParts message).ship.dictState :=
  (encodeParts_spec _ (dictState · = (encoder.trainParts message).ship.dictState)
    (fun _ _ => True) _
    (fun encoder part _ same =>
      ⟨(dictState_encodePart encoder part).trans same, fun _ _ => trivial⟩) _ _ rfl).1

theorem encode_of_untrained (untrained : encoder.train = none) (message : Message) :
    (encoder.encode message).1.dictState = encoder.ship.dictState := by
  rw [dictState_encode, trainParts_of_untrained untrained]

theorem decode_dictShipment (magic : dict.take 4 = zdictMagic)
    (short : dict.length ≤ zstdMaxDictBytes) (parsed : zstdDictionary dict = .ok ()) :
    (ZstdDecoder.having none).decode (.ofSingle dict) = .ok (.having (some dict), none) := by
  have long : 4 ≤ dict.length := by
    have length_eq := congrArg List.length magic
    simp [zdictMagic] at length_eq
    omega
  have nonempty : dict ≠ [] := List.ne_nil_of_length_pos (by omega)
  have valid := (validateDict_eq_ok_iff "Zstd").mpr ⟨nonempty, short⟩
  apply PartFormat.decode_shipment _ long magic
  simp [ZstdDecoder.format, ZstdDecoder.installDict, ZstdDecoder.having, ZstdDecoder.new, valid,
    parsed, Except.mapError, bind, Except.bind, pure, Except.pure]

theorem Sound.decodeStream_shipment (sound : encoder.Sound) :
    decodeStream ZstdDecoder.decode (.having encoder.shippedDict)
        (encoder.pendingShipment.toList.map Message.ofSingle) =
      .ok (.having encoder.sendDict, []) := by
  unfold shippedDict pendingShipment
  split
  · rfl
  · cases dict_eq : encoder.sendDict with
    | none => rfl
    | some dict =>
      obtain ⟨magic, short, parsed⟩ := sound.dict_valid dict dict_eq
      exact decodeStream_singleton (decode_dictShipment magic short parsed)

variable [LosslessCompression]

theorem Sound.maybeTrain (sound : encoder.Sound) (plain : Bytes) :
    (encoder.maybeTrain plain).Sound := by
  fun_cases encoder.maybeTrain plain
  · exact sound
  · exact sound
  next samples_eq _ _ _ =>
    exact ⟨sound.dict_valid, fun _ => sound.training (by rw [samples_eq]; rfl)⟩
  · exact ⟨sound.dict_valid, by simp⟩
  next dict dict_eq =>
    obtain ⟨magic, parsed, length_eq⟩ := trainZdict_eq_some dict_eq
    refine ⟨?_, by simp⟩
    rintro shipped ⟨⟩
    refine ⟨magic, ?_, parsed⟩
    rw [length_eq]
    exact LosslessCompression.zstd_train_bound _ (min_le_right _ _)

theorem Sound.trainParts (sound : encoder.Sound) (message : Message) :
    (encoder.trainParts message).Sound ∧
      (encoder.trainParts message).shippedDict = encoder.shippedDict := by
  unfold ZstdEncoder.trainParts
  induction message.partsPayload.map Payload.asSlice generalizing encoder with
  | nil => exact ⟨sound, rfl⟩
  | cons plain rest induction =>
    obtain ⟨sound_rest, shipped_eq⟩ := induction (sound.maybeTrain plain)
    exact ⟨sound_rest, shipped_eq.trans (shippedDict_maybeTrain sound plain)⟩

theorem Sound.encode (sound : encoder.Sound) (message : Message) :
    (encoder.encode message).1.Sound :=
  (sound.trainParts message).1.ship.of_dictState (dictState_encode encoder message)

theorem decode_wire {wire : Message} (decodable : ∀ part ∈ message.parts, Decodable part)
    (wire_eq : (encodeParts encodePart encoder message.partsPayload .empty).2 = .ok wire) :
    ∃ plain, (ZstdDecoder.having encoder.sendDict).decode wire =
        .ok (.having encoder.sendDict, some plain) ∧ plain.parts = message.parts := by
  have spec := encodeParts_spec encodePart (sendDict · = encoder.sendDict)
    (ZstdDecoder.format.Decodes (.having encoder.sendDict)) message.partsPayload
    (by
      intro current part member same
      refine ⟨(sendDict_of_dictState (dictState_encodePart current part)).trans same,
        fun encoded encoded_eq => ?_⟩
      have part_decodable : Decodable part.asSlice := by
        apply decodable
        rw [← Message.parts_partsPayload]
        exact List.mem_map_of_mem member
      exact ZstdDecoder.decodes_of_encodePart same.symm part_decodable encoded_eq)
    encoder .empty rfl
  obtain ⟨encoded, parts_eq, decodes⟩ := spec.2 wire wire_eq
  exact PartFormat.decode_of_decodes (by simpa [Message.parts] using parts_eq) decodes

/-- A decoder which holds the dictionary shipped so far follows the encoder over one message. -/
theorem Sound.decodeStream_encode (sound : encoder.Sound) {wires : List Message}
    (decodable : ∀ part ∈ message.parts, Decodable part)
    (wires_eq : (encoder.encode message).2 = .ok wires) :
    ∃ plain, decodeStream ZstdDecoder.decode (.having encoder.shippedDict) wires =
        .ok (.having (encoder.encode message).1.shippedDict, [plain]) ∧
      plain.parts = message.parts := by
  obtain ⟨wire, wire_eq, rfl⟩ := map_eq_ok wires_eq
  obtain ⟨plain, plain_eq, parts_eq⟩ := decode_wire decodable wire_eq
  obtain ⟨sound_trained, shipped_eq⟩ := sound.trainParts message
  have shipment := sound_trained.decodeStream_shipment
  rw [shipped_eq] at shipment
  rw [shippedDict_of_dictState (dictState_encode encoder message), shippedDict_ship]
  exact ⟨plain, decodeStream_append shipment (decodeStream_singleton plain_eq), parts_eq⟩

end ZstdEncoder

end Omq
