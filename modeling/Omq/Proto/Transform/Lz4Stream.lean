import Omq.Proto.Transform.Lz4

/-!
# LZ4 streams decode to what was sent

A part decodes under the dictionary it was encoded with.  An encoder is sound when its dictionary
is one every receiver accepts; it then writes a stream which a decoder follows when it holds the
dictionary shipped so far.
-/

namespace Omq

open BigEndian List

namespace Lz4Decoder

/-! ## One part -/

theorem decodeLen_of_le {size : Nat} (allocatable : size ≤ isizeMax) (label : String) :
    decodeLen size label = .ok size := by
  have within : size ≤ usizeMax := le_trans allocatable (by decide)
  rw [decodeLen, if_neg (by omega), if_neg (by omega)]

variable [CompressionPrimitives] {encoder : Lz4Encoder} {decoder : Lz4Decoder}
  {plain block : Bytes} {part encoded : Payload}

theorem compressBlock_eq_ok (compressed : encoder.compressBlock plain = .ok block) :
    CompressionPrimitives.lz4Compress encoder.compressor plain = .ok block := by
  exact mapError_eq_ok compressed

theorem decodeBlocks_cons {remaining : Nat} {later rest : Bytes} (remaining_pos : 0 < remaining)
    (block_lt : block.length < 256 ^ 4)
    (decompressed : decompressBlock decoder.decompressor block (min remaining decoder.blockSize) =
      .ok plain) (plain_length : plain.length = min remaining decoder.blockSize)
    (later_eq : decoder.decodeBlocks (remaining - min remaining decoder.blockSize) later =
      .ok rest) :
    decoder.decodeBlocks remaining (encodeLittle 4 block.length ++ block ++ later) =
      .ok (plain ++ rest) := by
  have prefix_length := length_encodeLittle 4 block.length
  have declared : decodeLittle
      ((encodeLittle 4 block.length ++ block ++ later).take 4) = block.length := by
    rw [append_assoc, take_left' prefix_length, decodeLittle_encodeLittle_of_lt block_lt]
  have body : (encodeLittle 4 block.length ++ block ++ later).drop 4 = block ++ later := by
    rw [append_assoc, drop_left' prefix_length]
  rw [decodeBlocks, if_neg remaining_pos.ne', dif_neg (by simp [prefix_length])]
  simp only [declared, body, take_left, drop_left, decompressed, plain_length, later_eq]
  rw [if_neg (by simp), if_neg (by simp)]

theorem decodes_plaintext (part : Payload) :
    format.Decodes decoder part (plaintextPayload part.asSlice) where
  long := by simp [plaintextPayload, sentinelPlain]
  data := by simp [plaintextPayload, sentinelPlain, format, sentinelLz4d, ascii]
  plain := by simp [plaintextPayload, sentinelPlain, format, decodePart, takeBudget, bind,
    Except.bind, pure, Except.pure]

theorem encodePart_cases (encoded_eq : encoder.encodePart part = .ok encoded) :
    encoded = plaintextPayload part.asSlice ∨
      (∃ block, part.len ≤ encoder.blockSize ∧
        encoder.compressBlock part.asSlice = .ok block ∧
        encoded = .fromBytes (sentinelLz4b ++ encodeLittle 8 part.asSlice.length ++ block)) ∨
      ∃ blocks, encoder.encodeBlocks part.asSlice = .ok blocks ∧
        encoded = .fromBytes (sentinelLz4m ++ encodeLittle 8 part.asSlice.length ++ blocks) := by
  revert encoded_eq
  fun_cases encoder.encodePart part <;> rintro ⟨⟩
  · exact .inl rfl
  next blocks blocks_eq => exact .inr (.inr ⟨blocks, blocks_eq, rfl⟩)
  · exact .inl rfl
  next fits block block_eq _ =>
    rw [Payload.length_asSlice] at fits
    exact .inr (.inl ⟨block, by omega, block_eq, rfl⟩)

variable [LosslessCompression]

theorem decompressBlock_compressBlock (compressed : encoder.compressBlock plain = .ok block) :
    decompressBlock encoder.compressor block plain.length = .ok plain := by
  rw [decompressBlock, LosslessCompression.lz4_decompress (compressBlock_eq_ok compressed)]
  rfl

variable (same_dict : decoder.decompressor = encoder.compressor)

include same_dict

/-- The blocks of a long part decode to it, and they are not implausibly short. -/
theorem decodeBlocks_encodeBlocks (same_size : decoder.blockSize = encoder.blockSize)
    (block_size : encoder.blockSize ≤ lz4mBlockSize) {blocks : Bytes}
    (encoded : encoder.encodeBlocks plain = .ok blocks) :
    decoder.decodeBlocks plain.length blocks = .ok plain ∧
      plain.length ≤ blocks.length * lz4MaxExpansion := by
  fun_induction Lz4Encoder.encodeBlocks encoder plain generalizing blocks with
  | case1 =>
    cases encoded
    exact ⟨by rw [decodeBlocks]; rfl, Nat.zero_le _⟩
  | case2 => cases encoded
  | case3 => cases encoded
  | case4 plain nonempty block block_eq later later_eq induction =>
    cases encoded
    obtain ⟨later_decodes, later_bound⟩ := induction later_eq
    have compressed := compressBlock_eq_ok block_eq
    have decompressed := decompressBlock_compressBlock block_eq
    have block_bound := LosslessCompression.lz4_compress_bound compressed
    have expansion := LosslessCompression.lz4_expansion_bound compressed
    have plain_pos := length_pos_iff.mpr nonempty
    have block_pos := encoder.block_pos
    rw [length_take] at decompressed block_bound expansion
    rw [length_drop] at later_decodes later_bound
    have block_lt : block.length < 256 ^ 4 := by
      unfold lz4mBlockSize at block_size
      omega
    constructor
    · have block_decodes : decompressBlock decoder.decompressor block
          (min plain.length decoder.blockSize) = .ok (plain.take encoder.blockSize) := by
        rw [same_dict, same_size, Nat.min_comm]
        exact decompressed
      have later_eq : decoder.decodeBlocks (plain.length - min plain.length decoder.blockSize)
          later = .ok (plain.drop encoder.blockSize) := by
        rw [← later_decodes, same_size]
        congr 1
        omega
      rw [decodeBlocks_cons plain_pos block_lt block_decodes
        (by rw [length_take, same_size, Nat.min_comm]) later_eq, take_append_drop]
    · rw [length_append, length_append, length_encodeLittle]
      unfold lz4MaxExpansion at later_bound ⊢
      omega

theorem decodes_lz4b {part : Payload} {block : Bytes} (fits : part.len ≤ decoder.blockSize)
    (allocatable : part.len ≤ isizeMax)
    (block_eq : encoder.compressBlock part.asSlice = .ok block) :
    format.Decodes decoder part
      (.fromBytes (sentinelLz4b ++ encodeLittle 8 part.asSlice.length ++ block)) where
  long := by simp [sentinelLz4b, ascii]
  data := by simp [sentinelLz4b, format, sentinelLz4d, ascii]
  plain := by
    have size_lt : part.len < 256 ^ 8 := lt_of_le_of_lt allocatable isizeMax_lt
    have header_length := length_encodeLittle 8 part.len
    have decompressed := decompressBlock_compressBlock block_eq
    rw [Payload.length_asSlice, ← same_dict] at decompressed
    simp [format, decodePart, sentinelLz4b, sentinelPlain, ascii, decodeLz4b,
      take_left' header_length, drop_left' header_length,
      decodeLittle_encodeLittle_of_lt size_lt, decodeLen_of_le allocatable, takeBudget,
      decompressed, not_lt.mpr fits, bind, Except.bind, pure, Except.pure]

theorem decodes_lz4m (same_size : decoder.blockSize = encoder.blockSize)
    (block_size : encoder.blockSize ≤ lz4mBlockSize) {part : Payload} {blocks : Bytes}
    (allocatable : part.len ≤ isizeMax)
    (blocks_eq : encoder.encodeBlocks part.asSlice = .ok blocks) :
    format.Decodes decoder part
      (.fromBytes (sentinelLz4m ++ encodeLittle 8 part.asSlice.length ++ blocks)) where
  long := by simp [sentinelLz4m, ascii]
  data := by simp [sentinelLz4m, format, sentinelLz4d, ascii]
  plain := by
    have size_lt : part.len < 256 ^ 8 := lt_of_le_of_lt allocatable isizeMax_lt
    have header_length := length_encodeLittle 8 part.len
    obtain ⟨decoded, expansion⟩ :=
      decodeBlocks_encodeBlocks same_dict same_size block_size blocks_eq
    rw [Payload.length_asSlice] at decoded expansion
    have within_expansion : ¬saturatingMul blocks.length lz4MaxExpansion < part.len := by
      have within : part.len ≤ usizeMax := le_trans allocatable (by decide)
      unfold saturatingMul
      omega
    simp [format, decodePart, sentinelLz4m, sentinelLz4b, sentinelPlain, ascii, decodeLz4m,
      take_left' header_length, drop_left' header_length,
      decodeLittle_encodeLittle_of_lt size_lt, decodeLen_of_le allocatable, takeBudget,
      decoded, within_expansion, bind, Except.bind, pure, Except.pure]

theorem decodes_of_encodePart (same_size : decoder.blockSize = encoder.blockSize)
    (block_size : encoder.blockSize ≤ lz4mBlockSize) (allocatable : part.len ≤ isizeMax)
    (encoded_eq : encoder.encodePart part = .ok encoded) : format.Decodes decoder part encoded := by
  rcases encodePart_cases encoded_eq with rfl | ⟨block, fits, block_eq, rfl⟩ |
    ⟨blocks, blocks_eq, rfl⟩
  · exact decodes_plaintext part
  · exact decodes_lz4b same_dict (same_size ▸ fits) allocatable block_eq
  · exact decodes_lz4m same_dict same_size block_size allocatable blocks_eq

end Lz4Decoder

namespace Lz4Encoder

/-! ## Sound encoders -/

/-- What the constructors establish and every message keeps: the standard block size, a
dictionary every receiver accepts, and training only while there is no dictionary. -/
structure Sound (encoder : Lz4Encoder) : Prop where
  block_size : encoder.blockSize = lz4mBlockSize
  /-- A dictionary is not empty and within the cap. -/
  dict_valid : ∀ dict ∈ encoder.sendDict, dict ≠ [] ∧ dict.length ≤ lz4MaxDictBytes
  capacity_le : encoder.dictCapacity ≤ lz4MaxDictBytes
  /-- The trainer has a capacity within the cap, and there is no dictionary yet. -/
  training : ∀ trainer ∈ encoder.trainer,
    trainer.capacity ≤ lz4MaxDictBytes ∧ encoder.sendDict = none

theorem sound_new : new.Sound := by
  constructor <;> simp [new, lz4MaxDictBytes]

variable {encoder : Lz4Encoder}

theorem Sound.withAutoTrain (sound : encoder.Sound)
    (no_dict : encoder.sendDict = none) : encoder.withAutoTrain.Sound := by
  refine ⟨sound.block_size, sound.dict_valid, sound.capacity_le, ?_⟩
  simpa [Lz4Encoder.withAutoTrain, no_dict] using sound.capacity_le

theorem Sound.withDictCapacity (sound : encoder.Sound) (capacity : Nat) :
    (encoder.withDictCapacity capacity).Sound := by
  refine ⟨sound.block_size, sound.dict_valid, min_le_right _ _, fun trainer trainer_eq => ?_⟩
  obtain ⟨before, before_eq, rfl⟩ := Option.mem_map.mp trainer_eq
  exact ⟨min_le_right _ _, (sound.training before before_eq).2⟩

theorem Sound.withThreshold (sound : encoder.Sound) (threshold : Nat) :
    (encoder.withThreshold threshold).Sound :=
  ⟨sound.block_size, sound.dict_valid, sound.capacity_le, sound.training⟩

variable {dict : Bytes} {message : Message}

theorem sound_withSendDict (encoder_eq : withSendDict dict = .ok encoder) : encoder.Sound := by
  revert encoder_eq
  fun_cases withSendDict dict <;> rintro ⟨⟩
  next valid =>
    refine ⟨rfl, ?_, sound_new.capacity_le, by simp [new]⟩
    rintro shipped ⟨⟩
    exact (validateDict_eq_ok_iff _).mp valid

theorem sendDictShipped_withSendDict
    (encoder_eq : withSendDict dict = .ok encoder) : encoder.sendDictShipped = false := by
  revert encoder_eq
  fun_cases withSendDict dict <;> rintro ⟨⟩
  rfl

theorem Sound.newOffload (sound : encoder.Sound) : encoder.newOffload.Sound :=
  ⟨sound.block_size, sound.dict_valid, sound.capacity_le, by simp [Lz4Encoder.newOffload]⟩

theorem Sound.syncDict {encoder primary : Lz4Encoder} (sound : encoder.Sound)
    (primary_sound : primary.Sound) (untrained : encoder.trainer = none) :
    (encoder.syncDict primary).Sound := by
  fun_cases encoder.syncDict primary
  next dict dict_eq _ =>
    exact ⟨sound.block_size, fun shipped shipped_eq => primary_sound.dict_valid shipped
      (dict_eq.trans shipped_eq), sound.capacity_le, by simp [untrained]⟩
  all_goals exact sound

@[simp]
theorem trainer_syncDict (encoder primary : Lz4Encoder) :
    (encoder.syncDict primary).trainer = encoder.trainer := by
  fun_cases encoder.syncDict primary <;> rfl

@[simp]
theorem sendDictShipped_syncDict (encoder primary : Lz4Encoder) :
    (encoder.syncDict primary).sendDictShipped = encoder.sendDictShipped := by
  fun_cases encoder.syncDict primary <;> rfl

/-! ## Whole messages -/

@[simp]
theorem shippedDict_ship (encoder : Lz4Encoder) : encoder.ship.shippedDict = encoder.sendDict := by
  cases dict_eq : encoder.sendDict <;> simp [ship, shippedDict, dict_eq]

theorem Sound.ship (sound : encoder.Sound) : encoder.ship.Sound :=
  ⟨sound.block_size, sound.dict_valid, sound.capacity_le, sound.training⟩

variable [CompressionPrimitives]

/-- Sampling a message ships nothing: the dictionary changes only from none to an unshipped
one. -/
theorem shippedDict_train (sound : encoder.Sound) (message : Message) :
    (encoder.train message).shippedDict = encoder.shippedDict := by
  fun_cases encoder.train message
  case case3 trainer_eq _ _ _ _ _ => simp [shippedDict, (sound.training _ trainer_eq).2]
  all_goals rfl

theorem train_of_untrained (untrained : encoder.trainer = none) (message : Message) :
    encoder.train message = encoder := by
  unfold train
  rw [untrained]

theorem encode_fst (encoder : Lz4Encoder) (message : Message) :
    (encoder.encode message).1 = (encoder.train message).ship :=
  (encodeParts_spec _ (· = (encoder.train message).ship) (fun _ _ => True) _
    (fun _ _ _ same => ⟨same, fun _ _ => trivial⟩) _ _ rfl).1

/-- A sound encoder without a trainer only marks its dictionary as shipped. -/
theorem encode_of_untrained (untrained : encoder.trainer = none) (message : Message) :
    (encoder.encode message).1 = encoder.ship := by
  rw [encode_fst, train_of_untrained untrained]

theorem decode_dictShipment (nonempty : dict ≠ []) (short : dict.length ≤ lz4MaxDictBytes) :
    (Lz4Decoder.having none).decode (buildDictShipment sentinelLz4d dict) =
      .ok (.having (some dict), none) := by
  have valid := (validateDict_eq_ok_iff "LZ4").mpr ⟨nonempty, short⟩
  apply PartFormat.decode_shipment
  · simp [sentinelLz4d, ascii]
  · simp [sentinelLz4d, ascii, Lz4Decoder.format]
  · simp [Lz4Decoder.format, Lz4Decoder.installDict, Lz4Decoder.having, Lz4Decoder.new,
      sentinelLz4d, ascii, valid, bind, Except.bind, pure, Except.pure]

variable [LosslessCompression] (sound : encoder.Sound)

include sound

omit [LosslessCompression] in
theorem Sound.decodeStream_shipment :
    decodeStream Lz4Decoder.decode (.having encoder.shippedDict)
        (encoder.pendingShipment.toList.map (buildDictShipment sentinelLz4d)) =
      .ok (.having encoder.sendDict, []) := by
  unfold shippedDict pendingShipment
  split
  · rfl
  · cases dict_eq : encoder.sendDict with
    | none => rfl
    | some dict =>
      obtain ⟨nonempty, short⟩ := sound.dict_valid dict dict_eq
      exact decodeStream_singleton (decode_dictShipment nonempty short)

theorem Sound.train (message : Message) : (encoder.train message).Sound := by
  fun_cases encoder.train message
  · exact sound
  · exact ⟨sound.block_size, sound.dict_valid, sound.capacity_le, by simp⟩
  next trainer_eq _ _ _ _ nonempty =>
    refine ⟨sound.block_size, ?_, sound.capacity_le, by simp⟩
    rintro dict ⟨⟩
    exact ⟨nonempty, le_trans (LosslessCompression.lz4_train_bound _ _)
      (sound.training _ trainer_eq).1⟩
  next trainer_eq _ _ _ =>
    refine ⟨sound.block_size, sound.dict_valid, sound.capacity_le, ?_⟩
    rintro sampled ⟨⟩
    have training := sound.training _ trainer_eq
    exact training

theorem Sound.encode (message : Message) : (encoder.encode message).1.Sound := by
  rw [encode_fst]
  exact (sound.train message).ship

theorem Sound.decode_wire {wire : Message}
    (allocatable : message.Allocatable)
    (wire_eq : (encodeParts (fun encoder part => (encoder, encoder.encodePart part))
      encoder message.partsPayload .empty).2 = .ok wire) :
    ∃ plain, (Lz4Decoder.having encoder.sendDict).decode wire =
        .ok (.having encoder.sendDict, some plain) ∧ plain.parts = message.parts := by
  have spec := encodeParts_spec
    (fun (encoder : Lz4Encoder) part => (encoder, encoder.encodePart part)) (· = encoder)
    (Lz4Decoder.format.Decodes (.having encoder.sendDict)) message.partsPayload
    (by
      rintro current part member rfl
      refine ⟨rfl, fun encoded encoded_eq => ?_⟩
      exact Lz4Decoder.decodes_of_encodePart current.seeded.symm sound.block_size.symm
        sound.block_size.le (allocatable.len_le member) encoded_eq)
    encoder .empty rfl
  obtain ⟨encoded, parts_eq, decodes⟩ := spec.2 wire wire_eq
  exact PartFormat.decode_of_decodes (by simpa [Message.parts] using parts_eq) decodes

/-- A decoder which holds the dictionary shipped so far follows the encoder over one message. -/
theorem Sound.decodeStream_encode {wires : List Message} (allocatable : message.Allocatable)
    (wires_eq : (encoder.encode message).2 = .ok wires) :
    ∃ plain, decodeStream Lz4Decoder.decode (.having encoder.shippedDict) wires =
        .ok (.having (encoder.encode message).1.shippedDict, [plain]) ∧
      plain.parts = message.parts := by
  obtain ⟨wire, wire_eq, rfl⟩ := map_eq_ok wires_eq
  obtain ⟨plain, plain_eq, parts_eq⟩ := (sound.train message).ship.decode_wire allocatable wire_eq
  have shipment := (sound.train message).decodeStream_shipment
  rw [shippedDict_train sound] at shipment
  rw [encode_fst, shippedDict_ship]
  exact ⟨plain, decodeStream_append shipment (decodeStream_singleton plain_eq), parts_eq⟩

end Lz4Encoder

end Omq
