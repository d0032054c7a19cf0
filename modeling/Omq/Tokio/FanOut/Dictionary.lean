import Omq.Tokio.FanOut.Lane

/-!
# Dictionaries in fan-out lanes

The encoder of a lane ships its dictionary once, with the first message it encodes.  Whether a peer
has the dictionary is recorded in its slot.  What is queued to a peer can be decoded as long as a
message which ships no dictionary goes only to peers which have it.
-/

namespace Omq

open List FrameBuffer MessageDecoder MessageEncoder ZstdEncoder

/-! ## Encoders with a dictionary -/

theorem length_encodeParts {σ : Type} {encodePart : σ → Payload → σ × Except Error Payload}
    {encoder : σ} {parts : List Payload} {wire out : Message}
    (out_eq : (encodeParts encodePart encoder parts wire).2 = .ok out) :
    out.len = wire.len + parts.length := by
  have spec := encodeParts_spec encodePart (fun _ => True) (fun _ _ => True) parts
    (fun _ _ _ _ => ⟨trivial, fun _ _ => trivial⟩) encoder wire trivial
  obtain ⟨encoded, parts_eq, encodes⟩ := spec.2 out out_eq
  rw [← out.length_parts, ← wire.length_parts, parts_eq, length_append, length_map,
    encodes.length_eq]

theorem Lz4Encoder.Sound.untrained {encoder : Lz4Encoder} {dict : Bytes} (sound : encoder.Sound)
    (sendDict_eq : encoder.sendDict = some dict) : encoder.trainer = none := by
  rw [Option.eq_none_iff_forall_not_mem]
  intro trainer member
  simpa [sendDict_eq] using (sound.training trainer member).2

theorem ZstdEncoder.Sound.untrained [CompressionPrimitives] {encoder : ZstdEncoder} {dict : Bytes}
    (sound : encoder.Sound) (sendDict_eq : encoder.sendDict = some dict) :
    encoder.train = none := by
  by_contra training
  have no_dict := sound.training (Option.isSome_iff_ne_none.mpr training)
  simp [sendDict_eq] at no_dict

namespace MessageEncoder

def dictShipment (dict : Bytes) : CompressionKind → Message
  | .lz4 => buildDictShipment sentinelLz4d dict
  | .zstd => .ofSingle dict

theorem len_dictShipment_lt (dict : Bytes) (kind : CompressionKind) :
    (dictShipment dict kind).len < 512 := by
  rw [← Message.length_parts]
  cases kind <;> simp [dictShipment, buildDictShipment]

variable [CompressionPrimitives]

structure Supplies (encoder : MessageEncoder) (kind : CompressionKind) (dict : Bytes) : Prop where
  sound : encoder.Sound
  kind_eq : encoder.kind = kind
  sendDict_eq : encoder.sendDict = some dict

variable {encoder : MessageEncoder} {kind : CompressionKind} {dict : Bytes}

theorem supplies_of_build {options : CompressionOptions} {dictIdDraw : Nat}
    (built : build options dictIdDraw kind = .ok encoder)
    (configured : options.compressionDict = some dict) : encoder.Supplies kind dict := by
  obtain ⟨sound, kind_eq, _⟩ := sound_build built
  refine ⟨sound, kind_eq, ?_⟩
  cases kind with
  | lz4 =>
    obtain ⟨inner, inner_eq, rfl⟩ := map_eq_ok built
    simp only [buildLz4, configured] at inner_eq
    obtain ⟨start, start_eq, rfl⟩ := map_eq_ok inner_eq
    have start_dict : start.sendDict = some dict := by
      unfold Lz4Encoder.withSendDict at start_eq
      split at start_eq <;> cases start_eq
      rfl
    exact configure_of _ (P := fun encoder : Lz4Encoder => encoder.sendDict = some dict)
      start_dict (fun _ => start_dict) _
  | zstd =>
    obtain ⟨inner, inner_eq, rfl⟩ := map_eq_ok built
    simp only [buildZstd, configured] at inner_eq
    obtain ⟨start, start_eq, rfl⟩ := map_eq_ok inner_eq
    have start_dict : start.sendDict = some dict := by
      unfold withSendDict at start_eq
      split at start_eq
      · cases start_eq
      · split at start_eq
        · cases start_eq
        · split at start_eq <;> cases start_eq
          rfl
    have thresholded := configure_of withThreshold
      (P := fun encoder : ZstdEncoder => encoder.sendDict = some dict) start_dict
      (fun _ => start_dict) options.compressionThreshold
    exact configure_of _ (P := fun encoder : ZstdEncoder => encoder.sendDict = some dict)
      thresholded (fun _ => thresholded) _

theorem Supplies.decode_shipment (supplies : encoder.Supplies kind dict) :
    (having kind none).decode (dictShipment dict kind) = .ok (.having kind (some dict), none) := by
  obtain ⟨sound, rfl, sendDict_eq⟩ := supplies
  cases encoder with
  | lz4 encoder =>
    obtain ⟨nonempty, short⟩ := Lz4Encoder.Sound.dict_valid sound dict sendDict_eq
    simp [decode, having, dictShipment, kind,
      Lz4Encoder.decode_dictShipment nonempty short, Except.map]
  | zstd encoder =>
    obtain ⟨magic, short, parsed⟩ := ZstdEncoder.Sound.dict_valid sound dict sendDict_eq
    simp [decode, having, dictShipment, kind, decode_dictShipment magic short parsed, Except.map]

theorem Supplies.isDictShipment (supplies : encoder.Supplies kind dict) :
    isDictShipment (dictShipment dict kind) = true := by
  obtain ⟨sound, rfl, sendDict_eq⟩ := supplies
  cases encoder with
  | lz4 encoder =>
    simp [Omq.isDictShipment, dictShipment, kind, buildDictShipment, sentinelLz4d, ascii]
  | zstd encoder =>
    obtain ⟨magic, _, _⟩ := ZstdEncoder.Sound.dict_valid sound dict sendDict_eq
    simp [Omq.isDictShipment, dictShipment, kind, magic]

theorem not_isDictShipment_of_decode {wire plain : Message} {after : MessageDecoder}
    (decoded : (having kind (some dict)).decode wire = .ok (after, some plain)) :
    Omq.isDictShipment wire = false := by
  match shape : wire.parts with
  | [] => simp [Omq.isDictShipment, shape]
  | _ :: _ :: _ => simp [Omq.isDictShipment, shape]
  | [part] =>
    have payloads : wire.partsPayload.map Payload.asSlice = [part] := by
      rw [Message.parts_partsPayload, shape]
    have single : wire.partsPayload.length = 1 := by
      rw [← length_map Payload.asSlice, payloads]
      rfl
    by_contra shipment
    have sentinel : part.take 4 = sentinelLz4d ∨ part.take 4 = zdictMagic := by
      simpa [Omq.isDictShipment, shape, or_iff_not_imp_left] using shipment
    have long : ¬part.length < 4 := by
      obtain sentinel | sentinel := sentinel <;>
        · have length_eq := congrArg List.length sentinel
          simp [sentinelLz4d, zdictMagic, ascii] at length_eq
          omega
    -- The sentinel of the decoder's own kind is refused for the second dictionary, the other is
    -- not known to it.
    cases kind with
    | lz4 =>
      obtain ⟨result, decoded, _⟩ := map_eq_ok decoded
      obtain sentinel | sentinel := sentinel <;>
        simp [Lz4Decoder.decode, PartFormat.decode, payloads, single, PartFormat.decodeParts,
          long, sentinel, Lz4Decoder.format, Lz4Decoder.installDict, Lz4Decoder.decodePart,
          Lz4Decoder.having, sentinelLz4d, zdictMagic, sentinelPlain, sentinelLz4b,
          sentinelLz4m, ascii, bind, Except.bind, throw, throwThe, MonadExceptOf.throw]
          at decoded
    | zstd =>
      obtain ⟨result, decoded, _⟩ := map_eq_ok decoded
      obtain sentinel | sentinel := sentinel <;>
        simp [ZstdDecoder.decode, PartFormat.decode, payloads, single, PartFormat.decodeParts,
          long, sentinel, ZstdDecoder.format, ZstdDecoder.installDict, ZstdDecoder.decodePart,
          ZstdDecoder.having, sentinelLz4d, zdictMagic, sentinelPlain, zstdMagic, ascii, bind,
          Except.bind, throw, throwThe, MonadExceptOf.throw] at decoded

variable [LosslessCompression]

theorem Supplies.encode (supplies : encoder.Supplies kind dict) (message : Message) :
    (encoder.encode message).1.Supplies kind dict ∧
      (encoder.encode message).1.shippedDict = some dict := by
  obtain ⟨sound, rfl, sendDict_eq⟩ := supplies
  have sound_after := Sound.encode sound message
  cases encoder with
  | lz4 encoder =>
    have sendDict_eq : encoder.sendDict = some dict := sendDict_eq
    have after := Lz4Encoder.encode_of_untrained
      (Lz4Encoder.Sound.untrained sound sendDict_eq) message
    refine ⟨⟨sound_after, rfl, ?_⟩, ?_⟩
    · simp [encode, sendDict, after, Lz4Encoder.ship, sendDict_eq]
    · simp [encode, shippedDict, after, sendDict_eq]
  | zstd encoder =>
    have sendDict_eq : encoder.sendDict = some dict := sendDict_eq
    have after := encode_of_untrained (ZstdEncoder.Sound.untrained sound sendDict_eq) message
    refine ⟨⟨sound_after, rfl, ?_⟩, ?_⟩
    · exact (sendDict_of_dictState after).trans sendDict_eq
    · exact (shippedDict_of_dictState after).trans ((shippedDict_ship encoder).trans sendDict_eq)

/-- A message becomes one wire message, behind the dictionary when that was not shipped yet. -/
theorem Supplies.wires (supplies : encoder.Supplies kind dict) {message : Message}
    {wires : List Message} (admits : Admits kind message)
    (wires_eq : (encoder.encode message).2 = .ok wires) :
    ∃ wire plain : Message, wires =
        (if encoder.shippedDict = none then [dictShipment dict kind] else []) ++ [wire] ∧
      (having kind (some dict)).decode wire =
        .ok (.having kind (some dict), some plain) ∧ wire.len = message.len := by
  obtain ⟨sound, rfl, sendDict_eq⟩ := supplies
  cases encoder with
  | lz4 encoder =>
    have sendDict_eq : encoder.sendDict = some dict := sendDict_eq
    obtain ⟨wire, wire_eq, rfl⟩ := map_eq_ok wires_eq
    rw [Lz4Encoder.train_of_untrained (Lz4Encoder.Sound.untrained sound sendDict_eq)] at wire_eq ⊢
    obtain ⟨plain, plain_eq, _⟩ := (Lz4Encoder.Sound.ship sound).decode_wire admits.1 wire_eq
    rw [show encoder.ship.sendDict = some dict from sendDict_eq] at plain_eq
    refine ⟨wire, plain, ?_, ?_, ?_⟩
    · cases shipped : encoder.sendDictShipped <;>
        simp [Lz4Encoder.pendingShipment, shippedDict, Lz4Encoder.shippedDict, shipped,
          sendDict_eq, dictShipment, kind]
    · simp [decode, having, kind, plain_eq, Except.map]
    · rw [length_encodeParts wire_eq, ← message.length_parts, ← message.parts_partsPayload,
        length_map]
      exact Nat.zero_add _
  | zstd encoder =>
    have sendDict_eq : encoder.sendDict = some dict := sendDict_eq
    obtain ⟨wire, wire_eq, rfl⟩ := map_eq_ok wires_eq
    rw [ZstdEncoder.trainParts_of_untrained (ZstdEncoder.Sound.untrained sound sendDict_eq)]
      at wire_eq ⊢
    obtain ⟨plain, plain_eq, _⟩ := ZstdEncoder.decode_wire admits.decodable wire_eq
    rw [show encoder.ship.sendDict = some dict from sendDict_eq] at plain_eq
    refine ⟨wire, plain, ?_, ?_, ?_⟩
    · cases shipped : encoder.sendDictShipped <;>
        simp [ZstdEncoder.pendingShipment, shippedDict, ZstdEncoder.shippedDict, shipped,
          sendDict_eq, dictShipment, kind]
    · simp [decode, having, kind, plain_eq, Except.map]
    · rw [length_encodeParts wire_eq, ← message.length_parts, ← message.parts_partsPayload,
        length_map]
      exact Nat.zero_add _

end MessageEncoder

/-! ## Frames of one message -/

namespace FrameBuffer

theorem length_chunks_pushPreFramed_le (buffer : FrameBuffer) (data : Bytes) :
    (buffer.pushPreFramed data).chunks.length ≤ buffer.chunks.length + 1 := by
  rw [chunks, chunks, length_map, length_map, commitArenaRange, commitArenaRange]
  split_ifs
  all_goals
    simp only [pushPreFramed, length_append, length_singleton]
    omega

/-- A part takes at most a chunk for its header and one for its payload. -/
theorem length_chunks_gatherParts_le (parts : List Payload) (buffer : FrameBuffer) :
    (gatherParts none parts buffer).chunks.length ≤ buffer.chunks.length + 2 * parts.length := by
  induction parts generalizing buffer with
  | nil => simp [gatherParts]
  | cons part rest induction =>
    have header := buffer.length_chunks_pushPreFramed_le
      (writeFrameHeader (!rest.isEmpty) (0 + part.len))
    rw [gatherParts]
    refine le_trans (induction _) ?_
    by_cases empty : part.asSlice = []
    · simp [empty] at header ⊢
      omega
    · simp [empty] at header ⊢
      omega

end FrameBuffer

theorem length_chunks_encodeFanOutMessage_le (targetCount : Nat) (message : Message) :
    (encodeFanOutMessage targetCount (.withConfigLazy fanOutArenaThreshold) message).chunks.length ≤
      2 * message.len + 1 := by
  have fresh : (withConfigLazy fanOutArenaThreshold).chunks.length = 0 := rfl
  have parts : message.partsPayload.length = message.len := by
    rw [← message.length_parts, ← message.parts_partsPayload, length_map]
  have gathered := length_chunks_gatherParts_le message.partsPayload
    (.withConfigLazy fanOutArenaThreshold)
  have inlined := length_chunks_pushPreFramed_le
    (.withConfigLazy fanOutArenaThreshold) (encodeMessageFlat message)
  unfold encodeFanOutMessage frame frameGather frameInline
  split_ifs <;> omega

theorem content_encodeFanOutMessage (targetCount : Nat) (message : Message) :
    (encodeFanOutMessage targetCount (.withConfigLazy fanOutArenaThreshold) message).content =
      encodeMessageFlat message := by
  unfold encodeFanOutMessage
  split_ifs
  · rw [frameGather, content_gatherParts, Message.parts_partsPayload]
    rfl
  · simp

/-- A message of fewer than 512 parts is one whole frame. -/
theorem buildFanOutFrame_of_short {message : Message} (short : message.len < 512)
    (targetCount : Nat) :
    (buildFanOutFrame [] targetCount [message]).1.bytes = encodeMessageFlat message ∧
      (buildFanOutFrame [] targetCount [message]).2 = [] := by
  have length_le := length_chunks_encodeFanOutMessage_le targetCount message
  have content_eq := content_encodeFanOutMessage targetCount message
  rw [← flatten_chunks] at content_eq
  have fits : (encodeFanOutMessage targetCount (.withConfigLazy fanOutArenaThreshold)
      message).chunks.length ≤ fanOutMaxChunks := by
    unfold fanOutMaxChunks
    omega
  unfold buildFanOutFrame
  simp only [List.foldl_cons, List.foldl_nil, List.nil_append]
  split_ifs with arena
  · obtain ⟨_, arena_only, _⟩ := arena
    rw [hasArenaOnly, Bool.and_eq_true, List.isEmpty_iff] at arena_only
    rw [flatten_chunks, content_of_entries_nil arena_only.1] at content_eq
    exact ⟨content_eq, rfl⟩
  · simp only [List.take_of_length_le fits, List.drop_of_length_le fits]
    exact ⟨content_eq, trivial⟩

/-! ## Protected entries of a slot -/

namespace FrameBuffer

variable (buffer : FrameBuffer)

/-- The buffer holds an entry which eviction must keep. -/
def Guarded : Prop := ∃ entry ∈ buffer.entries, entry.protection = true

theorem guarded_iff : buffer.Guarded ↔ ∃ frame ∈ buffer.frames, frame.2 = true := by
  unfold Guarded frames commitArenaRange
  split_ifs <;> simp [or_and_right, exists_or, Entry.protection]

@[simp]
theorem guarded_pushExternal (bytes : Bytes) (isProtected : Bool) :
    (buffer.pushExternal bytes isProtected).Guarded ↔ buffer.Guarded ∨ isProtected = true := by
  simp [guarded_iff, or_and_right, exists_or]

@[simp]
theorem guarded_pushSharedChunks (pieces : List Bytes) :
    (buffer.pushSharedChunks pieces).Guarded ↔ buffer.Guarded := by
  have folded (start : FrameBuffer) :
      (pieces.foldl (fun buffer chunk => buffer.pushExternal chunk false) start).Guarded ↔
        start.Guarded := by
    induction pieces generalizing start with
    | nil => rfl
    | cons chunk rest induction => simp [induction]
  rw [pushSharedChunks, folded, guarded_iff, guarded_iff, frames,
    commitArenaRange_commitArenaRange, frames]

variable {buffer : FrameBuffer} {maxChunks : Nat}

theorem guarded_of_drain (guarded : (buffer.drain maxChunks).2.2.Guarded) : buffer.Guarded := by
  rw [guarded_iff, (buffer.frames_drain maxChunks).2] at guarded
  obtain ⟨frame, member, kept⟩ := guarded
  exact buffer.guarded_iff.mpr ⟨frame, mem_of_mem_drop member, kept⟩

theorem guarded_of_protectedDrained (drained : 0 < (buffer.drain maxChunks).2.1) :
    buffer.Guarded := by
  obtain ⟨entry, member⟩ := exists_mem_of_length_pos drained
  obtain ⟨entry_mem, kept⟩ := mem_filter.mp member
  exact buffer.guarded_iff.mpr ⟨_, mem_map_of_mem (mem_of_mem_take entry_mem), kept⟩

end FrameBuffer

/-! ## Slots -/

namespace PeerTransmitSlot

theorem guarded_of_evict {slot : PeerTransmitSlot} {size queuedMsgs : Nat} {eq after : FrameBuffer}
    {left : Option Nat} (evicted : slot.evict size queuedMsgs eq = (left, after))
    (guarded : after.Guarded) : eq.Guarded := by
  rw [FrameBuffer.guarded_iff] at guarded ⊢
  obtain ⟨frame, member, kept⟩ := guarded
  have sublist := (slot.frames_evict size queuedMsgs eq).1
  rw [evicted] at sublist
  exact ⟨frame, sublist.subset member, kept⟩

/-- A protected entry is a dictionary which the slot knows of, and only a worker which drops old
messages protects entries. -/
structure Keeps (policy : FanOutMutePolicy) (slot : PeerTransmitSlot) : Prop where
  guarded : slot.eq.Guarded → slot.fanoutDictQueuedOrShipped = true
  queued : policy ≠ .dropOldest → slot.fanoutDictQueued = false

def Equipped (slot : PeerTransmitSlot) : Prop :=
  slot.dead = true ∨ slot.fanoutDictQueuedOrShipped = true

/-- What a step does to a slot when it pushes no dictionary: it may make the slot dead, and
otherwise whether the slot has the dictionary does not change. -/
structure Steady (policy : FanOutMutePolicy) (before after : PeerTransmitSlot) : Prop where
  keeps : before.Keeps policy → after.Keeps policy
  alive : after.dead = false → before.dead = false ∧
    (before.Keeps policy → after.fanoutDictQueuedOrShipped = before.fanoutDictQueuedOrShipped ∧
      (policy = .block → after.fanoutDictShipped = before.fanoutDictShipped))

variable {policy : FanOutMutePolicy} {slot : PeerTransmitSlot}

theorem Steady.refl (slot : PeerTransmitSlot) : Steady policy slot slot :=
  ⟨id, fun alive => ⟨alive, fun _ => ⟨rfl, fun _ => rfl⟩⟩⟩

/-- A step which changes none of the flags of the dictionary. -/
theorem Steady.of_flags {after : PeerTransmitSlot} (dead : after.dead = slot.dead)
    (queued : after.fanoutDictQueued = slot.fanoutDictQueued)
    (shipped : after.fanoutDictShipped = slot.fanoutDictShipped)
    (guarded : after.eq.Guarded → slot.eq.Guarded) : Steady policy slot after := by
  have same : after.fanoutDictQueuedOrShipped = slot.fanoutDictQueuedOrShipped := by
    rw [fanoutDictQueuedOrShipped, fanoutDictQueuedOrShipped, queued, shipped]
  refine ⟨fun keeps => ⟨fun held => ?_, fun lossless => ?_⟩, fun alive => ?_⟩
  · rw [same]
    exact keeps.guarded (guarded held)
  · rw [queued]
    exact keeps.queued lossless
  · exact ⟨dead ▸ alive, fun _ => ⟨same, fun _ => shipped⟩⟩

/-- A drain which takes a protected entry out marks the dictionary as shipped. -/
theorem drain_flags (slot : PeerTransmitSlot) (maxChunks : Nat) :
    (slot.drain maxChunks).2.2.eq = (slot.eq.drain maxChunks).2.2 ∧
      (slot.drain maxChunks).2.2.dead = slot.dead ∧
      ((slot.drain maxChunks).2.2.fanoutDictQueued, (slot.drain maxChunks).2.2.fanoutDictShipped) =
        if 0 < (slot.eq.drain maxChunks).2.1 then (false, true)
        else (slot.fanoutDictQueued, slot.fanoutDictShipped) := by
  unfold drain
  by_cases drained : 0 < (slot.eq.drain maxChunks).2.1
  · simp [drained, settle, markFanoutDictShipped]
  · simp [drained, settle]

theorem steady_drain (slot : PeerTransmitSlot) (maxChunks : Nat) :
    Steady policy slot (slot.drain maxChunks).2.2 := by
  obtain ⟨eq_eq, dead_eq, flags⟩ := slot.drain_flags maxChunks
  by_cases drained : 0 < (slot.eq.drain maxChunks).2.1
  · rw [if_pos drained, Prod.mk.injEq] at flags
    have held : (slot.drain maxChunks).2.2.fanoutDictQueuedOrShipped = true := by
      simp [fanoutDictQueuedOrShipped, flags]
    have guarded := guarded_of_protectedDrained drained
    refine ⟨fun _ => ⟨fun _ => held, fun _ => flags.1⟩, fun alive => ⟨dead_eq ▸ alive, ?_⟩⟩
    intro keeps
    have held_before := keeps.guarded guarded
    refine ⟨held.trans held_before.symm, fun blocks => flags.2.trans ?_⟩
    have no_queue := keeps.queued (by simp [blocks])
    simpa [fanoutDictQueuedOrShipped, no_queue] using held_before.symm
  · rw [if_neg drained, Prod.mk.injEq] at flags
    refine .of_flags dead_eq flags.1 flags.2 fun guarded => ?_
    rw [eq_eq] at guarded
    exact guarded_of_drain guarded

theorem steady_apply (change : LaneWorker.SlotChange) (slot : PeerTransmitSlot) :
    Steady policy slot (change.apply slot) := by
  have unguarded (arenaThreshold : Nat) : ¬(withConfigLazy arenaThreshold).Guarded := by
    rintro ⟨_, member, _⟩
    cases member
  cases change with
  | drainArena =>
    simp only [LaneWorker.SlotChange.apply, tryDrainArenaOnly]
    split_ifs
    · exact .of_flags rfl rfl rfl fun guarded => absurd guarded (unguarded _)
    · exact .refl slot
  | drain maxChunks => exact steady_drain slot maxChunks
  | die =>
    exact ⟨fun _ => ⟨fun guarded => absurd guarded (unguarded _), fun _ => rfl⟩,
      fun alive => nomatch alive⟩

theorem Equipped.steady {after : PeerTransmitSlot} (equipped : slot.Equipped)
    (keeps : slot.Keeps policy) (steady : Steady policy slot after) : after.Equipped := by
  by_cases alive : after.dead = false
  · obtain ⟨alive_before, same⟩ := steady.alive alive
    right
    rw [(same keeps).1]
    exact equipped.resolve_left (by simp [alive_before])
  · exact .inl (by simpa using alive)

end PeerTransmitSlot

namespace LaneWorker

open PeerTransmitSlot

variable {policy : FanOutMutePolicy} {isProtected : Bool} {frame : FanOutFrame}
  {slot : PeerTransmitSlot}

theorem alive_of_pushFrame (pushed : (pushFrame policy isProtected frame slot).1 = .ok) :
    slot.dead = false ∧ (pushFrame policy isProtected frame slot).2.dead = false := by
  by_cases drops : policy = .dropOldest
  · subst drops
    simp only [pushFrame] at pushed ⊢
    obtain ⟨_, pushed_eq⟩ | ⟨alive, eq, ⟨_, pushed_eq⟩ | ⟨_, _, pushed_eq⟩⟩ :=
      slot.tryPushFanoutDropOldest_cases frame.bytes isProtected
    all_goals simp_all [accept]
  · obtain ⟨_, pushed_eq⟩ | ⟨alive, pushed_eq | ⟨_, pushed_eq⟩⟩ :=
      answered_pushFrame policy drops isProtected frame slot
    all_goals simp_all [accept]

/-- Pushing a frame changes no flag of the dictionary, unless it is protected. -/
theorem steady_pushFrame (plain : policy = .dropOldest → isProtected = true →
    (pushFrame policy isProtected frame slot).1 ≠ .ok) :
    Steady policy slot (pushFrame policy isProtected frame slot).2 := by
  by_cases drops : policy = .dropOldest
  · subst drops
    simp only [pushFrame] at plain ⊢
    obtain ⟨_, pushed_eq⟩ | ⟨_, eq, ⟨evicted, pushed_eq⟩ | ⟨_, evicted, pushed_eq⟩⟩ :=
      slot.tryPushFanoutDropOldest_cases frame.bytes isProtected
    · rw [pushed_eq]
      exact .refl slot
    · rw [pushed_eq]
      exact .of_flags rfl rfl rfl (guarded_of_evict evicted)
    · rw [pushed_eq] at plain ⊢
      have unprotected : isProtected = false := by simpa using plain
      subst unprotected
      exact .of_flags rfl (Bool.or_false _) rfl fun held =>
        guarded_of_evict evicted (by simpa [accept] using held)
  · obtain ⟨_, pushed_eq⟩ | ⟨_, pushed_eq | ⟨_, pushed_eq⟩⟩ :=
      answered_pushFrame policy drops isProtected frame slot
    all_goals rw [pushed_eq]
    · exact .refl slot
    · exact .of_flags rfl rfl rfl id
    · refine .of_flags rfl rfl rfl ?_
      cases frame with
      | arena raw => exact id
      | chunks pieces => exact (guarded_pushSharedChunks _ _).mp

theorem queued_of_pushFrame (pushed : (pushFrame .dropOldest true frame slot).1 = .ok) :
    (pushFrame .dropOldest true frame slot).2.fanoutDictQueued = true := by
  unfold pushFrame at pushed ⊢
  obtain ⟨_, pushed_eq⟩ | ⟨_, eq, ⟨_, pushed_eq⟩ | ⟨_, _, pushed_eq⟩⟩ :=
    slot.tryPushFanoutDropOldest_cases frame.bytes true
  all_goals simp_all [accept]

end LaneWorker

end Omq
