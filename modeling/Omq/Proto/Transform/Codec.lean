import Omq.Proto.Transform.Lz4Stream
import Omq.Proto.Transform.ZstdStream

/-!
# Message encoders and decoders

One connection owns an encoder and a decoder of one compression kind.  The facts the runtime needs
are the same for both kinds: which dictionary the peer has been shipped, when encoding may move to
the pool, and that a decoder which holds the shipped dictionary follows the stream.
-/

namespace Omq

open ZstdEncoder

/-- Compression transform selected by an endpoint scheme. -/
inductive CompressionKind
  | lz4
  | zstd
  deriving DecidableEq

/-- The socket options the transforms read. -/
structure CompressionOptions where
  compressionDict : Option Bytes
  compressionAutoTrain : Bool
  compressionDictCapacity : Option Nat
  compressionThreshold : Option Nat
  compressionLevel : Option Int

/-- Send-side message transform. -/
inductive MessageEncoder
  | lz4 (encoder : Lz4Encoder)
  | zstd (encoder : ZstdEncoder)

/-- Receive-side message transform. -/
inductive MessageDecoder
  | lz4 (decoder : Lz4Decoder)
  | zstd (decoder : ZstdDecoder)

namespace MessageDecoder

/-- A new decoder which was shipped a dictionary, or none. -/
def having : CompressionKind → Option Bytes → MessageDecoder
  | .lz4, dict => .lz4 (.having dict)
  | .zstd, dict => .zstd (.having dict)

variable [CompressionPrimitives]

/-- Transform an inbound wire message; `none` was consumed by the transform. -/
def decode (decoder : MessageDecoder) (message : Message) :
    Except Error (MessageDecoder × Option Message) :=
  match decoder with
  | .lz4 decoder => (decoder.decode message).map (Prod.map .lz4 id)
  | .zstd decoder => (decoder.decode message).map (Prod.map .zstd id)

end MessageDecoder

namespace MessageEncoder

def kind : MessageEncoder → CompressionKind
  | .lz4 _ => .lz4
  | .zstd _ => .zstd

def sendDict : MessageEncoder → Option Bytes
  | .lz4 encoder => encoder.sendDict
  | .zstd encoder => encoder.sendDict

def shippedDict : MessageEncoder → Option Bytes
  | .lz4 encoder => encoder.shippedDict
  | .zstd encoder => encoder.shippedDict

/-- The sentinel and the size below which every part stays plain, when that cannot change. -/
def passthroughInfo : MessageEncoder → Option (Bytes × Nat)
  | .lz4 encoder => encoder.passthroughThreshold.map (sentinelPlain, ·)
  | .zstd encoder => encoder.passthroughThreshold.map (sentinelPlain, ·)

/-- No dictionary shipment is pending and offloading is safe. -/
def canOffload : MessageEncoder → Bool
  | .lz4 encoder => encoder.canOffload
  | .zstd encoder => encoder.canOffload

/-- A pool encoder with the same configuration but its own context. -/
def newOffload : MessageEncoder → MessageEncoder
  | .lz4 encoder => .lz4 encoder.newOffload
  | .zstd encoder => .zstd encoder.newOffload

def syncDict : (encoder primary : MessageEncoder) → MessageEncoder
  | .lz4 encoder, .lz4 primary => .lz4 (encoder.syncDict primary)
  | .zstd encoder, .zstd primary => .zstd (encoder.syncDict primary)
  | encoder, _ => encoder

/-- Whether both encoders are of the same kind. -/
def variantMatches : (encoder other : MessageEncoder) → Bool
  | .lz4 _, .lz4 _ => true
  | .zstd _, .zstd _ => true
  | _, _ => false

def configure {α β : Type} (value : Option β) (set : α → β → α) (encoder : α) : α :=
  value.elim encoder (set encoder)

def buildLz4 (options : CompressionOptions) : Except Error Lz4Encoder :=
  let encoder := match options.compressionDict with
    | some dict => Lz4Encoder.withSendDict dict
    | none =>
      let encoder := Lz4Encoder.new
      let encoder := if options.compressionAutoTrain then encoder.withAutoTrain else encoder
      .ok (configure options.compressionDictCapacity Lz4Encoder.withDictCapacity encoder)
  encoder.map (configure options.compressionThreshold Lz4Encoder.withThreshold)

theorem configure_of {α β : Type} (set : α → β → α) {P : α → Prop} {encoder : α} (holds : P encoder)
    (kept : ∀ value, P (set encoder value)) (value : Option β) :
    P (configure value set encoder) := by
  cases value with
  | none => exact holds
  | some value => exact kept value

theorem sound_buildLz4 {options : CompressionOptions} {encoder : Lz4Encoder}
    (build_eq : buildLz4 options = .ok encoder) :
    encoder.Sound ∧ encoder.sendDictShipped = false := by
  obtain ⟨before, before_eq, rfl⟩ := map_eq_ok build_eq
  have start : before.Sound ∧ before.sendDictShipped = false := by
    split at before_eq
    · exact ⟨Lz4Encoder.sound_withSendDict before_eq,
        Lz4Encoder.sendDictShipped_withSendDict before_eq⟩
    · cases before_eq
      have started : (if options.compressionAutoTrain then Lz4Encoder.new.withAutoTrain
          else Lz4Encoder.new).Sound ∧ (if options.compressionAutoTrain then
            Lz4Encoder.new.withAutoTrain else Lz4Encoder.new).sendDictShipped = false := by
        split
        · exact ⟨Lz4Encoder.sound_new.withAutoTrain rfl, rfl⟩
        · exact ⟨Lz4Encoder.sound_new, rfl⟩
      exact configure_of _ (P := fun encoder : Lz4Encoder =>
        encoder.Sound ∧ encoder.sendDictShipped = false) started
        (fun capacity => ⟨started.1.withDictCapacity capacity, started.2⟩) _
  exact configure_of _ (P := fun encoder : Lz4Encoder =>
    encoder.Sound ∧ encoder.sendDictShipped = false) start
    (fun threshold => ⟨start.1.withThreshold threshold, start.2⟩) _

variable [CompressionPrimitives]

def buildZstd (options : CompressionOptions) (dictIdDraw : Nat) : Except Error ZstdEncoder :=
  let encoder := match options.compressionDict with
    | some dict => withSendDict dict dictIdDraw
    | none =>
      let encoder := new dictIdDraw
      let encoder := if options.compressionAutoTrain then encoder.withAutoTrain else encoder
      .ok (configure options.compressionDictCapacity withDictCapacity encoder)
  encoder.map fun encoder =>
    configure options.compressionLevel withLevel
      (configure options.compressionThreshold withThreshold encoder)

/-- The encoder a connection of the given kind starts with. -/
def build (options : CompressionOptions) (dictIdDraw : Nat) :
    CompressionKind → Except Error MessageEncoder
  | .lz4 => (buildLz4 options).map .lz4
  | .zstd => (buildZstd options dictIdDraw).map .zstd

/-- Transform an outbound message into one or more wire messages. -/
def encode (encoder : MessageEncoder) (message : Message) :
    MessageEncoder × Except Error (List Message) :=
  match encoder with
  | .lz4 encoder => (encoder.encode message).map .lz4 id
  | .zstd encoder => (encoder.encode message).map .zstd id

end MessageEncoder

/-! ## What holds for both kinds -/

namespace MessageEncoder

/-- The message is one the peer's decoder has room for: no part is larger than an allocation, and
none exceeds the absolute limit of the zstd decoder. -/
def Admits (kind : CompressionKind) (message : Message) : Prop :=
  message.Allocatable ∧ (kind = .zstd → ∀ part ∈ message.parts, part.length ≤ maxDecompressedSize)

def Pooled : MessageEncoder → Prop
  | .lz4 encoder => encoder.trainer = none ∧ encoder.sendDictShipped = true
  | .zstd encoder => encoder.train = none ∧ encoder.sendDictShipped = true

variable {encoder : MessageEncoder} {options : CompressionOptions} {dictIdDraw : Nat}

theorem variantMatches_iff {other : MessageEncoder} :
    encoder.variantMatches other = true ↔ encoder.kind = other.kind := by
  cases encoder <;> cases other <;> simp [variantMatches, kind]

@[simp]
theorem kind_newOffload (encoder : MessageEncoder) : encoder.newOffload.kind = encoder.kind := by
  cases encoder <;> rfl

theorem pooled_newOffload (encoder : MessageEncoder) : encoder.newOffload.Pooled := by
  cases encoder <;> exact ⟨rfl, rfl⟩

@[simp]
theorem kind_syncDict (encoder primary : MessageEncoder) :
    (encoder.syncDict primary).kind = encoder.kind := by
  cases encoder <;> cases primary <;> rfl

@[simp]
theorem sendDict_newOffload (encoder : MessageEncoder) :
    encoder.newOffload.sendDict = encoder.sendDict := by
  cases encoder <;> rfl

/-- A zstd encoder takes over the primary's dictionary whatever it holds, an LZ4 encoder only when
it holds none. -/
theorem sendDict_syncDict {primary : MessageEncoder} (same_kind : encoder.kind = primary.kind)
    (lz4_agrees : encoder.kind = .lz4 →
      encoder.sendDict = none ∨ encoder.sendDict = primary.sendDict) :
    (encoder.syncDict primary).sendDict = primary.sendDict := by
  cases encoder with
  | lz4 encoder =>
    cases primary with
    | lz4 primary =>
      have agrees : encoder.sendDict = none ∨ encoder.sendDict = primary.sendDict := lz4_agrees rfl
      show (encoder.syncDict primary).sendDict = primary.sendDict
      fun_cases encoder.syncDict primary <;> simp_all
    | zstd _ => cases same_kind
  | zstd encoder =>
    cases primary with
    | lz4 _ => cases same_kind
    | zstd primary =>
      show (encoder.syncDict primary).sendDict = primary.sendDict
      unfold ZstdEncoder.syncDict
      split_ifs with same
      · exact same
      · rfl

theorem Pooled.syncDict (pooled : encoder.Pooled) (primary : MessageEncoder) :
    (encoder.syncDict primary).Pooled := by
  cases encoder <;> cases primary <;> simpa [Pooled, MessageEncoder.syncDict] using pooled

theorem Pooled.shippedDict (pooled : encoder.Pooled) : encoder.shippedDict = encoder.sendDict := by
  cases encoder with
  | lz4 encoder => simp [MessageEncoder.shippedDict, Lz4Encoder.shippedDict, sendDict, pooled.2]
  | zstd encoder => simp [MessageEncoder.shippedDict, ZstdEncoder.shippedDict, sendDict, pooled.2]

/-- Offloading is safe when the peer holds the outbound dictionary. -/
theorem shippedDict_of_canOffload (can_offload : encoder.canOffload) :
    encoder.shippedDict = encoder.sendDict := by
  cases encoder with
  | lz4 encoder =>
    simp only [canOffload, Lz4Encoder.canOffload, Bool.and_eq_true, Bool.or_eq_true,
      Option.isNone_iff_eq_none] at can_offload
    rcases can_offload.2 with no_dict | shipped
    · simp [shippedDict, Lz4Encoder.shippedDict, sendDict, no_dict]
    · simp [shippedDict, Lz4Encoder.shippedDict, sendDict, shipped]
  | zstd encoder =>
    simp only [canOffload, ZstdEncoder.canOffload, Bool.and_eq_true, Bool.or_eq_true,
      Option.isNone_iff_eq_none] at can_offload
    rcases can_offload.2 with no_dict | shipped
    · simp [shippedDict, ZstdEncoder.shippedDict, sendDict, no_dict]
    · simp [shippedDict, ZstdEncoder.shippedDict, sendDict, shipped]

variable [CompressionPrimitives]

theorem sound_buildZstd {encoder : ZstdEncoder}
    (build_eq : buildZstd options dictIdDraw = .ok encoder) :
    encoder.Sound ∧ encoder.sendDictShipped = false := by
  obtain ⟨before, before_eq, rfl⟩ := map_eq_ok build_eq
  have start : before.Sound ∧ before.sendDictShipped = false := by
    split at before_eq
    · exact ⟨sound_withSendDict before_eq, sendDictShipped_withSendDict before_eq⟩
    · cases before_eq
      have started : (if options.compressionAutoTrain then
            (new dictIdDraw).withAutoTrain else new dictIdDraw).Sound ∧
          (if options.compressionAutoTrain then (new dictIdDraw).withAutoTrain
            else new dictIdDraw).sendDictShipped = false := by
        split
        · exact ⟨(sound_new dictIdDraw).withAutoTrain, rfl⟩
        · exact ⟨sound_new dictIdDraw, rfl⟩
      exact configure_of _ (P := fun encoder : ZstdEncoder =>
        encoder.Sound ∧ encoder.sendDictShipped = false) started
        (fun capacity => ⟨started.1.of_dictState rfl, started.2⟩) _
  have thresholded := configure_of withThreshold (P := fun encoder : ZstdEncoder =>
    encoder.Sound ∧ encoder.sendDictShipped = false) start
    (fun threshold => ⟨start.1.of_dictState rfl, start.2⟩) options.compressionThreshold
  exact configure_of _ (P := fun encoder : ZstdEncoder =>
    encoder.Sound ∧ encoder.sendDictShipped = false) thresholded
    (fun level => ⟨thresholded.1.of_dictState rfl, thresholded.2⟩) _

/-- The dictionary is one every receiver accepts, and training ends with it. -/
def Sound : MessageEncoder → Prop
  | .lz4 encoder => encoder.Sound
  | .zstd encoder => encoder.Sound

theorem sound_build {kind : CompressionKind}
    (build_eq : build options dictIdDraw kind = .ok encoder) :
    encoder.Sound ∧ encoder.kind = kind ∧ encoder.shippedDict = none := by
  cases kind with
  | lz4 =>
    obtain ⟨inner, inner_eq, rfl⟩ := map_eq_ok build_eq
    obtain ⟨sound, unshipped⟩ := sound_buildLz4 inner_eq
    exact ⟨sound, rfl, by simp [shippedDict, Lz4Encoder.shippedDict, unshipped]⟩
  | zstd =>
    obtain ⟨inner, inner_eq, rfl⟩ := map_eq_ok build_eq
    obtain ⟨sound, unshipped⟩ := sound_buildZstd inner_eq
    exact ⟨sound, rfl, by simp [shippedDict, ZstdEncoder.shippedDict, unshipped]⟩

theorem Sound.newOffload (sound : encoder.Sound) : encoder.newOffload.Sound := by
  cases encoder with
  | lz4 encoder => exact Lz4Encoder.Sound.newOffload sound
  | zstd encoder => exact ZstdEncoder.Sound.newOffload sound

theorem Sound.syncDict {primary : MessageEncoder} (sound : encoder.Sound)
    (primary_sound : primary.Sound) (pooled : encoder.Pooled) :
    (encoder.syncDict primary).Sound := by
  cases encoder with
  | lz4 encoder =>
    cases primary with
    | lz4 primary => exact Lz4Encoder.Sound.syncDict sound primary_sound pooled.1
    | zstd _ => exact sound
  | zstd encoder =>
    cases primary with
    | lz4 _ => exact sound
    | zstd primary => exact ZstdEncoder.Sound.syncDict sound primary_sound pooled.1

@[simp]
theorem kind_encode (encoder : MessageEncoder) (message : Message) :
    (encoder.encode message).1.kind = encoder.kind := by
  cases encoder <;> rfl

/-- An encoder which may offload goes on holding the same dictionary. -/
theorem encode_of_canOffload (can_offload : encoder.canOffload) (message : Message) :
    (encoder.encode message).1.canOffload ∧
      (encoder.encode message).1.sendDict = encoder.sendDict := by
  cases encoder with
  | lz4 encoder =>
    simp only [canOffload, Lz4Encoder.canOffload, Bool.and_eq_true] at can_offload
    have after := Lz4Encoder.encode_of_untrained
      (Option.isNone_iff_eq_none.mp can_offload.1) message
    cases dict_eq : encoder.sendDict <;>
      simp_all [canOffload, encode, Lz4Encoder.canOffload, sendDict, Lz4Encoder.ship]
  | zstd encoder =>
    simp only [canOffload, ZstdEncoder.canOffload, Bool.and_eq_true] at can_offload
    have after := ZstdEncoder.encode_of_untrained
      (Option.isNone_iff_eq_none.mp can_offload.1) message
    cases dict_eq : encoder.sendDict <;>
      simp_all [canOffload, encode, ZstdEncoder.canOffload, sendDict, ZstdEncoder.dictState,
        ZstdEncoder.ship]

theorem Pooled.encode (pooled : encoder.Pooled) (message : Message) :
    (encoder.encode message).1.Pooled ∧ (encoder.encode message).1.sendDict = encoder.sendDict := by
  cases encoder with
  | lz4 encoder =>
    have after := Lz4Encoder.encode_of_untrained pooled.1 message
    simp_all [Pooled, MessageEncoder.encode, sendDict, Lz4Encoder.ship]
  | zstd encoder =>
    have after := encode_of_untrained pooled.1 message
    simp_all [Pooled, MessageEncoder.encode, sendDict, dictState, ship]

variable [LosslessCompression]

theorem Sound.encode (sound : encoder.Sound) (message : Message) :
    (encoder.encode message).1.Sound := by
  cases encoder with
  | lz4 encoder => exact Lz4Encoder.Sound.encode sound message
  | zstd encoder => exact ZstdEncoder.Sound.encode sound message

omit [LosslessCompression] in
theorem Admits.decodable {message : Message} (admits : Admits .zstd message) :
    ∀ part ∈ message.parts, Decodable part :=
  fun part member => .inl (admits.2 rfl part member)

/-- A decoder which holds the dictionary shipped so far follows the encoder over one message. -/
theorem Sound.decodeStream_encode (sound : encoder.Sound) {message : Message} {wires : List Message}
    (admits : Admits encoder.kind message) (wires_eq : (encoder.encode message).2 = .ok wires) :
    ∃ plain, decodeStream MessageDecoder.decode (.having encoder.kind encoder.shippedDict) wires =
        .ok (.having encoder.kind (encoder.encode message).1.shippedDict, [plain]) ∧
      plain.parts = message.parts := by
  cases encoder with
  | lz4 encoder =>
    obtain ⟨plain, plain_eq, parts_eq⟩ :=
      Lz4Encoder.Sound.decodeStream_encode sound admits.1 wires_eq
    exact ⟨plain, decodeStream_map MessageDecoder.lz4 (fun _ _ => rfl) plain_eq, parts_eq⟩
  | zstd encoder =>
    obtain ⟨plain, plain_eq, parts_eq⟩ :=
      ZstdEncoder.Sound.decodeStream_encode sound admits.decodable wires_eq
    exact ⟨plain, decodeStream_map MessageDecoder.zstd (fun _ _ => rfl) plain_eq, parts_eq⟩

end MessageEncoder

end Omq
