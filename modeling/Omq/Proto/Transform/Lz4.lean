import Omq.Proto.Transform.Common

/-!
# The LZ4 transform

Every part of a message starts with a four-byte sentinel: plaintext, one LZ4 block, several
blocks, or a shipped dictionary.
-/

namespace Omq

open BigEndian

/-- Sentinel of a part with one block. -/
def sentinelLz4b : Bytes := ascii "LZ4B"

/-- Sentinel of a part with several blocks. -/
def sentinelLz4m : Bytes := ascii "LZ4M"

def sentinelLz4d : Bytes := ascii "LZ4D"

/-- Envelope of a compressed part: sentinel and declared size. -/
def envelopeLz4b : Nat := 12

/-- Largest plaintext of one block. -/
def lz4mBlockSize : Nat := 0x40000000

/-- Largest expansion of one compressed byte. -/
def lz4MaxExpansion : Nat := 255

def lz4MaxDictBytes : Nat := 8192

/-- Size below which a part stays plain without a dictionary. -/
def minCompressNoDict : Nat := 512

/-- Size below which a part stays plain with a dictionary. -/
def minCompressWithDict : Nat := 64

/-- A dictionary trainer: its capacity and the samples it was fed. -/
structure DictTrainer where
  capacity : Nat
  samples : List Bytes

/-- Send-side LZ4 state of a connection. -/
structure Lz4Encoder where
  sendDict : Option Bytes
  sendDictShipped : Bool
  blockSize : Nat
  /-- The dictionary the block compressor is seeded with. -/
  compressor : Option Bytes
  thresholdOverride : Option Nat
  trainer : Option DictTrainer
  trainMsgsLeft : Nat
  dictCapacity : Nat
  block_pos : 0 < blockSize
  seeded : compressor = sendDict

namespace Lz4Encoder

def new : Lz4Encoder where
  sendDict := none
  sendDictShipped := false
  blockSize := lz4mBlockSize
  compressor := none
  thresholdOverride := none
  trainer := none
  trainMsgsLeft := 0
  dictCapacity := 2048
  block_pos := by decide
  seeded := rfl

variable (encoder : Lz4Encoder)

def withAutoTrain : Lz4Encoder :=
  { encoder with trainer := some ⟨encoder.dictCapacity, []⟩, trainMsgsLeft := 100 }

def withDictCapacity (capacity : Nat) : Lz4Encoder :=
  let capacity := min capacity lz4MaxDictBytes
  { encoder with
    dictCapacity := capacity
    trainer := encoder.trainer.map fun _ => ⟨capacity, []⟩ }

/-- An encoder with a dictionary which it will ship first. -/
def withSendDict (dict : Bytes) : Except Error Lz4Encoder :=
  match validateDict dict "LZ4" lz4MaxDictBytes with
  | .error error => .error error
  | .ok () => .ok { new with sendDict := some dict, compressor := some dict, seeded := rfl }

def withThreshold (threshold : Nat) : Lz4Encoder :=
  { encoder with thresholdOverride := some threshold }

/-- The size below which a part stays plain. -/
def effectiveThreshold : Nat :=
  encoder.thresholdOverride.getD
    (if encoder.sendDict.isSome then minCompressWithDict else minCompressNoDict)

/-- The size below which every part is sure to stay plain, when that cannot change. -/
def passthroughThreshold : Option Nat :=
  if encoder.thresholdOverride.isSome then some encoder.effectiveThreshold
  else if encoder.trainer.isSome then none
  else if encoder.sendDict.isNone then some minCompressNoDict
  else none

/-- No training is in progress and no dictionary waits to be shipped. -/
def canOffload : Bool :=
  encoder.trainer.isNone && (encoder.sendDict.isNone || encoder.sendDictShipped)

/-- A pool encoder with the same configuration, which never ships a dictionary. -/
def newOffload : Lz4Encoder where
  sendDict := encoder.sendDict
  sendDictShipped := true
  blockSize := encoder.blockSize
  compressor := encoder.sendDict
  thresholdOverride := encoder.thresholdOverride
  trainer := none
  trainMsgsLeft := 0
  dictCapacity := encoder.dictCapacity
  block_pos := encoder.block_pos
  seeded := rfl

/-- Take over the primary's dictionary, unless the encoder has one already. -/
def syncDict (encoder primary : Lz4Encoder) : Lz4Encoder :=
  match primary.sendDict with
  | some dict =>
    if encoder.sendDict.isNone then
      { encoder with sendDict := some dict, compressor := some dict, seeded := rfl }
    else encoder
  | none => encoder

variable [CompressionPrimitives] (encoder : Lz4Encoder)

/-- Feed the trainer and install the dictionary once it is trained. -/
def train (message : Message) : Lz4Encoder :=
  match encoder.trainer with
  | none => encoder
  | some trainer =>
    let trainer : DictTrainer :=
      ⟨trainer.capacity, trainer.samples ++ message.partsPayload.map Payload.asSlice⟩
    let left := encoder.trainMsgsLeft - 1
    if left = 0 then
      let dict := CompressionPrimitives.lz4Train trainer.capacity trainer.samples
      if dict = [] then { encoder with trainer := none, trainMsgsLeft := left }
      else
        { encoder with
          trainer := none
          trainMsgsLeft := left
          sendDict := some dict
          sendDictShipped := false
          compressor := some dict
          seeded := rfl }
    else { encoder with trainer := some trainer, trainMsgsLeft := left }

def compressBlock (plain : Bytes) : Except Error Bytes :=
  (CompressionPrimitives.lz4Compress encoder.compressor plain).mapError
    fun reason => .protocol ("lz4 compress: " ++ reason)

def encodeBlocks (encoder : Lz4Encoder) (plain : Bytes) : Except Error Bytes :=
  if _empty : plain = [] then .ok []
  else
    match encoder.compressBlock (plain.take encoder.blockSize) with
    | .error error => .error error
    | .ok block =>
      match encoder.encodeBlocks (plain.drop encoder.blockSize) with
      | .error error => .error error
      | .ok later => .ok (encodeLittle 4 block.length ++ block ++ later)
  termination_by plain.length
  decreasing_by
    have block_pos := encoder.block_pos
    have plain_pos := List.length_pos_iff.mpr _empty
    rw [List.length_drop]
    omega

def encodePart (part : Payload) : Except Error Payload :=
  let plain := part.asSlice
  if plain.length < encoder.effectiveThreshold then .ok (plaintextPayload plain)
  else if encoder.blockSize < plain.length then
    match encoder.encodeBlocks plain with
    | .error error => .error error
    | .ok blocks => .ok (.fromBytes (sentinelLz4m ++ encodeLittle 8 plain.length ++ blocks))
  else
    match encoder.compressBlock plain with
    | .error error => .error error
    | .ok block =>
      if plain.length + envelopePlain ≤ block.length + envelopeLz4b then
        .ok (plaintextPayload plain)
      else .ok (.fromBytes (sentinelLz4b ++ encodeLittle 8 plain.length ++ block))

/-- Whether the outbound dictionary must be shipped ahead of the next message. -/
def pendingShipment : Option Bytes :=
  if encoder.sendDictShipped then none else encoder.sendDict

def shippedDict : Option Bytes :=
  if encoder.sendDictShipped then encoder.sendDict else none

/-- Mark a pending dictionary as shipped. -/
def ship : Lz4Encoder :=
  { encoder with
    sendDictShipped := encoder.sendDictShipped || encoder.sendDict.isSome }

/-- Encode one message: train, ship the dictionary when it is due, then encode the parts. -/
def encode (message : Message) : Lz4Encoder × Except Error (List Message) :=
  let encoder := encoder.train message
  let shipment := encoder.pendingShipment.toList.map (buildDictShipment sentinelLz4d)
  let encoder := encoder.ship
  let (encoder, wire) := encodeParts (fun encoder part => (encoder, encoder.encodePart part))
    encoder message.partsPayload .empty
  (encoder, wire.map (shipment ++ [·]))

end Lz4Encoder

/-- Receive-side LZ4 state of a connection. -/
structure Lz4Decoder where
  /-- The dictionary the peer shipped. -/
  decompressor : Option Bytes
  maxMessageSize : Option Nat
  blockSize : Nat
  maxRecvDictSize : Nat

namespace Lz4Decoder

/-- A decoder without a dictionary and without limits of its own. -/
def new : Lz4Decoder := ⟨none, none, lz4mBlockSize, lz4MaxDictBytes⟩

def having (dict : Option Bytes) : Lz4Decoder := { new with decompressor := dict }

def withMaxMessageSize (decoder : Lz4Decoder) (max : Option Nat) : Lz4Decoder :=
  { decoder with maxMessageSize := max }

/-- A declared size as a length. -/
def decodeLen (declared : Nat) (label : String) : Except Error Nat :=
  if usizeMax < declared then .error (.protocol (label ++ " declared size exceeds usize"))
  else if isizeMax < declared then
    .error (.protocol (label ++ " declared size exceeds maximum allocation"))
  else .ok declared

variable [CompressionPrimitives]

def decompressBlock (dict : Option Bytes) (block : Bytes) (size : Nat) : Except Error Bytes :=
  (CompressionPrimitives.lz4Decompress dict block size).mapError
    fun reason => .protocol ("lz4 decompress: " ++ reason)

variable (decoder : Lz4Decoder)

def decodeLz4b (body : Bytes) (budget : Option Nat) : Except Error (Payload × Option Nat) := do
  if body.length < 8 then
    throw (.protocol "LZ4B part shorter than declared-size header")
  let size ← decodeLen (decodeLittle (body.take 8)) "LZ4B"
  if decoder.blockSize < size then
    throw (.protocol "LZ4B declared size exceeds block limit; use LZ4M for large parts")
  let budget ← takeBudget budget size
  let plain ← decompressBlock decoder.decompressor (body.drop 8) size
  if plain.length ≠ size then
    throw (.protocol "LZ4B decompressed length does not match declared")
  return (.fromBytes plain, budget)

/-- Decode the blocks of a part until `remaining` bytes are produced. -/
def decodeBlocks (decoder : Lz4Decoder) (remaining : Nat) (body : Bytes) : Except Error Bytes :=
  if remaining = 0 then
    if body = [] then .ok [] else .error (.protocol "LZ4M trailing bytes after last block")
  else if _short : body.length < 4 then .error (.protocol "LZ4M truncated block length")
  else
    let compressedLen := decodeLittle (body.take 4)
    if (body.drop 4).length < compressedLen then
      .error (.protocol "LZ4M truncated block data")
    else
      let size := min remaining decoder.blockSize
      match decompressBlock decoder.decompressor ((body.drop 4).take compressedLen) size with
      | .error error => .error error
      | .ok plain =>
        if plain.length ≠ size then
          .error (.protocol "LZ4M block decompressed length mismatch")
        else
          match decoder.decodeBlocks (remaining - size) ((body.drop 4).drop compressedLen) with
          | .error error => .error error
          | .ok later => .ok (plain ++ later)
  termination_by body.length
  decreasing_by
    rw [List.length_drop, List.length_drop]
    omega

def decodeLz4m (body : Bytes) (budget : Option Nat) : Except Error (Payload × Option Nat) := do
  if body.length < 8 then
    throw (.protocol "LZ4M part shorter than declared-size header")
  let size ← decodeLen (decodeLittle (body.take 8)) "LZ4M"
  let budget ← takeBudget budget size
  if saturatingMul (body.length - 8) lz4MaxExpansion < size then
    throw (.protocol "LZ4M declared size implausibly large for compressed input")
  let plain ← decoder.decodeBlocks size (body.drop 8)
  return (.fromBytes plain, budget)

def installDict (dict : Bytes) : Except Error Lz4Decoder := do
  if decoder.decompressor.isSome then
    throw (.protocol "LZ4D shipped twice on the same connection")
  validateDict dict "LZ4" decoder.maxRecvDictSize
  return { decoder with decompressor := some dict }

def decodePart (bytes : Bytes) (budget : Option Nat) : Except Error (Payload × Option Nat) := do
  let sentinel := bytes.take 4
  if sentinel = sentinelPlain then
    let budget ← takeBudget budget (bytes.length - 4)
    return (.fromBytes (bytes.drop 4), budget)
  else if sentinel = sentinelLz4b then decoder.decodeLz4b (bytes.drop 4) budget
  else if sentinel = sentinelLz4m then decoder.decodeLz4m (bytes.drop 4) budget
  else throw (.protocol "unknown lz4 sentinel")

/-- The receive side of the LZ4 transform. -/
def format : PartFormat Lz4Decoder where
  shortPart := "lz4 part shorter than 4-byte sentinel"
  notSingle := "LZ4D dict shipment must be a single-part message"
  dictSentinel := sentinelLz4d
  install := fun decoder bytes => decoder.installDict (bytes.drop 4)
  decodePart := decodePart

def decode (message : Message) : Except Error (Lz4Decoder × Option Message) :=
  format.decode decoder decoder.maxMessageSize message

end Lz4Decoder

end Omq
