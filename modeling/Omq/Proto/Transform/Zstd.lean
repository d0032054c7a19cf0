import Omq.Proto.Transform.Common

/-!
# The zstd transform

A part is plaintext behind the common sentinel or one raw zstd frame; a dictionary is shipped as a
single-part message in the ZDICT format.
-/

namespace Omq

open BigEndian CompressionPrimitives

def zstdMagic : Bytes := [0x28, 0xB5, 0x2F, 0xFD]

def zdictMagic : Bytes := [0x37, 0xA4, 0x30, 0xEC]

/-- Size below which a part stays plain without a dictionary. -/
def zstdMinCompressNoDict : Nat := 512

/-- Size below which a part stays plain with a dictionary. -/
def zstdMinCompressWithDict : Nat := 64

/-- Largest declared size the decoder accepts. -/
def maxDecompressedSize : Nat := 0x40000000 - 1

def zstdMaxDictBytes : Nat := 8 * 1024

def trainMaxSamples : Nat := 1000

def trainMaxBytes : Nat := 100 * 1024

/-- Parts of this size are not sampled. -/
def trainMaxSampleLen : Nat := 2048

/-- Smallest identifier of a user dictionary. -/
def userDictIdMin : Nat := 32768

/-- Largest identifier of a user dictionary. -/
def userDictIdMax : Nat := 0x7FFFFFFF

def patchUserDictId (dict : Bytes) (random : Nat) : Option Bytes :=
  if dict.length < 8 ∨ dict.take 4 ≠ zdictMagic then none
  else
    let id := userDictIdMin + random % (userDictIdMax - userDictIdMin + 1)
    some (dict.take 4 ++ encodeLittle 4 id ++ dict.drop 8)

/-- Send-side zstd state of a connection. -/
structure ZstdEncoder where
  sendDict : Option Bytes
  sendDictShipped : Bool
  level : Int
  /-- The dictionary of the compression context, when there is a context. -/
  cctx : Option (Option Bytes)
  train : Option (List Bytes)
  thresholdOverride : Option Nat
  dictCapacity : Nat
  /-- The random number a finished training draws. -/
  dictIdDraw : Nat
  /-- A context belongs to the outbound dictionary. -/
  seeded : ∀ dict, cctx = some dict → dict = sendDict

namespace ZstdEncoder

def new (dictIdDraw : Nat) : ZstdEncoder where
  sendDict := none
  sendDictShipped := false
  level := 1
  cctx := none
  train := none
  thresholdOverride := none
  dictCapacity := 2048
  dictIdDraw := dictIdDraw
  seeded := by simp

variable (encoder : ZstdEncoder)

def withAutoTrain : ZstdEncoder :=
  if encoder.sendDict.isNone then { encoder with train := some [] } else encoder

def withLevel (level : Int) : ZstdEncoder :=
  { encoder with level := level, cctx := none, seeded := by simp }

def withThreshold (threshold : Nat) : ZstdEncoder :=
  { encoder with thresholdOverride := some threshold }

def withDictCapacity (capacity : Nat) : ZstdEncoder :=
  { encoder with dictCapacity := min capacity zstdMaxDictBytes }

def effectiveThreshold : Nat :=
  encoder.thresholdOverride.getD
    (if encoder.sendDict.isSome then zstdMinCompressWithDict else zstdMinCompressNoDict)

def passthroughThreshold : Option Nat :=
  if encoder.thresholdOverride.isSome then some encoder.effectiveThreshold
  else if encoder.train.isSome then none
  else if encoder.sendDict.isNone then some zstdMinCompressNoDict
  else none

def canOffload : Bool :=
  encoder.train.isNone && (encoder.sendDict.isNone || encoder.sendDictShipped)

def newOffload : ZstdEncoder where
  sendDict := encoder.sendDict
  sendDictShipped := true
  level := encoder.level
  cctx := none
  train := none
  thresholdOverride := encoder.thresholdOverride
  dictCapacity := encoder.dictCapacity
  dictIdDraw := encoder.dictIdDraw
  seeded := by simp

/-- Take over the primary's dictionary, and drop the context when the dictionary changed. -/
def syncDict (encoder primary : ZstdEncoder) : ZstdEncoder :=
  if encoder.sendDict = primary.sendDict then encoder
  else { encoder with sendDict := primary.sendDict, cctx := none, seeded := by simp }

variable [CompressionPrimitives]

def withSendDict (dict : Bytes) (dictIdDraw : Nat) : Except Error ZstdEncoder :=
  match validateDict dict "Zstd" zstdMaxDictBytes with
  | .error error => .error error
  | .ok () =>
    if dict.length < 4 ∨ dict.take 4 ≠ zdictMagic then
      .error (.protocol "Zstd dictionary must start with ZDICT magic")
    else
      match zstdDictionary dict with
      | .error reason => .error (.protocol ("invalid zstd dictionary: " ++ reason))
      | .ok () =>
        .ok { new dictIdDraw with sendDict := some dict, cctx := none, seeded := by simp }

def trainZdict (samples : List Bytes) (capacity random : Nat) : Option Bytes :=
  if samples = [] ∨ capacity = 0 then none
  else
    match patchUserDictId (zstdTrain (min capacity zstdMaxDictBytes) samples) random with
    | none => none
    | some dict =>
      match zstdDictionary dict with
      | .error _ => none
      | .ok () => some dict

variable (encoder : ZstdEncoder)

/-- Sample one part and install the dictionary once enough was sampled. -/
def maybeTrain (plain : Bytes) : ZstdEncoder :=
  match encoder.train with
  | none => encoder
  | some samples =>
    if trainMaxSampleLen ≤ plain.length then encoder
    else
      let samples := samples ++ [plain]
      if samples.length < trainMaxSamples ∧ (samples.map List.length).sum < trainMaxBytes then
        { encoder with train := some samples }
      else
        match trainZdict samples encoder.dictCapacity encoder.dictIdDraw with
        | none => { encoder with train := none }
        | some dict =>
          { encoder with
            train := none
            sendDict := some dict
            sendDictShipped := false
            cctx := none
            seeded := by simp }

/-- Compress with the context, which is made on first use. -/
def compress (plain : Bytes) : ZstdEncoder × Except Error Bytes :=
  let failure : String → Error := fun reason => .protocol ("zstd: " ++ reason)
  match encoder.cctx with
  | some dict =>
    (encoder, (zstdCompress dict encoder.level plain).mapError failure)
  | none =>
    match encoder.sendDict.elim (.ok ()) zstdDictionary with
    | .error reason => (encoder, .error (failure reason))
    | .ok () =>
      ({ encoder with cctx := some encoder.sendDict, seeded := by simp },
        (zstdCompress encoder.sendDict encoder.level plain).mapError failure)

def encodePart (part : Payload) : ZstdEncoder × Except Error Payload :=
  let plain := part.asSlice
  if plain.length < encoder.effectiveThreshold then (encoder, .ok (plaintextPayload plain))
  else
    let (encoder, result) := encoder.compress plain
    (encoder, result.map fun compressed =>
      if plain.length - envelopePlain ≤ compressed.length then plaintextPayload plain
      else .fromBytes compressed)

def pendingShipment : Option Bytes :=
  if encoder.sendDictShipped then none else encoder.sendDict

def shippedDict : Option Bytes :=
  if encoder.sendDictShipped then encoder.sendDict else none

def ship : ZstdEncoder :=
  { encoder with
    sendDictShipped := encoder.sendDictShipped || encoder.sendDict.isSome }

def trainParts (message : Message) : ZstdEncoder :=
  (message.partsPayload.map Payload.asSlice).foldl maybeTrain encoder

def encode (message : Message) : ZstdEncoder × Except Error (List Message) :=
  let encoder := encoder.trainParts message
  let shipment := encoder.pendingShipment.toList.map Message.ofSingle
  let (encoder, wire) := encodeParts encodePart encoder.ship message.partsPayload .empty
  (encoder, wire.map (shipment ++ [·]))

end ZstdEncoder

/-- Receive-side zstd state of a connection. -/
structure ZstdDecoder where
  /-- The dictionary the peer shipped, which seeds the decompression context. -/
  recvDict : Option Bytes
  maxMessageSize : Option Nat
  maxRecvDictSize : Nat

namespace ZstdDecoder

def new : ZstdDecoder := ⟨none, none, zstdMaxDictBytes⟩

def having (dict : Option Bytes) : ZstdDecoder := { new with recvDict := dict }

def decompressErr (reason : String) : Error := .protocol ("zstd: " ++ reason)

variable [CompressionPrimitives] (decoder : ZstdDecoder)

def decodeZstd (bytes : Bytes) (budget : Option Nat) : Except Error (Payload × Option Nat) := do
  let contentSize ← (zstdContentSize bytes).mapError decompressErr
  match contentSize with
  | none => throw (.protocol "zstd frame missing required Frame_Content_Size")
  | some size =>
    if usizeMax < size then throw (.protocol "zstd declared size exceeds usize")
    if maxDecompressedSize < size then
      throw (.protocol "zstd declared size exceeds absolute limit")
    let budget ← takeBudget budget size
    let plain ← (zstdDecompress decoder.recvDict bytes size).mapError decompressErr
    if plain.length ≠ size then
      throw (.protocol "zstd decompressed length disagrees with declared")
    return (.fromBytes plain, budget)

def installDict (dict : Bytes) : Except Error ZstdDecoder := do
  if decoder.recvDict.isSome then
    throw (.protocol "zstd dict shipped twice on the same connection")
  validateDict dict "Zstd" decoder.maxRecvDictSize
  (zstdDictionary dict).mapError decompressErr
  return { decoder with recvDict := some dict }

def decodePart (bytes : Bytes) (budget : Option Nat) : Except Error (Payload × Option Nat) := do
  let sentinel := bytes.take 4
  if sentinel = sentinelPlain then
    let budget ← takeBudget budget (bytes.length - 4)
    return (.fromBytes (bytes.drop 4), budget)
  else if sentinel = zstdMagic then decoder.decodeZstd bytes budget
  else throw (.protocol "unknown zstd sentinel")

/-- The receive side of the zstd transform. -/
def format : PartFormat ZstdDecoder where
  shortPart := "zstd part shorter than 4-byte sentinel"
  notSingle := "zstd dict shipment must be a single-part message"
  dictSentinel := zdictMagic
  install := installDict
  decodePart := decodePart

def decode (message : Message) : Except Error (ZstdDecoder × Option Message) :=
  format.decode decoder decoder.maxMessageSize message

end ZstdDecoder

end Omq
