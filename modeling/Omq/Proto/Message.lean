import Omq.Proto.Error

/-!
# Payloads, frames and messages

A payload is stored empty, inline or as one shared chunk, and a message has nine in-memory
representations.  Equality in the crate is equality of parts, so the abstraction of a message is
its list of parts; `parts_partsPayload` says that the codec's view of a message is that list.
-/

namespace Omq

def maxInlinePayload : Nat := 62

def maxInlineMessage : Nat := 55

/-- Largest body stored inline next to a routing id. -/
def maxInlineRoutedMessage : Nat := 51

/-- `size_of::<Payload>()`, the slot charged for every part of a message. -/
def payloadSlot : Nat := 64

/-- The byte content of one frame. -/
inductive Payload
  | empty
  | inline (data : Bytes) (nonempty : data ≠ []) (fits : data.length ≤ maxInlinePayload)
  | single (data : Bytes) (nonempty : data ≠ [])
  deriving DecidableEq

namespace Payload

variable (data : Bytes)

/-- Wrap one chunk without copying it. -/
def fromBytes : Payload :=
  if nonempty : data = [] then .empty else .single data nonempty

/-- Copy a short slice into the payload; longer slices fall back to a chunk. -/
def fromSlice : Payload :=
  if nonempty : data = [] then .empty
  else if fits : data.length ≤ maxInlinePayload then .inline data nonempty fits
  else .fromBytes data

def asSlice : Payload → Bytes
  | .empty => []
  | .inline data _ _ => data
  | .single data _ => data

def len : Payload → Nat
  | .empty => 0
  | .inline data _ _ => data.length
  | .single data _ => data.length

def isEmpty : Payload → Bool
  | .empty => true
  | _ => false

@[simp]
theorem asSlice_fromBytes : (fromBytes data).asSlice = data := by
  unfold fromBytes
  split
  next empty => simp [asSlice, empty]
  · rfl

@[simp]
theorem asSlice_fromSlice : (fromSlice data).asSlice = data := by
  unfold fromSlice
  split
  next empty => simp [asSlice, empty]
  · split
    · rfl
    · exact asSlice_fromBytes data

@[simp]
theorem length_asSlice (payload : Payload) : payload.asSlice.length = payload.len := by
  cases payload <;> rfl

theorem isEmpty_iff (payload : Payload) : payload.isEmpty = true ↔ payload.asSlice = [] := by
  cases payload with
  | empty => simp [isEmpty, asSlice]
  | inline data nonempty fits => simp [isEmpty, asSlice, nonempty]
  | single data nonempty => simp [isEmpty, asSlice, nonempty]

end Payload

structure FrameFlags where
  more : Bool
  /-- The frame is a ZMTP command, not application data. -/
  command : Bool
  deriving DecidableEq

namespace FrameFlags

def last : FrameFlags := ⟨false, false⟩

def moreData : FrameFlags := ⟨true, false⟩

def commandFrame : FrameFlags := ⟨false, true⟩

end FrameFlags

/-- A single ZMTP frame on the wire. -/
structure Frame where
  flags : FrameFlags
  payload : Payload

/-- A message in one of its in-memory representations. -/
inductive Message
  | empty
  | inline (delimited : Bool) (data : Bytes) (fits : data.length ≤ maxInlineMessage)
  | single (payload : Payload)
  | emptyDelimitedBytes (data : Bytes)
  | multi (parts : List Payload)
  | routedEmpty (routingId : UInt32)
  | routedInline (routingId : UInt32) (data : Bytes) (fits : data.length ≤ maxInlineRoutedMessage)
  | routedBytes (routingId : UInt32) (data : Bytes)
  | routedMulti (routingId : UInt32) (parts : List Payload)
  deriving DecidableEq

namespace Message

def parts : Message → List Bytes
  | .empty => []
  | .inline delimited data _ => if delimited then [[], data] else [data]
  | .single payload => [payload.asSlice]
  | .emptyDelimitedBytes data => [[], data]
  | .multi payloads => payloads.map Payload.asSlice
  | .routedEmpty _ => []
  | .routedInline _ data _ => [data]
  | .routedBytes _ data => [data]
  | .routedMulti _ payloads => payloads.map Payload.asSlice

def len : Message → Nat
  | .empty => 0
  | .inline delimited _ _ => if delimited then 2 else 1
  | .single _ => 1
  | .emptyDelimitedBytes _ => 2
  | .multi payloads => payloads.length
  | .routedEmpty _ => 0
  | .routedInline _ _ _ => 1
  | .routedBytes _ _ => 1
  | .routedMulti _ payloads => payloads.length

/-- Whether the message has no parts, going by its representation. -/
def isEmpty : Message → Bool
  | .empty | .routedEmpty _ => true
  | _ => false

def byteLen : Message → Nat
  | .empty => 0
  | .inline _ data _ => data.length
  | .single payload => payload.len
  | .emptyDelimitedBytes data => data.length
  | .multi payloads => (payloads.map Payload.len).sum
  | .routedEmpty _ => 0
  | .routedInline _ data _ => data.length
  | .routedBytes _ data => data.length
  | .routedMulti _ payloads => (payloads.map Payload.len).sum

variable (message : Message)

def maxMessageSizeLen : Nat :=
  saturatingAdd message.byteLen (saturatingMul message.len payloadSlot)

/-- The payloads the codec puts on the wire, one frame each. -/
def partsPayload : Message → List Payload
  | .empty => []
  | .inline delimited data _ =>
    let body := Payload.fromSlice data
    if delimited then [.fromBytes [], body] else [body]
  | .single payload => [payload]
  | .emptyDelimitedBytes data => [.fromBytes [], .fromBytes data]
  | .multi payloads => payloads
  | .routedEmpty _ => []
  | .routedInline _ data _ => [.fromSlice data]
  | .routedBytes _ data => [.fromBytes data]
  | .routedMulti _ payloads => payloads

def fromPayload (payload : Payload) : Message := .single payload

variable (data : Bytes)

/-- A single-part message stored inline when it fits. -/
def fromInline : Message :=
  if fits : data.length ≤ maxInlineMessage then .inline false data fits
  else .single (.fromBytes data)

def fromPayloadsVec : List Payload → Message
  | [] => .empty
  | [payload] => .single payload
  | payloads => .multi payloads

/-- `Message::single`. -/
def ofSingle : Message := fromInline data

/-- Append a part; a multipart message replaces the compact representations. -/
def pushPartPayload (part : Payload) : Message :=
  match message with
  | .empty => .single part
  | .inline delimited data _ =>
    let existing := Payload.fromSlice data
    if delimited then .multi [.fromBytes [], existing, part] else .multi [existing, part]
  | .single existing => .multi [existing, part]
  | .emptyDelimitedBytes data => .multi [.fromBytes [], .fromBytes data, part]
  | .multi payloads => .multi (payloads ++ [part])
  | .routedEmpty routingId => .routedMulti routingId [part]
  | .routedInline routingId data _ => .routedMulti routingId [.fromSlice data, part]
  | .routedBytes routingId data => .routedMulti routingId [.fromBytes data, part]
  | .routedMulti routingId payloads => .routedMulti routingId (payloads ++ [part])

/-- Every part of the message has a size which an allocation can have. -/
def Allocatable : Prop := ∀ part ∈ message.parts, part.length ≤ isizeMax

instance (message : Message) : Decidable message.Allocatable :=
  inferInstanceAs (Decidable (∀ part ∈ message.parts, part.length ≤ isizeMax))

/-- A multipart representation has parts.  No constructor makes one without. -/
def Built : Message → Prop
  | .multi payloads | .routedMulti _ payloads => payloads ≠ []
  | _ => True

theorem Built.isEmpty_iff {message : Message} (built : message.Built) :
    message.isEmpty = true ↔ message.parts = [] := by
  cases message with
  | inline delimited data fits => cases delimited <;> simp [isEmpty, parts]
  | multi payloads => simpa [isEmpty, parts, Built] using built
  | routedMulti routingId payloads => simpa [isEmpty, parts, Built] using built
  | _ => simp [isEmpty, parts]

@[simp]
theorem parts_partsPayload : message.partsPayload.map Payload.asSlice = message.parts := by
  cases message with
  | inline delimited data fits => cases delimited <;> simp [partsPayload, parts]
  | _ => simp [partsPayload, parts]

theorem partsPayload_eq_nil_iff : message.partsPayload = [] ↔ message.parts = [] := by
  rw [← parts_partsPayload, List.map_eq_nil_iff]

@[simp]
theorem length_parts : message.parts.length = message.len := by
  cases message with
  | inline delimited data fits => cases delimited <;> rfl
  | _ => simp [parts, len]

theorem Allocatable.len_le {message : Message} (allocatable : message.Allocatable) {part : Payload}
    (member : part ∈ message.partsPayload) : part.len ≤ isizeMax := by
  rw [← Payload.length_asSlice]
  apply allocatable
  rw [← parts_partsPayload]
  exact List.mem_map_of_mem member

theorem sum_length_parts : (message.parts.map List.length).sum = message.byteLen := by
  cases message with
  | inline delimited data fits => cases delimited <;> simp [parts, byteLen]
  | _ => simp [parts, byteLen, Function.comp_def]

@[simp]
theorem parts_fromInline : (fromInline data).parts = [data] := by
  unfold fromInline
  split <;> simp [parts]

@[simp]
theorem parts_ofSingle : (ofSingle data).parts = [data] := parts_fromInline data

@[simp]
theorem parts_pushPartPayload (part : Payload) :
    (message.pushPartPayload part).parts = message.parts ++ [part.asSlice] := by
  cases message with
  | inline delimited data fits => cases delimited <;> simp [pushPartPayload, parts]
  | _ => simp [pushPartPayload, parts]

@[simp]
theorem parts_fromPayloadsVec (payloads : List Payload) :
    (fromPayloadsVec payloads).parts = payloads.map Payload.asSlice := by
  match payloads with
  | [] => rfl
  | [payload] => rfl
  | first :: second :: rest => rfl

end Message

end Omq
