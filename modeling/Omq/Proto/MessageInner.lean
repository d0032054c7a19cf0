import Omq.Proto.TypeState

/-!
# The nine representations of a message

A message of at most 55 bytes is stored in the value itself: a length byte, whose top bit says that
an empty part comes first, and an array, whose last four bytes hold the routing id of a routed one.
Every operation is written for every representation; what it does to the parts and to the routing
id does not depend on the representation, except that a delimiter is not prepended to a message
whose representation has one already.
-/

namespace Omq

open List Message Payload

structure InlineBuffer where
  bytes : Bytes
  length_eq : bytes.length = maxInlineMessage

/-- The bit of a length byte which says that an empty part comes first. -/
def inlineDelimitedFlag : UInt8 := 0x80

/-- Whether an empty part comes first. -/
def hasDelimiter (len : UInt8) : Bool := len &&& inlineDelimitedFlag ≠ 0

/-- The length byte without the delimiter bit. -/
def bodyLen (len : UInt8) : UInt8 := len &&& ~~~inlineDelimitedFlag

namespace InlineBuffer

variable (data : InlineBuffer)

def slice (len : Nat) : Bytes := data.bytes.take len

theorem length_padded {source : Bytes} (fits : source.length ≤ maxInlineMessage) :
    (source ++ List.replicate (maxInlineMessage - source.length) 0).length = maxInlineMessage := by
  rw [length_append, length_replicate]
  exact Nat.add_sub_cancel' fits

/-- An array which starts with the given bytes. -/
def ofSlice (source : Bytes) (fits : source.length ≤ maxInlineMessage) : InlineBuffer where
  bytes := source ++ List.replicate (maxInlineMessage - source.length) 0
  length_eq := length_padded fits

def routedInlineId : UInt32 :=
  UInt32.ofNat (BigEndian.decodeLittle (data.bytes.drop maxInlineRoutedMessage))

variable (routingId : UInt32)

theorem length_routed :
    (data.bytes.take maxInlineRoutedMessage ++
      BigEndian.encodeLittle 4 routingId.toNat).length = maxInlineMessage := by
  rw [length_append, length_take, data.length_eq, BigEndian.length_encodeLittle]
  rfl

/-- Write a routing id into the last four bytes. -/
def withRoutedInlineId : InlineBuffer where
  bytes := data.bytes.take maxInlineRoutedMessage ++ BigEndian.encodeLittle 4 routingId.toNat
  length_eq := length_routed data routingId

theorem length_slice {len : Nat} (fits : len ≤ maxInlineMessage) :
    (data.slice len).length = len := by
  rw [slice, length_take, data.length_eq, Nat.min_eq_left fits]

theorem length_slice_le {len bound : Nat} (fits : len ≤ bound) : (data.slice len).length ≤ bound :=
  Nat.le_trans (length_take_le _ _) fits

@[simp]
theorem routedInlineId_withRoutedInlineId :
    (data.withRoutedInlineId routingId).routedInlineId = routingId := by
  have body : (data.bytes.take maxInlineRoutedMessage).length = maxInlineRoutedMessage := by
    rw [length_take, data.length_eq]
    rfl
  have tail : (data.withRoutedInlineId routingId).bytes.drop maxInlineRoutedMessage =
      BigEndian.encodeLittle 4 routingId.toNat := drop_left' body
  rw [routedInlineId, tail, BigEndian.decodeLittle_encodeLittle_of_lt routingId.toNat_lt,
    UInt32.ofNat_toNat]

/-- A routing id leaves the bytes in front of it alone. -/
theorem slice_withRoutedInlineId {len : Nat} (fits : len ≤ maxInlineRoutedMessage) :
    (data.withRoutedInlineId routingId).slice len = data.slice len := by
  have body : len ≤ (data.bytes.take maxInlineRoutedMessage).length := by
    rw [length_take, data.length_eq]
    exact fits
  rw [slice, withRoutedInlineId, take_append_of_le_length body, take_take,
    Nat.min_eq_left fits, slice]

end InlineBuffer

/-! ## Length bytes -/

@[simp]
theorem hasDelimiter_bodyLen (len : UInt8) : hasDelimiter (bodyLen len) = false := by
  obtain ⟨bits⟩ := len
  revert bits
  decide +kernel

@[simp]
theorem bodyLen_bodyLen (len : UInt8) : bodyLen (bodyLen len) = bodyLen len := by
  obtain ⟨bits⟩ := len
  revert bits
  decide +kernel

@[simp]
theorem hasDelimiter_or (len : UInt8) :
    hasDelimiter (bodyLen len ||| inlineDelimitedFlag) = true := by
  obtain ⟨bits⟩ := len
  revert bits
  decide +kernel

@[simp]
theorem bodyLen_or (len : UInt8) : bodyLen (bodyLen len ||| inlineDelimitedFlag) = bodyLen len := by
  obtain ⟨bits⟩ := len
  revert bits
  decide +kernel

/-- A length byte without the delimiter bit is the length. -/
theorem bodyLen_of_hasDelimiter {len : UInt8} : hasDelimiter len = false → bodyLen len = len := by
  obtain ⟨bits⟩ := len
  revert bits
  decide +kernel

theorem hasDelimiter_of_lt {len : UInt8} : len.toNat < 128 → hasDelimiter len = false := by
  obtain ⟨bits⟩ := len
  revert bits
  decide +kernel

theorem fits_bodyLen {len : UInt8} (fits : (bodyLen len).toNat ≤ maxInlineMessage) :
    (bodyLen (bodyLen len)).toNat ≤ maxInlineMessage := by
  rwa [bodyLen_bodyLen]

theorem fits_or {len : UInt8} (fits : (bodyLen len).toNat ≤ maxInlineMessage) :
    (bodyLen (bodyLen len ||| inlineDelimitedFlag)).toNat ≤ maxInlineMessage := by
  rwa [bodyLen_or]

/-- A length which fits is its own length byte. -/
theorem bodyLen_ofNat {len : Nat} (fits : len ≤ maxInlineMessage) :
    (bodyLen (UInt8.ofNat len)).toNat = len ∧ hasDelimiter (UInt8.ofNat len) = false := by
  have small : len < 128 := Nat.lt_of_le_of_lt fits (by decide)
  have byte : (UInt8.ofNat len).toNat = len :=
    UInt8.toNat_ofNat_of_lt' (Nat.lt_trans small (by decide))
  have plain := hasDelimiter_of_lt (byte.symm ▸ small)
  exact ⟨(congrArg UInt8.toNat (bodyLen_of_hasDelimiter plain)).trans byte, plain⟩

theorem fits_ofNat {len : Nat} (fits : len ≤ maxInlineMessage) :
    (bodyLen (UInt8.ofNat len)).toNat ≤ maxInlineMessage :=
  (bodyLen_ofNat fits).1.symm ▸ fits

theorem fits_routed {len : UInt8} (fits : len.toNat ≤ maxInlineRoutedMessage) :
    (bodyLen len).toNat ≤ maxInlineMessage := by
  have plain := hasDelimiter_of_lt (Nat.lt_of_le_of_lt fits (by decide))
  rw [bodyLen_of_hasDelimiter plain]
  exact Nat.le_trans fits (by decide)

/-! ## Representations -/

inductive MessageInner
  | empty
  | inline (len : UInt8) (data : InlineBuffer) (fits : (bodyLen len).toNat ≤ maxInlineMessage)
  | single (payload : Payload)
  | emptyDelimitedBytes (data : Bytes)
  | multi (parts : List Payload)
  | routedEmpty (routingId : UInt32)
  | routedInline (len : UInt8) (data : InlineBuffer) (fits : len.toNat ≤ maxInlineRoutedMessage)
  | routedBytes (routingId : UInt32) (data : Bytes)
  | routedMulti (routingId : UInt32) (parts : List Payload)

namespace MessageInner

def inlineBody (len : UInt8) (data : InlineBuffer) : Bytes := data.slice (bodyLen len).toNat

def len : MessageInner → Nat
  | .empty | .routedEmpty _ => 0
  | .inline len _ _ => if hasDelimiter len then 2 else 1
  | .single _ | .routedInline _ _ _ | .routedBytes _ _ => 1
  | .emptyDelimitedBytes _ => 2
  | .multi parts => parts.length
  | .routedMulti _ parts => parts.length

def byteLen : MessageInner → Nat
  | .empty | .routedEmpty _ => 0
  | .inline len _ _ => (bodyLen len).toNat
  | .single payload => payload.len
  | .emptyDelimitedBytes data => data.length
  | .multi parts => (parts.map Payload.len).sum
  | .routedInline len _ _ => len.toNat
  | .routedBytes _ data => data.length
  | .routedMulti _ parts => (parts.map Payload.len).sum

variable (message : MessageInner)

def get (index : Nat) : Option Bytes :=
  match message with
  | .empty | .routedEmpty _ => none
  | .inline len data _ =>
    if hasDelimiter len then
      match index with
      | 0 => some []
      | 1 => some (inlineBody len data)
      | _ => none
    else if index = 0 then some (data.slice len.toNat) else none
  | .single payload => if index = 0 then some payload.asSlice else none
  | .emptyDelimitedBytes data =>
    match index with
    | 0 => some []
    | 1 => some data
    | _ => none
  | .multi parts => parts[index]?.map asSlice
  | .routedInline len data _ => if index = 0 then some (data.slice len.toNat) else none
  | .routedBytes _ data => if index = 0 then some data else none
  | .routedMulti _ parts => parts[index]?.map asSlice

def partSlice (index : Nat) : Option Bytes := message.get index

def partBytes (index : Nat) : Option Bytes := message.get index

structure MessageIter where
  message : MessageInner
  pos : Nat

def MessageIter.next (iter : MessageIter) : Option (Bytes × MessageIter) :=
  (iter.message.partBytes iter.pos).map fun part => (part, { iter with pos := iter.pos + 1 })

def iter : MessageIter := ⟨message, 0⟩

/-- What an iterator yields until it ends, at most `fuel` parts. -/
def MessageIter.collect : (fuel : Nat) → MessageIter → List Bytes
  | 0, _ => []
  | fuel + 1, iter =>
    match iter.next with
    | none => []
    | some (part, iter) => part :: iter.collect fuel

/-- Hand every part to a closure, in order. -/
def iterSlices {σ : Type} (message : MessageInner) (visit : σ → Bytes → σ) (state : σ) : σ :=
  match message with
  | .empty | .routedEmpty _ => state
  | .inline len data _ =>
    let state := if hasDelimiter len then visit state [] else state
    visit state (inlineBody len data)
  | .single payload => visit state payload.asSlice
  | .emptyDelimitedBytes data => visit (visit state []) data
  | .multi parts => parts.foldl (fun state part => visit state part.asSlice) state
  | .routedInline len data _ => visit state (data.slice len.toNat)
  | .routedBytes _ data => visit state data
  | .routedMulti _ parts => parts.foldl (fun state part => visit state part.asSlice) state

def intoPartsPayload : MessageInner → List Payload
  | .empty | .routedEmpty _ => []
  | .inline len data _ =>
    let body := fromSlice (inlineBody len data)
    if hasDelimiter len then [.fromBytes [], body] else [body]
  | .single payload => [payload]
  | .emptyDelimitedBytes data => [.fromBytes [], .fromBytes data]
  | .multi parts => parts
  | .routedInline len data _ => [.fromSlice (data.slice len.toNat)]
  | .routedBytes _ data => [.fromBytes data]
  | .routedMulti _ parts => parts

def partsPayload : List Payload := message.intoPartsPayload

def fromPayloadsVec : List Payload → MessageInner
  | [] => .empty
  | [payload] => .single payload
  | parts => .multi parts

def routingId : MessageInner → Option UInt32
  | .routedEmpty routingId | .routedBytes routingId _ | .routedMulti routingId _ => some routingId
  | .routedInline _ data _ => some data.routedInlineId
  | _ => none

def takeRoutingId : MessageInner → Option UInt32 × MessageInner
  | .routedEmpty routingId => (some routingId, .empty)
  | .routedInline len data fits => (some data.routedInlineId, .inline len data (fits_routed fits))
  | .routedBytes routingId data => (some routingId, .single (.fromBytes data))
  | .routedMulti routingId parts => (some routingId, fromPayloadsVec parts)
  | message => (none, message)

def attachRoutingId (routingId : UInt32) : MessageInner :=
  match message with
  | .empty => .routedEmpty routingId
  | .inline len data _ =>
    if hasDelimiter len then .routedMulti routingId message.intoPartsPayload
    else if fits : len.toNat ≤ maxInlineRoutedMessage then
      .routedInline len (data.withRoutedInlineId routingId) fits
    else .routedBytes routingId (data.slice len.toNat)
  | .single payload => .routedBytes routingId payload.asSlice
  | other => .routedMulti routingId other.intoPartsPayload

def withRoutingId (routingId : UInt32) : MessageInner :=
  if message.routingId.isSome then message.takeRoutingId.2.attachRoutingId routingId
  else message.attachRoutingId routingId

def popFront : MessageInner → Option Bytes × MessageInner
  | .empty | .routedEmpty _ => (none, .empty)
  | .inline len data fits =>
    if hasDelimiter len then (some [], .inline (bodyLen len) data (fits_bodyLen fits))
    else (some (data.slice len.toNat), .empty)
  | .single payload => (some payload.asSlice, .empty)
  | .emptyDelimitedBytes data => (some [], .single (.fromBytes data))
  | .multi [] => (none, .empty)
  | .multi [first] => (some first.asSlice, .empty)
  | .multi [first, second] => (some first.asSlice, .single second)
  | .multi (first :: rest) => (some first.asSlice, .multi rest)
  | .routedInline len data _ => (some (data.slice len.toNat), .empty)
  | .routedBytes _ data => (some data, .empty)
  | .routedMulti _ [] => (none, .empty)
  | .routedMulti _ (first :: rest) => (some first.asSlice, fromPayloadsVec rest)

def pushPartPayload (part : Payload) : MessageInner :=
  match message with
  | .empty => .single part
  | .inline len data _ =>
    let existing := fromSlice (inlineBody len data)
    if hasDelimiter len then .multi [.fromBytes [], existing, part] else .multi [existing, part]
  | .single existing => .multi [existing, part]
  | .emptyDelimitedBytes existing => .multi [.fromBytes [], .fromBytes existing, part]
  | .multi parts => .multi (parts ++ [part])
  | .routedEmpty routingId => .routedMulti routingId [part]
  | .routedInline len data _ =>
    .routedMulti data.routedInlineId [.fromSlice (data.slice len.toNat), part]
  | .routedBytes routingId data => .routedMulti routingId [.fromBytes data, part]
  | .routedMulti routingId parts => .routedMulti routingId (parts ++ [part])

variable (parts : List Payload)

def extendParts : MessageInner → List Payload
  | .empty | .routedEmpty _ => parts
  | .inline len data _ =>
    let parts := if hasDelimiter len then parts ++ [.fromBytes []] else parts
    parts ++ [.fromSlice (inlineBody len data)]
  | .single payload => parts ++ [payload]
  | .emptyDelimitedBytes data => parts ++ [.fromBytes []] ++ [.fromBytes data]
  | .multi more => parts ++ more
  | .routedInline len data _ => parts ++ [.fromSlice (data.slice len.toNat)]
  | .routedBytes _ data => parts ++ [.fromBytes data]
  | .routedMulti _ more => parts ++ more

/-- A reply with its saved envelope. -/
def withRepEnvelope (envelope : List Bytes) (body : MessageInner) : MessageInner :=
  fromPayloadsVec (extendParts (envelope.map fromBytes ++ [.fromBytes []]) body)

def prependEmptyDelimiter : MessageInner → MessageInner
  | .empty => .single (.fromBytes [])
  | .inline len data fits => .inline (bodyLen len ||| inlineDelimitedFlag) data (fits_or fits)
  | .single payload => .emptyDelimitedBytes payload.asSlice
  | .emptyDelimitedBytes data => .multi [.fromBytes [], .fromBytes data]
  | .multi parts => .multi (.fromBytes [] :: parts)
  | .routedEmpty routingId => .routedMulti routingId [.fromBytes []]
  | .routedInline len data _ =>
    .routedMulti data.routedInlineId [.fromBytes [], .fromSlice (data.slice len.toNat)]
  | .routedBytes routingId data => .routedMulti routingId [.fromBytes [], .fromBytes data]
  | .routedMulti routingId parts => .routedMulti routingId (.fromBytes [] :: parts)

def withPrefix (front : Bytes) (body : MessageInner) : MessageInner :=
  if front = [] then body.prependEmptyDelimiter
  else .multi (extendParts [.fromBytes front] body)

variable (left right : MessageInner)

/-- Equality: as many parts, and the same ones. -/
def eq : Bool :=
  left.len = right.len && (List.range left.len).all fun index => left.get index = right.get index

/-- A single-part message in the array. -/
def fromInline (data : Bytes) (fits : data.length ≤ maxInlineMessage) : MessageInner :=
  .inline (UInt8.ofNat data.length) (.ofSlice data fits) (fits_ofNat fits)

def ofSingle (data : Bytes) : MessageInner :=
  if fits : data.length ≤ maxInlineMessage then fromInline data fits else .single (.fromBytes data)

/-! ## Representations and their content -/

/-- The message without the bytes of the array which nothing reads. -/
def toMessage : MessageInner → Message
  | .empty => .empty
  | .inline len data fits =>
    .inline (hasDelimiter len) (inlineBody len data) (data.length_slice_le fits)
  | .single payload => .single payload
  | .emptyDelimitedBytes data => .emptyDelimitedBytes data
  | .multi parts => .multi parts
  | .routedEmpty routingId => .routedEmpty routingId
  | .routedInline len data fits =>
    .routedInline data.routedInlineId (data.slice len.toNat) (data.length_slice_le fits)
  | .routedBytes routingId data => .routedBytes routingId data
  | .routedMulti routingId parts => .routedMulti routingId parts

theorem inlineBody_of_hasDelimiter {len : UInt8} (data : InlineBuffer)
    (plain : hasDelimiter len = false) : inlineBody len data = data.slice len.toNat := by
  rw [inlineBody, bodyLen_of_hasDelimiter plain]

/-- A short body has a length byte without the delimiter bit. -/
theorem inlineBody_routed {len : UInt8} (data : InlineBuffer)
    (fits : len.toNat ≤ maxInlineRoutedMessage) :
    hasDelimiter len = false ∧ inlineBody len data = data.slice len.toNat := by
  have plain := hasDelimiter_of_lt (Nat.lt_of_le_of_lt fits (by decide))
  exact ⟨plain, inlineBody_of_hasDelimiter data plain⟩

theorem toMessage_fromPayloadsVec : (fromPayloadsVec parts).toMessage = .fromPayloadsVec parts := by
  match parts with
  | [] | [_] | _ :: _ :: _ => rfl

theorem len_toMessage : message.toMessage.len = message.len := by
  cases message <;> rfl

theorem byteLen_toMessage : message.toMessage.byteLen = message.byteLen := by
  cases message with
  | inline len data fits => exact data.length_slice fits
  | routedInline len data fits => exact data.length_slice (Nat.le_trans fits (by decide))
  | _ => rfl

theorem partsPayload_toMessage : message.toMessage.partsPayload = message.intoPartsPayload := by
  cases message <;> rfl

theorem toMessage_pushPartPayload (part : Payload) :
    (message.pushPartPayload part).toMessage = message.toMessage.pushPartPayload part := by
  cases message with
  | inline len data fits =>
    cases delimited : hasDelimiter len <;>
      simp [pushPartPayload, toMessage, Message.pushPartPayload, delimited]
  | _ => rfl

theorem toMessage_prependEmptyDelimiter :
    message.prependEmptyDelimiter.toMessage = message.toMessage.prependEmptyDelimiter := by
  cases message with
  | inline len data fits =>
    simp [prependEmptyDelimiter, toMessage, Message.prependEmptyDelimiter, inlineBody]
  | _ => rfl

theorem toMessage_popFront :
    message.popFront.1 = message.toMessage.popFront.1 ∧
      message.popFront.2.toMessage = message.toMessage.popFront.2 := by
  cases message with
  | inline len data fits =>
    cases delimited : hasDelimiter len with
    | false => simp [popFront, toMessage, Message.popFront, delimited, inlineBody_of_hasDelimiter]
    | true => simp [popFront, toMessage, Message.popFront, delimited, inlineBody]
  | multi parts =>
    rcases parts with _ | ⟨_, _ | ⟨_, _ | ⟨_, _⟩⟩⟩ <;> exact ⟨rfl, rfl⟩
  | routedMulti routingId parts =>
    cases parts with
    | nil => exact ⟨rfl, rfl⟩
    | cons first rest => exact ⟨rfl, toMessage_fromPayloadsVec rest⟩
  | _ => exact ⟨rfl, rfl⟩

theorem extendParts_eq (message : MessageInner) :
    extendParts parts message = parts ++ message.toMessage.partsPayload := by
  cases message with
  | inline len data fits =>
    cases delimited : hasDelimiter len <;>
      simp [extendParts, toMessage, Message.partsPayload, delimited]
  | emptyDelimitedBytes data => simp [extendParts, toMessage, Message.partsPayload]
  | empty | routedEmpty => exact (append_nil _).symm
  | _ => rfl

/-! ## The model: parts and a routing id -/

/-- What a message is for its users. -/
structure Content where
  parts : List Bytes
  routingId : Option UInt32
  deriving DecidableEq

namespace Content

/-- The first part and what is left. -/
def popFront (content : Content) : Option Bytes × Content :=
  (content.parts.head?, { content with parts := content.parts.tail })

def pushPart (content : Content) (part : Bytes) : Content :=
  { content with parts := content.parts ++ [part] }

def ofParts (parts : List Bytes) : Content := ⟨parts, none⟩

def withRepEnvelope (envelope : List Bytes) (body : Content) : Content :=
  ofParts (envelope ++ [] :: body.parts)

end Content

def content : Content := ⟨message.toMessage.parts, message.routingId⟩

theorem parts_intoPartsPayload : message.intoPartsPayload.map asSlice = message.content.parts := by
  rw [← partsPayload_toMessage]
  exact parts_partsPayload message.toMessage

theorem len_eq : message.len = message.content.parts.length := by
  rw [← len_toMessage]
  exact (length_parts message.toMessage).symm

theorem byteLen_eq : message.byteLen = (message.content.parts.map List.length).sum := by
  rw [← byteLen_toMessage]
  exact (sum_length_parts message.toMessage).symm

theorem getElem?_pair (part : Bytes) (index : Nat) :
    [[], part][index]? = match index with
      | 0 => some []
      | 1 => some part
      | _ => none := by
  match index with
  | 0 | 1 | _ + 2 => rfl

theorem get_eq (index : Nat) : message.get index = message.content.parts[index]? := by
  cases message with
  | inline len data fits =>
    cases delimited : hasDelimiter len with
    | false =>
      simp [get, content, toMessage, parts, delimited, getElem?_singleton,
        inlineBody_of_hasDelimiter]
    | true => simp [get, content, toMessage, parts, delimited, getElem?_pair]
  | emptyDelimitedBytes data => simp [get, content, toMessage, parts, getElem?_pair]
  | empty | routedEmpty => rfl
  | multi | routedMulti => simp [get, content, toMessage, parts]
  | _ => simp [get, content, toMessage, parts, getElem?_singleton]

/-- An iterator yields the parts from its position on. -/
theorem collect_eq (fuel pos : Nat) :
    MessageIter.collect fuel ⟨message, pos⟩ = (message.content.parts.drop pos).take fuel := by
  induction fuel generalizing pos with
  | zero => rfl
  | succ fuel induction =>
    rw [MessageIter.collect, MessageIter.next, partBytes, get_eq]
    cases found : message.content.parts[pos]? with
    | none =>
      rw [drop_eq_nil_of_le (List.getElem?_eq_none_iff.mp found)]
      rfl
    | some part =>
      rw [drop_eq_getElem?_toList_append, found]
      exact congrArg (part :: ·) (induction (pos + 1))

theorem iterSlices_eq {σ : Type} (message : MessageInner) (visit : σ → Bytes → σ) (state : σ) :
    message.iterSlices visit state = message.content.parts.foldl visit state := by
  cases message with
  | inline len data fits =>
    cases delimited : hasDelimiter len <;>
      simp [iterSlices, content, toMessage, parts, delimited]
  | multi | routedMulti => simp [iterSlices, content, toMessage, parts, foldl_map]
  | _ => rfl

theorem content_fromPayloadsVec :
    (fromPayloadsVec parts).content = .ofParts (parts.map asSlice) := by
  match parts with
  | [] | [_] | _ :: _ :: _ => rfl

theorem content_pushPartPayload (part : Payload) :
    (message.pushPartPayload part).content = message.content.pushPart part.asSlice := by
  have parts : (message.pushPartPayload part).toMessage.parts =
      message.toMessage.parts ++ [part.asSlice] := by
    rw [toMessage_pushPartPayload, parts_pushPartPayload]
  have routed : (message.pushPartPayload part).routingId = message.routingId := by
    cases message with
    | inline len data fits =>
      cases delimited : hasDelimiter len <;> simp [pushPartPayload, delimited, routingId]
    | _ => rfl
  rw [content, parts, routed]
  rfl

theorem content_withRepEnvelope (envelope : List Bytes) (body : MessageInner) :
    (withRepEnvelope envelope body).content = body.content.withRepEnvelope envelope := by
  rw [withRepEnvelope, content_fromPayloadsVec, extendParts_eq]
  simp [Content.withRepEnvelope, content, Function.comp_def]

/-- The first part goes, and the routing id with it. -/
theorem content_popFront :
    message.popFront.1 = message.content.parts.head? ∧
      message.popFront.2.content = .ofParts message.content.parts.tail := by
  obtain ⟨first, rest⟩ := toMessage_popFront message
  obtain ⟨head, tail⟩ := popFront_spec message.toMessage
  have unrouted : message.popFront.2.routingId = none := by
    cases message with
    | inline len data fits =>
      cases delimited : hasDelimiter len <;> simp [popFront, delimited, routingId]
    | multi parts =>
      match parts with
      | [] | [_] | [_, _] | _ :: _ :: _ :: _ => rfl
    | routedMulti routingId parts =>
      match parts with
      | [] | [_] | [_, _] | _ :: _ :: _ :: _ => rfl
    | _ => rfl
  refine ⟨first.trans head, ?_⟩
  rw [content, unrouted, rest, tail]
  rfl

/-- Popping agrees with the model exactly when there is no routing id to lose. -/
theorem popFront_eq_iff :
    (message.popFront.1, message.popFront.2.content) = message.content.popFront ↔
      message.routingId = none := by
  obtain ⟨first, rest⟩ := content_popFront message
  rw [first, rest, Content.popFront, Prod.mk.injEq, Content.ofParts, Content.mk.injEq]
  simp [content, eq_comm]

/-- Equality compares the parts. -/
theorem eq_iff : left.eq right = true ↔ left.content.parts = right.content.parts := by
  simp only [eq, Bool.and_eq_true, decide_eq_true_eq, all_eq_true, mem_range, get_eq, len_eq]
  constructor
  · rintro ⟨length, same⟩
    refine ext_getElem? fun index => ?_
    by_cases inside : index < left.content.parts.length
    · exact same index inside
    · rw [List.getElem?_eq_none (by omega), List.getElem?_eq_none (by omega)]
  · rintro same
    simp [same]

/-- Equality agrees with the model exactly when equal parts come with equal routing ids. -/
theorem eq_content_iff :
    (left.eq right = true ↔ left.content = right.content) ↔
      (left.content.parts = right.content.parts → left.routingId = right.routingId) := by
  rw [eq_iff, Content.mk.injEq]
  simp only [content]
  tauto

theorem content_takeRoutingId :
    message.takeRoutingId.1 = message.routingId ∧
      message.takeRoutingId.2.content = .ofParts message.content.parts := by
  cases message with
  | routedInline len data fits =>
    obtain ⟨plain, body⟩ := inlineBody_routed data fits
    simp [takeRoutingId, routingId, content, toMessage, parts, plain, body, Content.ofParts]
  | routedMulti routingId parts => exact ⟨rfl, content_fromPayloadsVec parts⟩
  | routedBytes routingId data =>
    simp [takeRoutingId, MessageInner.routingId, content, toMessage, parts, Content.ofParts]
  | _ => exact ⟨rfl, rfl⟩

theorem content_attachRoutingId {message : MessageInner} (unrouted : message.routingId = none)
    (routingId : UInt32) :
    (message.attachRoutingId routingId).content = ⟨message.content.parts, some routingId⟩ := by
  have through : (routedMulti routingId message.intoPartsPayload).content =
      ⟨message.content.parts, some routingId⟩ := by
    rw [← parts_intoPartsPayload]
    rfl
  cases message with
  | inline len data fits =>
    cases delimited : hasDelimiter len with
    | true => rwa [attachRoutingId, if_pos delimited]
    | false =>
      simp only [attachRoutingId, delimited, Bool.false_eq_true, if_false]
      split
      next short =>
        simp [content, toMessage, parts, MessageInner.routingId, delimited,
          inlineBody_of_hasDelimiter, InlineBuffer.slice_withRoutedInlineId, short]
      · simp [content, toMessage, parts, MessageInner.routingId, delimited,
          inlineBody_of_hasDelimiter]
  | emptyDelimitedBytes | multi => exact through
  | empty | single => rfl
  | _ => cases unrouted

theorem content_withRoutingId (routingId : UInt32) :
    (message.withRoutingId routingId).content = ⟨message.content.parts, some routingId⟩ := by
  unfold withRoutingId
  split
  · have taken := (content_takeRoutingId message).2
    rw [content_attachRoutingId (congrArg Content.routingId taken), congrArg Content.parts taken]
    rfl
  next unrouted => exact content_attachRoutingId (Option.not_isSome_iff_eq_none.mp unrouted) _

/-- Every operation on a message, and its comparison with another, is that on the content. -/
structure Agrees (message other : MessageInner) : Prop where
  len : message.len = message.content.parts.length
  byteLen : message.byteLen = (message.content.parts.map List.length).sum
  get : ∀ index, message.get index = message.content.parts[index]?
  partBytes : ∀ index, message.partBytes index = message.content.parts[index]?
  partSlice : ∀ index, message.partSlice index = message.content.parts[index]?
  iter : ∀ count, message.iter.collect count = message.content.parts.take count
  iterSlices : ∀ {σ : Type} (visit : σ → Bytes → σ) (state : σ),
    message.iterSlices visit state = message.content.parts.foldl visit state
  partsPayload : message.partsPayload.map asSlice = message.content.parts
  intoPartsPayload : message.intoPartsPayload.map asSlice = message.content.parts
  popFront : (message.popFront.1, message.popFront.2.content) = message.content.popFront
  pushPartPayload : ∀ part, (message.pushPartPayload part).content =
    message.content.pushPart part.asSlice
  withRepEnvelope : ∀ envelope, (message.withRepEnvelope envelope).content =
    message.content.withRepEnvelope envelope
  fromPayloadsVec : ∀ parts, (fromPayloadsVec parts).content = .ofParts (parts.map asSlice)
  eq : message.eq other = true ↔ message.content = other.content
  withRoutingId : ∀ routingId, ((message.withRoutingId routingId).takeRoutingId.1,
    (message.withRoutingId routingId).takeRoutingId.2.content) =
      (some routingId, .ofParts message.content.parts)

/-- Every operation agrees with the model, but that popping loses a routing id and that equality
does not look at one. -/
theorem agrees_iff_unrouted (message other : MessageInner) :
    message.Agrees other ↔
      message.routingId = none ∧
        (message.content.parts = other.content.parts → other.routingId = none) := by
  constructor
  · intro agrees
    have unrouted := (popFront_eq_iff message).mp agrees.popFront
    refine ⟨unrouted, fun same => ?_⟩
    rw [← (eq_content_iff message other).mp agrees.eq same, unrouted]
  · rintro ⟨unrouted, other_unrouted⟩
    refine ⟨len_eq message, byteLen_eq message, get_eq message, get_eq message, get_eq message,
      fun count => collect_eq message count 0, iterSlices_eq message,
      parts_intoPartsPayload message, parts_intoPartsPayload message,
      (popFront_eq_iff message).mpr unrouted, content_pushPartPayload message,
      fun envelope => content_withRepEnvelope envelope message, content_fromPayloadsVec,
      (eq_content_iff message other).mpr fun same => unrouted.trans (other_unrouted same).symm,
      fun routingId => ?_⟩
    obtain ⟨taken, rest⟩ := content_takeRoutingId (message.withRoutingId routingId)
    have routed := content_withRoutingId message routingId
    rw [taken, rest, routed]
    exact Prod.ext (congrArg Content.routingId routed) rfl

/-- A routed message: nothing is popped, and the routing id is gone. -/
theorem popFront_loses_routingId :
    ((withRoutingId .empty 7).popFront.1, (withRoutingId .empty 7).popFront.2.content) ≠
        (withRoutingId .empty 7).content.popFront ∧
      (withRoutingId (ofSingle [97]) 7).eq (withRoutingId (ofSingle [97]) 8) = true ∧
      (withRoutingId (ofSingle [97]) 7).content ≠ (withRoutingId (ofSingle [97]) 8).content := by
  decide

/-! ## The delimiter -/

/-- The parts behind a new delimiter are those of the message, unless its representation has a
delimiter of its own. -/
theorem prepends_iff_not_compactDelimited :
    (message.prependEmptyDelimiter.content.parts = [] :: message.content.parts ∧
        (withPrefix [] message).content.parts = [] :: message.content.parts) ↔
      ¬message.toMessage.CompactDelimited := by
  have parts : message.prependEmptyDelimiter.content.parts =
      if message.toMessage.CompactDelimited then message.content.parts
      else [] :: message.content.parts := by
    rw [content, toMessage_prependEmptyDelimiter, parts_prependEmptyDelimiter]
    rfl
  rw [withPrefix, if_pos rfl, and_self, parts]
  split
  next delimited => simp [delimited]
  next bare => simp [bare]

/-- A second delimiter in front of a short body is not there. -/
theorem second_delimiter_missing :
    (withPrefix [] (withPrefix [] (ofSingle [97]))).content.parts = [[], [97]] ∧
      (withPrefix [] (withPrefix [] (ofSingle [97]))).content.parts ≠
        [] :: (withPrefix [] (ofSingle [97])).content.parts := by
  decide

end MessageInner

end Omq
