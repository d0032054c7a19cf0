import Omq.Library.Attempt
import Omq.Proto.Message
import Omq.Proto.SocketType

/-!
# Envelopes of request and reply sockets

REQ prepends an empty delimiter to what it sends.  REP saves the frames before the first empty
part of a request, its envelope, and prepends them and a delimiter to the reply.  Everything here
depends on the parts of a message alone, except that prepending a delimiter to a compact message
which already has one does nothing.
-/

namespace Omq

open Attempt

/-! ## Messages with an envelope -/

namespace Message

def routingId : Message → Option UInt32
  | .routedEmpty routingId => some routingId
  | .routedInline routingId _ _ => some routingId
  | .routedBytes routingId _ => some routingId
  | .routedMulti routingId _ => some routingId
  | _ => none

def multipart (parts : List Bytes) : Message := fromPayloadsVec (parts.map Payload.fromSlice)

def prependEmptyDelimiter : Message → Message
  | .empty => .single (.fromBytes [])
  | .inline _ data fits => .inline true data fits
  | .single payload => .emptyDelimitedBytes payload.asSlice
  | .emptyDelimitedBytes data => .multi [.fromBytes [], .fromBytes data]
  | .multi payloads => .multi (.fromBytes [] :: payloads)
  | .routedEmpty routingId => .routedMulti routingId [.fromBytes []]
  | .routedInline routingId data _ => .routedMulti routingId [.fromBytes [], .fromSlice data]
  | .routedBytes routingId data => .routedMulti routingId [.fromBytes [], .fromBytes data]
  | .routedMulti routingId payloads => .routedMulti routingId (.fromBytes [] :: payloads)

def withPrefix (front : Bytes) (body : Message) : Message :=
  if front = [] then body.prependEmptyDelimiter
  else .multi (.fromBytes front :: body.partsPayload)

def withRepEnvelope (envelope : List Bytes) (body : Message) : Message :=
  fromPayloadsVec (envelope.map Payload.fromBytes ++ .fromBytes [] :: body.partsPayload)

/-- Take the first part off. -/
def popFront : Message → Option Bytes × Message
  | .empty => (none, .empty)
  | .routedEmpty _ => (none, .empty)
  | .inline delimited data fits =>
    if delimited then (some [], .inline false data fits) else (some data, .empty)
  | .single payload => (some payload.asSlice, .empty)
  | .emptyDelimitedBytes data => (some [], .single (.fromBytes data))
  | .multi [] => (none, .empty)
  | .multi (first :: rest) => (some first.asSlice, fromPayloadsVec rest)
  | .routedInline _ data _ => (some data, .empty)
  | .routedBytes _ data => (some data, .empty)
  | .routedMulti _ [] => (none, .empty)
  | .routedMulti _ (first :: rest) => (some first.asSlice, fromPayloadsVec rest)

variable (message : Message)

def partBytes (index : Nat) : Option Bytes := message.parts[index]?

/-- A compact message which starts with an empty part. -/
def CompactDelimited : Message → Prop
  | .inline delimited _ _ => delimited = true
  | .emptyDelimitedBytes _ => True
  | _ => False

instance : DecidablePred CompactDelimited := fun message => by
  cases message <;> unfold CompactDelimited <;> infer_instance

@[simp]
theorem parts_multipart (parts : List Bytes) : (multipart parts).parts = parts := by
  simp [multipart, Function.comp_def]

theorem parts_prependEmptyDelimiter :
    message.prependEmptyDelimiter.parts =
      if message.CompactDelimited then message.parts else [] :: message.parts := by
  cases message with
  | inline delimited data fits =>
    cases delimited <;> simp [prependEmptyDelimiter, CompactDelimited, parts]
  | _ => simp [prependEmptyDelimiter, CompactDelimited, parts]

theorem parts_withPrefix {front : Bytes} (nonempty : front ≠ []) (body : Message) :
    (withPrefix front body).parts = front :: body.parts := by
  simp [withPrefix, nonempty, parts]

@[simp]
theorem parts_withRepEnvelope (envelope : List Bytes) (body : Message) :
    (withRepEnvelope envelope body).parts = envelope ++ [] :: body.parts := by
  simp [withRepEnvelope, Function.comp_def]

theorem popFront_spec :
    message.popFront.1 = message.parts.head? ∧ message.popFront.2.parts = message.parts.tail := by
  cases message with
  | inline delimited data fits => cases delimited <;> simp [popFront, parts]
  | multi payloads =>
    cases payloads with
    | nil => exact ⟨rfl, rfl⟩
    | cons first rest => exact ⟨rfl, parts_fromPayloadsVec rest⟩
  | routedMulti routingId payloads =>
    cases payloads with
    | nil => exact ⟨rfl, rfl⟩
    | cons first rest => exact ⟨rfl, parts_fromPayloadsVec rest⟩
  | emptyDelimitedBytes data => simp [popFront, parts]
  | _ => exact ⟨rfl, rfl⟩

end Message

/-! ## The delimiter -/

def splitAtDelimiter : List Bytes → Option (List Bytes × List Bytes)
  | [] => none
  | part :: rest =>
    if part = [] then some ([], rest)
    else (splitAtDelimiter rest).map fun split => (part :: split.1, split.2)

/-- The first empty part ends the envelope. -/
theorem splitAtDelimiter_append {envelope : List Bytes} (named : ∀ part ∈ envelope, part ≠ [])
    (body : List Bytes) : splitAtDelimiter (envelope ++ [] :: body) = some (envelope, body) := by
  induction envelope with
  | nil => rfl
  | cons part rest induction =>
    obtain ⟨nonempty, rest_named⟩ := List.forall_mem_cons.mp named
    simp [splitAtDelimiter, nonempty, induction rest_named]

theorem eq_of_splitAtDelimiter {parts envelope body : List Bytes}
    (split : splitAtDelimiter parts = some (envelope, body)) :
    parts = envelope ++ [] :: body ∧ ∀ part ∈ envelope, part ≠ [] := by
  induction parts generalizing envelope with
  | nil => cases split
  | cons part rest induction =>
    rw [splitAtDelimiter] at split
    split_ifs at split with empty
    · obtain ⟨rfl, rfl⟩ : [] = envelope ∧ rest = body := by simpa using split
      simp [empty]
    · obtain ⟨⟨front, back⟩, rest_split, pair_eq⟩ := Option.map_eq_some_iff.mp split
      obtain ⟨rfl, rfl⟩ : part :: front = envelope ∧ back = body := by simpa using pair_eq
      obtain ⟨rest_eq, named⟩ := induction rest_split
      exact ⟨by rw [rest_eq, List.cons_append], List.forall_mem_cons.mpr ⟨empty, named⟩⟩

theorem exists_splitAtDelimiter {parts : List Bytes} (delimited : [] ∈ parts) :
    ∃ envelope body, splitAtDelimiter parts = some (envelope, body) := by
  induction parts with
  | nil => cases delimited
  | cons part rest induction =>
    by_cases empty : part = []
    · exact ⟨[], rest, by rw [splitAtDelimiter, if_pos empty]⟩
    · obtain same | delimited := List.mem_cons.mp delimited
      · exact absurd same.symm empty
      · obtain ⟨envelope, body, split⟩ := induction delimited
        exact ⟨part :: envelope, body, by rw [splitAtDelimiter, if_neg empty, split]; rfl⟩

/-- One part of a request: before the delimiter it joins the envelope, after it the body. -/
def splitRepStep (split : List Bytes × List Bytes × Bool) (part : Bytes) :
    List Bytes × List Bytes × Bool :=
  let (envelope, body, seenDelimiter) := split
  if seenDelimiter then (envelope, body ++ [part], true)
  else if part = [] then (envelope, body, true)
  else (envelope ++ [part], body, false)

def splitRepRequest (message : Message) : Option (List Bytes × Message) :=
  let (envelope, body, seenDelimiter) := message.parts.foldl splitRepStep ([], [], false)
  if seenDelimiter then some (envelope, .multipart body) else none

theorem foldl_splitRepStep_seen (envelope body parts : List Bytes) :
    parts.foldl splitRepStep (envelope, body, true) = (envelope, body ++ parts, true) := by
  induction parts generalizing body with
  | nil => simp
  | cons part rest induction => simp [splitRepStep, induction]

theorem foldl_splitRepStep (envelope parts : List Bytes) :
    parts.foldl splitRepStep (envelope, [], false) =
      match splitAtDelimiter parts with
      | some (front, body) => (envelope ++ front, body, true)
      | none => (envelope ++ parts, [], false) := by
  induction parts generalizing envelope with
  | nil => simp [splitAtDelimiter]
  | cons part rest induction =>
    rw [List.foldl_cons, splitRepStep, splitAtDelimiter]
    by_cases empty : part = []
    · simp [empty, foldl_splitRepStep_seen]
    · simp only [Bool.false_eq_true, if_false, empty, induction]
      cases splitAtDelimiter rest <;> simp

theorem splitRepRequest_eq (message : Message) :
    splitRepRequest message =
      (splitAtDelimiter message.parts).map fun split => (split.1, .multipart split.2) := by
  rw [splitRepRequest, foldl_splitRepStep]
  cases splitAtDelimiter message.parts <;> simp

def repReplyWithEnvelope (envelope : List Bytes) (body : Message) : Message :=
  .multipart (envelope ++ [] :: body.parts)

/-! ## Per-socket state -/

/-- What a socket type remembers between calls. -/
structure TypeState where
  /-- REQ: a request was sent and not answered. -/
  reqAwaitingReply : Bool
  /-- REP: the envelope of the request to reply to. -/
  repEnvelope : Option (List Bytes)

namespace TypeState

/-- A method which may fail. -/
abbrev TypeStateM := EStateM Error TypeState

def new : TypeState := ⟨false, none⟩

variable (socketType : SocketType) (message : Message)

def checkFrameCount : Except Error Unit :=
  match socketType with
  | .client | .scatter | .gather | .channel =>
    if message.len ≠ 1 then
      .error (.protocol (socketType.debug ++ " socket requires single-part messages (got " ++
        toString message.len ++ ")"))
    else .ok ()
  | .server =>
    if message.len ≠ 1 ∨ message.routingId.isNone then
      .error (.protocol "SERVER socket requires one part with a routing ID")
    else .ok ()
  | .stream =>
    if message.len ≠ 2 then
      .error (.protocol (socketType.debug ++ " socket requires [routing_id, body] (2 parts)"))
    else .ok ()
  | _ => .ok ()

def preSend : TypeStateM Message := do
  Attempt.ofExcept (checkFrameCount socketType message)
  let state ← get
  match socketType with
  | .req =>
    if state.reqAwaitingReply then
      throw (.protocol "REQ socket must receive a reply before sending again")
    set { state with reqAwaitingReply := true }
    return message.prependEmptyDelimiter
  | .rep =>
    match state.repEnvelope with
    | none => throw (.protocol "REP socket must receive a request before replying")
    | some envelope => do
        set { state with repEnvelope := none }
        return message.withRepEnvelope envelope
  | _ => return message

variable (state : TypeState)

/-- Transform an incoming message; `none` drops it. -/
def postRecv : Option Message × TypeState :=
  match socketType with
  | .req =>
    if !state.reqAwaitingReply then (none, state)
    else
      match message.partsPayload with
      | first :: rest =>
        if first.isEmpty then
          (some (.fromPayloadsVec rest), { state with reqAwaitingReply := false })
        else (none, state)
      | [] => (none, state)
  | .dish => (if message.len ≠ 2 then none else some message, state)
  | .rep =>
    let parts := message.partsPayload
    match parts.findIdx? Payload.isEmpty with
    | none => (none, state)
    | some delimIdx =>
      (some (.fromPayloadsVec (parts.drop (delimIdx + 1))),
        { state with repEnvelope := some ((parts.take delimIdx).map Payload.asSlice) })
  | _ => (some message, state)

theorem preSend_req :
    preSend .req message state =
      if state.reqAwaitingReply then
        .error (.protocol "REQ socket must receive a reply before sending again") state
      else .ok message.prependEmptyDelimiter { state with reqAwaitingReply := true } := by
  cases awaiting : state.reqAwaitingReply <;> simp [preSend, checkFrameCount, awaiting]

theorem preSend_rep :
    preSend .rep message state =
      match state.repEnvelope with
      | none => .error (.protocol "REP socket must receive a request before replying") state
      | some envelope =>
        .ok (message.withRepEnvelope envelope) { state with repEnvelope := none } := by
  cases saved : state.repEnvelope <;> simp [preSend, checkFrameCount, saved]

/-- Socket types without an envelope only check the number of parts. -/
theorem preSend_other {socketType : SocketType} (notReq : socketType ≠ .req)
    (notRep : socketType ≠ .rep) (message : Message) (state : TypeState) :
    preSend socketType message state =
      match checkFrameCount socketType message with
      | .error error => .error error state
      | .ok () => .ok message state := by
  cases checked : checkFrameCount socketType message with
  | error error => simp [preSend, checked]
  | ok => cases socketType <;> first | contradiction | simp [preSend, checked]

theorem splitAtDelimiter_payloads (payloads : List Payload) :
    splitAtDelimiter (payloads.map Payload.asSlice) =
      (payloads.findIdx? Payload.isEmpty).map fun index =>
        ((payloads.take index).map Payload.asSlice,
          (payloads.drop (index + 1)).map Payload.asSlice) := by
  induction payloads with
  | nil => rfl
  | cons first rest induction =>
    rw [List.map_cons, splitAtDelimiter, List.findIdx?_cons]
    by_cases empty : first.asSlice = []
    · simp [empty, (Payload.isEmpty_iff first).mpr empty]
    · have full : first.isEmpty = false := by
        rw [← Bool.not_eq_true, Payload.isEmpty_iff]
        exact empty
      simp [empty, full, induction, Option.map_map, Function.comp_def]

theorem postRecv_rep :
    match splitAtDelimiter message.parts with
    | none => postRecv .rep message state = (none, state)
    | some (envelope, body) => ∃ stripped : Message, stripped.parts = body ∧
        postRecv .rep message state =
          (some stripped, { state with repEnvelope := some envelope }) := by
  rw [← Message.parts_partsPayload, splitAtDelimiter_payloads]
  unfold postRecv
  cases found : message.partsPayload.findIdx? Payload.isEmpty with
  | none => simp [found]
  | some index => exact ⟨_, Message.parts_fromPayloadsVec _, by simp [found]⟩

end TypeState

end Omq
