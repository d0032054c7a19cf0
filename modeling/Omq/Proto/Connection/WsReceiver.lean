import Omq.Proto.Connection.Assembly
import Omq.Proto.Connection.Emission
import Omq.Proto.Connection.WsFragmentation

/-!
# Receiving messages over WebSocket

A peer may spread the payload of a data frame over fragments and put pings and pongs between them.
A ready connection takes every such stream as the frames the payloads open to, whichever of its two
paths a frame takes, and answers every ping.
-/

namespace Omq

open Incremental Attempt Segment WsFrame CurveTransform

/-! ## Fragmented streams -/

/-- The frames are the payloads in order, each as one message of one or more fragments, with pings
and pongs in between; `sofar` is what came before of an unfinished message. -/
inductive Carries : (sofar : Option Bytes) → List Bytes → List WsFrame → Prop
  | done : Carries none [] []
  | whole {payloads : List Bytes} {frames : List WsFrame} {frame : WsFrame}
      (opcode : frame.opcode = .binary) (fin : frame.fin = true)
      (later : Carries none payloads frames) :
      Carries none (frame.payload :: payloads) (frame :: frames)
  | first {payloads : List Bytes} {frames : List WsFrame} {frame : WsFrame}
      (opcode : frame.opcode = .binary) (fin : frame.fin = false)
      (later : Carries (some frame.payload) payloads frames) :
      Carries none payloads (frame :: frames)
  | next {sofar : Bytes} {payloads : List Bytes} {frames : List WsFrame} {frame : WsFrame}
      (opcode : frame.opcode = .continuation) (fin : frame.fin = false)
      (later : Carries (some (sofar ++ frame.payload)) payloads frames) :
      Carries (some sofar) payloads (frame :: frames)
  | last {sofar : Bytes} {payloads : List Bytes} {frames : List WsFrame} {frame : WsFrame}
      (opcode : frame.opcode = .continuation) (fin : frame.fin = true)
      (later : Carries none payloads frames) :
      Carries (some sofar) ((sofar ++ frame.payload) :: payloads) (frame :: frames)
  | control {sofar : Option Bytes} {payloads : List Bytes} {frames : List WsFrame}
      {frame : WsFrame} (opcode : frame.opcode = .ping ∨ frame.opcode = .pong)
      (fin : frame.fin = true) (short : frame.payload.length ≤ 125)
      (later : Carries sofar payloads frames) : Carries sofar payloads (frame :: frames)

variable {frames : List WsFrame} {parts : List Bytes} {limit : Option Nat}

/-- What came of an unfinished message is not longer than the message. -/
theorem Carries.sofar_le {sofar : Option Bytes} {payloads : List Bytes}
    (carries : Carries sofar payloads frames) :
    ∀ front ∈ sofar, ∃ payload ∈ payloads, front.length ≤ payload.length := by
  induction carries with
  | done => simp
  | whole => simp
  | first => simp
  | next _ _ _ ih =>
    intro front front_mem
    cases front_mem
    obtain ⟨payload, member, bound⟩ := ih _ rfl
    rw [List.length_append] at bound
    exact ⟨payload, member, by omega⟩
  | last =>
    intro front front_mem
    cases front_mem
    exact ⟨_, List.mem_cons_self, by rw [List.length_append]; omega⟩
  | control _ _ _ _ ih => exact ih

theorem carries_whole (whole : ∀ frame ∈ frames, frame.opcode = .binary ∧ frame.fin = true) :
    Carries none (frames.map payload) frames := by
  induction frames with
  | nil => exact .done
  | cons frame rest ih =>
    obtain ⟨opcode, fin⟩ := whole frame (by simp)
    exact .whole opcode fin (ih fun other member => whole other (by simp [member]))

def wsWire (role : WsRole) (frames : List WsFrame) : Bytes := frames.flatMap (encode role)

def pings (frames : List WsFrame) : List Bytes :=
  (frames.filter fun frame => frame.opcode = .ping).map payload

/-! ## What payloads open to -/

section Opens

variable [CurvePrimitives]

/-- A ZWS payload, opened by the transform, is a data frame. -/
inductive Opens : Option CurveTransform → Bytes → Bool → Bytes → Option CurveTransform → Prop
  | clear (more : Bool) (part : Bytes) :
      Opens none (flagsToZws (dataFlags more) :: part) more part none
  | sealed {transform after : CurveTransform} {body part : Bytes} {more : Bool} (outer : Bool)
      (opened : transform.decryptMessage body = .ok ((more, false, part), after)) :
      Opens (some transform)
        (flagsToZws (dataFlags outer) :: messageCommandFrame body) more part
        (some after)

/-- ZWS payloads, opened one after the other, are data frames. -/
inductive OpensAll :
    Option CurveTransform → List Bytes → List (Bool × Bytes) → Option CurveTransform → Prop
  | nil (transform : Option CurveTransform) : OpensAll transform [] [] transform
  | cons {transform middle after : Option CurveTransform} {payload part : Bytes} {more : Bool}
      {payloads : List Bytes} {parts : List (Bool × Bytes)}
      (opens : Opens transform payload more part middle)
      (later : OpensAll middle payloads parts after) :
      OpensAll transform (payload :: payloads) ((more, part) :: parts) after

end Opens

/-! ## The receiving session -/

def Within (limit : Option Nat) (size : Nat) : Prop := ∀ max, limit = some max → size ≤ max

theorem Within.of_le {limit : Option Nat} {small large : Nat} (fits : Within limit large)
    (le : small ≤ large) : Within limit small := fun max limited => le.trans (fits max limited)

def partsCharge (parts : List Bytes) : Nat :=
  min (parts.map fun part => part.length + payloadSlot).sum usizeMax

theorem partsCharge_mono {front : List Bytes} (is_front : front <+: parts) :
    partsCharge front ≤ partsCharge parts := by
  obtain ⟨back, rfl⟩ := is_front
  simp only [partsCharge, List.map_append, List.sum_append]
  omega

theorem within_of_mem {part : Bytes} {overhead : Nat} (fits : Within limit (partsCharge parts))
    (member : part ∈ parts) (small : overhead ≤ payloadSlot)
    (bounded : part.length + overhead ≤ isizeMax) : Within limit (part.length + overhead) := by
  refine fits.of_le ?_
  have part_le : part.length + payloadSlot ≤
      (parts.map fun part => part.length + payloadSlot).sum :=
    List.le_sum_of_mem (List.mem_map.mpr ⟨part, member, rfl⟩)
  simp only [partsCharge, usizeMax, isizeMax] at *
  omega

theorem chargeOf_eq_partsCharge (parts : List Payload) :
    chargeOf parts = partsCharge (parts.map Payload.asSlice) := by
  simp [chargeOf, partsCharge, List.map_map, Function.comp_def]

theorem zwsToFlags_flagsToZws (more : Bool) :
    zwsToFlags (flagsToZws (dataFlags more)) = .ok (dataFlags more) := by
  cases more <;> rfl

/-- Whether parts with these contents stay within the limit. -/
def roomFor (limit : Option Nat) (parts : List Bytes) : Bool :=
  limit.all fun max => partsCharge parts ≤ max

theorem roomFor_iff : roomFor limit parts = true ↔ Within limit (partsCharge parts) := by
  cases limit <;> simp [roomFor, Within]

namespace Session

/-- A ready WebSocket session, seen through the contents of what it received and queued. -/
structure Receives (role : WsRole) (limit : Option Nat) (fragment : Option Bytes)
    (transform : Option CurveTransform) (delivered : List (List Bytes)) (pending : List Bytes)
    (transmit : Bytes) (session : Session) : Prop where
  framing : session.wsRole = some role
  ready : session.state = .ready
  limited : session.config.maxMessageSize = limit
  fragmented : session.wsFragment = fragment
  transformed : session.transform = transform
  messages : session.messages.map Message.parts = delivered
  parts : session.pendingParts.map Payload.asSlice = pending
  charged : session.Charged
  queued : session.pollTransmit = transmit

namespace Receives

variable {role : WsRole} {limit : Option Nat} {fragment : Option Bytes}
  {transform : Option CurveTransform} {delivered : List (List Bytes)} {pending : List Bytes}
  {transmit : Bytes} {session : Session}

section

variable (receives : session.Receives role limit fragment transform delivered pending transmit)

include receives

theorem exceedsMax_eq_none {size : Nat} (fits : Within limit size) :
    session.exceedsMax size = none := by
  rw [exceedsMax_eq_none_iff, receives.limited]
  exact fits

theorem withFragment (replacement : Option Bytes) :
    (Connection.withFragment session replacement).Receives role limit replacement transform
      delivered pending transmit :=
  ⟨receives.framing, receives.ready, receives.limited, rfl, receives.transformed,
    receives.messages, receives.parts, receives.charged, receives.queued⟩

theorem withTransform (replacement : Option CurveTransform) :
    (session.withTransform replacement).Receives role limit fragment replacement delivered pending
      transmit :=
  ⟨receives.framing, receives.ready, receives.limited, receives.fragmented, rfl,
    receives.messages, receives.parts, receives.charged, receives.queued⟩

end

/-- The messages after a data frame. -/
def deliveredAfter (delivered : List (List Bytes)) (pending : List Bytes) (more : Bool)
    (part : Bytes) : List (List Bytes) :=
  if more then delivered else delivered ++ [pending ++ [part]]

/-- The open message after a data frame. -/
def pendingAfter (pending : List Bytes) (more : Bool) (part : Bytes) : List Bytes :=
  if more then pending ++ [part] else []

/-- A data frame within the limit joins the open message. -/
theorem absorb
    (receives : session.Receives role limit fragment transform delivered pending transmit)
    (more : Bool) (payload : Payload)
    (fits : Within limit (partsCharge (pending ++ [payload.asSlice]))) :
    ∃ after, absorbDataFrame more payload session = .ok () after ∧
      after.Receives role limit fragment transform
        (deliveredAfter delivered pending more payload.asSlice)
        (pendingAfter pending more payload.asSlice) transmit := by
  have room : session.exceedsMax (session.chargedSize payload) = none := by
    refine receives.exceedsMax_eq_none ?_
    rw [receives.charged.chargedSize_eq, chargeOf_eq_partsCharge, List.map_append, receives.parts]
    exact fits
  cases more with
  | true =>
    refine ⟨_, absorbDataFrame_more room, receives.framing, receives.ready, receives.limited,
      receives.fragmented, receives.transformed, receives.messages, ?_, ?_, receives.queued⟩
    · simp [withPending, pendingAfter, receives.parts]
    · exact receives.charged.chargedSize_eq payload
  | false =>
    refine ⟨_, absorbDataFrame_last room, receives.framing, receives.ready, receives.limited,
      receives.fragmented, receives.transformed, ?_, rfl, rfl, receives.queued⟩
    simp [withPending, withMessage, deliveredAfter, receives.messages, parts_assembled,
      receives.parts]

theorem deliverInline
    (receives : session.Receives role limit fragment transform delivered [] transmit)
    (part : Bytes) :
    (session.withMessage (.fromInline part)).Receives role limit fragment transform
      (deliveredAfter delivered [] false part) (pendingAfter [] false part) transmit :=
  ⟨receives.framing, receives.ready, receives.limited, receives.fragmented, receives.transformed,
    by simp [withMessage, deliveredAfter, receives.messages, Message.parts_fromInline],
    receives.parts, receives.charged, receives.queued⟩

variable [CurvePrimitives]

/-- A payload which opens to a data frame within the limit is absorbed. -/
theorem dispatch
    (receives : session.Receives role limit fragment transform delivered pending transmit)
    {payload part : Bytes} {more : Bool} {after : Option CurveTransform}
    (opens : Opens transform payload more part after)
    (fits : Within limit (partsCharge (pending ++ [part]))) :
    ∃ next, Connection.dispatchWsPayload payload session = .ok () next ∧
      next.Receives role limit fragment after (deliveredAfter delivered pending more part)
        (pendingAfter pending more part) transmit := by
  cases opens with
  | clear =>
    have content : (Payload.fromBytes part).asSlice = part := by simp
    obtain ⟨next, absorbed, next_receives⟩ :=
      receives.absorb more (.fromBytes part) (by rwa [content])
    rw [content] at next_receives
    refine ⟨next, ?_, next_receives⟩
    have flags_eq : (dataFlags more).command = false ∧ (dataFlags more).more = more := by
      cases more <;> exact ⟨rfl, rfl⟩
    simp [Connection.dispatchWsPayload, Connection.dispatchWsBinary, receives.ready,
      zwsToFlags_flagsToZws, decodeAssembledFrame_of_none receives.transformed, dispatchContent,
      flags_eq, absorbed]
  | @sealed transform opened_with body _ _ outer opened =>
    have content : (Payload.fromBytes part).asSlice = part := by simp
    obtain ⟨next, absorbed, next_receives⟩ :=
      (receives.withTransform (some opened_with)).absorb more (.fromBytes part) (by rwa [content])
    rw [content] at next_receives
    refine ⟨next, ?_, next_receives⟩
    have wrapped : (messageCommandFrame body).take
        messagePrefix.length = messagePrefix := by
      rw [messageCommandFrame, List.take_left]
    have unwrapped : (messageCommandFrame body).drop
        messagePrefix.length = body := by
      rw [messageCommandFrame, List.drop_left]
    simp [Connection.dispatchWsPayload, Connection.dispatchWsBinary, receives.ready,
      zwsToFlags_flagsToZws, decodeAssembledFrame, receives.transformed, wrapped, unwrapped,
      opened, dispatchContent, absorbed]

end Receives

end Session

/-! ## One frame -/

namespace WsEngine

open Connection Engine Session

variable {frame : WsFrame} {rest part : Bytes} {after : Option CurveTransform}
  {parts : List (Bool × Bytes)}
  {peerRole : WsRole} {more : Bool} {sofar : Bytes} {frames : List WsFrame}

theorem isInline_of_first_ne {first : UInt8} (differs : first ≠ 0x82) (tail : Bytes) :
    isInline peerRole (first :: tail) = false := by
  cases tail with
  | nil => rfl
  | cons second rest => simp [isInline, differs]

variable {role : WsRole} {limit : Option Nat} {fragment : Option Bytes}
  {transform : Option CurveTransform} {delivered : List (List Bytes)} {pending : List Bytes}
  {transmit : Bytes} {session : Session}

theorem checkWsFrame_eq_ok
    (receives : session.Receives role limit fragment transform delivered pending transmit)
    {header : WsFrameHeader} (head_length : header.headerLen ≤ 14)
    (bounded : header.payloadLen ≤ isizeMax) (fits : Within limit header.payloadLen) :
    checkWsFrame session header = .ok () := by
  have cap : (wsPayloadCap session).filter (fun cap => cap < header.payloadLen) = none := by
    rw [wsPayloadCap, if_pos receives.ready, receives.limited]
    cases limit with
    | none => rfl
    | some max => simpa [Option.filter] using fits max rfl
  simp only [isizeMax] at bounded
  simp only [checkWsFrame, cap, usizeMax, isizeMax]
  rw [if_neg (by omega), if_neg (by omega), if_neg (by omega)]

theorem length_head_le (role : WsRole) (frame : WsFrame) : (frame.head role).length ≤ 14 := by
  unfold head wsLength
  split_ifs <;> simp [frame.mask_length]

theorem unmask_body (role : WsRole) (frame : WsFrame) :
    unmask (frame.header role) (frame.body role) = frame.payload := by
  cases role <;> simp [unmask, header, body]

theorem head_of_isInline (legal : frame.Legal)
    (inline : isInline peerRole (frame.encode peerRole ++ rest) = true) :
    frame.opcode = .binary ∧ frame.payload.length = declared (frame.encode peerRole ++ rest) ∧
      (frame.head peerRole).length = inlineHeaderLen peerRole ∧
      inlineMask peerRole (frame.encode peerRole ++ rest) =
        if peerRole = .client then frame.mask else [0, 0, 0, 0] := by
  obtain ⟨binary, headerLen_eq, payloadLen_eq⟩ :=
    header_of_isInline inline (flatWsHeader_encode legal peerRole rest)
  obtain ⟨_, _, _, _, _, _, small⟩ := isInline_eq_true inline
  have limit : maxInlineMessage = 55 := rfl
  refine ⟨binary, payloadLen_eq, headerLen_eq, ?_⟩
  have short : frame.payload.length ≤ 125 := by
    rw [show frame.payload.length = _ from payloadLen_eq]
    omega
  cases peerRole with
  | server => rfl
  | client =>
    have spelled : frame.encode .client ++ rest =
        wsFirst frame.fin frame.opcode ::
          (wsMaskFlag .client ||| UInt8.ofNat frame.payload.length) ::
            (frame.mask ++ (frame.body .client ++ rest)) := by
      simp [encode, head, wsLength, short]
    rw [spelled]
    simp [inlineMask, frame.mask_length]

theorem legal_of_data (data : frame.opcode = .binary ∨ frame.opcode = .continuation)
    (bounded : frame.payload.length ≤ isizeMax) : frame.Legal := by
  refine ⟨?_, bounded⟩
  obtain binary | continuation := data
  · simp [checkWsControl, binary, WsOpcode.isControl]
  · simp [checkWsControl, continuation, WsOpcode.isControl]

theorem legal_of_control (control : frame.opcode = .ping ∨ frame.opcode = .pong)
    (final : frame.fin = true) (short : frame.payload.length ≤ 125) : frame.Legal := by
  refine ⟨?_, short.trans (by decide)⟩
  have not_long : ¬125 < frame.payload.length := by omega
  obtain ping | pong := control
  · simp [checkWsControl, ping, final, not_long]
  · simp [checkWsControl, pong, final, not_long]

/-- The cut goes on behind a data frame which fits. -/
theorem cut_cons (accepted : (cut (roomFor limit) pending ((more, part) :: parts)).refused = none)
    (delivered : List (List Bytes)) :
    Within limit (partsCharge (pending ++ [part])) ∧
      (cut (roomFor limit) (Receives.pendingAfter pending more part) parts).refused = none ∧
      (cut (roomFor limit) pending ((more, part) :: parts)).pending =
        (cut (roomFor limit) (Receives.pendingAfter pending more part) parts).pending ∧
      delivered ++ (cut (roomFor limit) pending ((more, part) :: parts)).segments =
        Receives.deliveredAfter delivered pending more part ++
          (cut (roomFor limit) (Receives.pendingAfter pending more part) parts).segments := by
  by_cases room : roomFor limit (pending ++ [part]) = true
  · refine ⟨roomFor_iff.mp room, ?_⟩
    cases more with
    | true =>
      simp only [cut, room, if_true] at accepted ⊢
      exact ⟨accepted, rfl, rfl⟩
    | false =>
      simp only [cut, room, if_true, Bool.false_eq_true, if_false] at accepted ⊢
      exact ⟨accepted, rfl, by simp [Receives.deliveredAfter, Receives.pendingAfter]⟩
  · simp [cut, room] at accepted

variable [CurvePrimitives]

/-- The frame takes the machine from one session to the next. -/
def Moves (peerRole : WsRole) (frame : WsFrame) (session next : Session) : Prop :=
  ∀ rest, (machine peerRole).step session (frame.encode peerRole ++ rest) = .move next rest

section

variable (receives : session.Receives role limit fragment transform delivered pending transmit)
  (legal : frame.Legal) (fits : Within limit frame.payload.length)

include receives legal fits

/-- The general path hands a complete frame to its handler. -/
theorem frameStep_encode (peerRole : WsRole) (rest : Bytes) :
    frameStep peerRole session (frame.encode peerRole ++ rest) =
      conclude (handleFrame (frame.header peerRole) frame.payload session) rest := by
  have checked : checkWsFrame session (frame.header peerRole) = .ok () :=
    checkWsFrame_eq_ok receives (length_head_le peerRole frame) legal.bounded fits
  have whole : ¬(frame.encode peerRole ++ rest).length <
      (frame.header peerRole).headerLen + (frame.header peerRole).payloadLen := by
    simp [encode, header]
  have body_eq : (frame.encode peerRole ++ rest).drop (frame.header peerRole).headerLen =
      frame.body peerRole ++ rest := by
    rw [encode, List.append_assoc]
    exact List.drop_left' rfl
  have payload_length : (frame.body peerRole).length = (frame.header peerRole).payloadLen :=
    frame.length_body peerRole
  simp only [frameStep, flatWsHeader_encode legal, checked, if_neg whole, body_eq]
  rw [List.take_left' payload_length, List.drop_left' payload_length, unmask_body]

/-- Any frame but a final binary one takes the general path. -/
theorem step_encode_of_general (peerRole : WsRole)
    (general : ¬(frame.opcode = .binary ∧ frame.fin = true)) (rest : Bytes) :
    (machine peerRole).step session (frame.encode peerRole ++ rest) =
      conclude (handleFrame (frame.header peerRole) frame.payload session) rest := by
  have first_ne : wsFirst frame.fin frame.opcode ≠ 0x82 := by
    cases fin_eq : frame.fin <;> cases opcode_eq : frame.opcode <;>
      first | decide | exact absurd ⟨opcode_eq, fin_eq⟩ general
  have not_inline : isInline peerRole (frame.encode peerRole ++ rest) = false :=
    isInline_of_first_ne first_ne _
  change WsEngine.step _ _ _ = _
  rw [WsEngine.step, if_neg (by rw [receives.ready]; decide), not_inline,
    if_neg (by simp), frameStep_encode receives legal fits]

theorem step_ping (ping : frame.opcode = .ping) (peerRole : WsRole) :
    ∃ pong : WsFrame, pong.opcode = .pong ∧ pong.fin = true ∧ pong.payload = frame.payload ∧
      ∃ next, Moves peerRole frame session next ∧
        next.Receives role limit fragment transform delivered pending
          (transmit ++ pong.encode role) := by
  refine ⟨.sent .pong frame.payload session.env, rfl, rfl, rfl, session.queueWsPong frame.payload,
    fun rest => ?_, receives.framing, receives.ready, receives.limited, receives.fragmented,
    receives.transformed, receives.messages, receives.parts, receives.charged, ?_⟩
  · rw [step_encode_of_general receives legal fits peerRole (by simp [ping])]
    simp [handleFrame, header, ping, conclude]
  · rw [queueWsPong, pollTransmit_queueWsControl, receives.queued, receives.framing,
      Option.getD_some, encodeWsControl_eq]

theorem step_pong (pong : frame.opcode = .pong) (peerRole : WsRole) :
    Moves peerRole frame session session := by
  intro rest
  rw [step_encode_of_general receives legal fits peerRole (by simp [pong])]
  simp [handleFrame, header, pong, conclude]

end

/-- The inline path takes a small message off the input: it delivers a final part and dispatches
any other. -/
theorem inlineStep_encode (legal : frame.Legal)
    (inline : isInline peerRole (frame.encode peerRole ++ rest) = true)
    (payload_eq : frame.payload = flagsToZws (dataFlags more) :: part)
    (room : session.exceedsMax (saturatingAdd part.length payloadSlot) = none) :
    inlineStep peerRole session (frame.encode peerRole ++ rest) =
      if more then conclude (dispatchWsBinary (dataFlags more)
        (if peerRole = .client then .fromBytes part else .fromSlice part) session) rest
      else .move (session.withMessage (.fromInline part)) rest := by
  obtain ⟨_, length_eq, head_length, mask_eq⟩ := head_of_isInline legal inline
  have part_length : frame.payload.length - 1 = part.length := by simp [payload_eq]
  have whole : ¬(frame.encode peerRole ++ rest).length <
      inlineHeaderLen peerRole + frame.payload.length := by
    simp [encode, head_length]
  have body_eq : (frame.encode peerRole ++ rest).drop (inlineHeaderLen peerRole) =
      frame.body peerRole ++ rest := by
    rw [encode, List.append_assoc]
    exact List.drop_left' head_length
  simp only [inlineStep, ← length_eq, if_neg whole, part_length, room, body_eq, mask_eq]
  have restored (byte key : UInt8) : byte ^^^ key ^^^ key = byte := by
    rw [UInt8.xor_assoc, UInt8.xor_self, UInt8.xor_zero]
  cases peerRole with
  | server =>
    have spelled : frame.body .server ++ rest = flagsToZws (dataFlags more) :: (part ++ rest) := by
      simp [body, payload_eq]
    rw [spelled]
    cases more <;>
      simp [inlineDeliver, flagsToZws, dataFlags, FrameFlags.last, FrameFlags.moreData, zwsToFlags]
  | client =>
    have spelled : frame.body .client ++ rest =
        (flagsToZws (dataFlags more) ^^^ frame.mask.getD 0 0) ::
          (applyMaskOffset part frame.mask 1 ++ rest) := by
      simp [body, payload_eq, applyMask_cons]
    have masked_length : (applyMaskOffset part frame.mask 1).length = part.length :=
      length_applyMaskOffset part frame.mask 1
    rw [spelled]
    simp only [inlineDeliver, if_true, restored, List.take_left' masked_length,
      List.drop_left' masked_length, applyMaskOffset_applyMaskOffset]
    cases more <;> simp [flagsToZws, dataFlags, FrameFlags.last, FrameFlags.moreData, zwsToFlags]

/-- A whole message is absorbed, on either path. -/
theorem step_whole
    (receives : session.Receives role limit none transform delivered pending transmit)
    (legal : frame.Legal) (fits : Within limit frame.payload.length)
    (binary : frame.opcode = .binary) (final : frame.fin = true)
    (opens : Opens transform frame.payload more part after)
    (room : Within limit (partsCharge (pending ++ [part]))) (peerRole : WsRole) :
    ∃ next, Moves peerRole frame session next ∧
      next.Receives role limit none after (Receives.deliveredAfter delivered pending more part)
        (Receives.pendingAfter pending more part) transmit := by
  have long : 2 ≤ (frame.encode peerRole).length :=
    (flatWsHeader_bounds (flatWsHeader_encode legal peerRole [])).1.trans (by simp [header, encode])
  have step_eq (rest : Bytes) : (machine peerRole).step session (frame.encode peerRole ++ rest) =
      if TakesInline session ∧ isInline peerRole (frame.encode peerRole) then
        inlineStep peerRole session (frame.encode peerRole ++ rest)
      else frameStep peerRole session (frame.encode peerRole ++ rest) := by
    change WsEngine.step _ _ _ = _
    rw [WsEngine.step, if_neg (by rw [receives.ready]; decide), isInline_append long]
  by_cases inline : TakesInline session ∧ isInline peerRole (frame.encode peerRole) = true
  · obtain ⟨⟨_, clear, unpending⟩, inline_head⟩ := id inline
    obtain rfl : transform = none := receives.transformed.symm.trans clear
    obtain rfl : pending = [] := by rw [← receives.parts, unpending]; rfl
    generalize payload_eq : frame.payload = payload at opens
    cases opens
    have room_inline : session.exceedsMax (saturatingAdd part.length payloadSlot) = none := by
      refine receives.exceedsMax_eq_none ?_
      simpa [partsCharge, saturatingAdd] using room
    have taken (rest : Bytes) := inlineStep_encode legal
      ((isInline_append long rest).trans inline_head) payload_eq room_inline
    cases more with
    | false =>
      refine ⟨session.withMessage (.fromInline part), fun rest => ?_, receives.deliverInline part⟩
      rw [step_eq, if_pos inline, taken]
      rfl
    | true =>
      have content : (if peerRole = .client then Payload.fromBytes part
          else .fromSlice part).asSlice = part := by split <;> simp
      obtain ⟨next, absorbed, next_receives⟩ := receives.absorb true
        (if peerRole = .client then .fromBytes part else .fromSlice part) (by rwa [content])
      rw [content] at next_receives
      refine ⟨next, fun rest => ?_, next_receives⟩
      have dispatched : dispatchWsBinary (dataFlags true)
          (if peerRole = .client then .fromBytes part else .fromSlice part) session =
            .ok () next := by
        simp only [dispatchWsBinary, run_bind, run_get, receives.ready,
          decodeAssembledFrame_of_none clear]
        exact absorbed
      rw [step_eq, if_pos inline, taken, if_pos rfl, dispatched]
      rfl
  · obtain ⟨next, dispatched, next_receives⟩ := receives.dispatch opens room
    refine ⟨next, fun rest => ?_, next_receives⟩
    rw [step_eq, if_neg inline, frameStep_encode receives legal fits]
    have handled : handleFrame (frame.header peerRole) frame.payload session = .ok () next := by
      simp [handleFrame, header, binary, handleWsDataFrame, receives.fragmented, final, dispatched]
    rw [handled]
    rfl

theorem step_first
    (receives : session.Receives role limit none transform delivered pending transmit)
    (legal : frame.Legal) (fits : Within limit frame.payload.length)
    (binary : frame.opcode = .binary) (unfinished : frame.fin = false) (peerRole : WsRole) :
    Moves peerRole frame session (withFragment session (some frame.payload)) := by
  intro rest
  rw [step_encode_of_general receives legal fits peerRole (by simp [unfinished])]
  simp [handleFrame, header, binary, handleWsDataFrame, receives.fragmented, unfinished, conclude]

section

variable (receives : session.Receives role limit (some sofar) transform delivered pending transmit)

include receives

variable (continuation : frame.opcode = .continuation)

include continuation

/-- A continuation frame within the limit is added to the unfinished message. -/
theorem handleFrame_continuation (bounded : (sofar ++ frame.payload).length ≤ isizeMax)
    (fits : Within limit (sofar ++ frame.payload).length) (peerRole : WsRole) :
    handleFrame (frame.header peerRole) frame.payload session =
      if frame.fin then dispatchWsPayload (sofar ++ frame.payload) (withFragment session none)
      else .ok () (withFragment session (some (sofar ++ frame.payload))) := by
  rw [List.length_append] at bounded fits
  have cap : (wsPayloadCap session).filter
      (fun cap => cap < sofar.length + frame.payload.length) = none := by
    rw [wsPayloadCap, if_pos receives.ready, receives.limited]
    cases limit with
    | none => rfl
    | some max => simpa [Option.filter] using fits max rfl
  have no_overflow : ¬usizeMax < sofar.length + frame.payload.length := by
    simp only [isizeMax, usizeMax] at bounded ⊢
    omega
  have opcode_eq : (frame.header peerRole).opcode = .continuation := continuation
  have fin_eq : (frame.header peerRole).fin = frame.fin := rfl
  simp only [handleFrame, handleWsDataFrame, opcode_eq, reduceCtorEq, if_false, run_bind,
    run_get, receives.fragmented, run_set, if_neg no_overflow, cap, fin_eq]
  cases frame.fin <;> rfl

/-- A fragment in the middle extends the unfinished message. -/
theorem step_next (unfinished : frame.fin = false) (legal : frame.Legal)
    (bounded : (sofar ++ frame.payload).length ≤ isizeMax)
    (fits : Within limit (sofar ++ frame.payload).length) (peerRole : WsRole) :
    Moves peerRole frame session (withFragment session (some (sofar ++ frame.payload))) := by
  intro rest
  have piece_fits : Within limit frame.payload.length := fits.of_le (by simp)
  rw [step_encode_of_general receives legal piece_fits peerRole (by simp [unfinished]),
    handleFrame_continuation receives continuation bounded fits, unfinished]
  rfl

/-- The last fragment completes the message, which is absorbed. -/
theorem step_last (final : frame.fin = true) (legal : frame.Legal)
    (bounded : (sofar ++ frame.payload).length ≤ isizeMax)
    (fits : Within limit (sofar ++ frame.payload).length)
    (opens : Opens transform (sofar ++ frame.payload) more part after)
    (room : Within limit (partsCharge (pending ++ [part]))) (peerRole : WsRole) :
    ∃ next, Moves peerRole frame session next ∧
      next.Receives role limit none after (Receives.deliveredAfter delivered pending more part)
        (Receives.pendingAfter pending more part) transmit := by
  have piece_fits : Within limit frame.payload.length := fits.of_le (by simp)
  obtain ⟨next, dispatched, next_receives⟩ := (receives.withFragment none).dispatch opens room
  refine ⟨next, fun rest => ?_, next_receives⟩
  rw [step_encode_of_general receives legal piece_fits peerRole (by simp [continuation]),
    handleFrame_continuation receives continuation bounded fits, final, if_pos rfl, dispatched]
  rfl

end

/-! ## A stream of frames -/

/-- Payloads which can be allocated and received. -/
def Acceptable (limit : Option Nat) (payloads : List Bytes) : Prop :=
  ∀ payload ∈ payloads, payload.length ≤ isizeMax ∧ Within limit payload.length

/-- Control frames within the limit, which the code applies to every frame. -/
def ControlsFit (limit : Option Nat) (frames : List WsFrame) : Prop :=
  ∀ frame ∈ frames, frame.opcode.isControl = true → Within limit frame.payload.length

/-- What a session has taken from a stream: the payloads opened to data frames, cut into messages,
and every ping was answered in order. -/
structure Took (role : WsRole) (limit : Option Nat) (transform : Option CurveTransform)
    (delivered : List (List Bytes)) (transmit : Bytes) (cut : Cut Bytes)
    (frames pongs : List WsFrame) (session : Session) : Prop where
  receives : session.Receives role limit none transform (delivered ++ cut.segments) cut.pending
    (transmit ++ wsWire role pongs)
  answers : pongs.map payload = pings frames
  pongs : ∀ pong ∈ pongs, pong.opcode = .pong ∧ pong.fin = true

/-- The stream is taken, whatever follows it. -/
def Settles (peerRole role : WsRole) (limit : Option Nat) (transform : Option CurveTransform)
    (delivered : List (List Bytes)) (transmit : Bytes) (cut : Cut Bytes) (frames : List WsFrame)
    (session : Session) : Prop :=
  ∃ next pongs, (∀ rest, (machine peerRole).settle session (wsWire peerRole frames ++ rest) =
      (machine peerRole).settle next rest) ∧
    Took role limit transform delivered transmit cut frames pongs next

/-- A frame which moves the machine, and the stream behind it. -/
theorem settle_wsWire_cons {middle next : Session} (moved : Moves peerRole frame session middle)
    (later : ∀ rest, (machine peerRole).settle middle (wsWire peerRole frames ++ rest) =
      (machine peerRole).settle next rest) (rest : Bytes) :
    (machine peerRole).settle session (wsWire peerRole (frame :: frames) ++ rest) =
      (machine peerRole).settle next rest := by
  have spelled : wsWire peerRole (frame :: frames) ++ rest =
      frame.encode peerRole ++ (wsWire peerRole frames ++ rest) := by
    simp [wsWire]
  rw [spelled, (machine peerRole).settle_of_move (moved _), later]

theorem Settles.behind_data {middle : Session} {cut longer : Cut Bytes}
    {earlier : List (List Bytes)}
    (settles : Settles peerRole role limit transform delivered transmit cut frames middle)
    (moved : Moves peerRole frame session middle) (data : frame.opcode ≠ .ping)
    (pending_eq : longer.pending = cut.pending)
    (segments_eq : earlier ++ longer.segments = delivered ++ cut.segments) :
    Settles peerRole role limit transform earlier transmit longer (frame :: frames) session := by
  obtain ⟨next, pongs, settled, receives, answers, all_pongs⟩ := settles
  refine ⟨next, pongs, settle_wsWire_cons moved settled, ?_, ?_, all_pongs⟩
  · rw [pending_eq, segments_eq]
    exact receives
  · rw [answers]
    simp [pings, data]

/-- A stream which carries payloads within the limits is taken as the frames they open to. -/
theorem settle_carries {sofar : Option Bytes} {payloads : List Bytes}
    (carries : Carries sofar payloads frames)
    (receives : session.Receives role limit sofar transform delivered pending transmit)
    (opens : OpensAll transform payloads parts after) (acceptable : Acceptable limit payloads)
    (controls : ControlsFit limit frames)
    (accepted : (cut (roomFor limit) pending parts).refused = none) (peerRole : WsRole) :
    Settles peerRole role limit after delivered transmit (cut (roomFor limit) pending parts) frames
      session := by
  induction carries generalizing session transform delivered pending transmit parts with
  | done =>
    cases opens
    refine ⟨session, [], fun rest => rfl, ?_, rfl, by simp⟩
    simpa [cut, wsWire] using receives
  | @whole payloads frames frame opcode fin later ih =>
    cases opens with
    | cons opens opens_later =>
      obtain ⟨room, accepted_later, pending_eq, segments_eq⟩ := cut_cons accepted delivered
      obtain ⟨bounded, fits⟩ := acceptable frame.payload (by simp)
      obtain ⟨middle, moved, middle_receives⟩ := step_whole receives
        (legal_of_data (.inl opcode) bounded) fits opcode fin opens room peerRole
      exact (ih middle_receives opens_later (List.forall_mem_cons.mp acceptable).2
        (List.forall_mem_cons.mp controls).2 accepted_later).behind_data moved (by simp [opcode])
        pending_eq segments_eq
  | @first payloads frames frame opcode fin later ih =>
    obtain ⟨payload, member, shorter⟩ := later.sofar_le frame.payload rfl
    obtain ⟨bounded, fits⟩ := acceptable payload member
    have moved := step_first receives (legal_of_data (.inl opcode) (shorter.trans bounded))
      (fits.of_le shorter) opcode fin peerRole
    exact (ih (receives.withFragment _) opens acceptable (List.forall_mem_cons.mp controls).2
      accepted).behind_data moved (by simp [opcode]) rfl rfl
  | @next sofar payloads frames frame opcode fin later ih =>
    obtain ⟨payload, member, shorter⟩ := later.sofar_le _ rfl
    obtain ⟨bounded, fits⟩ := acceptable payload member
    have piece_shorter : frame.payload.length ≤ payload.length := by
      rw [List.length_append] at shorter
      omega
    have moved := step_next receives opcode fin
      (legal_of_data (.inr opcode) (piece_shorter.trans bounded)) (shorter.trans bounded)
      (fits.of_le shorter) peerRole
    exact (ih (receives.withFragment _) opens acceptable (List.forall_mem_cons.mp controls).2
      accepted).behind_data moved (by simp [opcode]) rfl rfl
  | @last sofar payloads frames frame opcode fin later ih =>
    cases opens with
    | cons opens opens_later =>
      obtain ⟨room, accepted_later, pending_eq, segments_eq⟩ := cut_cons accepted delivered
      obtain ⟨bounded, fits⟩ := acceptable (sofar ++ frame.payload) (by simp)
      have piece_shorter : frame.payload.length ≤ (sofar ++ frame.payload).length := by simp
      obtain ⟨middle, moved, middle_receives⟩ := step_last receives opcode fin
        (legal_of_data (.inr opcode) (piece_shorter.trans bounded)) bounded fits opens room
        peerRole
      exact (ih middle_receives opens_later (List.forall_mem_cons.mp acceptable).2
        (List.forall_mem_cons.mp controls).2 accepted_later).behind_data moved (by simp [opcode])
        pending_eq segments_eq
  | @control sofar payloads frames frame opcode fin short later ih =>
    have legal := legal_of_control opcode fin short
    have fits : Within limit frame.payload.length :=
      controls frame (by simp) (by obtain ping | pong := opcode <;> simp [*, WsOpcode.isControl])
    have controls_later : ControlsFit limit frames := (List.forall_mem_cons.mp controls).2
    obtain ping | pong := opcode
    · obtain ⟨pong, pong_opcode, pong_fin, pong_payload, middle, moved, middle_receives⟩ :=
        step_ping receives legal fits ping peerRole
      obtain ⟨next, pongs, settled, took⟩ :=
        ih middle_receives opens acceptable controls_later accepted
      refine ⟨next, pong :: pongs, settle_wsWire_cons moved settled, ?_, ?_, ?_⟩
      · simpa [wsWire] using took.receives
      · simp [pings, ping, pong_payload, took.answers]
      · simpa [pong_opcode, pong_fin] using took.pongs
    · have moved := step_pong receives legal fits pong peerRole
      exact (ih receives opens acceptable controls_later accepted).behind_data moved
        (by simp [pong]) rfl rfl

end WsEngine

end Omq
