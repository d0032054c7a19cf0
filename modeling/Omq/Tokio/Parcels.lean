import Omq.Proto.Connection.Emission
import Omq.Proto.Connection.RoundTrip
import Omq.Tokio.Outbound

/-!
# Parcels

A parcel is what must reach the stream in one piece: a command frame, or all frames of one message.
Handling input queues command frames; encoding a batch adds whole messages to the connection's queue
or to the local frame buffer.
-/

namespace Omq

open Attempt Streams Segment List
open scoped Computability

/-- What must not be torn apart: a command frame, or the frames of one message. -/
inductive Parcel : Bytes → Prop
  | command (payload : Bytes) : Parcel (encodeFrame ⟨.commandFrame, .fromBytes payload⟩)
  | message (payloads : List Payload) (nonempty : payloads ≠ []) : Parcel (dataWire (mark payloads))

def parcels : Language UInt8 := { bytes | Parcel bytes }

theorem signals_mem_parcels : ∀ bytes ∈ signals none, bytes ∈ parcels := by
  intro bytes signal
  cases signal with
  | command env payload => exact .command payload
  | control websocket => simp at websocket

theorem dataWire_mem_parcels (payloads : List Payload) : dataWire (mark payloads) ∈ parcels∗ := by
  cases payloads with
  | nil => exact Language.nil_mem_kstar parcels
  | cons payload rest => exact mem_kstar_of_mem (.message (payload :: rest) (by simp))

theorem encodeSlicesFlat_mem_parcels (pre : Bytes) (slices : List Bytes) :
    encodeSlicesFlat pre slices ∈ parcels∗ := by
  rw [encodeSlicesFlat_eq_dataWire]
  exact dataWire_mem_parcels _

theorem Parcel.head {bytes : Bytes} (parcel : Parcel bytes) :
    ∃ flags rest, bytes = flags :: rest ∧ flags ≤ 6 ∧
      (flags = 4 → ∃ payload : Bytes, payload.length ≤ 255 ∧
        rest = UInt8.ofNat payload.length :: payload) := by
  have data_flags (more : Bool) : (dataFlags more).wire ≤ 6 ∧ (dataFlags more).wire ≠ 4 ∧
      (dataFlags more).wire ||| flagLong ≤ 6 ∧ (dataFlags more).wire ||| flagLong ≠ 4 := by
    cases more <;> decide
  cases parcel with
  | command payload =>
    rw [encodeFrame_eq]
    simp only [frameHeader, Payload.asSlice_fromBytes, ← Payload.length_asSlice]
    by_cases long : maxShortFrameSize < payload.length
    · rw [if_pos long]
      exact ⟨_, _, rfl, by decide, fun short => absurd short (by decide)⟩
    · rw [if_neg long]
      exact ⟨_, _, rfl, by decide, fun _ => ⟨payload, not_lt.mp long, rfl⟩⟩
  | message payloads nonempty =>
    cases payloads with
    | nil => contradiction
    | cons payload rest =>
      obtain ⟨short_le, short_ne, long_le, long_ne⟩ := data_flags (!rest.isEmpty)
      simp only [dataWire, mark, flatMap_cons, encodeFrame_eq, frameHeader]
      by_cases long : maxShortFrameSize < payload.len
      · rw [if_pos long]
        exact ⟨_, _, rfl, long_le, fun command => absurd command long_ne⟩
      · rw [if_neg long]
        exact ⟨_, _, rfl, short_le, fun command => absurd command short_ne⟩

/-- A stream of parcels starts with the flags of a frame. -/
theorem head_le_of_parcels {stream more : Bytes} {byte : UInt8}
    (stream_mem : stream ∈ parcels∗) (starts : byte :: more <+: stream) : byte ≤ 6 := by
  obtain ⟨pieces, rfl, pieces_mem⟩ := Language.mem_kstar.mp stream_mem
  cases pieces with
  | nil => simp at starts
  | cons piece rest =>
    obtain ⟨flags, tail, rfl, flags_le, _⟩ := Parcel.head (pieces_mem piece mem_cons_self)
    rw [flatten_cons, cons_append] at starts
    rw [(cons_prefix_cons.mp starts).1]
    exact flags_le

/-- What follows a short command frame is a stream of parcels again. -/
theorem later_of_parcels {stream body more : Bytes} (stream_mem : stream ∈ parcels∗)
    (short : body.length ≤ 255)
    (starts : 4 :: UInt8.ofNat body.length :: (body ++ more) <+: stream) :
    ∃ later ∈ parcels∗, more <+: later := by
  obtain ⟨pieces, rfl, pieces_mem⟩ := Language.mem_kstar.mp stream_mem
  cases pieces with
  | nil => simp at starts
  | cons piece rest =>
    obtain ⟨flags, tail, rfl, _, command⟩ := Parcel.head (pieces_mem piece mem_cons_self)
    rw [flatten_cons, cons_append] at starts
    obtain ⟨flags_eq, starts⟩ := cons_prefix_cons.mp starts
    obtain ⟨payload, payload_le, rfl⟩ := command flags_eq.symm
    obtain ⟨size_eq, starts⟩ := cons_prefix_cons.mp starts
    have length_eq : body.length = payload.length := by
      have same := congrArg UInt8.toNat size_eq
      rw [UInt8.toNat_ofNat', UInt8.toNat_ofNat'] at same
      omega
    refine ⟨rest.flatten, Language.mem_kstar.mpr ⟨rest, rfl, fun later member =>
      pieces_mem later (mem_cons_of_mem _ member)⟩, ?_⟩
    obtain ⟨after, after_eq⟩ := starts
    rw [append_assoc] at after_eq
    exact ⟨after, (append_inj after_eq length_eq).2⟩

namespace Session

variable [CurvePrimitives]

/-- Each part of a sent message is queued as one data frame, sealed or not. -/
theorem pollTransmit_of_sendParts {payloads : List Payload} {session sent : Session}
    (plain : session.wsRole = none) (returned : sendParts payloads session = .ok () sent) :
    sent.wsRole = none ∧ ∃ queued : List Payload, queued.length = payloads.length ∧
      sent.pollTransmit = session.pollTransmit ++ dataWire (mark queued) := by
  induction payloads generalizing session with
  | nil =>
    cases returned
    exact ⟨plain, [], rfl, by simp [dataWire, mark]⟩
  | cons payload rest induction =>
    have step : ∃ (middle : Session) (first : Payload), sendParts rest middle = .ok () sent ∧
        middle.wsRole = none ∧ middle.pollTransmit = session.pollTransmit ++
          encodeFrame ⟨dataFlags (!rest.isEmpty), first⟩ := by
      cases installed : session.transform with
      | none =>
        simp only [sendParts, run_bind, run_get, installed, run_modify] at returned
        have framing := congrArg InboundView.wsRole
          (inboundView_emitFrame session (if !rest.isEmpty then .moreData else .last) payload)
        refine ⟨_, payload, returned, framing.trans plain, ?_⟩
        rw [pollTransmit_emitFrame, plain]
        rfl
      | some transform =>
        simp only [sendParts, run_bind, run_get, installed, sendPartCurve] at returned
        cases encrypted : transform.encryptMessage (!rest.isEmpty) false payload.asSlice with
        | error error => simp [encrypted] at returned
        | ok sealed =>
          simp only [encrypted, run_ofExcept_ok, run_modify] at returned
          let body := Payload.fromBytes (CurveTransform.messageCommandFrame sealed.1)
          have framing := congrArg InboundView.wsRole (inboundView_emitFrame
            (session.withTransform (some sealed.2))
            (if !rest.isEmpty then .moreData else .last) body)
          refine ⟨_, body, returned, framing.trans plain, ?_⟩
          rw [pollTransmit_emitFrame]
          simp only [withTransform, plain]
          rfl
    obtain ⟨middle, first, later, middle_plain, middle_eq⟩ := step
    obtain ⟨sent_plain, queued, length_eq, sent_eq⟩ := induction middle_plain later
    refine ⟨sent_plain, first :: queued, by simp [length_eq], ?_⟩
    have same : queued.isEmpty = rest.isEmpty := by
      cases queued <;> cases rest <;> simp at length_eq ⊢
    rw [sent_eq, middle_eq]
    simp [dataWire, mark, same]

theorem preserves_transformed_sendParts (payloads : List Payload) :
    Preserves (fun session : Session => session.transform.isSome) (sendParts payloads) := by
  induction payloads with
  | nil => exact .pure ()
  | cons payload rest induction =>
    intro session transformed
    obtain ⟨transform, installed⟩ := Option.isSome_iff_exists.mp transformed
    have unfolded : sendParts (payload :: rest) session =
        (sendPartCurve transform (!rest.isEmpty) payload >>= fun _ => sendParts rest) session := by
      simp [sendParts, installed]
    have first : Preserves (fun session : Session => session.transform.isSome)
        (sendPartCurve transform (!rest.isEmpty) payload) := by
      refine (Preserves.ofExcept _).bind fun sealed => .of_finalState fun sending _ => ?_
      exact congrArg InboundView.transformed (inboundView_emitFrame
        (sending.withTransform (some sealed.2)) _ _)
    rw [unfolded]
    exact (first.bind fun _ => induction) session transformed

theorem preserves_transformed_sendMessage (message : Message) :
    Preserves (fun session : Session => session.transform.isSome) (sendMessage message) := by
  unfold sendMessage
  refine Preserves.get.bind fun session => ?_
  cases session.isReady with
  | true => exact preserves_transformed_sendParts _
  | false => exact .throw _

end Session

/-! ## Encoding adds parcels -/

namespace Outgoing

/-- The queue and the frame buffer of a plain connection grew by parcels. -/
structure Grows (before after : Outgoing) : Prop where
  plain : after.connection.wsRole = none
  queued : ∃ data ∈ parcels∗, after.connection.pollTransmit = before.connection.pollTransmit ++ data
  framed : ∃ data ∈ parcels∗, after.eq.content = before.eq.content ++ data

theorem Grows.refl {outgoing : Outgoing} (plain : outgoing.connection.wsRole = none) :
    outgoing.Grows outgoing :=
  ⟨plain, ⟨[], Language.nil_mem_kstar _, (append_nil _).symm⟩,
    ⟨[], Language.nil_mem_kstar _, (append_nil _).symm⟩⟩

variable {before after : Outgoing} {data : Bytes} {α : Type}

section

variable (grows : before.Grows after)

include grows

theorem Grows.queue {later : Outgoing} (plain : later.connection.wsRole = none)
    (same : later.eq = after.eq) (data_mem : data ∈ parcels∗)
    (queued : later.connection.pollTransmit = after.connection.pollTransmit ++ data) :
    before.Grows later := by
  obtain ⟨earlier, earlier_mem, queued_eq⟩ := grows.queued
  refine ⟨plain, ⟨earlier ++ data, append_mem_kstar earlier_mem data_mem, ?_⟩, ?_⟩
  · rw [queued, queued_eq, append_assoc]
  · rw [same]
    exact grows.framed

theorem Grows.frame {eq : FrameBuffer} (data_mem : data ∈ parcels∗)
    (framed : eq.content = after.eq.content ++ data) : before.Grows { after with eq } := by
  obtain ⟨earlier, earlier_mem, framed_eq⟩ := grows.framed
  refine ⟨grows.plain, grows.queued, earlier ++ data, append_mem_kstar earlier_mem data_mem, ?_⟩
  rw [framed, framed_eq, append_assoc]

/-- Changes of the compression state alone add nothing. -/
theorem Grows.withOutbound (outbound : OutboundState) : before.Grows { after with outbound } :=
  ⟨grows.plain, grows.queued, grows.framed⟩

theorem Grows.frameWire (wire : Message) : before.Grows (after.frameWire wire) := by
  have framed := grows.frame (encodeSlicesFlat_mem_parcels [] wire.parts)
    (after.eq.content_frame wire)
  unfold Outgoing.frameWire
  rw [grows.plain]
  exact framed

theorem Grows.frameWires (wires : List Message) :
    before.Grows (wires.foldl Outgoing.frameWire after) := by
  induction wires generalizing after with
  | nil => exact grows
  | cons wire rest induction => exact induction (grows.frameWire wire)

end

def AddsParcels {α : Type} (method : OutgoingM α) : Prop :=
  ∀ before, Triple (Grows before) method (fun _ => Grows before) fun _ _ => True

theorem AddsParcels.bind {β : Type} {first : OutgoingM α} {next : α → OutgoingM β}
    (first_adds : AddsParcels first) (next_adds : ∀ value, AddsParcels (next value)) :
    AddsParcels (first >>= next) :=
  fun before => Triple.bind (first_adds before) fun value => next_adds value before

theorem AddsParcels.pure (value : α) : AddsParcels (Pure.pure value : OutgoingM α) :=
  fun _ _ grows => grows

theorem AddsParcels.ofExcept (result : Except Error α) :
    AddsParcels (Attempt.ofExcept result : OutgoingM α) :=
  fun _ => Triple.ofExcept (fun _ _ _ grows => grows) fun _ _ _ => trivial

theorem AddsParcels.frameWires (wires : List Message) :
    AddsParcels (modify fun outgoing => wires.foldl Outgoing.frameWire outgoing) :=
  fun _ _ grows => grows.frameWires wires

theorem AddsParcels.onSession {method : SessionM Unit}
    (queues : ∀ session sent : Session, session.wsRole = none → method session = .ok () sent →
      sent.wsRole = none ∧ ∃ data ∈ parcels∗, sent.pollTransmit = session.pollTransmit ++ data) :
    AddsParcels (onConnection (Connection.onSession method)) := by
  intro before after grows
  unfold onConnection Connection.onSession
  cases result : method after.connection.toSession with
  | error error session => trivial
  | ok value session =>
    obtain ⟨plain, data, data_mem, queued⟩ := queues _ _ grows.plain result
    exact grows.queue plain rfl data_mem queued

variable [CurvePrimitives]

theorem addsParcels_sendMessage (wire : Message) :
    AddsParcels (onConnection (Connection.onSession (Session.sendMessage wire))) := by
  refine .onSession fun session sent plain returned => ?_
  have parts_sent : Session.sendParts wire.partsPayload session = .ok () sent := by
    cases ready : session.isReady with
    | true => simpa [Session.sendMessage, ready] using returned
    | false => simp [Session.sendMessage, ready] at returned
  obtain ⟨sent_plain, queued, _, transmit_eq⟩ := Session.pollTransmit_of_sendParts plain parts_sent
  exact ⟨sent_plain, _, dataWire_mem_parcels queued, transmit_eq⟩

theorem addsParcels_sendWires (wires : List Message) : AddsParcels (sendWires wires) := by
  induction wires with
  | nil => exact .pure ()
  | cons wire rest induction => exact (addsParcels_sendMessage wire).bind fun _ => induction

variable [CompressionPrimitives]

omit [CurvePrimitives] in
theorem addsParcels_transform (message : Message) : AddsParcels (transform message) := by
  intro before after grows
  have same := (leaves_transform message).finalState after
  obtain ⟨connection_eq, eq_eq, _⟩ : _ = after.connection ∧ _ = after.eq ∧ _ := by
    simpa only [Prod.mk.injEq] using same
  cases result : transform message after with
  | error error state => trivial
  | ok wires state =>
    rw [result] at connection_eq eq_eq
    have kept : before.Grows state := by
      refine grows.queue ?_ eq_eq (Language.nil_mem_kstar _) ?_
      · rw [show state.connection = after.connection from connection_eq]
        exact grows.plain
      · rw [show state.connection = after.connection from connection_eq, append_nil]
    exact kept

theorem addsParcels_encodeMsg (message : Message) : AddsParcels (encodeMsg message) := by
  have framed : AddsParcels (transform message >>= fun wires =>
      modify fun outgoing => wires.foldl frameWire outgoing) :=
    (addsParcels_transform message).bind .frameWires
  intro before after grows
  have plain := grows.plain
  cases transformed : after.connection.hasFrameTransform with
  | true =>
    have queued : encodeMsg message after = (transform message >>= sendWires) after := by
      simp only [encodeMsg, run_bind, run_get, transformed, if_true]
    rw [queued]
    exact ((addsParcels_transform message).bind addsParcels_sendWires) before after grows
  | false =>
    cases through : passesThrough after.outbound.passthrough message with
    | none =>
      have inline : encodeMsg message after = (transform message >>= fun wires =>
          modify fun outgoing => wires.foldl frameWire outgoing) after := by
        simp [encodeMsg, transformed, plain, through]
      rw [inline]
      exact framed before after grows
    | some sentinel =>
      have inline : encodeMsg message after =
          .ok ⟨⟩ { after with eq := after.eq.framePrefixed sentinel message } := by
        simp [encodeMsg, transformed, plain, through]
      rw [inline]
      exact grows.frame (encodeSlicesFlat_mem_parcels sentinel message.parts)
        (after.eq.content_framePrefixed sentinel message)

variable (messages : List Message)

theorem addsParcels_encodeMsgs : AddsParcels (encodeMsgs messages) := by
  induction messages with
  | nil => exact .pure ()
  | cons message rest induction => exact (addsParcels_encodeMsg message).bind fun _ => induction

omit [CurvePrimitives] in
theorem addsParcels_drainOffloadResult (task : OffloadTask) :
    AddsParcels (drainOffloadResult task) := by
  intro before after grows
  have collected := grows.withOutbound { after.outbound with
    compressionPool := after.outbound.compressionPool.map fun pool => (task.collect pool).1 }
  have framed : AddsParcels ((Attempt.ofExcept task.outcome.2 : OutgoingM (List Message)) >>=
      fun wires => modify fun outgoing => wires.foldl frameWire outgoing) :=
    (AddsParcels.ofExcept _).bind .frameWires
  exact framed before _ collected

omit [CurvePrimitives] in
theorem addsParcels_drainTasks (tasks : List OffloadTask) : AddsParcels (drainTasks tasks) := by
  induction tasks with
  | nil => exact .pure ()
  | cons task rest induction =>
    exact (addsParcels_drainOffloadResult task).bind fun _ => induction

theorem addsParcels_batchEncode (endings : List (Nat × Bool)) :
    AddsParcels (batchEncode messages endings) := by
  intro before after grows
  cases pipelined : after.outbound.usePipeline with
  | true =>
    rw [batchEncode_of_usePipeline pipelined]
    exact addsParcels_drainTasks _ before _ (grows.withOutbound _)
  | false =>
    rw [batchEncode_of_inline pipelined]
    exact addsParcels_encodeMsgs messages before after grows

/-- With a frame transform, and nothing in the local frame buffer. -/
def Encrypting (outgoing : Outgoing) : Prop :=
  outgoing.connection.hasFrameTransform ∧ outgoing.eq.content = []

theorem encodes_encrypting : Encodes Encrypting where
  transforms := fun message => (leaves_transform message).preserves fun (connection, eq, _) =>
    connection.hasFrameTransform ∧ eq.content = []
  sends := fun wire => preserves_onConnection
    (Connection.preserves_onSession (Session.preserves_transformed_sendMessage wire))
    (fun outgoing => outgoing.eq.content = []) fun _ _ empty => empty
  frames := fun _ _ plain encrypting => by cases encrypting.1.symm.trans plain

end Outgoing

end Omq
