import Omq.Library.Streams
import Omq.Proto.Connection.Update

/-!
# What a session puts into its outbound queue

Handling input only ever queues signals: command frames and, with WebSocket framing, control
frames.  Sending a message queues the frames of its parts, sealed one by one when CURVE is active.
A stream of such pieces is a word over the language of the pieces.
-/

namespace Omq

open Attempt Streams
open scoped Computability

/-- The bytes of a frame; with WebSocket framing a client masks them. -/
def wireFrame (wsRole : Option WsRole) (env : Environment) (flags : FrameFlags)
    (payload : Payload) : Bytes :=
  match wsRole with
  | none => encodeFrame ⟨flags, payload⟩
  | some role =>
    match encodeWsHeader .binary (1 + payload.asSlice.length) role env with
    | (header, some mask, _) =>
      header ++ [flagsToZws flags ^^^ mask.getD 0 0] ++ applyMaskOffset payload.asSlice mask 1
    | (header, none, _) => header ++ [flagsToZws flags] ++ payload.asSlice

/-- A piece of protocol: a command frame or a WebSocket control frame. -/
inductive Signal (wsRole : Option WsRole) : Bytes → Prop
  | command (env : Environment) (payload : Bytes) :
      Signal wsRole (wireFrame wsRole env .commandFrame (.fromBytes payload))
  | control {role : WsRole} (websocket : wsRole = some role) (opcode : WsOpcode) (payload : Bytes)
      (env : Environment) : Signal wsRole (encodeWsControl opcode payload role env).1

def signals (wsRole : Option WsRole) : Language UInt8 := { bytes | Signal wsRole bytes }

namespace Session

@[simp]
theorem pollTransmit_emitFrame (session : Session) (flags : FrameFlags) (payload : Payload) :
    (session.emitFrame flags payload).pollTransmit =
      session.pollTransmit ++ wireFrame session.wsRole session.env flags payload := by
  unfold emitFrame wireFrame
  cases session.wsRole with
  | none => simp [pollTransmit, pushChunks, encodeFrame]
  | some role =>
    unfold emitWsFrame
    rcases header_eq : encodeWsHeader .binary (1 + payload.asSlice.length) role session.env with
      ⟨header, mask | mask, env⟩
    · simp only [header_eq]
      split
      next empty => simp [pollTransmit, pushChunks, empty]
      · simp [pollTransmit, pushChunks]
    · simp only [header_eq]
      split
      next empty =>
        rw [empty]
        simp [pollTransmit, pushChunks, applyMaskOffset]
      · simp [pollTransmit, pushChunks]

/-- The session uses the framing, and its queue is `base` followed by pieces. -/
structure Queued (pieces : Language UInt8) (wsRole : Option WsRole) (base : Bytes)
    (session : Session) : Prop where
  framing : session.wsRole = wsRole
  queued : ∃ stream ∈ pieces∗, session.pollTransmit = base ++ stream

theorem queued_self (pieces : Language UInt8) (session : Session) :
    session.Queued pieces session.wsRole session.pollTransmit :=
  ⟨rfl, [], Language.nil_mem_kstar pieces, (List.append_nil _).symm⟩

theorem Queued.push {pieces : Language UInt8} {wsRole : Option WsRole} {base : Bytes}
    {session after : Session} (queued : session.Queued pieces wsRole base)
    (framing : after.wsRole = session.wsRole) {stream : Bytes} (stream_mem : stream ∈ pieces∗)
    (transmit : after.pollTransmit = session.pollTransmit ++ stream) :
    after.Queued pieces wsRole base := by
  obtain ⟨earlier, earlier_mem, transmit_eq⟩ := queued.queued
  refine ⟨framing.trans queued.framing, earlier ++ stream,
    append_mem_kstar earlier_mem stream_mem, ?_⟩
  rw [transmit, transmit_eq, List.append_assoc]

theorem pollTransmit_queueWsControl (session : Session) (opcode : WsOpcode) (payload : Bytes) :
    (session.queueWsControl opcode payload).pollTransmit = session.pollTransmit ++
      (encodeWsControl opcode payload (session.wsRole.getD .server) session.env).1 := by
  simp [queueWsControl, pollTransmit, pushChunks]

end Session

variable {pieces : Language UInt8} {wsRole : Option WsRole} {base : Bytes} {before after : Session}

theorem Update.queued (signals_mem : ∀ bytes ∈ signals wsRole, bytes ∈ pieces)
    (update : Update before after) (queued : before.Queued pieces wsRole base) :
    after.Queued pieces wsRole base := by
  have framing := update.wsRole_eq
  cases update with
  | emitted _ payload =>
    refine queued.push framing (mem_kstar_of_mem (signals_mem _ ?_))
      (Session.pollTransmit_emitFrame before _ _)
    rw [queued.framing]
    exact .command before.env payload
  | controlled websocket opcode payload =>
    obtain ⟨role, role_eq⟩ := Option.isSome_iff_exists.mp websocket
    refine queued.push framing (mem_kstar_of_mem (signals_mem _ ?_))
      (Session.pollTransmit_queueWsControl before opcode payload)
    rw [role_eq]
    exact .control (queued.framing.symm.trans role_eq) opcode payload before.env
  | _ => exact ⟨queued.framing, queued.queued⟩

theorem Updates.queued (signals_mem : ∀ bytes ∈ signals wsRole, bytes ∈ pieces)
    (updates : Updates before after) (queued : before.Queued pieces wsRole base) :
    after.Queued pieces wsRole base :=
  updates.invariant (fun update => update.queued signals_mem) queued

end Omq
