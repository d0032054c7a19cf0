import Omq.Proto.Connection.Inbound

/-!
# What the methods of a session can change

Outbound methods touch the outbound queue, the mechanism, the transform's counters and the
environment, and nothing an inbound frame reads or delivers.  Inbound methods keep the size charged
to the pending message exact as long as they succeed.
-/

namespace Omq

open Attempt

/-- The part of a session which outbound methods cannot change. -/
structure InboundView where
  config : ConnectionConfig
  state : State
  peerGreeting : Bytes
  peerMinor : UInt8
  events : List Event
  messages : List Message
  pendingParts : List Payload
  pendingSize : Nat
  wsRole : Option WsRole
  wsFragment : Option Bytes
  transformed : Bool

namespace Session

variable (session : Session)

/-- The part of a session which outbound methods cannot change. -/
def inboundView : InboundView where
  config := session.config
  state := session.state
  peerGreeting := session.peerGreeting
  peerMinor := session.peerMinor
  events := session.events
  messages := session.messages
  pendingParts := session.pendingParts
  pendingSize := session.pendingSize
  wsRole := session.wsRole
  wsFragment := session.wsFragment
  transformed := session.transform.isSome

@[simp]
theorem inboundView_emitFrame (flags : FrameFlags) (payload : Payload) :
    (session.emitFrame flags payload).inboundView = session.inboundView := by
  unfold emitFrame
  split
  · unfold emitWsFrame
    simp only
    split <;> split <;> rfl
  · rfl

@[simp]
theorem mechanism_emitFrame (flags : FrameFlags) (payload : Payload) :
    (session.emitFrame flags payload).mechanism = session.mechanism := by
  unfold emitFrame
  split
  · unfold emitWsFrame
    simp only
    split <;> split <;> rfl
  · rfl

@[simp]
theorem inboundView_emitCommandFrame (payload : Bytes) :
    (session.emitCommandFrame payload).inboundView = session.inboundView :=
  inboundView_emitFrame session _ _

theorem inboundView_withTransform {session : Session} (installed : session.transform.isSome)
    (replacement : CurveTransform) :
    (session.withTransform (some replacement)).inboundView = session.inboundView := by
  simp [inboundView, withTransform, installed]

theorem transform_of_activeTransform {session : Session} {transform : CurveTransform}
    (active : session.activeTransform = some transform) : session.transform.isSome := by
  unfold activeTransform at active
  split at active
  · simp [active]
  · cases active

/-- The phase and the charge are part of the inbound view. -/
theorem state_eq_of_inboundView {before after : Session}
    (same : after.inboundView = before.inboundView) : after.state = before.state :=
  congrArg InboundView.state same

variable [CurvePrimitives]

theorem leaves_writeOutboundCommand (command : Command) :
    Leaves inboundView (writeOutboundCommand command) := by
  refine Leaves.of_finalState fun session => ?_
  unfold writeOutboundCommand
  simp only [run_bind, run_get]
  cases active : session.activeTransform with
  | none => simp
  | some transform =>
    have installed := transform_of_activeTransform active
    cases encrypted : transform.encryptMessage false true command.encode with
    | error error => simp [encrypted]
    | ok sent => simp [encrypted, inboundView_withTransform installed]

theorem leaves_writeOutboundCommands (commands : List Command) :
    Leaves inboundView (writeOutboundCommands commands) := by
  induction commands with
  | nil => exact Leaves.pure ()
  | cons command rest ih =>
    exact (leaves_writeOutboundCommand command).bind fun _ => ih

theorem leaves_sendParts (parts : List Payload) : Leaves inboundView (sendParts parts) := by
  induction parts with
  | nil => exact Leaves.pure ()
  | cons part rest induction =>
    refine Leaves.of_finalState fun session => ?_
    unfold sendParts
    simp only [run_bind, run_get]
    cases installed : session.transform with
    | none =>
      have sent := inboundView_emitFrame session (if !rest.isEmpty then .moreData else .last) part
      exact (induction.finalState _).trans sent
    | some transform =>
      simp only [sendPartCurve, run_bind]
      cases transform.encryptMessage (!rest.isEmpty) false part.asSlice with
      | error error => rfl
      | ok sent =>
        simp only [run_ofExcept_ok, run_modify]
        rw [induction.finalState, inboundView_emitFrame,
          inboundView_withTransform (by simp [installed])]

theorem leaves_sendMessage (message : Message) : Leaves inboundView (sendMessage message) := by
  refine Leaves.of_finalState fun session => ?_
  cases ready : session.isReady with
  | false => simp [sendMessage, ready]
  | true =>
    simpa [sendMessage, ready] using (leaves_sendParts message.partsPayload).finalState session

theorem leaves_startMechanism : Leaves inboundView startMechanism := by
  refine Leaves.of_finalState fun session => ?_
  unfold startMechanism
  simp only [run_bind, run_get, run_set]
  exact ((Leaves.ofExcept _).bind fun _ => leaves_writeOutboundCommands _).finalState
    (session.adopt _)

end Session

/-! ## What an inbound frame can do -/

namespace Session

/-- The size charged to the pending message with one more part. -/
def chargedSize (session : Session) (payload : Payload) : Nat :=
  saturatingAdd session.pendingSize (payload.len + payloadSlot)

variable {session : Session} {payload : Payload}

theorem absorbDataFrame_of_exceeds {max : Nat}
    (exceeds : session.exceedsMax (session.chargedSize payload) = some max) (more : Bool) :
    absorbDataFrame more payload session =
      .error (.messageTooLarge (session.chargedSize payload) max)
        (session.withPending session.pendingParts (session.chargedSize payload)) := by
  unfold chargedSize at exceeds
  simp [absorbDataFrame, exceeds, chargedSize]

theorem absorbDataFrame_more (fits : session.exceedsMax (session.chargedSize payload) = none) :
    absorbDataFrame true payload session =
      .ok () (session.withPending (session.pendingParts ++ [payload])
        (session.chargedSize payload)) := by
  unfold chargedSize at fits
  simp [absorbDataFrame, fits, chargedSize]

theorem absorbDataFrame_last (fits : session.exceedsMax (session.chargedSize payload) = none) :
    absorbDataFrame false payload session =
      .ok () ((session.withPending [] 0).withMessage (assembled session.pendingParts payload)) := by
  unfold chargedSize at fits
  simp [absorbDataFrame, fits, deliver]

theorem completeHandshake_cases (session : Session) (props : PeerProperties) :
    (∃ error, completeHandshake props session = .error error session) ∨
      ∃ peerType transform, props.socketType = some peerType ∧
        isCompatible session.config.socketType peerType = true ∧
        session.mechanism.buildTransform = .ok transform ∧
        completeHandshake props session = .ok () (session.becomeReady transform props) := by
  cases declared : props.socketType with
  | none => exact .inl ⟨_, by simp [completeHandshake, declared]; rfl⟩
  | some peerType =>
    cases compatible : isCompatible session.config.socketType peerType with
    | false => exact .inl ⟨_, by simp [completeHandshake, declared, compatible]; rfl⟩
    | true =>
      cases built : session.mechanism.buildTransform with
      | error error =>
        exact .inl ⟨error, by simp [completeHandshake, declared, compatible, built]⟩
      | ok transform =>
        exact .inr ⟨peerType, transform, rfl, compatible, rfl,
          by simp [completeHandshake, declared, compatible, built]⟩

variable [CurvePrimitives]

theorem decodeAssembledFrame_of_none (plain : session.transform = none) (flags : FrameFlags)
    (payload : Payload) :
    decodeAssembledFrame flags payload session =
      dispatchContent flags.command flags.more payload session := by
  simp [decodeAssembledFrame, plain]

theorem decodeAssembledFrame_of_some {transform : CurveTransform}
    (sealed : session.transform = some transform) (flags : FrameFlags) (payload : Payload) :
    (∃ error, decodeAssembledFrame flags payload session = .error error session) ∨
      ∃ (command more : Bool) (content : Payload) (next : CurveTransform),
        decodeAssembledFrame flags payload session =
          dispatchContent command more content (session.withTransform (some next)) := by
  by_cases wrapped :
      payload.asSlice.take CurveTransform.messagePrefix.length = CurveTransform.messagePrefix
  · cases opened : transform.decryptMessage
        (payload.asSlice.drop CurveTransform.messagePrefix.length) with
    | error error => exact .inl ⟨error, by simp [decodeAssembledFrame, sealed, wrapped, opened]⟩
    | ok content =>
      obtain ⟨⟨more, command, plaintext⟩, next⟩ := content
      exact .inr ⟨command, more, .fromBytes plaintext, next,
        by simp [decodeAssembledFrame, sealed, wrapped, opened]⟩
  · exact .inl ⟨_, by simp [decodeAssembledFrame, sealed, wrapped]; rfl⟩

end Session

/-- Plain ZMTP framing which accepts input. -/
def InboundView.Receptive (view : InboundView) : Prop :=
  view.wsRole = none ∧
    (view.state = .awaitingGreeting ∨ view.state = .mechanismHandshake ∨ view.state = .ready)

/-! ## The charge of the pending message -/

/-- The size charged for the parts of a message, saturating at the largest size. -/
def chargeOf (parts : List Payload) : Nat :=
  min (parts.map fun part => part.len + payloadSlot).sum usizeMax

@[simp]
theorem chargeOf_nil : chargeOf [] = 0 := rfl

/-- Charging one more part saturates as the running sum does. -/
theorem chargeOf_append_singleton (parts : List Payload) (part : Payload) :
    chargeOf (parts ++ [part]) = saturatingAdd (chargeOf parts) (part.len + payloadSlot) := by
  simp only [chargeOf, saturatingAdd, List.map_append, List.sum_append, List.map_cons,
    List.map_nil, List.sum_cons, List.sum_nil]
  omega

def InboundView.Charged (view : InboundView) : Prop := view.pendingSize = chargeOf view.pendingParts

namespace Session

/-- The pending size of the session is the charge of its pending parts. -/
abbrev Charged (session : Session) : Prop := session.inboundView.Charged

theorem Charged.pendingSize_eq_zero {session : Session} (charged : session.Charged)
    (empty : session.pendingParts = []) : session.pendingSize = 0 :=
  charged.trans (congrArg chargeOf empty)

theorem Charged.chargedSize_eq {session : Session} (charged : session.Charged) (payload : Payload) :
    session.chargedSize payload = chargeOf (session.pendingParts ++ [payload]) := by
  have size_eq : session.pendingSize = chargeOf session.pendingParts := charged
  rw [chargeOf_append_singleton, ← size_eq]
  rfl

end Session

end Omq
