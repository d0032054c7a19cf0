import Omq.Proto.Connection.Feed

/-!
# Handshake safety

Nothing is delivered before the handshake has succeeded, it succeeds at most once, and then the
peer has passed every check.  The greeting is checked in plain ZMTP framing only: a WebSocket
connection starts with the mechanism and exchanges no greeting.
-/

namespace Omq

open Attempt Incremental Session Connection

namespace InboundView

/-- The peer's greeting was accepted: it named our mechanism, and its server bit is legal. -/
def Greeted (view : InboundView) : Prop :=
  ∃ greeting width, Greeting.parse view.peerGreeting width = .ok greeting ∧
    greeting.mechanism = view.config.mechanism.wireName ∧
    ¬(view.config.mechanism.wireName = .null ∧ greeting.asServer)

/-- The peer declared a socket type which may talk to ours. -/
def Accepts (view : InboundView) (props : PeerProperties) : Prop :=
  ∃ peerType, props.socketType = some peerType ∧ isCompatible view.config.socketType peerType = true

/-- Nothing was delivered, or the handshake succeeded first, once, with an acceptable peer. -/
structure Safe (view : InboundView) : Prop where
  /-- No message comes before the success. -/
  quiet : view.events = [] → view.messages = []
  /-- The success is the first event and the only one of its kind. -/
  first : view.events ≠ [] → ∃ minor props, ∃ commands : List Command,
    view.events = .handshakeSucceeded minor props :: commands.map .command ∧ view.Accepts props
  /-- In plain framing the peer's greeting was accepted. -/
  greeted : view.events ≠ [] → view.wsRole = none → view.Greeted

/-- The invariant behind safety: what the phase says about the past. -/
structure Phased (view : InboundView) : Prop extends view.Safe where
  /-- Nothing is delivered before the data phase. -/
  early : view.state = .awaitingGreeting ∨ view.state = .mechanismHandshake → view.events = []
  /-- The data phase starts with the success. -/
  late : view.state = .ready ∨ (∃ flags size, view.state = .awaitingSuppliedPayload flags size) →
    view.events ≠ []
  /-- In plain framing the mechanism starts after the greeting. -/
  negotiating : view.state = .mechanismHandshake → view.wsRole = none → view.Greeted

end InboundView

/-- A session is safe when what it delivered and the peer's greeting are. -/
abbrev Session.Safe (session : Session) : Prop := session.inboundView.Safe

/-- The peer's greeting was accepted. -/
abbrev Session.Greeted (session : Session) : Prop := session.inboundView.Greeted

theorem Update.phased {before after : Session} (update : Update before after)
    (phased : before.inboundView.Phased) : after.inboundView.Phased := by
  obtain ⟨⟨quiet, first, greeted⟩, early, late, negotiating⟩ := id phased
  cases update with
  | emitted payload => rwa [inboundView_emitCommandFrame]
  | resealed installed next =>
    rwa [inboundView_withTransform (by rw [installed]; rfl)]
  | adopted _ _ => exact phased
  | greeted greeting raw waiting plain parsed agreed legal =>
    have no_events : before.events = [] := early (.inl waiting)
    have accepted : (before.enterHandshake greeting raw).Greeted :=
      parsed.elim fun width parsed => ⟨greeting, width, parsed, agreed, legal⟩
    refine ⟨⟨quiet, fun some_event => absurd no_events some_event, fun _ _ => accepted⟩,
      fun _ => no_events, fun late => ?_, fun _ _ => accepted⟩
    simp [inboundView, enterHandshake] at late
  | @succeeded _ props peerType transform negotiates declared compatible built =>
    have no_events : before.events = [] := early (.inr negotiates)
    have events_eq : (before.becomeReady transform props).events =
        [.handshakeSucceeded before.peerMinor props] := by
      simp [becomeReady, no_events]
    refine ⟨⟨fun none_left => ?_, fun _ => ⟨_, props, [], events_eq, peerType, declared,
      compatible⟩, fun _ => negotiating negotiates⟩, fun phase => ?_, fun _ none_left => ?_,
      fun phase => ?_⟩
    · cases events_eq.symm.trans none_left
    · simp [inboundView, becomeReady] at phase
    · cases events_eq.symm.trans none_left
    · cases phase
  | announced ready command =>
    have some_event : before.events ≠ [] := late (.inl ready)
    obtain ⟨minor, props, commands, events_eq, accepts⟩ := first some_event
    have more_events : before.events ++ [.command command] ≠ [] := by simp
    refine ⟨⟨fun none_left => absurd none_left more_events, fun _ =>
      ⟨minor, props, commands ++ [command], ?_, accepts⟩, fun _ => greeted some_event⟩,
      fun phase => ?_, fun _ => more_events, negotiating⟩
    · show before.events ++ [.command command] = _
      rw [show before.events = _ from events_eq]
      simp
    · exact absurd (early phase) some_event
  | collected ready parts size => exact ⟨⟨quiet, first, greeted⟩, early, late, negotiating⟩
  | delivered ready message =>
    exact ⟨⟨fun none_left => absurd none_left (late (.inl ready)), first, greeted⟩, early, late,
      negotiating⟩
  | fragmented websocket wsFragment => exact ⟨⟨quiet, first, greeted⟩, early, late, negotiating⟩
  | controlled websocket opcode payload => exact phased
  | closeNoted websocket => exact phased
  | closed websocket =>
    exact ⟨⟨quiet, first, greeted⟩, by simp [inboundView], by simp [inboundView],
      by simp [inboundView]⟩
  | handedOver ready flags payloadLen =>
    exact ⟨⟨quiet, first, greeted⟩, by simp [inboundView], fun _ => late (.inl ready),
      by simp [inboundView]⟩
  | resumed waiting =>
    exact ⟨⟨quiet, first, greeted⟩, by simp [inboundView],
      fun _ => late (.inr ⟨_, _, waiting⟩), by simp [inboundView]⟩

/-- A session which has delivered nothing, before its greeting or without one. -/
theorem Session.phased_start {session : Session} (no_events : session.events = [])
    (no_messages : session.messages = [])
    (start : session.state = .awaitingGreeting ∨
      session.state = .mechanismHandshake ∧ session.wsRole.isSome) :
    session.inboundView.Phased where
  quiet := fun _ => no_messages
  first := fun some_event => absurd no_events some_event
  greeted := fun some_event => absurd no_events some_event
  early := fun _ => no_events
  late := by
    rintro (phase | ⟨flags, size, phase⟩) <;> obtain waiting | ⟨negotiating, _⟩ := start
    all_goals simp_all [inboundView]
  negotiating := by
    intro phase plain
    obtain waiting | ⟨_, websocket⟩ := start
    · cases waiting.symm.trans phase
    · rw [show session.wsRole = none from plain] at websocket
      cases websocket

theorem Updates.phased {before after : Session} (updates : Updates before after)
    (phased : before.inboundView.Phased) : after.inboundView.Phased :=
  @Updates.invariant (fun session => session.inboundView.Phased)
    (fun update phased => update.phased phased) _ _ updates phased

section

variable [CurvePrimitives]

/-- A WebSocket session starts with the mechanism, or closed. -/
theorem Session.updates_initWsMode {session : Session} (websocket : session.wsRole.isSome) :
    Updates { session with state := .mechanismHandshake } session.initWsMode := by
  have tracks := (evolves_startMechanism { session with state := .mechanismHandshake }).1
  unfold initWsMode
  unfold Tracks at tracks
  cases result : startMechanism { session with state := .mechanismHandshake } with
  | ok value after => rwa [result] at tracks
  | error error after =>
    rw [result] at tracks
    have still : after.wsRole.isSome := tracks.wsRole_eq ▸ websocket
    exact tracks.tail (.closed still)

theorem Connection.phased_new (config : ConnectionConfig) (env : Environment) :
    (new config env).inboundView.Phased := by
  unfold new
  cases framing : config.wsRole with
  | none => exact phased_start rfl rfl (.inl rfl)
  | some role =>
    refine (updates_initWsMode ?_).phased (phased_start rfl rfl (.inr ⟨rfl, ?_⟩))
    all_goals rfl

/-! ## The greeting on the stream -/

/-- A greeting is refused and changes nothing, or is held by the session. -/
theorem Session.acceptGreeting_cases (session : Session) (greeting : Greeting) (raw : Bytes) :
    (∃ error, acceptGreeting greeting raw session = .error error session) ∨
      (finalState (acceptGreeting greeting raw session)).inboundView =
        (session.enterHandshake greeting raw).inboundView := by
  unfold acceptGreeting
  rw [run_bind, run_get]
  dsimp only
  split_ifs
  · exact .inl ⟨_, rfl⟩
  · exact .inl ⟨_, rfl⟩
  · exact .inr (leaves_startMechanism.finalState (session.enterHandshake greeting raw))

omit [CurvePrimitives] in
theorem Updates.peerGreeting_eq {before after : Session} (updates : Updates before after)
    (past : before.state ≠ .awaitingGreeting) :
    after.state ≠ .awaitingGreeting ∧ after.peerGreeting = before.peerGreeting := by
  refine @Updates.invariant (fun session => session.state ≠ .awaitingGreeting ∧
    session.peerGreeting = before.peerGreeting) ?_ _ _ updates ⟨past, rfl⟩
  intro middle next update kept
  cases update with
  | emitted _ payload =>
    have same := inboundView_emitCommandFrame middle payload
    exact ⟨(state_eq_of_inboundView same).symm ▸ kept.1,
      (congrArg InboundView.peerGreeting same).trans kept.2⟩
  | greeted greeting raw waiting => exact absurd waiting kept.1
  | succeeded => exact ⟨by simp [becomeReady], kept.2⟩
  | closed => exact ⟨by simp, kept.2⟩
  | handedOver => exact ⟨by simp, kept.2⟩
  | resumed => exact ⟨by simp, kept.2⟩
  | _ => exact kept

namespace Engine

variable {session : Session}

theorem updates_settle (plain : session.wsRole = none) (bytes : Bytes) :
    Updates session (machine.settle session bytes).state := by
  have kept : ∀ (middle : Session) (input : Bytes),
      middle.wsRole = none ∧ Updates session middle →
        ((step middle input).final middle).wsRole = none ∧
          Updates session ((step middle input).final middle) := by
    intro middle input ⟨framing, updates⟩
    have further := (advances_step framing input).1
    exact ⟨further.wsRole_eq.trans framing, updates.trans further⟩
  exact (machine.settle_invariant kept ⟨plain, .refl⟩ bytes).2

/-- When anything was delivered, the greeting is what the stream starts with. -/
theorem greeting_of_settle (plain : session.wsRole = none)
    (waiting : session.state = .awaitingGreeting) (no_events : session.events = [])
    (bytes : Bytes) :
    (machine.settle session bytes).state.events = [] ∨
      (machine.settle session bytes).state.peerGreeting = bytes.take greetingLen := by
  have first : machine.step session bytes = greetingStep session bytes := by
    show step session bytes = _
    rw [step, waiting]
  cases result : greetingStep session bytes with
  | stall =>
    rw [machine.settle_of_stall (first.trans result)]
    exact .inl no_events
  | fail after rest error =>
    rw [machine.settle_of_fail (first.trans result)]
    revert result
    fun_cases greetingStep session bytes <;> intro result
    case case4 greeting unread decoded =>
      cases accepted : acceptGreeting greeting (bytes.take greetingLen) session <;>
        rw [accepted] at result <;> cases result
      obtain ⟨error, refused⟩ | same :=
        session.acceptGreeting_cases greeting (bytes.take greetingLen)
      · cases accepted.symm.trans refused
        exact .inl no_events
      · rw [accepted] at same
        exact .inr (congrArg InboundView.peerGreeting same)
    all_goals cases result
    all_goals exact .inl no_events
  | move after rest =>
    rw [machine.settle_of_move (first.trans result)]
    obtain ⟨greeting, decoded, accepted⟩ := greetingStep_eq_move result
    obtain ⟨error, refused⟩ | same := session.acceptGreeting_cases greeting (bytes.take greetingLen)
    · cases accepted.symm.trans refused
    · rw [accepted] at same
      have negotiating : after.state = .mechanismHandshake := congrArg InboundView.state same
      have framing : after.wsRole = none := (congrArg InboundView.wsRole same).trans plain
      have kept := (updates_settle framing rest).peerGreeting_eq (by simp [negotiating])
      exact .inr (kept.2.trans (congrArg InboundView.peerGreeting same))

end Engine

end

/-! ## Safety -/

namespace Connection

section

variable [CurvePrimitives]

theorem awaiting_new {config : ConnectionConfig} (plain : config.wsRole = none)
    (env : Environment) :
    (new config env).wsRole = none ∧
      (new config env).state = .awaitingGreeting ∧
      (new config env).events = [] ∧ (new config env).inBuf = .new := by
  unfold new
  rw [plain]
  exact ⟨rfl, rfl, rfl, rfl⟩

/-- Handshake safety: whatever a connection is fed, every session on the way is safe, and in plain
framing the greeting which was checked is the start of the stream. -/
theorem handshake_safe (config : ConnectionConfig) (env : Environment) (chunks : List Bytes) :
    Updates (new config env).toSession
        (finalState (handleInputs chunks (new config env))).toSession ∧
      (∀ session, Updates (new config env).toSession session → session.Safe) ∧
      (config.wsRole = none →
        (finalState (handleInputs chunks (new config env))).events ≠ [] →
        (finalState (handleInputs chunks (new config env))).peerGreeting =
          chunks.flatten.take greetingLen) := by
  refine ⟨(evolves_handleInputs _ chunks).1, fun session updates =>
    (updates.phased (phased_new config env)).toSafe, fun plain delivered => ?_⟩
  obtain ⟨state_eq, _⟩ := stopOf_handleInputs_settle (settled_new plain env) chunks
  obtain ⟨framing, waiting, no_events, empty⟩ := awaiting_new plain env
  have state_stopOf (result : EStateM.Result Error Connection Unit) :
      (stopOf result).state = (finalState result).toSession := by
    cases result <;> rfl
  rw [state_stopOf, empty] at state_eq
  have greeting := Engine.greeting_of_settle framing waiting no_events chunks.flatten
  rw [state_eq] at delivered ⊢
  exact greeting.resolve_left delivered

end

/-- In WebSocket framing the handshake succeeds without any greeting. -/
theorem webSocket_succeeds_ungreeted :
    ∃ final : Connection,
      finalState (@handleInputs .transparent
        [(@Connection.new .transparent (.webSocket .client .server) .zero).pollTransmit]
        (@Connection.new .transparent (.webSocket .client .client) .zero)) = final ∧
      (∃ minor props, final.events = [.handshakeSucceeded minor props]) ∧
      ¬final.toSession.Greeted := by
  have events : (finalState (@handleInputs .transparent
      [(@Connection.new .transparent (.webSocket .client .server) .zero).pollTransmit]
      (@Connection.new .transparent (.webSocket .client .client) .zero))).events =
        [.handshakeSucceeded zmtpMinor (PeerProperties.new.withSocketType .pair)] := by
    decide +kernel
  have no_greeting : (finalState (@handleInputs .transparent
      [(@Connection.new .transparent (.webSocket .client .server) .zero).pollTransmit]
      (@Connection.new .transparent (.webSocket .client .client) .zero))).peerGreeting = [] := by
    decide +kernel
  refine ⟨_, rfl, ⟨_, _, events⟩, fun ⟨greeting, width, _⟩ => ?_⟩
  cases (congrArg List.length no_greeting).symm.trans width

/-- A plain NULL handshake succeeds, with a greeting which was checked. -/
theorem nullHandshake_safe :
    (finalState (@handleInputs .transparent [nullHandshake .pair]
        (@Connection.new .transparent (.null .client .pair) .zero))).events ≠ [] ∧
      (finalState (@handleInputs .transparent [nullHandshake .pair]
        (@Connection.new .transparent (.null .client .pair) .zero))).peerGreeting =
        [nullHandshake .pair].flatten.take greetingLen := by
  have delivered : (finalState (@handleInputs .transparent [nullHandshake .pair]
      (@Connection.new .transparent (.null .client .pair) .zero))).events ≠ [] := by
    decide +kernel
  exact ⟨delivered, (@handshake_safe .transparent (.null .client .pair) .zero
    [nullHandshake .pair]).2.2 rfl delivered⟩

end Connection

end Omq
