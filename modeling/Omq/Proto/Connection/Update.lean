import Omq.Proto.Connection.Effects

/-!
# What input can do to a session

Every way input reaches a session, in plain framing, WebSocket framing or by a supplied payload,
and whether it succeeds or fails, is a sequence of the updates listed here.  An invariant of the
single updates therefore holds after any input.
-/

namespace Omq

open Attempt

/-- One update input can make. -/
inductive Update : Session → Session → Prop
  | emitted (session : Session) (payload : Bytes) :
      Update session (session.emitCommandFrame payload)
  | resealed {session : Session} {transform : CurveTransform}
      (installed : session.transform = some transform) (next : CurveTransform) :
      Update session (session.withTransform (some next))
  | adopted {α : Type} {session : Session} (reply : Reply SecurityMechanism α)
      (kind : reply.mechanism.encrypts = session.mechanism.encrypts) :
      Update session (session.adopt reply)
  | greeted {session : Session} (greeting : Greeting) (raw : Bytes)
      (waiting : session.state = .awaitingGreeting) (plain : session.wsRole = none)
      (parsed : ∃ width, Greeting.parse raw width = .ok greeting)
      (agreed : greeting.mechanism = session.config.mechanism.wireName)
      (legal : ¬(session.config.mechanism.wireName = .null ∧ greeting.asServer)) :
      Update session (session.enterHandshake greeting raw)
  | succeeded {session : Session} {props : PeerProperties} {peerType : SocketType}
      {transform : Option CurveTransform} (negotiating : session.state = .mechanismHandshake)
      (declared : props.socketType = some peerType)
      (compatible : isCompatible session.config.socketType peerType = true)
      (built : session.mechanism.buildTransform = .ok transform) :
      Update session (session.becomeReady transform props)
  | announced {session : Session} (ready : session.state = .ready) (command : Command) :
      Update session (session.withCommand command)
  | collected {session : Session} (ready : session.state = .ready) (parts : List Payload)
      (size : Nat) : Update session (session.withPending parts size)
  | delivered {session : Session} (ready : session.state = .ready) (message : Message) :
      Update session (session.withMessage message)
  | fragmented {session : Session} (websocket : session.wsRole.isSome)
      (wsFragment : Option Bytes) :
      Update session (Connection.withFragment session wsFragment)
  | controlled {session : Session} (websocket : session.wsRole.isSome) (opcode : WsOpcode)
      (payload : Bytes) : Update session (session.queueWsControl opcode payload)
  | closeNoted {session : Session} (websocket : session.wsRole.isSome) :
      Update session { session with wsCloseSent := true }
  | closed {session : Session} (websocket : session.wsRole.isSome) :
      Update session { session with state := .closed }
  | handedOver {session : Session} (ready : session.state = .ready) (flags : FrameFlags)
      (payloadLen : Nat) :
      Update session { session with state := .awaitingSuppliedPayload flags payloadLen }
  | resumed {session : Session} {flags : FrameFlags} {payloadLen : Nat}
      (waiting : session.state = .awaitingSuppliedPayload flags payloadLen) :
      Update session { session with state := .ready }

abbrev Updates : Session → Session → Prop := Relation.ReflTransGen Update

theorem Updates.invariant {property : Session → Prop}
    (keeps : ∀ {before after}, Update before after → property before → property after)
    {before after : Session} (updates : Updates before after) (holds : property before) :
    property after := by
  induction updates with
  | refl => exact holds
  | tail _ update induction => exact keeps update induction

/-- The state a method ends in, returned or failed, is reached by updates. -/
def Tracks {σ α : Type} (view : σ → Session) (before : Session)
    (result : EStateM.Result Error σ α) : Prop :=
  Updates before (view (finalState result))

namespace Tracks

variable {σ α β : Type} {view : σ → Session} {before : Session}
  {result : EStateM.Result Error σ α} {first : EStateM Error σ α} {state : σ}

theorem refl (same : view (finalState result) = before) : Tracks view before result := by
  unfold Tracks
  rw [same]

/-- A sequence is tracked when the first part is and every way to go on is. -/
theorem bind {next : α → EStateM Error σ β} (first_tracks : Tracks view before (first state))
    (next_tracks : ∀ value after, first state = .ok value after →
      Tracks view (view after) (next value after)) :
    Tracks view before ((first >>= next) state) := by
  rw [run_bind]
  unfold Tracks at first_tracks
  cases result : first state with
  | ok value after =>
    rw [result] at first_tracks
    exact first_tracks.trans (next_tracks value after result)
  | error error after =>
    rw [result] at first_tracks
    exact first_tracks

theorem ite {condition : Prop} [Decidable condition] {second : EStateM Error σ α}
    (first_tracks : condition → Tracks view before (first state))
    (second_tracks : ¬condition → Tracks view before (second state)) :
    Tracks view before ((if condition then first else second) state) := by
  split
  next holds => exact first_tracks holds
  next fails => exact second_tracks fails

end Tracks

theorem Update.wsRole_eq {before after : Session} (update : Update before after) :
    after.wsRole = before.wsRole := by
  cases update with
  | emitted _ payload =>
    exact congrArg InboundView.wsRole (Session.inboundView_emitCommandFrame before payload)
  | _ => rfl

theorem Updates.wsRole_eq {before after : Session} (updates : Updates before after) :
    after.wsRole = before.wsRole :=
  @Updates.invariant (fun session => session.wsRole = before.wsRole)
    (fun update same => update.wsRole_eq.trans same) _ _ updates rfl

/-! ## Accepted input -/

/-- The phases of a connection which takes input: a greeting is awaited in plain framing only, and
only a WebSocket peer closes. -/
def InboundView.Open (view : InboundView) : Prop :=
  match view.state with
  | .awaitingGreeting => view.wsRole = none
  | .awaitingSuppliedPayload _ _ => False
  | .closed => view.wsRole.isSome
  | _ => True

theorem InboundView.receptive_iff (view : InboundView) :
    view.Receptive ↔ view.wsRole = none ∧ view.Open := by
  cases phase : view.state <;> simp +contextual [Receptive, Open, phase]

/-- What accepted input keeps. -/
structure Session.Keeps (before after : Session) : Prop where
  framing : after.wsRole = before.wsRole
  phase : before.inboundView.Open → after.inboundView.Open
  charged : before.Charged → after.Charged

namespace Session.Keeps

variable {before middle after : Session}

theorem of_view (same : after.inboundView = before.inboundView) : before.Keeps after :=
  ⟨congrArg InboundView.wsRole same, fun phase => same ▸ phase,
    fun charged => show after.inboundView.Charged from same ▸ charged⟩

theorem trans (first : before.Keeps middle) (second : middle.Keeps after) : before.Keeps after :=
  ⟨second.framing.trans first.framing, second.phase ∘ first.phase, second.charged ∘ first.charged⟩

theorem receptive (keeps : before.Keeps after) (receptive : before.inboundView.Receptive) :
    after.inboundView.Receptive := by
  rw [InboundView.receptive_iff] at receptive ⊢
  exact ⟨keeps.framing.trans receptive.1, keeps.phase receptive.2⟩

end Session.Keeps

/-- The end of a method is reached by updates, which keep what they should if it returns. -/
def Evolves {σ α : Type} (view : σ → Session) (before : Session)
    (result : EStateM.Result Error σ α) : Prop :=
  Tracks view before result ∧ ∀ value after, result = .ok value after → before.Keeps (view after)

namespace Evolves

variable {σ α β : Type} {view : σ → Session} {before : Session}
  {result : EStateM.Result Error σ α} {first : EStateM Error σ α} {state : σ}

theorem refl (same : view (finalState result) = before) : Evolves view before result := by
  refine ⟨.refl same, ?_⟩
  rintro value after rfl
  exact .of_view (congrArg _ same)

theorem error {error : Error} (updates : Updates before (view state)) :
    Evolves view before (.error error state : EStateM.Result Error σ α) :=
  ⟨updates, nofun⟩

theorem single (update : Update before (view (finalState result)))
    (keeps : before.Keeps (view (finalState result))) : Evolves view before result := by
  refine ⟨Relation.ReflTransGen.single update, ?_⟩
  rintro value after rfl
  exact keeps

theorem after {middle : Session} (update : Update before middle) (keeps : before.Keeps middle)
    (evolves : Evolves view middle result) : Evolves view before result :=
  ⟨.head update evolves.1, fun value after returned => keeps.trans (evolves.2 value after returned)⟩

/-- A sequence evolves when the first part does and every way to go on does. -/
theorem bind {next : α → EStateM Error σ β} (first_evolves : Evolves view before (first state))
    (next_evolves : ∀ value after, first state = .ok value after →
      Evolves view (view after) (next value after)) :
    Evolves view before ((first >>= next) state) := by
  refine ⟨.bind first_evolves.1 fun value after returned => (next_evolves value after returned).1,
    fun value after returned => ?_⟩
  obtain ⟨found, middle, first_eq, next_eq⟩ := bind_eq_ok.mp returned
  exact (first_evolves.2 _ _ first_eq).trans ((next_evolves _ _ first_eq).2 _ _ next_eq)

/-- A pure computation hands the state on. -/
theorem ofExcept_bind {result : Except Error α} {next : α → EStateM Error σ β}
    (same : view state = before)
    (next_evolves : ∀ value, result = .ok value → Evolves view before (next value state)) :
    Evolves view before ((Attempt.ofExcept result >>= next) state) := by
  cases result with
  | ok value => exact next_evolves value rfl
  | error error => exact refl same

theorem ite {condition : Prop} [Decidable condition] {second : EStateM Error σ α}
    (first_evolves : condition → Evolves view before (first state))
    (second_evolves : ¬condition → Evolves view before (second state)) :
    Evolves view before ((if condition then first else second) state) := by
  split
  next holds => exact first_evolves holds
  next fails => exact second_evolves fails

end Evolves

namespace Session

variable {session : Session}

theorem evolves_absorbDataFrame (ready : session.state = .ready) (more : Bool) (payload : Payload) :
    Evolves id session (absorbDataFrame more payload session) := by
  cases exceeds : session.exceedsMax (session.chargedSize payload) with
  | some max =>
    rw [absorbDataFrame_of_exceeds exceeds]
    exact .error (.single (.collected ready _ _))
  | none =>
    cases more with
    | true =>
      rw [absorbDataFrame_more exceeds]
      exact .single (.collected ready _ _)
        ⟨rfl, fun phase => phase, fun charged => charged.chargedSize_eq payload⟩
    | false =>
      rw [absorbDataFrame_last exceeds]
      have still_ready : (session.withPending [] 0).state = .ready := ready
      exact .after (.collected ready [] 0) ⟨rfl, fun phase => phase, fun _ => rfl⟩
        (.single (.delivered still_ready _) ⟨rfl, fun phase => phase, fun charged => charged⟩)

theorem evolves_completeHandshake (negotiating : session.state = .mechanismHandshake)
    (props : PeerProperties) : Evolves id session (completeHandshake props session) := by
  obtain ⟨error, refused⟩ | ⟨peerType, transform, declared, compatible, built, completed⟩ :=
    completeHandshake_cases session props
  · rw [refused]
    exact .refl rfl
  · rw [completed]
    exact .single (.succeeded negotiating declared compatible built)
      ⟨rfl, fun _ => trivial, fun charged => charged⟩

variable [CurvePrimitives]

theorem evolves_writeOutboundCommand (session : Session) (command : Command) :
    Evolves id session (writeOutboundCommand command session) := by
  cases active : session.activeTransform with
  | none =>
    have result : writeOutboundCommand command session =
        .ok () (session.emitCommandFrame command.encode) := by
      simp [writeOutboundCommand, active]
    rw [result]
    exact .single (.emitted session _) (.of_view (inboundView_emitCommandFrame session _))
  | some transform =>
    obtain ⟨current, installed⟩ := Option.isSome_iff_exists.mp (transform_of_activeTransform active)
    cases encrypted : transform.encryptMessage false true command.encode with
    | error error =>
      refine .refl ?_
      simp [writeOutboundCommand, active, encrypted]
    | ok sent =>
      have result : writeOutboundCommand command session =
          .ok () ((session.withTransform (some sent.2)).emitCommandFrame
            (CurveTransform.messageCommandFrame sent.1)) := by
        simp [writeOutboundCommand, active, encrypted]
      rw [result]
      exact .after (.resealed installed sent.2)
        (.of_view (inboundView_withTransform (by rw [installed]; rfl) _))
        (.single (.emitted _ _) (.of_view (inboundView_emitCommandFrame _ _)))

theorem evolves_writeOutboundCommands (session : Session) (commands : List Command) :
    Evolves id session (writeOutboundCommands commands session) := by
  induction commands generalizing session with
  | nil => exact .refl rfl
  | cons command rest induction =>
    exact .bind (evolves_writeOutboundCommand session command) fun _ after _ => induction after

theorem evolves_sendCommand (session : Session) (command : Command) :
    Evolves id session (sendCommand command session) := by
  cases ready : session.isReady with
  | true =>
    have sent : sendCommand command session = writeOutboundCommands [command] session := by
      simp [sendCommand, ready]
    rw [sent]
    exact evolves_writeOutboundCommands session [command]
  | false => exact .refl (by simp [sendCommand, ready])

theorem evolves_startMechanism (session : Session) :
    Evolves id session (startMechanism session) := by
  unfold startMechanism
  rw [run_bind, run_get]
  refine .after (.adopted (session.mechanism.start session.env session.ourProps)
    (SecurityMechanism.encrypts_start _ _ _)) (.of_view rfl) ?_
  exact .ofExcept_bind rfl fun _ _ => evolves_writeOutboundCommands _ _

theorem evolves_handlePostHandshakeCommand (ready : session.state = .ready) (command : Command) :
    Evolves id session (handlePostHandshakeCommand command session) := by
  cases command with
  | ready props => exact .refl rfl
  | error reason => exact .refl rfl
  | ping ttl context => exact evolves_writeOutboundCommands _ _
  | pong context => exact .refl rfl
  | _ => exact .single (.announced ready _) ⟨rfl, fun phase => phase, fun charged => charged⟩

theorem evolves_dispatchContent (ready : session.state = .ready) (command more : Bool)
    (payload : Payload) : Evolves id session (dispatchContent command more payload session) := by
  cases command with
  | false => exact evolves_absorbDataFrame ready more payload
  | true => exact .ofExcept_bind rfl fun _ _ => evolves_handlePostHandshakeCommand ready _

theorem evolves_decodeAssembledFrame (ready : session.state = .ready) (flags : FrameFlags)
    (payload : Payload) : Evolves id session (decodeAssembledFrame flags payload session) := by
  cases installed : session.transform with
  | none =>
    rw [decodeAssembledFrame_of_none installed]
    exact evolves_dispatchContent ready _ _ _
  | some transform =>
    obtain ⟨error, refused⟩ | ⟨command, more, content, next, opened⟩ :=
      decodeAssembledFrame_of_some installed flags payload
    · rw [refused]
      exact .refl rfl
    · rw [opened]
      have still_ready : (session.withTransform (some next)).state = .ready := ready
      exact .after (.resealed installed next)
        (.of_view (inboundView_withTransform (by rw [installed]; rfl) _))
        (evolves_dispatchContent still_ready _ _ _)

theorem evolves_followReply (negotiating : session.state = .mechanismHandshake)
    (reply : Reply SecurityMechanism MechanismStep) :
    Evolves id session (followReply reply session) := by
  refine .ofExcept_bind rfl fun step _ => ?_
  refine .bind (evolves_writeOutboundCommands session reply.out) fun _ after written => ?_
  have view_eq := (leaves_writeOutboundCommands reply.out).of_ok written
  cases step with
  | «continue» => exact .refl rfl
  | complete props =>
    exact evolves_completeHandshake ((state_eq_of_inboundView view_eq).trans negotiating) props

theorem evolves_processMechanismCommand (negotiating : session.state = .mechanismHandshake)
    (payload : Bytes) : Evolves id session (processMechanismCommand payload session) := by
  refine .ofExcept_bind rfl fun command _ => ?_
  let reply := session.mechanism.onCommand session.env command
  have still_negotiating : (session.adopt reply).state = .mechanismHandshake := negotiating
  exact .after (.adopted reply (SecurityMechanism.encrypts_onCommand _ _ _)) (.of_view rfl)
    (evolves_followReply still_negotiating reply)

theorem evolves_acceptGreeting (waiting : session.state = .awaitingGreeting)
    (plain : session.wsRole = none) {greeting : Greeting} {raw : Bytes}
    (parsed : ∃ width, Greeting.parse raw width = .ok greeting) :
    Evolves id session (acceptGreeting greeting raw session) := by
  unfold acceptGreeting
  rw [run_bind, run_get]
  dsimp only
  split_ifs with differs illegal
  · exact .refl rfl
  · exact .refl rfl
  · exact .after (.greeted greeting raw waiting plain parsed (not_not.mp differs) illegal)
      ⟨rfl, fun _ => trivial, fun charged => charged⟩ (evolves_startMechanism _)

end Session

namespace Connection

variable {connection : Connection}

open Session

theorem evolves_onSession {α : Type} {method : SessionM α}
    (evolves : Evolves id connection.toSession (method connection.toSession)) :
    Evolves toSession connection.toSession (onSession method connection) := by
  unfold onSession
  cases result : method connection.toSession with
  | ok value session =>
    rw [result] at evolves
    exact ⟨evolves.1, fun _ _ returned => by cases returned; exact evolves.2 _ _ rfl⟩
  | error error session =>
    rw [result] at evolves
    exact .error evolves.1

/-- A frame is taken off the input buffer and acted on. -/
theorem evolves_consume {α : Type} {method : SessionM Unit} (inBuf : ChunkedInputBuf) (answer : α)
    (evolves : Evolves id connection.toSession (method connection.toSession)) :
    Evolves toSession connection.toSession
      ((do setInBuf inBuf; onSession method; return answer : ConnectionM α) connection) :=
  Evolves.bind (.refl rfl) fun _ after after_eq => by
    cases after_eq
    exact .bind (evolves_onSession evolves) fun _ _ _ => .refl rfl

variable {session : Session}

theorem evolves_deliver (ready : session.state = .ready) (message : Message) :
    Evolves id session (deliver message session) :=
  .single (.delivered ready message) ⟨rfl, fun phase => phase, fun charged => charged⟩

theorem evolves_driveLoop {turn : ConnectionM Bool} {wsRole : Option WsRole}
    (turn_tracks : ∀ connection : Connection, connection.wsRole = wsRole →
      Evolves toSession connection.toSession (turn connection))
    (fuel : Nat) (framing : connection.wsRole = wsRole) :
    Evolves toSession connection.toSession (driveLoop turn fuel connection) := by
  induction fuel generalizing connection with
  | zero => exact .refl rfl
  | succ fuel induction =>
    have first := turn_tracks connection framing
    refine .bind first fun progress after turn_eq => ?_
    have kept : after.wsRole = wsRole := (first.2 _ _ turn_eq).framing.trans framing
    cases progress with
    | true => exact induction kept
    | false => exact .refl rfl

variable [CurvePrimitives]

theorem evolves_tryAdvanceGreeting
    (waiting : connection.state = .awaitingGreeting) (plain : connection.wsRole = none) :
    Evolves toSession connection.toSession (tryAdvanceGreeting connection) := by
  unfold tryAdvanceGreeting
  rw [run_bind, run_get]
  cases decoded : Greeting.tryDecode connection.inBuf with
  | incomplete => simp only [decoded]; exact .refl rfl
  | refused error => simp only [decoded]; exact .refl rfl
  | consumed result rest =>
    simp only [decoded]
    cases result with
    | error error => exact .refl rfl
    | ok greeting =>
      have flat : Greeting.flatDecode connection.inBuf.bytes =
          .consumed (.ok greeting) rest.bytes := by
        rw [← Greeting.tryDecode_eq, decoded]
        rfl
      exact evolves_consume rest true
        (evolves_acceptGreeting waiting plain (Greeting.parse_of_consumed flat))

theorem evolves_tryAdvanceMechanism (negotiating : connection.state = .mechanismHandshake) :
    Evolves toSession connection.toSession (tryAdvanceMechanism connection) := by
  unfold tryAdvanceMechanism
  rw [run_bind, run_get]
  refine .ofExcept_bind rfl fun header _ => ?_
  cases header.filter fun header => maxHandshakeCommand < header.payloadLen with
  | some header => exact .refl rfl
  | none =>
    refine .ofExcept_bind rfl fun decoded _ => ?_
    cases decoded with
    | none => exact .refl rfl
    | some decoded =>
      cases command : decoded.1.flags.command with
      | false => simp only [command]; exact .refl rfl
      | true =>
        simp only [command]
        exact evolves_consume decoded.2 true (evolves_processMechanismCommand negotiating _)

theorem evolves_tryAdvanceReady (ready : connection.state = .ready) :
    Evolves toSession connection.toSession (tryAdvanceReady connection) := by
  unfold tryAdvanceReady
  rw [run_bind, run_get]
  refine .ofExcept_bind rfl fun header _ => ?_
  cases header with
  | some header =>
    refine .ofExcept_bind rfl fun _ _ => ?_
    exact evolves_consume _ true (evolves_deliver ready _)
  | none =>
    refine .ofExcept_bind rfl fun _ _ => ?_
    refine .ofExcept_bind rfl fun decoded _ => ?_
    cases decoded with
    | none => exact .refl rfl
    | some frame =>
      exact evolves_consume frame.2 true (evolves_decodeAssembledFrame ready _ _)

theorem evolves_tryAdvance (plain : connection.wsRole = none) :
    Evolves toSession connection.toSession (tryAdvance connection) := by
  unfold tryAdvance
  rw [run_bind, run_get]
  cases phase : connection.state with
  | awaitingGreeting => simp only [phase]; exact evolves_tryAdvanceGreeting phase plain
  | mechanismHandshake => simp only [phase]; exact evolves_tryAdvanceMechanism phase
  | ready => simp only [phase]; exact evolves_tryAdvanceReady phase
  | awaitingSuppliedPayload flags payloadLen => simp only [phase]; exact .refl rfl
  | closed => simp only [phase]; exact .refl rfl

/-! ## WebSocket framing -/

theorem evolves_dispatchWsBinary (session : Session) (flags : FrameFlags) (payload : Payload) :
    Evolves id session (dispatchWsBinary flags payload session) := by
  unfold dispatchWsBinary
  rw [run_bind, run_get]
  cases phase : session.state with
  | mechanismHandshake =>
    simp only [phase]
    cases flags.command with
    | false => exact .refl rfl
    | true => exact evolves_processMechanismCommand phase _
  | ready => simp only [phase]; exact evolves_decodeAssembledFrame phase flags payload
  | _ => simp only [phase]; exact .refl rfl

theorem evolves_dispatchWsPayload (session : Session) (raw : Bytes) :
    Evolves id session (dispatchWsPayload raw session) := by
  cases raw with
  | nil => exact .refl rfl
  | cons flag body => exact .ofExcept_bind rfl fun flags _ => evolves_dispatchWsBinary _ _ _

theorem evolves_handleWsDataFrame (websocket : session.wsRole.isSome) (raw : Bytes)
    (header : WsFrameHeader) : Evolves id session (handleWsDataFrame raw header session) := by
  unfold handleWsDataFrame
  rw [run_bind, run_get]
  dsimp only
  split
  · split
    · exact .refl rfl
    · split
      · exact evolves_dispatchWsPayload session raw
      · exact .single (.fragmented websocket _) ⟨rfl, fun phase => phase, fun charged => charged⟩
  · cases session.wsFragment with
    | none => exact .refl rfl
    | some assembled =>
      refine .after (.fragmented websocket none)
        ⟨rfl, fun phase => phase, fun charged => charged⟩ ?_
      dsimp only
      by_cases overflow : usizeMax < assembled.length + raw.length
      · simp only [if_pos overflow]
        exact .refl rfl
      · simp only [if_neg overflow]
        cases (wsPayloadCap session).filter fun cap => cap < assembled.length + raw.length with
        | some cap => exact .refl rfl
        | none =>
          cases header.fin with
          | true => exact evolves_dispatchWsPayload (withFragment session none) _
          | false =>
            have restarted : (withFragment session none).wsRole.isSome := websocket
            exact .single (.fragmented restarted _)
              ⟨rfl, fun phase => phase, fun charged => charged⟩

omit [CurvePrimitives] in
theorem evolves_handleWsClose (websocket : session.wsRole.isSome) (raw : Bytes) :
    Evolves id session (.ok () (handleWsClose session raw)) := by
  unfold handleWsClose queueWsClose
  split
  · exact .single (.closed websocket) ⟨rfl, fun _ => websocket, fun charged => charged⟩
  · refine .after (.closeNoted websocket) (.of_view rfl) (.after (.controlled ?_ .close _)
      (.of_view rfl) (.single (.closed ?_) ⟨rfl, fun _ => websocket, fun charged => charged⟩))
    · exact websocket
    · exact websocket

theorem evolves_tryAdvanceReadyWs (ready : connection.state = .ready) (peerRole : WsRole) :
    Evolves toSession connection.toSession (tryAdvanceReadyWs peerRole connection) := by
  unfold tryAdvanceReadyWs
  rw [run_bind, run_get]
  dsimp only
  cases connection.inBuf.peekArray 2 with
  | none => exact .refl rfl
  | some firstTwo =>
    refine .ite (fun _ => .refl rfl) fun _ => .ite (fun _ => .refl rfl) fun _ => ?_
    cases connection.exceedsMax
      (saturatingAdd ((firstTwo.getD 1 0 &&& 0x7F).toNat - 1) payloadSlot) with
    | some max => exact .refl rfl
    | none =>
      refine .ite (fun _ => ?_) fun _ => ?_
      · refine .ofExcept_bind rfl fun flags _ => ?_
        exact evolves_consume _ (some true) (evolves_dispatchWsBinary _ flags _)
      · exact evolves_consume _ (some true) (evolves_deliver ready _)

theorem evolves_tryAdvanceWsFrame (websocket : connection.wsRole.isSome) (peerRole : WsRole) :
    Evolves toSession connection.toSession (tryAdvanceWsFrame peerRole connection) := by
  unfold tryAdvanceWsFrame
  rw [run_bind, run_get]
  refine .ofExcept_bind rfl fun header _ => ?_
  cases header with
  | none => exact .refl rfl
  | some header =>
    refine .ofExcept_bind rfl fun _ _ => ?_
    dsimp only
    split
    · exact .refl rfl
    · cases header.opcode with
      | binary => exact evolves_consume _ true (evolves_handleWsDataFrame websocket _ _)
      | continuation => exact evolves_consume _ true (evolves_handleWsDataFrame websocket _ _)
      | close => exact evolves_consume _ false (evolves_handleWsClose websocket _)
      | ping =>
        exact evolves_consume _ true (.single (.controlled websocket .pong _) (.of_view rfl))
      | pong => exact .refl rfl

theorem evolves_tryAdvanceWs (websocket : connection.wsRole.isSome) (peerRole : WsRole) :
    Evolves toSession connection.toSession (tryAdvanceWs peerRole connection) := by
  unfold tryAdvanceWs
  rw [run_bind, run_get]
  dsimp only
  split
  · exact .refl rfl
  · split
    next fast =>
      have first := evolves_tryAdvanceReadyWs fast.1 peerRole
      refine .bind first fun result after after_eq => ?_
      cases result with
      | some progress => exact .refl rfl
      | none =>
        have still : after.wsRole.isSome := (first.2 _ _ after_eq).framing ▸ websocket
        exact evolves_tryAdvanceWsFrame still peerRole
    · exact evolves_tryAdvanceWsFrame websocket peerRole

/-! ## Input -/

theorem evolves_drive (connection : Connection) :
    Evolves toSession connection.toSession (drive connection) := by
  unfold drive
  rw [run_bind, run_get]
  cases framing : connection.wsRole with
  | none =>
    simp only [framing]
    exact evolves_driveLoop (fun _ plain => evolves_tryAdvance plain) _ framing
  | some role =>
    simp only [framing]
    refine evolves_driveLoop (fun _ same => ?_) _ framing
    exact evolves_tryAdvanceWs (by rw [same]; rfl) _

theorem evolves_handleInput (connection : Connection) (source : Bytes) :
    Evolves toSession connection.toSession (handleInput source connection) := by
  unfold handleInput
  rw [run_bind, run_get]
  have fed : Evolves toSession connection.toSession
      ((if source = [] then return () else do
        modify fun connection => connection.receive source
        drive : ConnectionM Unit) connection) :=
    .ite (fun _ => .refl rfl) fun _ => evolves_drive (connection.receive source)
  cases phase : connection.state with
  | closed => simp only [phase]; exact .refl rfl
  | awaitingSuppliedPayload flags payloadLen => simp only [phase]; exact .refl rfl
  | _ => simp only [phase]; exact fed

theorem evolves_handleInputs (connection : Connection) (chunks : List Bytes) :
    Evolves toSession connection.toSession (handleInputs chunks connection) := by
  induction chunks generalizing connection with
  | nil => exact .refl rfl
  | cons chunk chunks induction =>
    exact .bind (evolves_handleInput connection chunk) fun _ after _ => induction after

omit [CurvePrimitives] in
theorem updates_beginSuppliedPayloadWithPrefix (connection : Connection) :
    Updates connection.toSession connection.beginSuppliedPayloadWithPrefix.2.toSession := by
  unfold beginSuppliedPayloadWithPrefix suppliedHeader
  by_cases idle : connection.state ≠ .ready ∨ connection.wsRole.isSome
  · rw [if_pos idle]
  · rw [if_neg idle]
    have ready : connection.state = .ready := not_not.mp (not_or.mp idle).1
    dsimp only
    split
    · exact .refl
    · split
      · exact .refl
      · exact .single (.handedOver ready _ _)

theorem evolves_supplyPayload (connection : Connection) (payload : Bytes) :
    Evolves toSession connection.toSession (supplyPayload payload connection) := by
  unfold supplyPayload
  rw [run_bind, run_get]
  cases phase : connection.state with
  | awaitingSuppliedPayload flags payloadLen =>
    simp only [phase]
    refine .ite (fun _ => .refl rfl) fun _ => ?_
    refine .bind (evolves_onSession (.single (.resumed phase)
      ⟨rfl, fun _ => trivial, fun charged => charged⟩)) fun _ ready ready_eq => ?_
    cases ready_eq
    exact .bind (evolves_onSession (evolves_decodeAssembledFrame rfl flags _))
      fun _ after _ => evolves_drive after
  | closed => simp only [phase]; exact .refl rfl
  | _ => simp only [phase]; exact .refl rfl

end Connection

end Omq
