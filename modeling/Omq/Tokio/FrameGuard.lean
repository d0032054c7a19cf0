import Omq.Proto.Connection.Handshake
import Omq.Tokio.Steady

/-!
# Encrypted connections share no slot

A frame transform is installed by CURVE alone, when its handshake ends.  Socket handles frame
messages for a peer through its transmit slot, and no slot is built for a mechanism which encrypts;
so a driver whose connection has a transform has no slot.
-/

namespace Omq

open Attempt PartialWrite

namespace Session

/-- A frame transform is installed by a mechanism which encrypts, at the end of its handshake. -/
structure Guarded (setup : MechanismSetup) (session : Session) : Prop where
  configured : session.config.mechanism = setup
  installed : session.transform.isSome → setup.hasFrameTransform ∧
    session.state ≠ .awaitingGreeting ∧ session.state ≠ .mechanismHandshake
  negotiating : session.state = .awaitingGreeting ∨ session.state = .mechanismHandshake →
    session.mechanism.encrypts = setup.hasFrameTransform

variable {setup : MechanismSetup} {before after : Session}

theorem Guarded.of_view (guarded : before.Guarded setup)
    (view_eq : after.inboundView = before.inboundView)
    (mechanism_eq : after.state = .awaitingGreeting ∨ after.state = .mechanismHandshake →
      after.mechanism = before.mechanism) : after.Guarded setup := by
  have state_eq := state_eq_of_inboundView view_eq
  have transformed_eq : after.transform.isSome = before.transform.isSome :=
    congrArg InboundView.transformed view_eq
  have config_eq : after.config = before.config := congrArg InboundView.config view_eq
  refine ⟨config_eq ▸ guarded.configured, ?_, fun phase => ?_⟩
  · rw [transformed_eq, state_eq]
    exact guarded.installed
  · rw [mechanism_eq phase]
    exact guarded.negotiating (state_eq ▸ phase)

variable [CurvePrimitives]

theorem preserves_guarded_sendMessage (message : Message) :
    Preserves (Guarded setup) (sendMessage message) := by
  refine .of_finalState fun session guarded => ?_
  have view_eq := (leaves_sendMessage message).finalState session
  cases ready : session.isReady with
  | false => simpa [sendMessage, ready] using guarded
  | true =>
    have settled : session.state = .ready := by simpa [isReady] using ready
    have state_eq := state_eq_of_inboundView view_eq
    exact guarded.of_view view_eq fun phase => by simp [state_eq, settled] at phase

end Session

section

variable {setup : MechanismSetup} {before after : Session}

theorem Update.guarded (update : Update before after) (guarded : before.Guarded setup) :
    after.Guarded setup := by
  cases update with
  | emitted _ payload =>
    exact guarded.of_view (Session.inboundView_emitCommandFrame before payload) fun _ =>
      Session.mechanism_emitFrame before _ _
  | resealed installed next =>
    exact ⟨guarded.configured, fun _ => guarded.installed (by simp [installed]),
      guarded.negotiating⟩
  | adopted reply kind =>
    exact ⟨guarded.configured, guarded.installed, fun phase =>
      kind.trans (guarded.negotiating phase)⟩
  | greeted _ _ waiting =>
    exact ⟨guarded.configured, fun transformed =>
      absurd waiting (guarded.installed transformed).2.1,
      fun _ => guarded.negotiating (.inl waiting)⟩
  | succeeded negotiating _ _ built =>
    refine ⟨guarded.configured, fun transformed => ⟨?_, by simp [Session.becomeReady],
      by simp [Session.becomeReady]⟩, fun phase => by simp [Session.becomeReady] at phase⟩
    rw [← guarded.negotiating (.inr negotiating)]
    exact SecurityMechanism.encrypts_of_buildTransform built transformed
  | closed | handedOver | resumed =>
    exact ⟨guarded.configured, fun transformed =>
      ⟨(guarded.installed transformed).1, by simp, by simp⟩, by simp⟩
  | _ => exact ⟨guarded.configured, guarded.installed, guarded.negotiating⟩

variable [CurvePrimitives]

theorem Connection.guarded_new (settings : ConnectionConfig) (env : Environment) :
    (Connection.new settings env).Guarded settings.mechanism := by
  have kind := settings.mechanism.encrypts_build env
  unfold Connection.new
  cases framing : settings.wsRole with
  | none => exact ⟨rfl, by simp [Session.queueGreeting, Session.pushChunks], fun _ => kind⟩
  | some role =>
    exact (Session.updates_initWsMode rfl).invariant Update.guarded ⟨rfl, by simp, fun _ => kind⟩

end

theorem Session.stable_guarded [CurvePrimitives] (setup : MechanismSetup) :
    Session.Stable (Session.Guarded setup) where
  update := Update.guarded
  sends := preserves_guarded_sendMessage
  writes := fun _ _ guarded => ⟨guarded.configured, guarded.installed, guarded.negotiating⟩

/-- What the options and the routing strategy of a socket say about a new peer. -/
structure PeerOptions where
  driver : PeerDriverConfig
  connection : ConnectionConfig
  encoder : Option MessageEncoder
  compressionPool : Option CompressionPool
  offloadThreshold : Nat
  /-- The routing strategy frames messages itself. -/
  needsTransmitSlot : Bool
  transmitSlotCap : Option Nat
  sendHwm : Nat
  arenaThreshold : Nat
  sendPipe : Option SendPipe

namespace Driver

variable [CurvePrimitives]

/-- The driver which the socket starts for a new peer. -/
def spawn (options : PeerOptions) (env : Environment) : Driver :=
  .new options.driver (Connection.new options.connection env)
    (.new options.encoder options.compressionPool options.offloadThreshold)
    (buildTransmitSlot options.connection.mechanism options.needsTransmitSlot
      options.encoder.isSome (options.encoder.map MessageEncoder.kind)
      (options.encoder.bind MessageEncoder.passthroughInfo) options.arenaThreshold
      options.transmitSlotCap options.sendHwm options.connection.wsRole)
    options.sendPipe options.arenaThreshold

variable [CompressionPrimitives]

/-- In every reachable state a connection with a frame transform is past its handshake, nothing
waits in front of its queue, and no socket handle frames messages for it. -/
theorem steady_of_reaches {options : PeerOptions} {env : Environment} {driver : Driver}
    (reached : Transition.Reaches step (spawn options env) driver) :
    driver.Steady (Session.Guarded options.connection.mechanism)
      options.connection.mechanism.hasFrameTransform :=
  reached.invariant (fun _ stepped steady => steady.step (Session.stable_guarded _) stepped)
    ⟨Connection.guarded_new options.connection env, fun _ => ⟨rfl, rfl⟩,
      fun encrypts => by simp [spawn, new, buildTransmitSlot, encrypts]⟩

end Driver

end Omq
