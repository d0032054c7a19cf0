import Omq.Proto.Connection.Emission
import Omq.Proto.Connection.Feed

/-!
# Agreement of two NULL peers

Two connections exchange greetings and READY commands over two byte streams which may be cut
anywhere.  What a side has received determines its phase and what it has emitted, so that neither
side fails and both are ready once every byte has arrived.
-/

namespace Omq

open Attempt Incremental Function Transition List Session Engine Greeting

def nullGreeting : Bytes := (current .null false).encode

namespace ConnectionConfig

variable (config : ConnectionConfig)

def announced : PeerProperties :=
  ⟨some config.socketType, if config.identity = [] then none else some config.identity, []⟩

def readyPayload : Bytes := (Command.ready config.announced).encode

def readyFrame : Bytes :=
  encodeFrame ⟨.commandFrame, .fromBytes config.readyPayload⟩

/-- A NULL configuration in plain framing whose READY fits the limit of handshake commands. -/
structure PlainNull (config : ConnectionConfig) : Prop where
  null : config.mechanism = .null
  plain : config.wsRole = none
  fits : config.readyPayload.length ≤ maxHandshakeCommand

end ConnectionConfig

namespace Session

theorem ourProps_eq (session : Session) : session.ourProps = session.config.announced := by
  unfold ourProps ConnectionConfig.announced
  split
  next anonymous => rfl
  next named => simp [PeerProperties.withIdentity, PeerProperties.withSocketType,
    PeerProperties.new, named]

/-- A NULL session in a phase of the handshake, which has delivered nothing but the events. -/
structure InPhase (config : ConnectionConfig) (state : State) (mechanism : NullState)
    (events : List Event) (session : Session) : Prop where
  config_eq : session.config = config
  plain : session.wsRole = none
  state_eq : session.state = state
  mechanism_eq : session.mechanism = .null mechanism
  events_eq : session.events = events
  no_messages : session.messages = []
  no_parts : session.pendingParts = [] ∧ session.pendingSize = 0
  minor_eq : session.peerMinor = zmtpMinor

abbrev Waiting (config : ConnectionConfig) (session : Session) : Prop :=
  session.InPhase config .awaitingGreeting .notStarted []

/-- The session has the greeting and waits for READY. -/
abbrev Negotiating (config : ConnectionConfig) (session : Session) : Prop :=
  session.InPhase config .mechanismHandshake .awaitingReady []

/-- The session is ready and has reported the peer's properties. -/
abbrev Agreed (config peer : ConnectionConfig) (session : Session) : Prop :=
  session.InPhase config .ready .done [.handshakeSucceeded zmtpMinor peer.announced]

variable {config : ConnectionConfig} {state : State} {events : List Event} {session : Session}

theorem InPhase.advanceTransmit {mechanism : NullState}
    (phase : session.InPhase config state mechanism events) (count : Nat) :
    (session.advanceTransmit count).InPhase config state mechanism events :=
  ⟨phase.config_eq, phase.plain, phase.state_eq, phase.mechanism_eq, phase.events_eq,
    phase.no_messages, phase.no_parts, phase.minor_eq⟩

theorem InPhase.emitCommandFrame {mechanism : NullState}
    (phase : session.InPhase config state mechanism events) (payload : Bytes) :
    (session.emitCommandFrame payload).InPhase config state mechanism events := by
  have queued : session.emitCommandFrame payload =
      session.pushChunks (encodeFrameInto ⟨.commandFrame, .fromBytes payload⟩) := by
    simp [Session.emitCommandFrame, emitFrame, phase.plain]
  rw [queued]
  exact ⟨phase.config_eq, phase.plain, phase.state_eq, phase.mechanism_eq, phase.events_eq,
    phase.no_messages, phase.no_parts, phase.minor_eq⟩

end Session

namespace Engine

variable [CurvePrimitives] {config peer : ConnectionConfig} {session : Session}

theorem step_nullGreeting (waiting : session.Waiting config) (null : config.mechanism = .null)
    (rest : Bytes) :
    ∃ after, machine.step session (nullGreeting ++ rest) = .move after rest ∧
      after.Negotiating config ∧
      after.pollTransmit = session.pollTransmit ++ config.readyFrame := by
  have decoded : flatDecode (nullGreeting ++ rest) =
      .consumed (.ok (current .null false)) rest :=
    flatDecode_encode _ (by decide) (by decide) rest
  let entered := session.enterHandshake (current .null false)
    ((nullGreeting ++ rest).take greetingLen)
  let started := { entered with mechanism := .null .awaitingReady }
  have phase : started.Negotiating config :=
    ⟨waiting.config_eq, waiting.plain, rfl, rfl, waiting.events_eq, waiting.no_messages,
      waiting.no_parts, rfl⟩
  have accepted : acceptGreeting (current .null false)
      ((nullGreeting ++ rest).take greetingLen) session =
        .ok () (started.emitCommandFrame config.readyPayload) := by
    have name_eq : session.config.mechanism.wireName = .null := by rw [waiting.config_eq, null]; rfl
    have props_eq : entered.ourProps = config.announced := by
      rw [ourProps_eq, show entered.config = config from waiting.config_eq]
    have reply_eq : entered.mechanism.start entered.env entered.ourProps =
        ⟨.null .awaitingReady, entered.env, [.ready config.announced], .ok ()⟩ := by
      rw [show entered.mechanism = .null .notStarted from waiting.mechanism_eq, props_eq]
      rfl
    have started_eq : startMechanism entered =
        .ok () (started.emitCommandFrame config.readyPayload) := by
      unfold startMechanism
      rw [run_bind, run_get]
      dsimp only
      rw [reply_eq]
      rfl
    unfold acceptGreeting
    rw [run_bind, run_get]
    dsimp only
    rw [name_eq, if_neg (by simp [current]), if_neg (by simp [current])]
    exact started_eq
  refine ⟨started.emitCommandFrame config.readyPayload, ?_, phase.emitCommandFrame _, ?_⟩
  · show step session _ = _
    rw [step, waiting.state_eq]
    dsimp only
    rw [greetingStep, decoded]
    dsimp only
    rw [accepted]
    rfl
  · rw [emitCommandFrame, pollTransmit_emitFrame, phase.plain]
    rfl

omit [CurvePrimitives] in
theorem decodeCommandRaw_readyPayload (config : ConnectionConfig) :
    decodeCommandRaw config.readyPayload =
      .ok (.unknown (ascii "READY") (Command.encodeProperties config.announced)) := by
  show decodeCommandRaw (UInt8.ofNat 5 :: (ascii "READY" ++ Command.encodeProperties _)) = _
  have name_len : (UInt8.ofNat 5).toNat = (ascii "READY").length := by decide
  rw [decodeCommandRaw, name_len, if_neg (by simp), take_left, drop_left]

omit [CurvePrimitives] in
theorem parseReady_announced (fits : config.readyPayload.length ≤ maxHandshakeCommand) :
    NullState.parseReady (Command.encodeProperties config.announced) = .ok config.announced := by
  have announced : ∀ bytes ∈ (if config.identity = [] then none else some config.identity),
      bytes ≠ [] ∧ bytes.length < 256 ^ 4 := by
    intro bytes identity_eq
    obtain ⟨named, identity_eq⟩ := Option.ite_none_left_eq_some.mp identity_eq
    cases identity_eq
    refine ⟨named, lt_of_le_of_lt ?_ (show maxHandshakeCommand < 256 ^ 4 by decide)⟩
    refine le_trans ?_ fits
    simp only [ConnectionConfig.readyPayload, ConnectionConfig.announced, Command.encode,
      Command.encodeProperties, Command.writeProperty, if_neg named, length_append]
    omega
  have read : Command.decode (prependName (ascii "READY")
      (Command.encodeProperties config.announced)) = .ok (.ready config.announced) :=
    Command.decode_encode_ready config.socketType announced
  rw [NullState.parseReady, read]

/-- The session which has accepted READY. -/
def agreedSession (session : Session) (peer : ConnectionConfig) : Session :=
  { session with mechanism := .null .done }.becomeReady none peer.announced

theorem processMechanismCommand_ready (negotiating : session.Negotiating config)
    (fits : peer.readyPayload.length ≤ maxHandshakeCommand)
    (compatible : isCompatible config.socketType peer.socketType = true) :
    processMechanismCommand peer.readyPayload session = .ok () (agreedSession session peer) := by
  have reply_eq : session.mechanism.onCommand session.env
      (.unknown (ascii "READY") (Command.encodeProperties peer.announced)) =
        ⟨.null .done, session.env, [], .ok (.complete peer.announced)⟩ := by
    have not_error : ascii "READY" ≠ ascii "ERROR" := by decide
    rw [negotiating.mechanism_eq]
    simp [SecurityMechanism.onCommand, NullState.onCommand, tryErrorCommand, not_error,
      parseReady_announced fits, Reply.map]
  have completed : completeHandshake peer.announced
      { session with mechanism := .null .done } = .ok () (agreedSession session peer) := by
    have may_talk : isCompatible session.config.socketType peer.socketType = true := by
      rw [negotiating.config_eq, compatible]
    simp [completeHandshake, ConnectionConfig.announced, may_talk,
      SecurityMechanism.buildTransform, agreedSession]
  unfold processMechanismCommand
  rw [decodeCommandRaw_readyPayload, run_bind, run_ofExcept_ok]
  dsimp only
  rw [run_bind, run_get]
  dsimp only
  rw [reply_eq]
  exact completed

theorem step_readyFrame (negotiating : session.Negotiating config)
    (fits : peer.readyPayload.length ≤ maxHandshakeCommand)
    (compatible : isCompatible config.socketType peer.socketType = true) (rest : Bytes) :
    ∃ after, machine.step session (peer.readyFrame ++ rest) = .move after rest ∧
      after.Agreed config peer ∧ after.pollTransmit = session.pollTransmit := by
  have payload_bound : (Payload.fromBytes peer.readyPayload).len ≤ isizeMax := by
    rw [← Payload.length_asSlice, Payload.asSlice_fromBytes]
    exact fits.trans (by decide)
  have lawful :
      ¬(FrameFlags.commandFrame.command = true ∧ FrameFlags.commandFrame.more = true) := by
    decide
  have frame_eq := flatFrame_encodeFrame ⟨.commandFrame, .fromBytes peer.readyPayload⟩ lawful
    payload_bound rest
  refine ⟨agreedSession session peer, ?_, ?_, rfl⟩
  · rw [show peer.readyFrame = encodeFrame _ from rfl,
      step_command negotiating.state_eq (by rfl) frame_eq (by
        rw [Payload.asSlice_fromSlice, Payload.asSlice_fromBytes]
        exact fits),
      Payload.asSlice_fromSlice, Payload.asSlice_fromBytes,
      processMechanismCommand_ready negotiating fits compatible]
    rfl
  · refine ⟨negotiating.config_eq, negotiating.plain, rfl, rfl, ?_, negotiating.no_messages,
      negotiating.no_parts, negotiating.minor_eq⟩
    simp [agreedSession, becomeReady, negotiating.events_eq, negotiating.minor_eq]

theorem step_agreed (agreed : session.Agreed config peer) : machine.step session [] = .stall := by
  show step session [] = _
  rw [step, agreed.state_eq]
  rfl

end Engine

/-! ## One side -/

/-- How far a session has come: what it has received, what it has not read yet, and what it has
emitted. -/
inductive Progress (config peer : ConnectionConfig) (session : Session) :
    (received unread emitted : Bytes) → Prop
  | waiting {unread : Bytes} (phase : session.Waiting config) (part : unread <+: nullGreeting)
      (incomplete : unread ≠ nullGreeting) :
      Progress config peer session unread unread nullGreeting
  | negotiating {unread : Bytes} (phase : session.Negotiating config)
      (part : unread <+: peer.readyFrame) (incomplete : unread ≠ peer.readyFrame) :
      Progress config peer session (nullGreeting ++ unread) unread
        (nullGreeting ++ config.readyFrame)
  | agreed (phase : session.Agreed config peer) :
      Progress config peer session (nullGreeting ++ peer.readyFrame) []
        (nullGreeting ++ config.readyFrame)

/-- What two NULL peers must fulfil for the first to accept the second. -/
structure Admissible (config peer : ConnectionConfig) : Prop where
  null : config.mechanism = .null
  fits : peer.readyPayload.length ≤ maxHandshakeCommand
  compatible : isCompatible config.socketType peer.socketType = true

section Side

variable [CurvePrimitives] {config peer : ConnectionConfig} {session : Session}
  {bytes received unread emitted : Bytes}

theorem Session.InPhase.stall_waiting (phase : session.Waiting config)
    (null : config.mechanism = .null) (part : bytes <+: nullGreeting)
    (incomplete : bytes ≠ nullGreeting) : machine.step session bytes = .stall := by
  obtain ⟨missing, whole⟩ := part
  obtain ⟨after, moved, _⟩ := step_nullGreeting phase null []
  rw [append_nil, ← whole] at moved
  refine machine.stall_of_move_append moved fun none_missing => incomplete ?_
  rw [← whole, none_missing, append_nil]

theorem Session.InPhase.stall_negotiating (phase : session.Negotiating config)
    (admissible : Admissible config peer) (part : bytes <+: peer.readyFrame)
    (incomplete : bytes ≠ peer.readyFrame) : machine.step session bytes = .stall := by
  obtain ⟨missing, whole⟩ := part
  obtain ⟨after, moved, _⟩ := step_readyFrame phase admissible.fits admissible.compatible []
  rw [append_nil, ← whole] at moved
  refine machine.stall_of_move_append moved fun none_missing => incomplete ?_
  rw [← whole, none_missing, append_nil]

/-- A piece of READY moves a negotiating session on, or is kept. -/
theorem Session.InPhase.settle_negotiating (phase : session.Negotiating config)
    (admissible : Admissible config peer) (part : bytes <+: peer.readyFrame) :
    ∃ after unread, machine.settle session bytes = ⟨after, unread, none⟩ ∧
      Progress config peer after (nullGreeting ++ bytes) unread
        (nullGreeting ++ config.readyFrame) ∧
      after.pollTransmit = session.pollTransmit := by
  by_cases complete : bytes = peer.readyFrame
  · subst complete
    obtain ⟨after, moved, agreed, same⟩ :=
      step_readyFrame phase admissible.fits admissible.compatible []
    rw [append_nil] at moved
    refine ⟨after, [], ?_, .agreed agreed, same⟩
    rw [machine.settle_of_move moved, machine.settle_of_stall (step_agreed agreed)]
  · have stalled := phase.stall_negotiating admissible part complete
    exact ⟨session, bytes, machine.settle_of_stall stalled, .negotiating phase part complete, rfl⟩

section

variable (progress : Progress config peer session received unread emitted)

include progress

/-- The next piece of the peer's bytes is taken without an error. -/
theorem Progress.settle (admissible : Admissible config peer) {chunk : Bytes}
    (part : received ++ chunk <+: nullGreeting ++ peer.readyFrame) :
    ∃ after unread' more, machine.settle session (unread ++ chunk) = ⟨after, unread', none⟩ ∧
      Progress config peer after (received ++ chunk) unread' (emitted ++ more) ∧
      after.pollTransmit = session.pollTransmit ++ more := by
  cases progress with
  | waiting phase greeting_part incomplete =>
    by_cases whole : nullGreeting <+: received ++ chunk
    · obtain ⟨ready, ready_eq⟩ := whole
      rw [← ready_eq, prefix_append_right_inj] at part
      obtain ⟨middle, moved, negotiating, queued⟩ := step_nullGreeting phase admissible.null ready
      obtain ⟨after, unread', settled, progress, same⟩ :=
        negotiating.settle_negotiating admissible part
      refine ⟨after, unread', config.readyFrame, ?_, ready_eq ▸ progress, same.trans queued⟩
      rw [← ready_eq, machine.settle_of_move moved, settled]
    · have either := prefix_or_prefix_of_prefix part (prefix_append _ _)
      have early : received ++ chunk <+: nullGreeting := either.resolve_right whole
      have incomplete : received ++ chunk ≠ nullGreeting := fun same => whole (same ▸ prefix_rfl)
      have stalled := phase.stall_waiting admissible.null early incomplete
      refine ⟨session, received ++ chunk, [], machine.settle_of_stall stalled, ?_, by simp⟩
      rw [append_nil]
      exact .waiting phase early incomplete
  | negotiating phase ready_part incomplete =>
    rw [append_assoc, prefix_append_right_inj] at part
    obtain ⟨after, unread', settled, progress, same⟩ := phase.settle_negotiating admissible part
    refine ⟨after, unread', [], settled, ?_, by rw [same, append_nil]⟩
    rw [append_assoc, append_nil]
    exact progress
  | agreed phase =>
    have nothing : chunk = [] := by
      have := part.length_le
      simpa using this
    subst nothing
    refine ⟨session, [], [], machine.settle_of_stall (step_agreed phase), ?_, by simp⟩
    simpa using Progress.agreed phase

omit [CurvePrimitives] in
theorem Progress.emitted_part : emitted <+: nullGreeting ++ config.readyFrame := by
  cases progress with
  | waiting => exact prefix_append _ _
  | negotiating => exact prefix_rfl
  | agreed => exact prefix_rfl

omit [CurvePrimitives] in
theorem Progress.greeting_part : nullGreeting <+: emitted := by
  cases progress with
  | waiting => exact prefix_rfl
  | negotiating => exact prefix_append _ _
  | agreed => exact prefix_append _ _

omit [CurvePrimitives] in
theorem Progress.emitted_eq (greeted : nullGreeting <+: received) :
    emitted = nullGreeting ++ config.readyFrame := by
  cases progress with
  | waiting phase part incomplete =>
    exact absurd (part.eq_of_length (part.length_le.antisymm greeted.length_le)) incomplete
  | negotiating => rfl
  | agreed => rfl

omit [CurvePrimitives] in
theorem Progress.agreed_of_received (everything : received = nullGreeting ++ peer.readyFrame) :
    session.Agreed config peer := by
  cases progress with
  | waiting phase part incomplete =>
    have greeted : nullGreeting <+: received := everything ▸ prefix_append _ _
    exact absurd (part.eq_of_length (part.length_le.antisymm greeted.length_le)) incomplete
  | negotiating phase part incomplete =>
    exact absurd (append_cancel_left everything) incomplete
  | agreed phase => exact phase

omit [CurvePrimitives] in
theorem Progress.advanceTransmit (count : Nat) :
    Progress config peer (session.advanceTransmit count) received unread emitted := by
  cases progress with
  | waiting phase part incomplete => exact .waiting (phase.advanceTransmit count) part incomplete
  | negotiating phase part incomplete =>
    exact .negotiating (phase.advanceTransmit count) part incomplete
  | agreed phase => exact .agreed (phase.advanceTransmit count)

end

theorem Progress.settled {connection : Connection}
    (progress : Progress config peer connection.toSession received connection.inBuf.bytes emitted)
    (admissible : Admissible config peer) : connection.Settled := by
  have charged {state : State} {mechanism : NullState} {events : List Event}
      (phase : connection.toSession.InPhase config state mechanism events) :
      connection.toSession.Charged := by
    show connection.pendingSize = chargeOf connection.pendingParts
    rw [phase.no_parts.1, phase.no_parts.2, chargeOf_nil]
  generalize unread_eq : connection.inBuf.bytes = unread at progress
  cases progress with
  | waiting phase part incomplete =>
    exact ⟨⟨phase.plain, .inl phase.state_eq⟩, charged phase,
      unread_eq ▸ phase.stall_waiting admissible.null part incomplete⟩
  | negotiating phase part incomplete =>
    exact ⟨⟨phase.plain, .inr (.inl phase.state_eq)⟩, charged phase,
      unread_eq ▸ phase.stall_negotiating admissible part incomplete⟩
  | agreed phase =>
    exact ⟨⟨phase.plain, .inr (.inr phase.state_eq)⟩, charged phase, unread_eq ▸ step_agreed phase⟩

end Side

/-! ## Both sides -/

/-- Two connections and the bytes between them. -/
structure PeerPair where
  sides : Bool → Connection
  /-- Bytes a side has written which the other has not received. -/
  wires : Bool → Bytes
  failed : Option Error

/-- A side writes some of its pending bytes, or receives some of those on the way to it. -/
inductive Delivery
  | write (side : Bool) (count : Nat)
  | receive (side : Bool) (count : Nat)

namespace PeerPair

section

variable [CurvePrimitives]

def new (configs : Bool → ConnectionConfig) (envs : Bool → Environment) : PeerPair :=
  ⟨fun side => .new (configs side) (envs side), fun _ => [], none⟩

/-- One delivery; a failed pair is left alone. -/
def step (pair : PeerPair) : Delivery → Option PeerPair
  | .write side count =>
    let connection := pair.sides side
    some { pair with
      sides := update pair.sides side
        { connection with toSession := connection.advanceTransmit count }
      wires := update pair.wires side (pair.wires side ++ connection.pollTransmit.take count) }
  | .receive side count =>
    if pair.failed.isSome then none
    else
      let wires := update pair.wires (!side) ((pair.wires (!side)).drop count)
      match Connection.handleInput ((pair.wires (!side)).take count) (pair.sides side) with
      | .ok _ connection => some ⟨update pair.sides side connection, wires, none⟩
      | .error error connection =>
        some ⟨update pair.sides side connection, wires, some error⟩

/-- The invariant of the exchange: neither side has failed, and what a side has emitted was
received, is on the way, or waits to be written. -/
structure Exchanging (configs : Bool → ConnectionConfig) (pair : PeerPair)
    (received emitted : Bool → Bytes) : Prop where
  clean : pair.failed = none
  progress : ∀ side, Progress (configs side) (configs !side) (pair.sides side).toSession
    (received side) (pair.sides side).inBuf.bytes (emitted side)
  /-- No byte is lost or added on the way. -/
  flow : ∀ side,
    emitted side = received (!side) ++ pair.wires side ++ (pair.sides side).pollTransmit

variable {configs : Bool → ConnectionConfig} {pair after : PeerPair}
  {received emitted : Bool → Bytes}

/-- Two new connections have emitted their greetings. -/
theorem exchanging_new (null : ∀ side, (configs side).mechanism = .null)
    (plain : ∀ side, (configs side).wsRole = none) (envs : Bool → Environment) :
    (new configs envs).Exchanging configs (fun _ => []) fun _ => nullGreeting where
  clean := rfl
  progress := by
    intro side
    refine .waiting ⟨?_, ?_, ?_, ?_, ?_, ?_, ?_, ?_⟩ nil_prefix (by decide)
    all_goals simp [new, Connection.new, plain side, null side, queueGreeting,
      pushChunks, MechanismSetup.build]
  flow := by
    intro side
    simp [new, Connection.new, plain side, null side, queueGreeting, pushChunks,
      pollTransmit, MechanismSetup.wireName, nullGreeting]

section

variable (exchanging : pair.Exchanging configs received emitted)

include exchanging

theorem Exchanging.write (side : Bool) (count : Nat)
    (stepped : pair.step (.write side count) = some after) :
    after.Exchanging configs received emitted := by
  cases stepped
  refine ⟨exchanging.clean, fun other => ?_, fun other => ?_⟩
  · by_cases same : other = side
    · subst same
      dsimp only
      rw [update_self]
      exact (exchanging.progress other).advanceTransmit count
    · dsimp only
      rw [update_of_ne same]
      exact exchanging.progress other
  · by_cases same : other = side
    · subst same
      dsimp only
      rw [update_self, update_self, exchanging.flow other]
      simp [pollTransmit, advanceTransmit]
    · dsimp only
      rw [update_of_ne same, update_of_ne same]
      exact exchanging.flow other

omit [CurvePrimitives] in
/-- What a side has received and what is on the way to it is the start of what its peer says. -/
theorem Exchanging.part (side : Bool) (count : Nat) :
    received side ++ (pair.wires !side).take count <+:
      nullGreeting ++ (configs !side).readyFrame := by
  have flow := exchanging.flow !side
  rw [Bool.not_not, ← take_append_drop count (pair.wires !side), ← append_assoc,
    append_assoc] at flow
  exact (flow ▸ prefix_append _ _).trans (exchanging.progress !side).emitted_part

theorem Exchanging.receive (admissible : ∀ side, Admissible (configs side) (configs !side))
    (side : Bool) (count : Nat) (stepped : pair.step (.receive side count) = some after) :
    ∃ received emitted, after.Exchanging configs received emitted := by
  have progress := exchanging.progress side
  obtain ⟨session, unread, more, settled, progressed, queued⟩ :=
    progress.settle (admissible side) (exchanging.part side count)
  have stop := Connection.stopOf_handleInput (progress.settled (admissible side))
    ((pair.wires !side).take count)
  rw [settled] at stop
  unfold step at stepped
  dsimp only at stepped
  rw [if_neg (by rw [exchanging.clean]; simp)] at stepped
  cases result : Connection.handleInput ((pair.wires !side).take count) (pair.sides side) with
  | error error connection =>
    rw [result] at stop
    cases stop
  | ok value connection =>
    rw [result] at stop stepped
    cases stop
    cases stepped
    refine ⟨update received side (received side ++ (pair.wires !side).take count),
      update emitted side (emitted side ++ more), rfl, fun other => ?_, fun other => ?_⟩
    · by_cases same : other = side
      · subst same
        simp only [update_self]
        exact progressed
      · simp only [update_of_ne same]
        exact exchanging.progress other
    · have flow := exchanging.flow other
      by_cases same : other = side
      · subst same
        have apart : other ≠ !other := (Bool.not_ne_self other).symm
        simp only [update_self, update_of_ne apart, update_of_ne apart.symm]
        have queued : connection.pollTransmit = (pair.sides other).pollTransmit ++ more := queued
        rw [queued, flow, append_assoc]
      · obtain rfl : other = !side := Bool.eq_not_of_ne same
        simp only [update_self, update_of_ne same, Bool.not_not]
        rw [flow, Bool.not_not, append_assoc (received side) (List.take _ _), take_append_drop]

theorem Exchanging.step (admissible : ∀ side, Admissible (configs side) (configs !side))
    {delivery : Delivery} (stepped : pair.step delivery = some after) :
    ∃ received emitted, after.Exchanging configs received emitted := by
  cases delivery with
  | write side count => exact ⟨received, emitted, exchanging.write side count stepped⟩
  | receive side count => exact exchanging.receive admissible side count stepped

end

/-- Every byte was written and received. -/
def Quiet (pair : PeerPair) : Prop :=
  ∀ side, pair.wires side = [] ∧ (pair.sides side).pollTransmit = []

instance (pair : PeerPair) : Decidable pair.Quiet :=
  inferInstanceAs (Decidable (∀ side, pair.wires side = [] ∧ (pair.sides side).pollTransmit = []))

omit [CurvePrimitives] in
/-- Once every byte has arrived both sides agree. -/
theorem Exchanging.agreed (exchanging : pair.Exchanging configs received emitted)
    (quiet : pair.Quiet) (side : Bool) :
    (pair.sides side).toSession.Agreed (configs side) (configs !side) := by
  have delivered : ∀ side, received side = emitted !side := by
    intro side
    rw [exchanging.flow (!side), (quiet (!side)).1, (quiet (!side)).2]
    simp
  -- Each side has the other's greeting, so each has emitted READY.
  have emitted_eq : ∀ side, emitted side = nullGreeting ++ (configs side).readyFrame := fun side =>
    (exchanging.progress side).emitted_eq
      (delivered side ▸ (exchanging.progress !side).greeting_part)
  exact (exchanging.progress side).agreed_of_received ((delivered side).trans (emitted_eq !side))

/-- Agreement of two NULL peers: no interleaving of partial deliveries makes a side fail, and once
all bytes have arrived both are ready, each has reported what the other announces, and both use the
same minor version. -/
theorem null_agreement {configs : Bool → ConnectionConfig}
    (admitted : ∀ side, (configs side).PlainNull)
    (compatible : isCompatible (configs false).socketType (configs true).socketType = true)
    (envs : Bool → Environment) {final : PeerPair}
    (reached : Reaches PeerPair.step (new configs envs) final) :
    final.failed = none ∧ (final.Quiet →
      (∀ side, (final.sides side).state = .ready ∧ (final.sides side).events =
        [.handshakeSucceeded (final.sides side).peerMinor
          ⟨some (configs !side).socketType,
            if (configs !side).identity = [] then none else some (configs !side).identity, []⟩]) ∧
      (final.sides false).peerMinor = (final.sides true).peerMinor) := by
  have admissible : ∀ side, Admissible (configs side) (configs !side) := by
    intro side
    refine ⟨(admitted side).null, (admitted !side).fits, ?_⟩
    cases side with
    | false => exact compatible
    | true => exact (isCompatible_comm _ _).trans compatible
  have started := exchanging_new (fun side => (admitted side).null)
    (fun side => (admitted side).plain) envs
  have kept {before after : PeerPair} {delivery : Delivery}
      (stepped : before.step delivery = some after)
      (holds : ∃ received emitted, before.Exchanging configs received emitted) :
      ∃ received emitted, after.Exchanging configs received emitted := by
    obtain ⟨received, emitted, exchanging⟩ := holds
    exact exchanging.step admissible stepped
  obtain ⟨received, emitted, exchanging⟩ :=
    Runs.invariant (fun _ stepped => kept stepped) reached ⟨_, _, started⟩
  refine ⟨exchanging.clean, fun quiet => ⟨fun side => ?_, ?_⟩⟩
  · have agreed := exchanging.agreed quiet side
    exact ⟨agreed.state_eq, by rw [agreed.events_eq, agreed.minor_eq]; rfl⟩
  · rw [(exchanging.agreed quiet false).minor_eq, (exchanging.agreed quiet true).minor_eq]

end

/-- A DEALER with an identity and a ROUTER without one. -/
def dealerAndRouter (side : Bool) : ConnectionConfig :=
  if side then .null .server .router
  else { ConnectionConfig.null .client .dealer with identity := ascii "worker" }

/-- Greetings in two pieces, and READY in two pieces. -/
def piecewise : List Delivery :=
  [.write false 10, .receive true 7, .write true 200, .receive false 64, .write false 60,
    .receive true 200, .write true 9, .receive false 5, .write false 200, .receive true 200,
    .write true 200, .receive false 200]

theorem dealer_router_agree :
    ∃ final : PeerPair,
      Transition.Reaches (@PeerPair.step .transparent)
        (@new .transparent dealerAndRouter fun _ => .zero) final ∧ final.Quiet ∧
      (final.sides true).events = [.handshakeSucceeded (final.sides true).peerMinor
        ⟨some .dealer, some (ascii "worker"), []⟩] := by
  obtain ⟨final, reached, quiet⟩ : ∃ final : PeerPair,
      Transition.Reaches (@PeerPair.step .transparent)
        (@new .transparent dealerAndRouter fun _ => .zero) final ∧ final.Quiet :=
    Transition.exists_reaches piecewise (by decide +kernel)
  have admitted : ∀ side, (dealerAndRouter side).PlainNull := by
    intro side
    cases side
    all_goals exact ⟨rfl, rfl, by decide +kernel⟩
  have agreement := @null_agreement .transparent dealerAndRouter admitted (by decide)
    (fun _ => .zero) final reached
  exact ⟨final, reached, quiet, ((agreement.2 quiet).1 true).2⟩

end PeerPair

end Omq
