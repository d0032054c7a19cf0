import Omq.Proto.Connection.Refinement
import Omq.Proto.Connection.Update

/-!
# Sequences of `handle_input` calls

A plain ZMTP connection which is fed chunk by chunk ends as the flat engine settles on the whole
stream.  How the stream was cut into chunks cannot be observed.
-/

namespace Omq

open Incremental Engine

namespace Engine

/-- An outcome of the engine comes about by updates, and a move keeps what accepted input keeps. -/
def Advances (session : Session) (outcome : Outcome Session UInt8 Error) : Prop :=
  Updates session (outcome.final session) ∧
    ∀ after rest, outcome = .move after rest → session.Keeps after

variable {session : Session}

theorem Advances.stall : Advances session .stall := ⟨.refl, by simp⟩

theorem Advances.fail {after : Session} (updates : Updates session after) {rest : Bytes}
    {error : Error} : Advances session (.fail after rest error) := ⟨updates, by simp⟩

theorem advances_conclude {result : EStateM.Result Error Session Unit}
    (evolves : Evolves id session result) (rest : Bytes) :
    Advances session (conclude result rest) := by
  cases result with
  | ok value after =>
    refine ⟨evolves.1, ?_⟩
    rintro _ _ ⟨⟩
    exact evolves.2 _ _ rfl
  | error error after => exact .fail evolves.1

theorem advances_frameStep (refuse : PeekedFrameHeader → Option Error)
    {handle : Frame → SessionM Unit} (evolves : ∀ frame, Evolves id session (handle frame session))
    (bytes : Bytes) : Advances session (frameStep refuse handle session bytes) := by
  fun_cases frameStep refuse handle session bytes
  case case4 => exact advances_conclude (evolves _) _
  all_goals first | exact .stall | exact .fail .refl

variable [CurvePrimitives]

theorem advances_step (plain : session.wsRole = none) (bytes : Bytes) :
    Advances session (step session bytes) := by
  fun_cases step session bytes
  next waiting =>
    fun_cases greetingStep session bytes
    case case4 decoded =>
      exact advances_conclude (Session.evolves_acceptGreeting waiting plain
        (Greeting.parse_of_consumed decoded)) _
    all_goals first | exact .stall | exact .fail .refl
  next negotiating =>
    refine advances_frameStep _ (fun frame => ?_) bytes
    exact .ite (fun _ => Session.evolves_processMechanismCommand negotiating _) fun _ => .refl rfl
  next ready =>
    exact advances_frameStep _ (fun frame => Session.evolves_decodeAssembledFrame ready _ _) bytes
  all_goals exact .stall

/-- Settling without a failure keeps what accepted input keeps. -/
theorem keeps_of_settle (plain : session.wsRole = none) {bytes : Bytes}
    (clean : (machine.settle session bytes).error = none) :
    session.Keeps (machine.settle session bytes).state := by
  revert clean plain
  refine machine.settle_induction
    (motive := fun session _ stop => session.wsRole = none → stop.error = none →
      session.Keeps stop.state) ?_ ?_ ?_ session bytes
  · exact fun _ _ _ _ _ => .of_view rfl
  · intro _ _ _ _ _ _ _ clean
    cases clean
  · intro _ _ _ _ moved later plain clean
    have keeps := (advances_step plain _).2 _ _ moved
    exact keeps.trans (later (keeps.framing.trans plain) clean)

end Engine

namespace Connection

section

variable [CurvePrimitives]

/-- Where a call left the connection, without its chunks. -/
def stopOf : EStateM.Result Error Connection Unit → Stop Session UInt8 Error
  | .ok _ after => ⟨after.toSession, after.inBuf.bytes, none⟩
  | .error error after => ⟨after.toSession, after.inBuf.bytes, some error⟩

theorem stopOf_driveLoop (fuel : Nat) (connection : Connection) (plain : connection.wsRole = none)
    (charged : connection.toSession.Charged) :
    stopOf (driveLoop tryAdvance fuel connection) =
      machine.run fuel connection.toSession connection.inBuf.bytes := by
  induction fuel generalizing connection with
  | zero => rfl
  | succ fuel ih =>
    have turn := tryAdvance_realises connection charged
    rw [driveLoop, Machine.run, Attempt.run_bind]
    change Realises connection _ (machine.step _ _) at turn
    cases result : tryAdvance connection with
    | error error after =>
      rw [result] at turn
      rw [show machine.step _ _ = _ from turn]
      rfl
    | ok progress after =>
      rw [result] at turn
      cases progress with
      | false =>
        obtain ⟨stalled, rfl⟩ := turn
        rw [stalled]
        rfl
      | true =>
        have moved : machine.step connection.toSession connection.inBuf.bytes =
          .move after.toSession after.inBuf.bytes := turn
        rw [moved]
        have keeps := (advances_step plain _).2 _ _ moved
        exact ih after (keeps.framing.trans plain) (keeps.charged charged)

theorem stopOf_driveZmtp (connection : Connection) (plain : connection.wsRole = none)
    (charged : connection.toSession.Charged) :
    stopOf (driveZmtp connection) = machine.settle connection.toSession connection.inBuf.bytes := by
  rw [Machine.settle, ← connection.inBuf.len_eq]
  exact stopOf_driveLoop _ connection plain charged

/-- A plain connection between two calls: it accepts input, its charge is exact and it has decoded
what it can. -/
structure Settled (connection : Connection) : Prop where
  /-- Plain framing in a phase which accepts input. -/
  receptive : connection.toSession.inboundView.Receptive
  charged : connection.toSession.Charged
  /-- Nothing more can be decoded. -/
  stalled : machine.step connection.toSession connection.inBuf.bytes = .stall

variable {connection : Connection}

theorem handleInput_of_receptive (receptive : connection.toSession.inboundView.Receptive)
    (source : Bytes) :
    handleInput source connection =
      if source = [] then .ok () connection else driveZmtp (connection.receive source) := by
  have plain : connection.wsRole = none := receptive.1
  have phase : connection.state = .awaitingGreeting ∨ connection.state = .mechanismHandshake ∨
    connection.state = .ready := receptive.2
  have driven : drive (connection.receive source) = driveZmtp (connection.receive source) := by
    simp [drive, receive, plain]
  by_cases empty : source = [] <;> obtain waiting | negotiating | ready := phase <;>
    simp [handleInput, *]

section

variable (settled : connection.Settled)

include settled

theorem stopOf_handleInput (source : Bytes) :
    stopOf (handleInput source connection) =
      machine.settle connection.toSession (connection.inBuf.bytes ++ source) := by
  by_cases empty : source = []
  · subst empty
    rw [handleInput_of_receptive settled.receptive, if_pos rfl, List.append_nil,
      machine.settle_of_stall settled.stalled]
    rfl
  · rw [handleInput_of_receptive settled.receptive, if_neg empty,
      stopOf_driveZmtp (connection.receive source) settled.receptive.1 settled.charged]
    simp [receive]

theorem Settled.handleInput {after : Connection} {source : Bytes}
    (returned : handleInput source connection = .ok () after) : after.Settled := by
  have stop := stopOf_handleInput settled source
  rw [returned] at stop
  have clean : (machine.settle connection.toSession
      (connection.inBuf.bytes ++ source)).error = none := by rw [← stop]; rfl
  have keeps := keeps_of_settle settled.receptive.1 clean
  have stalled := machine.step_of_settle clean
  rw [← stop] at keeps stalled
  exact ⟨keeps.receptive settled.receptive, keeps.charged settled.charged, stalled⟩

theorem stopOf_handleInputs (chunks : List Bytes) :
    stopOf (handleInputs chunks connection) =
      machine.feed connection.toSession connection.inBuf.bytes chunks := by
  induction chunks generalizing connection with
  | nil => rfl
  | cons chunk chunks ih =>
    have stop := stopOf_handleInput settled chunk
    rw [handleInputs, Machine.feed, Attempt.run_bind, ← stop]
    cases result : Connection.handleInput chunk connection with
    | error error after => rfl
    | ok value after => exact ih (settled.handleInput result)

/-- However the stream is cut, the calls end as the engine settles on the whole stream. -/
theorem stopOf_handleInputs_settle (chunks : List Bytes) :
    (stopOf (handleInputs chunks connection)).state =
        (machine.settle connection.toSession (connection.inBuf.bytes ++ chunks.flatten)).state ∧
      (stopOf (handleInputs chunks connection)).error =
        (machine.settle connection.toSession (connection.inBuf.bytes ++ chunks.flatten)).error ∧
      ((stopOf (handleInputs chunks connection)).error = none →
        (stopOf (handleInputs chunks connection)).rest =
          (machine.settle connection.toSession
            (connection.inBuf.bytes ++ chunks.flatten)).rest) := by
  rw [stopOf_handleInputs settled chunks]
  exact machine.feed_eq_settle _ _ chunks settled.stalled

end

theorem settled_new {config : ConnectionConfig} (plain : config.wsRole = none)
    (env : Environment) : (Connection.new config env).Settled := by
  unfold Connection.new
  simp only [plain]
  refine ⟨⟨rfl, .inl rfl⟩, rfl, rfl⟩

/-! ## Observations -/

structure Observation where
  events : List Event
  messages : List Message
  transmit : Bytes
  error : Option Error

/-- What can be observed after a call. -/
def observe (result : EStateM.Result Error Connection Unit) : Observation where
  events := (stopOf result).state.events
  messages := (stopOf result).state.messages
  transmit := (stopOf result).state.pollTransmit
  error := (stopOf result).error

/-- Chunking invariance: two ways to cut a stream into calls, stopped at the first error, give the
same events, messages, transmit bytes and error. -/
theorem observe_handleInputs_of_flatten_eq (config : ConnectionConfig) (env : Environment)
    (plain : config.wsRole = none) (left right : List Bytes) (same : left.flatten = right.flatten) :
    observe (handleInputs left (Connection.new config env)) =
      observe (handleInputs right (Connection.new config env)) := by
  have settled := settled_new plain env
  obtain ⟨left_state, left_error, _⟩ := stopOf_handleInputs_settle settled left
  obtain ⟨right_state, right_error, _⟩ := stopOf_handleInputs_settle settled right
  rw [← same] at right_state right_error
  unfold observe
  rw [left_state, left_error, right_state, right_error]

end

/-- What an anonymous NULL peer sends in its handshake. -/
def nullHandshake (socketType : SocketType) : Bytes :=
  (Greeting.current .null false).encode ++
    encodeFrame ⟨.commandFrame,
      .fromBytes (Command.ready (PeerProperties.new.withSocketType socketType)).encode⟩

/-- A handshake which arrives byte by byte is not told apart from one which arrives at once. -/
theorem observe_nullHandshake_bytewise :
    ((nullHandshake .pair).map ([·])).flatten = [nullHandshake .pair].flatten ∧
      @observe (@handleInputs .transparent ((nullHandshake .pair).map ([·]))
          (@Connection.new .transparent (.null .client .pair) .zero)) =
        observe (@handleInputs .transparent [nullHandshake .pair]
          (@Connection.new .transparent (.null .client .pair) .zero)) :=
  ⟨by decide +kernel, @observe_handleInputs_of_flatten_eq .transparent (.null .client .pair) .zero
    rfl _ _ (by decide +kernel)⟩

def afterNullHandshake (socketType : SocketType) : Connection :=
  Attempt.finalState (@handleInputs .transparent [nullHandshake socketType]
    (@Connection.new .transparent (.null .client socketType) .zero))

end Connection

end Omq
