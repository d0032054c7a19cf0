import Omq.Proto.Connection.Emission
import Omq.Proto.Connection.Feed
import Omq.Proto.Mechanism.CurveAuthentication
import Omq.Proto.Mechanism.PlainAuthentication

/-!
# Answers of a failed handshake

A mechanism may push commands for the peer and fail all the same.  The connection raises the error
before it writes the commands, so these are lost.  Only a PLAIN server which refuses the credentials
of a HELLO has something to say when it fails: NULL and CURVE fail without a command.
-/

namespace Omq

open Attempt Handshake

theorem wireFrame_ne_nil (wsRole : Option WsRole) (env : Environment) (flags : FrameFlags)
    (payload : Payload) : wireFrame wsRole env flags payload ≠ [] := by
  unfold wireFrame
  split
  · rw [encodeFrame_eq, frameHeader]
    split <;> simp
  · split <;> simp

/-! ## NULL and PLAIN -/

variable {env : Environment} {command : Command} {error : Error}

theorem NullState.out_onCommand (state : NullState) : (state.onCommand env command).out = [] := by
  unfold NullState.onCommand
  grind

/-- The command is a HELLO with credentials which the authenticator refuses. -/
def PlainServer.Rejects (server : PlainServer) : Command → Prop
  | .unknown name body =>
    server.state = .awaitingHello ∧ name = ascii "HELLO" ∧
      ∃ username password, decodeHello body = .ok (username, password) ∧
        server.authenticator
          ⟨.plain, List.replicate 32 0, none, some username, some password⟩ = false
  | _ => False

theorem PlainServer.Rejects.tryErrorCommand {server : PlainServer}
    (rejects : server.Rejects command) {mechanism : String} :
    Omq.tryErrorCommand command mechanism = none := by
  cases command with
  | unknown name body =>
    obtain ⟨-, rfl, -⟩ := rejects
    rfl
  | _ => cases rejects

theorem PlainClient.out_of_error {client : PlainClient}
    (failed : (client.onCommand env command).result = .error error) :
    (client.onCommand env command).out = [] := by
  unfold PlainClient.onCommand at failed ⊢
  grind

/-- A server fails without a command, except for the one which it answers a rejected HELLO with. -/
theorem PlainServer.out_of_error {server : PlainServer}
    (failed : (server.onCommand env command).result = .error error) :
    (¬server.Rejects command ∧ (server.onCommand env command).out = []) ∨
      (server.Rejects command ∧
        (server.onCommand env command).out = [.error (ascii "Authentication failed")]) := by
  unfold PlainServer.onCommand PlainServer.onHello PlainServer.onInitiate at failed ⊢
  unfold PlainServer.Rejects
  grind

/-! ## CURVE fails without a command -/

/-- A step which has pushed nothing when it fails. -/
def FailsQuietly {μ α : Type} (step : HandshakeM μ α) : Prop :=
  Triple (·.out = []) step (fun _ _ => True) (fun _ state => state.out = [])

namespace FailsQuietly

variable {μ α β : Type}

theorem throw (error : Error) : FailsQuietly (MonadExcept.throw error : HandshakeM μ α) :=
  fun _ quiet => quiet

theorem bind {first : HandshakeM μ α} {next : α → HandshakeM μ β} (first_leaves : Leaves out first)
    (next_quiet : ∀ value, FailsQuietly (next value)) : FailsQuietly (first >>= next) :=
  Triple.bind (first_leaves []) next_quiet

theorem out_reply {step : HandshakeM μ α} (quiet : FailsQuietly step) {mechanism : μ}
    {env : Environment} {error : Error}
    (failed : (step.reply mechanism env).result = .error error) :
    (step.reply mechanism env).out = [] := by
  have result := quiet ⟨mechanism, env, []⟩ rfl
  unfold HandshakeM.reply at failed ⊢
  unfold EStateM.run at failed ⊢
  split at failed
  · cases failed
  next raised =>
    rw [raised] at result
    exact result

end FailsQuietly

theorem CurveServer.leaves_out_of_unmoved {α : Type} {step : HandshakeM CurveServer α}
    (unmoved : ∀ {publicKey authenticator out},
      Preserves (Unmoved publicKey authenticator out) step) : Leaves Handshake.out step :=
  .of_finalState fun _ => (unmoved.finalState ⟨⟨rfl, rfl⟩, rfl⟩).2

theorem CurveClient.leaves_out_nextOutCounter : Leaves out CurveClient.nextOutCounter := by
  refine .bind (fun _ _ same => same) fun client => ?_
  split
  · exact .throw _
  · exact fun _ _ same => same

section Primitives

variable [CurvePrimitives]

namespace CurveServer

theorem onCommand_error (command : Command) : FailsQuietly (CurveServer.onCommand command) := by
  unfold onCommand
  split
  · exact .throw _
  · split
    · refine .bind (fun _ _ same => same) fun server => ?_
      split
      · split_ifs
        · exact .bind (leaves_out_of_unmoved (unmoved_parseHello _)) fun _ =>
            .bind (leaves_out_of_unmoved (unmoved_buildWelcome _ _)) fun _ _ _ => trivial
        · exact .throw _
      · split_ifs
        · exact .bind (leaves_out_of_unmoved (unmoved_parseInitiate _)) fun _ =>
            .bind (leaves_out_of_unmoved unmoved_buildReady) fun _ _ _ => trivial
        · exact .throw _
      · exact .throw _
    · exact .throw _

end CurveServer

namespace CurveClient

theorem leaves_out_processWelcome (ephSecret body : Bytes) :
    Leaves out (processWelcome ephSecret body) := by
  refine .guard (.bind (fun _ _ same => same) fun client => ?_)
  dsimp only
  split
  · exact .throw _
  · exact .guard (.bind (.ofExcept _) fun _ _ _ same => same)

theorem leaves_out_buildInitiate : Leaves out buildInitiate := by
  refine .bind leaves_out_nextOutCounter fun counter =>
    .bind (fun _ _ same => same) fun client => ?_
  split
  · exact .bind (fun _ _ same => same) fun _ => .bind (.ofExcept _) fun _ => .pure _
  · exact .pure _

theorem leaves_out_parseReady (ephSecret peerEphPublic body : Bytes) :
    Leaves out (parseReady ephSecret peerEphPublic body) := by
  refine .guard ?_
  split
  · exact .throw _
  · exact .bind (.ofExcept _) fun _ _ _ same => same

theorem onCommand_error (command : Command) : FailsQuietly (CurveClient.onCommand command) := by
  unfold onCommand
  split
  · exact .throw _
  · split
    · refine .bind (fun _ _ same => same) fun client => ?_
      split
      · split_ifs
        · exact .bind (leaves_out_processWelcome _ _) fun _ =>
            .bind leaves_out_buildInitiate fun _ _ _ => trivial
        · exact .throw _
      · split_ifs
        · exact .bind (leaves_out_parseReady _ _ _) fun _ _ _ => trivial
        · exact .throw _
      · exact .throw _
    · exact .throw _

end CurveClient

/-! ## What a failed mechanism leaves for the peer -/

/-- A PLAIN server gets a HELLO with credentials which its authenticator refuses. -/
def SecurityMechanism.Rejects (mechanism : SecurityMechanism) (command : Command) : Prop :=
  ∃ server, mechanism = .plain (.server server) ∧ server.Rejects command

theorem SecurityMechanism.out_of_error {mechanism : SecurityMechanism}
    (failed : (mechanism.onCommand env command).result = .error error) :
    (¬mechanism.Rejects command ∧ (mechanism.onCommand env command).out = []) ∨
      (mechanism.Rejects command ∧
        (mechanism.onCommand env command).out = [.error (ascii "Authentication failed")]) := by
  rcases mechanism with state | (client | server) | (client | server)
  · exact .inl ⟨by simp [Rejects], state.out_onCommand⟩
  · refine .inl ⟨by simp [Rejects], ?_⟩
    simp only [onCommand, PlainMechanism.onCommand] at failed ⊢
    split
    · rfl
    next proper =>
      rw [proper] at failed
      exact PlainClient.out_of_error failed
  · simp only [onCommand, PlainMechanism.onCommand] at failed ⊢
    split
    next announced =>
      refine .inl ⟨?_, rfl⟩
      rintro ⟨server, _, rejects⟩
      cases announced.symm.trans rejects.tryErrorCommand
    next proper =>
      rw [proper] at failed
      simpa [Rejects, Reply.map] using PlainServer.out_of_error failed
  · exact .inl ⟨by simp [Rejects], (CurveClient.onCommand_error command).out_reply failed⟩
  · exact .inl ⟨by simp [Rejects], (CurveServer.onCommand_error command).out_reply failed⟩

namespace Session

/-- The session has queued every command of a reply. -/
def Answered (session : Session) (reply : Reply SecurityMechanism MechanismStep)
    (after : Session) : Prop :=
  after.pollTransmit =
    (finalState (writeOutboundCommands reply.out (session.adopt reply))).pollTransmit

instance (session : Session) (reply : Reply SecurityMechanism MechanismStep) (after : Session) :
    Decidable (session.Answered reply after) := inferInstanceAs (Decidable (_ = _))

variable {session : Session} {payload : Bytes}

theorem processMechanismCommand_error (decoded : decodeCommandRaw payload = .ok command)
    (failed : (session.mechanism.onCommand session.env command).result = .error error) :
    processMechanismCommand payload session =
      .error error (session.adopt (session.mechanism.onCommand session.env command)) := by
  simp [processMechanismCommand, followReply, decoded, failed]

theorem answered_iff (negotiating : session.state = .mechanismHandshake)
    (failed : (session.mechanism.onCommand session.env command).result = .error error) :
    session.Answered (session.mechanism.onCommand session.env command)
        (session.adopt (session.mechanism.onCommand session.env command)) ↔
      ¬session.mechanism.Rejects command := by
  obtain ⟨accepted, silent⟩ | ⟨rejected, out_eq⟩ := SecurityMechanism.out_of_error failed
  · simp [Answered, silent, accepted, writeOutboundCommands]
  · have longer := wireFrame_ne_nil session.wsRole
      (session.mechanism.onCommand session.env command).env .commandFrame
      (.fromBytes (Command.error (ascii "Authentication failed")).encode)
    simpa [Answered, out_eq, rejected, writeOutboundCommands, writeOutboundCommand,
      activeTransform, adopt, negotiating, emitCommandFrame] using longer

end Session

end Primitives

namespace Connection

section

variable [CurvePrimitives] {before : Connection} {frame : Frame}

/-- The mechanism fails on a command: the call of `handle_input` fails with its error, and what the
mechanism pushed is queued unless a PLAIN server rejected the credentials of the peer. -/
theorem negotiation_answers_iff (negotiating : before.state = .mechanismHandshake)
    (is_command : frame.flags.command = true)
    (decoded : decodeCommandRaw frame.payload.asSlice = .ok command)
    (failed : (before.mechanism.onCommand before.env command).result = .error error) :
    ∃ after : Session,
      dispatchWsBinary frame.flags frame.payload before.toSession = .error error after ∧
      (∀ {connection : Connection} {front back rest : Bytes}, connection.Settled →
        handleInput front connection = .ok () before →
        flatFrame (before.inBuf.bytes ++ back) = .ok (some (frame, rest)) →
        frame.payload.asSlice.length ≤ maxHandshakeCommand →
        stopOf (handleInput (front ++ back) connection) = ⟨after, rest, some error⟩) ∧
      (before.Answered (before.mechanism.onCommand before.env command) after ↔
        ¬before.mechanism.Rejects command) := by
  have raised := Session.processMechanismCommand_error decoded failed
  refine ⟨_, ?_, ?_, Session.answered_iff negotiating failed⟩
  · simp [dispatchWsBinary, negotiating, is_command, raised]
  · intro connection front back rest settled returned framed fits
    have first := stopOf_handleInput settled front
    rw [returned] at first
    rw [stopOf_handleInput settled, ← List.append_assoc, Engine.machine.settle_append, ← first]
    refine Engine.machine.settle_of_fail
      ((Engine.step_command negotiating is_command framed fits).trans ?_)
    rw [raised]
    rfl

end

/-- A PLAIN server which rejects everybody, after the greeting of a client. -/
def rejectingServer : Connection :=
  finalState (@handleInput .transparent (Greeting.current .plain false).encode
    (@Connection.new .transparent
      { ConnectionConfig.null .server .pair with mechanism := .plainServer fun _ => false } .zero))

def handshakeFrame (command : Command) : Frame := ⟨.commandFrame, .fromBytes command.encode⟩

/-- A rejected client is told nothing. -/
theorem rejected_unanswered :
    let hello := Command.unknown (ascii "HELLO") [1, 117, 1, 112]
    let stop :=
      stopOf (@handleInput .transparent (encodeFrame (handshakeFrame hello)) rejectingServer)
    stop.error = some (.handshakeFailed "PLAIN credentials rejected") ∧
      ¬@Session.Answered .transparent rejectingServer.toSession
        (@SecurityMechanism.onCommand .transparent rejectingServer.mechanism rejectingServer.env
          hello) stop.state := by
  decide +kernel

/-- A server which fails on a READY has nothing to answer. -/
theorem unexpected_answered :
    ∃ error after, @dispatchWsBinary .transparent .commandFrame
        (handshakeFrame (.unknown (ascii "READY") [])).payload rejectingServer.toSession =
          .error error after ∧
      @Session.Answered .transparent rejectingServer.toSession
        (@SecurityMechanism.onCommand .transparent rejectingServer.mechanism rejectingServer.env
          (.unknown (ascii "READY") [])) after := by
  obtain ⟨after, raised, -, answered⟩ := @negotiation_answers_iff (.unknown (ascii "READY") []) _
    .transparent rejectingServer (handshakeFrame (.unknown (ascii "READY") [])) rfl rfl rfl rfl
  refine ⟨_, after, raised, answered.mpr ?_⟩
  rintro ⟨server, -, -, name_eq, -⟩
  revert name_eq
  decide

end Connection

end Omq
