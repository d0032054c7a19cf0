import Omq.Proto.Mechanism.Curve
import Omq.Proto.Mechanism.Plain

/-!
# Security mechanisms

The NULL mechanism, the configuration of a mechanism, and the dispatch over the three of them.
-/

namespace Omq

inductive NullState
  | notStarted
  | awaitingReady
  | done

def NullState.debug : NullState → String
  | .notStarted => "NotStarted"
  | .awaitingReady => "AwaitingReady"
  | .done => "Done"

/-- Put the name of a command back in front of its body. -/
def prependName (name body : Bytes) : Bytes := UInt8.ofNat name.length :: name ++ body

namespace NullState

/-- Send READY. -/
def start (_ : NullState) (env : Environment) (ourProps : PeerProperties) : Reply NullState Unit :=
  ⟨.awaitingReady, env, [.ready ourProps], .ok ()⟩

def parseReady (body : Bytes) : Except Error PeerProperties :=
  match Command.decode (prependName (ascii "READY") body) with
  | .error error => .error error
  | .ok (.ready props) => .ok props
  | .ok _ => .error (.handshakeFailed "READY parse mismatch")

/-- Finish on READY. -/
def onCommand (state : NullState) (env : Environment) (command : Command) :
    Reply NullState MechanismStep :=
  match tryErrorCommand command "NULL" with
  | some error => ⟨state, env, [], .error error⟩
  | none =>
    match state, command with
    | .awaitingReady, .ready props => ⟨.done, env, [], .ok (.complete props)⟩
    | .awaitingReady, .unknown name body =>
      if name = ascii "READY" then
        match parseReady body with
        | .error error => ⟨state, env, [], .error error⟩
        | .ok props => ⟨.done, env, [], .ok (.complete props)⟩
      else
        ⟨state, env, [], .error (.handshakeFailed "expected READY, got Unknown")⟩
    | .awaitingReady, other =>
      ⟨state, env, [], .error (.handshakeFailed ("expected READY, got " ++ other.kind))⟩
    | state, _ =>
      ⟨state, env, [], .error (.handshakeFailed
        ("NULL mechanism in state " ++ state.debug ++ " received command"))⟩

end NullState

variable [CurvePrimitives]

inductive SecurityMechanism
  | null (state : NullState)
  | plain (mechanism : PlainMechanism)
  | curve (mechanism : CurveMechanism)

namespace SecurityMechanism

variable (mechanism : SecurityMechanism) (env : Environment)

def start (ourProps : PeerProperties) : Reply SecurityMechanism Unit :=
  match mechanism with
  | .null state => (state.start env ourProps).map .null
  | .plain side => (side.start env ourProps).map .plain
  | .curve side => (side.start env ourProps).map .curve

def onCommand (command : Command) : Reply SecurityMechanism MechanismStep :=
  match mechanism with
  | .null state => (state.onCommand env command).map .null
  | .plain side => (side.onCommand env command).map .plain
  | .curve side => (side.onCommand env command).map .curve

/-- The frame transform of a finished handshake; only CURVE has one. -/
def buildTransform : SecurityMechanism → Except Error (Option CurveTransform)
  | .null _ => .ok none
  | .plain _ => .ok none
  | .curve side => some <$> side.buildTransform

/-- Whether the handshake ends with a frame transform. -/
def encrypts : SecurityMechanism → Bool
  | .curve _ => true
  | _ => false

theorem encrypts_start (ourProps : PeerProperties) :
    (mechanism.start env ourProps).mechanism.encrypts = mechanism.encrypts := by
  cases mechanism <;> rfl

theorem encrypts_onCommand (command : Command) :
    (mechanism.onCommand env command).mechanism.encrypts = mechanism.encrypts := by
  cases mechanism <;> rfl

omit [CurvePrimitives] in
theorem encrypts_of_buildTransform {mechanism : SecurityMechanism}
    {transform : Option CurveTransform} (built : mechanism.buildTransform = .ok transform)
    (installed : transform.isSome) : mechanism.encrypts = true := by
  cases mechanism with
  | null _ | plain _ =>
    cases built
    cases installed
  | curve _ => rfl

end SecurityMechanism

inductive MechanismSetup
  | null
  | curveServer (keypair : CurveKeypair) (options : CurveServerOptions)
  | curveClient (keypair : CurveKeypair) (serverPublic : Bytes)
  | plainServer (authenticator : Authenticator)
  | plainClient (username password : Bytes)

namespace MechanismSetup

/-- Name advertised in the greeting. -/
def wireName : MechanismSetup → MechanismName
  | .null => .null
  | .curveServer _ _ => .curve
  | .curveClient _ _ => .curve
  | .plainServer _ => .plain
  | .plainClient _ _ => .plain

def hasFrameTransform : MechanismSetup → Bool
  | .null => false
  | .curveServer _ _ => true
  | .curveClient _ _ => true
  | .plainServer _ => false
  | .plainClient _ _ => false

def build (setup : MechanismSetup) (env : Environment) : SecurityMechanism × Environment :=
  match setup with
  | .null => (.null .notStarted, env)
  | .curveServer keypair options => (.curve (.server (.new keypair options)), env)
  | .curveClient keypair serverPublic =>
    let (client, env) := CurveClient.new keypair serverPublic env
    (.curve (.client client), env)
  | .plainServer authenticator => (.plain (.newServer authenticator), env)
  | .plainClient username password => (.plain (.newClient username password), env)

theorem encrypts_build (setup : MechanismSetup) (env : Environment) :
    (setup.build env).1.encrypts = setup.hasFrameTransform := by
  cases setup <;> rfl

end MechanismSetup

end Omq
