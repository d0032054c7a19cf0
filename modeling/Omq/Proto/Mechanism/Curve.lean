import Omq.Library.Attempt
import Omq.Proto.Mechanism.Common

/-!
# The CURVE mechanism

HELLO, WELCOME, INITIATE and READY, then one sealed MESSAGE per frame.  The elliptic-curve box and
the cookie's secret box are third-party primitives and enter as the class `CurvePrimitives`.
-/

namespace Omq

open Attempt

/-- The cryptographic primitives the mechanism calls. -/
class CurvePrimitives where
  publicKey : (secret : Bytes) → Bytes
  /-- The X25519 shared secret. -/
  diffieHellman : (secret peer : Bytes) → Bytes
  /-- Seal a plaintext in a public-key box: tag and ciphertext. -/
  sealBox : (peer secret nonce plaintext : Bytes) → Bytes × Bytes
  openBox : (peer secret nonce tag ciphertext : Bytes) → Option Bytes
  sealSecret : (key nonce plaintext : Bytes) → Bytes
  openSecret : (key nonce ciphertext : Bytes) → Option Bytes

/-- Primitives which hide nothing, to evaluate the model on concrete inputs. -/
@[reducible]
def CurvePrimitives.transparent : CurvePrimitives where
  publicKey secret := secret
  diffieHellman secret _ := secret
  sealBox _ _ _ plaintext := (List.replicate 16 0, plaintext)
  openBox _ _ _ _ ciphertext := some ciphertext
  sealSecret _ _ plaintext := List.replicate 16 0 ++ plaintext
  openSecret _ _ ciphertext := some (ciphertext.drop 16)

open CurvePrimitives

variable [CurvePrimitives]

structure CurveKeypair where
  publicKey : Bytes
  secretKey : Bytes

/-- Box of a peer key and one of our secrets. -/
structure CurveBox where
  peerPublic : Bytes
  ourSecret : Bytes

namespace CurveBox

/-- Seal with the tag in front of the ciphertext. -/
def encrypt (box : CurveBox) (nonce plaintext : Bytes) : Bytes :=
  let (tag, ciphertext) := sealBox box.peerPublic box.ourSecret nonce plaintext
  tag ++ ciphertext

/-- Open a box whose tag stands in front of the ciphertext. -/
def decrypt (box : CurveBox) (nonce ciphertext : Bytes) : Option Bytes :=
  if ciphertext.length < 16 then none
  else
    openBox box.peerPublic box.ourSecret nonce (ciphertext.take 16) (ciphertext.drop 16)

end CurveBox

def nonceShort (pre : Bytes) (counter : Nat) : Bytes := pre ++ BigEndian.encode 8 counter

def nonceLong (pre suffix : Bytes) : Bytes := pre ++ suffix

/-- `u64::checked_add(1)` on a nonce counter. -/
def nextCounter (counter : Nat) : Option Nat :=
  if counter + 1 < 2 ^ 64 then some (counter + 1) else none

/-- Reject public keys which force an all-zero shared secret. -/
def validateDhNotZero (ourSecret peerPublic : Bytes) : Except Error Unit :=
  if (diffieHellman ourSecret peerPublic).all (· = 0) then
    .error (.handshakeFailed "X25519 produced all-zero shared secret (low-order public key)")
  else .ok ()

/-- Seals outgoing frames and opens incoming ones after the handshake. -/
structure CurveTransform where
  /-- Box of the two transient keys. -/
  salsa : CurveBox
  outCounter : Nat
  inCounter : Nat
  outPrefix : Bytes
  inPrefix : Bytes

namespace CurveTransform

/-- The flags byte inside the box. -/
def innerFlags (more command : Bool) : UInt8 :=
  (if more then 1 else 0) ||| (if command then 2 else 0)

/-- Seal one payload: nonce counter, tag, sealed flags and data. -/
def encryptMessage (transform : CurveTransform) (more command : Bool) (plaintext : Bytes) :
    Except Error (Bytes × CurveTransform) :=
  match nextCounter transform.outCounter with
  | none => .error (.protocol "CURVE outbound nonce counter exhausted")
  | some counter =>
    let (tag, ciphertext) :=
      sealBox transform.salsa.peerPublic transform.salsa.ourSecret
        (nonceShort transform.outPrefix counter) (innerFlags more command :: plaintext)
    .ok (BigEndian.encode 8 counter ++ tag ++ ciphertext,
      { transform with outCounter := counter })

/-- The name which opens every sealed frame. -/
def messagePrefix : Bytes := 7 :: ascii "MESSAGE"

def messageCommandFrame (body : Bytes) : Bytes := messagePrefix ++ body

/-- Open a MESSAGE body: the inner flags and the data. -/
def decryptMessage (transform : CurveTransform) (body : Bytes) :
    Except Error ((Bool × Bool × Bytes) × CurveTransform) :=
  if body.length < 8 + 16 + 1 then .error (.protocol "MESSAGE command too short")
  else
    let counter := BigEndian.decode (body.take 8)
    if counter ≤ transform.inCounter then
      .error (.protocol "CURVE MESSAGE nonce counter not monotonically increasing")
    else
      match openBox transform.salsa.peerPublic transform.salsa.ourSecret
          (nonceShort transform.inPrefix counter) ((body.drop 8).take 16) (body.drop 24) with
      | none => .error (.protocol "CURVE decrypt failed")
      | some [] => .error (.protocol "CURVE MESSAGE plaintext missing flags")
      | some (flags :: plaintext) =>
        .ok ((flags &&& 1 ≠ 0, flags &&& 2 ≠ 0, plaintext),
          { transform with inCounter := counter })

end CurveTransform

/-- The transform of a finished handshake. -/
def buildCurveTransform (ourEphSecret peerEphPublic : Bytes) (outCounter : Nat)
    (isServer : Bool) : CurveTransform where
  salsa := ⟨peerEphPublic, ourEphSecret⟩
  outCounter := outCounter
  inCounter := 0
  outPrefix := if isServer then ascii "CurveZMQMESSAGES" else ascii "CurveZMQMESSAGEC"
  inPrefix := if isServer then ascii "CurveZMQMESSAGEC" else ascii "CurveZMQMESSAGES"

/-- A per-connection key which seals the server's transient keys in a cookie. -/
structure CurveCookieKey where
  key : Bytes
  createdAt : Nat
  lifetime : Nat
  deriving DecidableEq

structure CurveServerOptions where
  /-- Longest time between WELCOME and INITIATE, in nanoseconds. -/
  cookieLifetime : Nat
  authenticator : Option Authenticator

/-- A mechanism state together with the environment and the commands pushed so far. -/
structure Handshake (μ : Type) where
  mechanism : μ
  env : Environment
  out : List Command

/-- A fallible step of a mechanism; what it changed before failing stays changed. -/
abbrev HandshakeM (μ : Type) := EStateM Error (Handshake μ)

namespace HandshakeM

variable {μ : Type}

def mechanism : HandshakeM μ μ := do return (← get).mechanism

def setMechanism (mechanism : μ) : HandshakeM μ Unit :=
  modify fun state => { state with mechanism }

def push (command : Command) : HandshakeM μ Unit :=
  modify fun state => { state with out := state.out ++ [command] }

def fillBytes (count : Nat) : HandshakeM μ Bytes := fun state =>
  let (bytes, env) := state.env.fillBytes count
  .ok bytes { state with env }

def now : HandshakeM μ Nat := fun state =>
  let (reading, env) := state.env.now
  .ok reading { state with env }

def reply {α : Type} (step : HandshakeM μ α) (mechanism : μ) (env : Environment) : Reply μ α :=
  match step.run ⟨mechanism, env, []⟩ with
  | .ok value state => ⟨state.mechanism, state.env, state.out, .ok value⟩
  | .error error state => ⟨state.mechanism, state.env, state.out, .error error⟩

end HandshakeM

open HandshakeM

namespace CurveCookieKey

def withLifetime {μ : Type} (lifetime : Nat) : HandshakeM μ CurveCookieKey := do
  let key ← fillBytes 32
  let createdAt ← now
  return ⟨key, createdAt, lifetime⟩

def encryptCookie {μ : Type} (cookieKey : CurveCookieKey) (clientPublic serverSecret : Bytes) :
    HandshakeM μ Bytes := do
  let suffix ← fillBytes 16
  let nonce := nonceLong (ascii "COOKIE--") suffix
  return suffix ++ sealSecret cookieKey.key nonce (clientPublic ++ serverSecret)

def decryptCookie {μ : Type} (cookieKey : CurveCookieKey) (cookie : Bytes) :
    HandshakeM μ (Bytes × Bytes) := do
  if cookie.length ≠ 96 then throw (.handshakeFailed "CURVE cookie wrong length")
  let reading ← now
  if cookieKey.lifetime ≤ reading - cookieKey.createdAt then
    throw (.handshakeFailed "CURVE cookie expired")
  let nonce := nonceLong (ascii "COOKIE--") (cookie.take 16)
  match openSecret cookieKey.key nonce (cookie.drop 16) with
  | none => throw (.handshakeFailed "CURVE cookie invalid")
  | some plaintext =>
    if plaintext.length ≠ 64 then
      throw (.handshakeFailed "CURVE cookie plaintext wrong length")
    return (plaintext.take 32, plaintext.drop 32)

end CurveCookieKey

/-- The metadata of INITIATE and READY. -/
def encodeMetadata (props : PeerProperties) : Except Error Bytes :=
  if props.other.any fun (name, _) => 255 < name.length then
    .error (.protocol "property name too long")
  else .ok (Command.encodeProperties props)

/-- The command name as an error prints it. -/
def printableName (name : Bytes) : String :=
  if isUtf8 name then debugText name else debugText (ascii "<binary>")

/-! ## The client -/

inductive CurveClientState
  | init (ourEphSecret ourEphPublic : Bytes)
  | awaitingWelcome (ourEphSecret ourEphPublic : Bytes)
  | awaitingReady (ourEphSecret peerEphPublic : Bytes)
  | done (ourEphSecret peerEphPublic : Bytes)

def CurveClientState.debug : CurveClientState → String
  | .init _ _ => "Some(Init)"
  | .awaitingWelcome _ _ => "Some(AwaitingWelcome)"
  | .awaitingReady _ _ => "Some(AwaitingReady)"
  | .done _ _ => "Some(Done)"

structure CurveClient where
  ourLtSecret : Bytes
  ourLtPublic : Bytes
  /-- The server's long-term public key. -/
  peerLtPublic : Bytes
  ourProps : PeerProperties
  outCounter : Nat
  receivedCookie : Bytes
  state : CurveClientState

namespace CurveClient

/-- A client with a fresh transient key. -/
def new (keypair : CurveKeypair) (serverPublic : Bytes) (env : Environment) :
    CurveClient × Environment :=
  let (ephSecret, env) := env.fillBytes 32
  ({ ourLtSecret := keypair.secretKey
     ourLtPublic := keypair.publicKey
     peerLtPublic := serverPublic
     ourProps := .new
     outCounter := 0
     receivedCookie := []
     state := .init ephSecret (publicKey ephSecret) }, env)

def nextOutCounter : HandshakeM CurveClient Nat := do
  let client ← mechanism
  match nextCounter client.outCounter with
  | none => throw (.protocol "CURVE handshake nonce counter exhausted")
  | some counter =>
    setMechanism { client with outCounter := counter }
    return counter

/-- The HELLO body for a transient key pair. -/
def buildHello (ephSecret ephPublic : Bytes) : HandshakeM CurveClient Bytes := do
  let counter ← nextOutCounter
  let client ← mechanism
  let signature := (CurveBox.mk client.peerLtPublic ephSecret).encrypt
    (nonceShort (ascii "CurveZMQHELLO---") counter) (List.replicate 64 0)
  return [1, 0] ++ List.replicate 72 0 ++ ephPublic ++ BigEndian.encode 8 counter ++ signature

/-- Send HELLO. -/
def start (ourProps : PeerProperties) : HandshakeM CurveClient Unit := do
  setMechanism { ← mechanism with ourProps }
  match (← mechanism).state with
  | .init ephSecret ephPublic => do
      let body ← buildHello ephSecret ephPublic
      push (.unknown (ascii "HELLO") body)
      setMechanism
        { ← mechanism with state := .awaitingWelcome ephSecret ephPublic }
  | _ => return ()

/-- Open WELCOME and take over the server's transient key and cookie. -/
def processWelcome (ephSecret body : Bytes) : HandshakeM CurveClient Unit := do
  if body.length ≠ 160 then
    throw (.handshakeFailed ("CURVE WELCOME has wrong length " ++ toString body.length))
  let client ← mechanism
  let nonce := nonceLong (ascii "WELCOME-") (body.take 16)
  match (CurveBox.mk client.peerLtPublic ephSecret).decrypt nonce (body.drop 16) with
  | none => throw (.handshakeFailed "CURVE WELCOME decrypt failed")
  | some plaintext => do
      if plaintext.length ≠ 128 then
        throw (.handshakeFailed ("CURVE WELCOME plaintext len " ++ toString plaintext.length))
      let peerEphPublic := plaintext.take 32
      Attempt.ofExcept (validateDhNotZero ephSecret peerEphPublic)
      setMechanism
        { client with
          state := .awaitingReady ephSecret peerEphPublic
          receivedCookie := plaintext.drop 32 }

/-- The INITIATE body: cookie, counter, and the sealed vouch and metadata. -/
def buildInitiate : HandshakeM CurveClient Bytes := do
  let counter ← nextOutCounter
  let client ← mechanism
  match client.state with
  | .awaitingReady ephSecret peerEphPublic => do
      let suffix ← fillBytes 16
      let vouch := (CurveBox.mk peerEphPublic client.ourLtSecret).encrypt
        (nonceLong (ascii "VOUCH---") suffix)
        (publicKey ephSecret ++ client.peerLtPublic)
      let metadata ← Attempt.ofExcept (encodeMetadata client.ourProps)
      let initiate := (CurveBox.mk peerEphPublic ephSecret).encrypt
        (nonceShort (ascii "CurveZMQINITIATE") counter)
        (client.ourLtPublic ++ suffix ++ vouch ++ metadata)
      return client.receivedCookie ++ BigEndian.encode 8 counter ++ initiate
  | _ => return []

/-- Open READY and finish. -/
def parseReady (ephSecret peerEphPublic body : Bytes) :
    HandshakeM CurveClient PeerProperties := do
  if body.length < 8 + 16 then throw (.handshakeFailed "CURVE READY too short")
  let counter := BigEndian.decode (body.take 8)
  match (CurveBox.mk peerEphPublic ephSecret).decrypt
      (nonceShort (ascii "CurveZMQREADY---") counter) (body.drop 8) with
  | none => throw (.handshakeFailed "CURVE READY decrypt failed")
  | some plaintext => do
      let props ← Attempt.ofExcept (Command.decodeProperties plaintext)
      setMechanism
        { ← mechanism with state := .done ephSecret peerEphPublic }
      return props

/-- Answer WELCOME with INITIATE and finish on READY. -/
def onCommand (command : Command) : HandshakeM CurveClient MechanismStep := do
  match tryErrorCommand command "CURVE" with
  | some error => throw error
  | none =>
    match command with
    | .unknown name body => do
        let client ← mechanism
        match client.state with
        | .awaitingWelcome ephSecret _ =>
          if name = ascii "WELCOME" then
            processWelcome ephSecret body
            let initiate ← buildInitiate
            push (.unknown (ascii "INITIATE") initiate)
            return .continue
          else refuse client name
        | .awaitingReady ephSecret peerEphPublic =>
          if name = ascii "READY" then
            return .complete (← parseReady ephSecret peerEphPublic body)
          else refuse client name
        | _ => refuse client name
    | _ =>
      throw (.handshakeFailed ("CURVE client got unexpected command: " ++ command.kind))
where
  /-- A command the state cannot consume. -/
  refuse (client : CurveClient) (name : Bytes) : HandshakeM CurveClient MechanismStep :=
    throw (.handshakeFailed ("CURVE client state " ++ client.state.debug ++
      " cannot consume command " ++ printableName name))

def buildTransform (client : CurveClient) : Except Error CurveTransform :=
  match client.state with
  | .done ephSecret peerEphPublic =>
    .ok (buildCurveTransform ephSecret peerEphPublic client.outCounter false)
  | _ => .error (.handshakeFailed "CURVE transform requested before handshake complete")

end CurveClient

/-! ## The server -/

/-- States of a CURVE server; the transient keys live in the cookie until INITIATE. -/
inductive CurveServerState
  | init
  | awaitingInitiate
  | done (ourEphSecret peerEphPublic : Bytes)
  deriving DecidableEq

def CurveServerState.debug : CurveServerState → String
  | .init => "Init"
  | .awaitingInitiate => "AwaitingInitiate"
  | .done _ _ => "Done"

structure CurveServer where
  ourLtSecret : Bytes
  ourLtPublic : Bytes
  cookieLifetime : Nat
  /-- Cookie key of this connection, consumed by INITIATE. -/
  cookieKey : Option CurveCookieKey
  authenticator : Option Authenticator
  ourProps : PeerProperties
  outCounter : Nat
  state : CurveServerState

namespace CurveServer

def new (keypair : CurveKeypair) (options : CurveServerOptions) : CurveServer where
  ourLtSecret := keypair.secretKey
  ourLtPublic := keypair.publicKey
  cookieLifetime := options.cookieLifetime
  cookieKey := none
  authenticator := options.authenticator
  ourProps := .new
  outCounter := 0
  state := .init

def nextOutCounter : HandshakeM CurveServer Nat := do
  let server ← mechanism
  match nextCounter server.outCounter with
  | none => throw (.protocol "CURVE handshake nonce counter exhausted")
  | some counter =>
    setMechanism { server with outCounter := counter }
    return counter

variable (server : CurveServer)

/-- Wait for HELLO. -/
def start (ourProps : PeerProperties) : CurveServer :=
  { server with ourProps, state := .init }

/-- Check HELLO; the result is our new transient secret and the client's transient key. -/
def parseHello (body : Bytes) : HandshakeM CurveServer (Bytes × Bytes) := do
  if body.length ≠ 194 then
    throw (.handshakeFailed ("CURVE HELLO has wrong length " ++ toString body.length))
  let major := body.getD 0 0
  let minor := body.getD 1 0
  if major ≠ 1 ∨ minor ≠ 0 then
    throw (.handshakeFailed ("CURVE version mismatch " ++ toString major ++ "." ++ toString minor))
  let clientPublic := (body.drop 74).take 32
  let counter := BigEndian.decode ((body.drop 106).take 8)
  let server ← mechanism
  Attempt.ofExcept (validateDhNotZero server.ourLtSecret clientPublic)
  match (CurveBox.mk clientPublic server.ourLtSecret).decrypt
      (nonceShort (ascii "CurveZMQHELLO---") counter) (body.drop 114) with
  | none => throw (.handshakeFailed "CURVE HELLO signature invalid")
  | some plaintext => do
      if plaintext.length ≠ 64 ∨ plaintext.any (· ≠ 0) then
        throw (.handshakeFailed "CURVE HELLO signature plaintext not 64 zeros")
      let ephSecret ← fillBytes 32
      return (ephSecret, clientPublic)

/-- The WELCOME body, with the transient keys sealed in its cookie. -/
def buildWelcome (ephSecret clientPublic : Bytes) : HandshakeM CurveServer Bytes := do
  let suffix ← fillBytes 16
  let server ← mechanism
  let cookieKey ← CurveCookieKey.withLifetime server.cookieLifetime
  let cookie ← cookieKey.encryptCookie clientPublic ephSecret
  setMechanism { server with cookieKey := some cookieKey }
  let welcome := (CurveBox.mk clientPublic server.ourLtSecret).encrypt
    (nonceLong (ascii "WELCOME-") suffix) (publicKey ephSecret ++ cookie)
  return suffix ++ welcome

/-- Check that the client's long-term key vouches for its transient key and for us. -/
def verifyVouch (ephSecret ourLtPublic suffix vouch clientLt expected : Bytes) :
    Except Error Unit :=
  match (CurveBox.mk clientLt ephSecret).decrypt (nonceLong (ascii "VOUCH---") suffix) vouch with
  | none => .error (.handshakeFailed "CURVE VOUCH invalid")
  | some plaintext =>
    if plaintext.length ≠ 64 ∨ plaintext.take 32 ≠ expected ∨ plaintext.drop 32 ≠ ourLtPublic
    then .error (.handshakeFailed "CURVE VOUCH content mismatch")
    else .ok ()

/-- Ask the admission callback about a verified client. -/
def authorize (clientLt : Bytes) (props : PeerProperties) : Except Error Unit :=
  match server.authenticator with
  | none => .ok ()
  | some authenticator =>
    let peer : MechanismPeerInfo := {
      mechanism := .curve
      publicKey := clientLt
      identity := props.identity
      username := none
      password := none }
    if authenticator peer then .ok ()
    else .error (.handshakeFailed "CURVE client public key not authorized")

/-- Open INITIATE, verify the vouch, and admit the client. -/
def parseInitiate (body : Bytes) : HandshakeM CurveServer PeerProperties := do
  if body.length < 96 + 8 + 16 then throw (.handshakeFailed "CURVE INITIATE too short")
  let counter := BigEndian.decode ((body.drop 96).take 8)
  let server ← mechanism
  match server.cookieKey with
  | none => throw (.handshakeFailed "CURVE cookie key unavailable")
  | some cookieKey => do
      -- The cookie key is taken before the cookie is opened, so it serves one attempt only.
      setMechanism { server with cookieKey := none }
      let (clientPublic, ephSecret) ← cookieKey.decryptCookie (body.take 96)
      match (CurveBox.mk clientPublic ephSecret).decrypt
          (nonceShort (ascii "CurveZMQINITIATE") counter) (body.drop 104) with
      | none => throw (.handshakeFailed "CURVE INITIATE decrypt failed")
      | some plaintext => do
          if plaintext.length < 32 + 16 + 80 then
            throw (.handshakeFailed "CURVE INITIATE plaintext too short")
          let clientLt := plaintext.take 32
          Attempt.ofExcept (validateDhNotZero ephSecret clientLt)
          Attempt.ofExcept (verifyVouch ephSecret server.ourLtPublic
            ((plaintext.drop 32).take 16) ((plaintext.drop 48).take 80) clientLt clientPublic)
          let props ← Attempt.ofExcept (Command.decodeProperties (plaintext.drop 128))
          Attempt.ofExcept (server.authorize clientLt props)
          setMechanism
            { ← mechanism with state := .done ephSecret clientPublic }
          return props

def buildReady : HandshakeM CurveServer Bytes := do
  let counter ← nextOutCounter
  let server ← mechanism
  match server.state with
  | .done ephSecret peerEphPublic => do
      let metadata ← Attempt.ofExcept (encodeMetadata server.ourProps)
      let ready := (CurveBox.mk peerEphPublic ephSecret).encrypt
        (nonceShort (ascii "CurveZMQREADY---") counter) metadata
      return BigEndian.encode 8 counter ++ ready
  | _ => throw (.handshakeFailed "CURVE READY requested before INITIATE")

/-- Answer HELLO with WELCOME and INITIATE with READY. -/
def onCommand (command : Command) : HandshakeM CurveServer MechanismStep := do
  match tryErrorCommand command "CURVE" with
  | some error => throw error
  | none =>
    match command with
    | .unknown name body => do
        let server ← mechanism
        match server.state with
        | .init =>
          if name = ascii "HELLO" then
            let (ephSecret, clientPublic) ← parseHello body
            let welcome ← buildWelcome ephSecret clientPublic
            push (.unknown (ascii "WELCOME") welcome)
            setMechanism
              { ← mechanism with state := .awaitingInitiate }
            return .continue
          else refuse server name
        | .awaitingInitiate =>
          if name = ascii "INITIATE" then
            let props ← parseInitiate body
            let ready ← buildReady
            push (.unknown (ascii "READY") ready)
            return .complete props
          else refuse server name
        | _ => refuse server name
    | _ =>
      throw (.handshakeFailed ("CURVE server got unexpected command: " ++ command.kind))
where
  refuse (server : CurveServer) (name : Bytes) : HandshakeM CurveServer MechanismStep :=
    throw (.handshakeFailed ("CURVE server state " ++ server.state.debug ++
      " cannot consume command " ++ printableName name))

def buildTransform : Except Error CurveTransform :=
  match server.state with
  | .done ephSecret peerEphPublic =>
    .ok (buildCurveTransform ephSecret peerEphPublic server.outCounter true)
  | _ => .error (.handshakeFailed "CURVE transform requested before handshake complete")

end CurveServer

inductive CurveMechanism
  | client (side : CurveClient)
  | server (side : CurveServer)

namespace CurveMechanism

/-- Kick off the handshake. -/
def start (mechanism : CurveMechanism) (env : Environment) (ourProps : PeerProperties) :
    Reply CurveMechanism Unit :=
  match mechanism with
  | .client side => ((CurveClient.start ourProps).reply side env).map .client
  | .server side => ⟨.server (side.start ourProps), env, [], .ok ()⟩

/-- Consume a command of the peer. -/
def onCommand (mechanism : CurveMechanism) (env : Environment) (command : Command) :
    Reply CurveMechanism MechanismStep :=
  match mechanism with
  | .client side => ((CurveClient.onCommand command).reply side env).map .client
  | .server side => ((CurveServer.onCommand command).reply side env).map .server

/-- The transform of a finished handshake. -/
def buildTransform : CurveMechanism → Except Error CurveTransform
  | .client side => side.buildTransform
  | .server side => side.buildTransform

end CurveMechanism

end Omq
