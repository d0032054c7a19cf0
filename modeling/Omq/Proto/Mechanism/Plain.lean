import Omq.Proto.Mechanism.Common

/-!
# The PLAIN mechanism

Username and password authentication in four commands, without encryption.
-/

namespace Omq

inductive PlainClientState
  | notStarted
  | awaitingWelcome
  | awaitingReady
  | done

structure PlainClient where
  username : Bytes
  password : Bytes
  ourProps : PeerProperties
  state : PlainClientState

inductive PlainServerState
  | notStarted
  | awaitingHello
  | awaitingInitiate
  | done

structure PlainServer where
  /-- Decides on the presented credentials. -/
  authenticator : Authenticator
  ourProps : PeerProperties
  state : PlainServerState

def PlainClientState.discriminant : PlainClientState → Nat
  | .notStarted => 0
  | .awaitingWelcome => 1
  | .awaitingReady => 2
  | .done => 3

def PlainServerState.discriminant : PlainServerState → Nat
  | .notStarted => 0
  | .awaitingHello => 1
  | .awaitingInitiate => 2
  | .done => 3

/-- The refusal of a command which does not fit the state. -/
def plainUnexpected (side : String) (command : Command) (discriminant : Nat) : Error :=
  .handshakeFailed ("PLAIN " ++ side ++ ": unexpected " ++ command.kind ++
    " in state Discriminant(" ++ toString discriminant ++ ")")

def encodeHello (username password : Bytes) : Except Error Bytes :=
  if 255 < username.length then .error (.handshakeFailed "PLAIN username exceeds 255 bytes")
  else if 255 < password.length then
    .error (.handshakeFailed "PLAIN password exceeds 255 bytes")
  else
    .ok (UInt8.ofNat username.length :: username ++ UInt8.ofNat password.length :: password)

def decodeHello : Bytes → Except Error (Bytes × Bytes)
  | [] => .error (.handshakeFailed "PLAIN HELLO body empty")
  | first :: rest =>
    let usernameLen := first.toNat
    if rest.length < usernameLen + 1 then
      .error (.handshakeFailed "PLAIN HELLO truncated in username")
    else
      let username := rest.take usernameLen
      if !isUtf8 username then .error (.handshakeFailed "PLAIN username not UTF-8")
      else
        let passwordLen := (rest.getD usernameLen 0).toNat
        let tail := rest.drop (usernameLen + 1)
        if tail.length < passwordLen then
          .error (.handshakeFailed "PLAIN HELLO truncated in password")
        else
          let password := tail.take passwordLen
          if !isUtf8 password then .error (.handshakeFailed "PLAIN password not UTF-8")
          else .ok (username, password)

namespace PlainClient

def start (client : PlainClient) (env : Environment) (ourProps : PeerProperties) :
    Reply PlainClient Unit :=
  let client := { client with ourProps }
  match encodeHello client.username client.password with
  | .error error => ⟨client, env, [], .error error⟩
  | .ok body =>
    ⟨{ client with state := .awaitingWelcome }, env, [.unknown (ascii "HELLO") body], .ok ()⟩

def onCommand (client : PlainClient) (env : Environment) (command : Command) :
    Reply PlainClient MechanismStep :=
  match client.state, command with
  | .awaitingWelcome, .unknown name body =>
    if name = ascii "WELCOME" then
      ⟨{ client with state := .awaitingReady }, env,
        [.unknown (ascii "INITIATE") (Command.encodeProperties client.ourProps)],
        .ok .continue⟩
    else
      ⟨client, env, [],
        .error (plainUnexpected "client" (.unknown name body) client.state.discriminant)⟩
  | .awaitingReady, .unknown name body =>
    if name = ascii "READY" then
      match Command.decodeProperties body with
      | .error error => ⟨client, env, [], .error error⟩
      | .ok props => ⟨{ client with state := .done }, env, [], .ok (.complete props)⟩
    else
      ⟨client, env, [],
        .error (plainUnexpected "client" (.unknown name body) client.state.discriminant)⟩
  | state, command =>
    ⟨client, env, [], .error (plainUnexpected "client" command state.discriminant)⟩

end PlainClient

namespace PlainServer

variable (server : PlainServer) (env : Environment)

def start (ourProps : PeerProperties) : Reply PlainServer Unit :=
  ⟨{ server with ourProps, state := .awaitingHello }, env, [], .ok ()⟩

/-- Check the credentials in HELLO. -/
def onHello (body : Bytes) : Reply PlainServer MechanismStep :=
  match decodeHello body with
  | .error error => ⟨server, env, [], .error error⟩
  | .ok (username, password) =>
    let peer : MechanismPeerInfo := {
      mechanism := .plain
      publicKey := List.replicate 32 0
      identity := none
      username := some username
      password := some password }
    if !server.authenticator peer then
      ⟨server, env, [.error (ascii "Authentication failed")],
        .error (.handshakeFailed "PLAIN credentials rejected")⟩
    else
      ⟨{ server with state := .awaitingInitiate }, env, [.unknown (ascii "WELCOME") []],
        .ok .continue⟩

/-- Accept the client's properties and answer READY. -/
def onInitiate (body : Bytes) : Reply PlainServer MechanismStep :=
  match Command.decodeProperties body with
  | .error error => ⟨server, env, [], .error error⟩
  | .ok props =>
    ⟨{ server with state := .done }, env,
      [.unknown (ascii "READY") (Command.encodeProperties server.ourProps)],
      .ok (.complete props)⟩

/-- Consume HELLO, then INITIATE. -/
def onCommand (command : Command) : Reply PlainServer MechanismStep :=
  match server.state, command with
  | .awaitingHello, .unknown name body =>
    if name = ascii "HELLO" then server.onHello env body
    else
      ⟨server, env, [],
        .error (plainUnexpected "server" (.unknown name body) server.state.discriminant)⟩
  | .awaitingInitiate, .unknown name body =>
    if name = ascii "INITIATE" then server.onInitiate env body
    else
      ⟨server, env, [],
        .error (plainUnexpected "server" (.unknown name body) server.state.discriminant)⟩
  | state, command =>
    ⟨server, env, [], .error (plainUnexpected "server" command state.discriminant)⟩

end PlainServer

inductive PlainMechanism
  | client (side : PlainClient)
  | server (side : PlainServer)

namespace PlainMechanism

def newServer (authenticator : Authenticator) : PlainMechanism :=
  .server ⟨authenticator, .new, .notStarted⟩

def newClient (username password : Bytes) : PlainMechanism :=
  .client ⟨username, password, .new, .notStarted⟩

def start (mechanism : PlainMechanism) (env : Environment) (ourProps : PeerProperties) :
    Reply PlainMechanism Unit :=
  match mechanism with
  | .client side => (side.start env ourProps).map .client
  | .server side => (side.start env ourProps).map .server

def onCommand (mechanism : PlainMechanism) (env : Environment) (command : Command) :
    Reply PlainMechanism MechanismStep :=
  match tryErrorCommand command "PLAIN" with
  | some error => ⟨mechanism, env, [], .error error⟩
  | none =>
    match mechanism with
    | .client side => (side.onCommand env command).map .client
    | .server side => (side.onCommand env command).map .server

end PlainMechanism

end Omq
