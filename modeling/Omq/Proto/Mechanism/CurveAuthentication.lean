import Omq.Proto.Mechanism.CurveChannel

/-!
# Authentication by a CURVE server

A server keeps no keys of a client between WELCOME and INITIATE: they are in the cookie.  Over every
sequence of commands, a server which completes got one of its own cookies back, with a vouch of the
client's long-term key for the transient key in that cookie and for this server, and its
authenticator accepted the long-term key.
-/

namespace Omq

open Attempt CurvePrimitives HandshakeM CurveServer CurveCookieKey Transition List Preserves

/-! ## Steps of a handshake -/

variable {μ : Type} {result : Unit} {state after : Handshake μ}

theorem mechanism_eq_ok {mechanism : μ} :
    HandshakeM.mechanism state = .ok mechanism after ↔
      state.mechanism = mechanism ∧ state = after :=
  pure_eq_ok

theorem setMechanism_eq_ok {mechanism : μ} :
    setMechanism mechanism state = .ok result after ↔
      { state with mechanism } = after := by
  simp [setMechanism]

theorem push_eq_ok {command : Command} :
    push command state = .ok result after ↔
      { state with out := state.out ++ [command] } = after := by
  simp [push]

theorem fillBytes_eq_ok {count : Nat} {bytes : Bytes} :
    fillBytes count state = .ok bytes after ↔
      (state.env.fillBytes count).1 = bytes ∧
        { state with env := (state.env.fillBytes count).2 } = after :=
  pure_eq_ok

theorem now_eq_ok {reading : Nat} :
    now state = .ok reading after ↔
      state.env.now.1 = reading ∧ { state with env := state.env.now.2 } = after :=
  pure_eq_ok

/-- A step may rely on what holds of the mechanism it reads. -/
theorem preserves_read {α : Type} {property : Handshake μ → Prop} {next : μ → HandshakeM μ α}
    (next_keeps : ∀ state, property state → Preserves property (next state.mechanism)) :
    Preserves property (mechanism >>= next) :=
  fun state holds => next_keeps state holds state holds

section Primitives

variable [CurvePrimitives]

/-! ## Cookies -/

/-- A cookie with what the server sealed in it. -/
structure IssuedCookie where
  cookieKey : CurveCookieKey
  clientPublic : Bytes
  ephSecret : Bytes
  cookie : Bytes

/-- The cookie which a server makes of a HELLO: the draws of `parseHello` and `buildWelcome`. -/
def CurveServer.makeCookie (body : Bytes) : HandshakeM CurveServer IssuedCookie := do
  let (ephSecret, clientPublic) ← parseHello body
  let _ ← fillBytes 16
  let server ← mechanism
  let cookieKey ← withLifetime server.cookieLifetime
  let cookie ← cookieKey.encryptCookie clientPublic ephSecret
  return ⟨cookieKey, clientPublic, ephSecret, cookie⟩

def CurveServer.issuedBy (server : CurveServer) (env : Environment) : Command → Option IssuedCookie
  | .unknown name body =>
    if server.state = .init ∧ name = ascii "HELLO" then
      match makeCookie body ⟨server, env, []⟩ with
      | .ok issued _ => some issued
      | .error _ _ => none
    else none
  | _ => none

variable {ephSecret clientPublic cookie clientLt : Bytes} {state : Handshake CurveServer}
  {cookieKey : CurveCookieKey} {issued : IssuedCookie} {server : CurveServer} {command : Command}
  {props : PeerProperties} {body : Bytes} {after : Handshake CurveServer}

/-- A parsed HELLO names the client's transient key. -/
theorem CurveServer.parseHello_eq_ok
    (parsed : parseHello body state = .ok (ephSecret, clientPublic) after) :
    body.length = 194 ∧ clientPublic = (body.drop 74).take 32 ∧
      after.mechanism = state.mechanism ∧ after.out = state.out := by
  simp only [parseHello, guard_eq_ok, bind_eq_ok, ofExcept_eq_ok, mechanism_eq_ok] at parsed
  obtain ⟨length, -, server, _, ⟨-, rfl⟩, _, _, ⟨-, rfl⟩, opened⟩ := parsed
  cases decrypted : (CurveBox.mk ((body.drop 74).take 32) server.ourLtSecret).decrypt
      (nonceShort (ascii "CurveZMQHELLO---") (BigEndian.decode ((body.drop 106).take 8)))
      (body.drop 114) with
  | none => exact absurd (decrypted ▸ opened) throw_ne_ok
  | some plaintext =>
    rw [decrypted] at opened
    simp only [guard_eq_ok, bind_eq_ok, fillBytes_eq_ok, pure_eq_ok, Prod.mk.injEq] at opened
    obtain ⟨-, secret, drawn, ⟨rfl, rfl⟩, ⟨rfl, rfl⟩, rfl⟩ := opened
    exact ⟨not_not.mp length, rfl, rfl, rfl⟩

omit [CurvePrimitives] in
theorem CurveCookieKey.withLifetime_eq_ok {lifetime : Nat}
    (made : withLifetime lifetime state = .ok cookieKey after) :
    after.mechanism = state.mechanism ∧ after.out = state.out := by
  simp only [withLifetime, bind_eq_ok, fillBytes_eq_ok, now_eq_ok, pure_eq_ok] at made
  obtain ⟨_, _, ⟨-, rfl⟩, _, _, ⟨-, rfl⟩, -, rfl⟩ := made
  exact ⟨rfl, rfl⟩

theorem CurveCookieKey.encryptCookie_eq_ok
    (made : cookieKey.encryptCookie clientPublic ephSecret state = .ok cookie after) :
    after.mechanism = state.mechanism ∧ after.out = state.out ∧
      ∃ suffix : Bytes, suffix.length = 16 ∧ cookie = suffix ++ sealSecret
        cookieKey.key (nonceLong (ascii "COOKIE--") suffix) (clientPublic ++ ephSecret) := by
  simp only [encryptCookie, bind_eq_ok, fillBytes_eq_ok, pure_eq_ok] at made
  obtain ⟨_, _, ⟨rfl, rfl⟩, rfl, rfl⟩ := made
  exact ⟨rfl, rfl, _, Environment.length_fillBytes _ _, rfl⟩

/-- What a server seals in a cookie. -/
structure IssuedCookie.Genuine (issued : IssuedCookie) (hello : Bytes) : Prop where
  clientPublic : issued.clientPublic = (hello.drop 74).take 32
  length_clientPublic : issued.clientPublic.length = 32
  sealed : ∃ suffix : Bytes, suffix.length = 16 ∧ issued.cookie = suffix ++
    sealSecret issued.cookieKey.key (nonceLong (ascii "COOKIE--") suffix)
      (issued.clientPublic ++ issued.ephSecret)

theorem CurveServer.makeCookie_eq_ok (made : makeCookie body state = .ok issued after) :
    issued.Genuine body ∧ ∃ parsed suffix,
      parseHello body state = .ok (issued.ephSecret, issued.clientPublic) parsed ∧
        buildWelcome issued.ephSecret issued.clientPublic parsed =
          .ok (suffix ++ (CurveBox.mk issued.clientPublic state.mechanism.ourLtSecret).encrypt
              (nonceLong (ascii "WELCOME-") suffix)
              (publicKey issued.ephSecret ++ issued.cookie))
            { after with mechanism :=
              { state.mechanism with cookieKey := some issued.cookieKey } } ∧
        after.out = state.out := by
  simp only [makeCookie, bind_eq_ok, mechanism_eq_ok, pure_eq_ok, Prod.exists] at made
  obtain ⟨ephSecret, clientPublic, parsed, hello, suffix, filled, drawn, server, _, ⟨rfl, rfl⟩,
    cookieKey, keyed, keyed_eq, cookie, sealed, sealed_eq, rfl, rfl⟩ := made
  obtain ⟨length, client, same_server, same_out⟩ := parseHello_eq_ok hello
  obtain ⟨-, rfl⟩ := fillBytes_eq_ok.mp drawn
  obtain ⟨keyed_server, keyed_out⟩ := withLifetime_eq_ok keyed_eq
  obtain ⟨sealed_server, sealed_out, cookie_eq⟩ := encryptCookie_eq_ok sealed_eq
  have length_client : clientPublic.length = 32 := by
    rw [client, length_take, length_drop, length]
    rfl
  refine ⟨⟨client, length_client, cookie_eq⟩, parsed, suffix, hello, ?_, ?_⟩
  · simp only [buildWelcome, bind_eq_ok, mechanism_eq_ok, setMechanism_eq_ok, pure_eq_ok]
    refine ⟨suffix, _, drawn, parsed.mechanism, _, ⟨rfl, rfl⟩, cookieKey, keyed, keyed_eq, cookie,
      sealed, sealed_eq, (), _, rfl, ?_, ?_⟩
    · rw [same_server]
    · rw [same_server]
  · rw [sealed_out, keyed_out]
    exact same_out

theorem CurveServer.makeCookie_of_issuedBy {env : Environment}
    (issues : server.issuedBy env command = some issued) :
    server.state = .init ∧ ∃ hello after, command = .unknown (ascii "HELLO") hello ∧
      makeCookie hello ⟨server, env, []⟩ = .ok issued after := by
  cases command with
  | unknown name body =>
    obtain ⟨⟨init, rfl⟩, made⟩ := Option.ite_none_right_eq_some.mp issues
    split at made <;> cases made
    next after made => exact ⟨init, body, after, rfl, made⟩
  | _ => cases issues

/-! ## INITIATE -/

theorem CurveCookieKey.decryptCookie_eq_ok
    (opened : cookieKey.decryptCookie cookie state = .ok (clientPublic, ephSecret) after) :
    clientPublic.length = 32 ∧
      openSecret cookieKey.key (nonceLong (ascii "COOKIE--") (cookie.take 16))
        (cookie.drop 16) = some (clientPublic ++ ephSecret) := by
  simp only [decryptCookie, guard_eq_ok, bind_eq_ok, now_eq_ok] at opened
  obtain ⟨-, _, _, ⟨-, rfl⟩, -, opened⟩ := opened
  cases unlocked : openSecret cookieKey.key
      (nonceLong (ascii "COOKIE--") (cookie.take 16)) (cookie.drop 16) with
  | none => exact absurd (unlocked ▸ opened) throw_ne_ok
  | some plaintext =>
    rw [unlocked] at opened
    simp only [guard_eq_ok, pure_eq_ok, Prod.mk.injEq] at opened
    obtain ⟨sized, ⟨rfl, rfl⟩, rfl⟩ := opened
    have sized : plaintext.length = 64 := not_not.mp sized
    refine ⟨?_, by rw [take_append_drop]⟩
    rw [length_take, sized]
    rfl

theorem CurveServer.verifyVouch_eq_ok {ourLtPublic suffix vouch expected : Bytes}
    (verified : verifyVouch ephSecret ourLtPublic suffix vouch clientLt expected = .ok ()) :
    (CurveBox.mk clientLt ephSecret).decrypt (nonceLong (ascii "VOUCH---") suffix) vouch =
      some (expected ++ ourLtPublic) := by
  revert verified
  fun_cases verifyVouch ephSecret ourLtPublic suffix vouch clientLt expected <;> rintro ⟨⟩
  next plaintext opened same =>
    obtain ⟨-, front, back⟩ := not_or.mp same |>.imp_right not_or.mp
    rw [opened, ← not_not.mp front, ← not_not.mp back, take_append_drop]

omit [CurvePrimitives] in
theorem CurveServer.authorize_eq_ok (authorized : server.authorize clientLt props = .ok ())
    {authenticator : Authenticator} (configured : server.authenticator = some authenticator) :
    authenticator ⟨.curve, clientLt, props.identity, none, none⟩ = true := by
  simp only [authorize, configured] at authorized
  split at authorized
  next accepted => exact accepted
  · cases authorized

/-- What an accepted INITIATE shows, with the keys of its cookie. -/
structure CurveServer.Vouched (server : CurveServer) (initiate clientPublic ephSecret : Bytes)
    (props : PeerProperties) (plaintext : Bytes) : Prop where
  /-- The box of INITIATE is sealed to the transient keys of the cookie. -/
  opened : (CurveBox.mk clientPublic ephSecret).decrypt
    (nonceShort (ascii "CurveZMQINITIATE") (BigEndian.decode ((initiate.drop 96).take 8)))
      (initiate.drop 104) = some plaintext
  /-- The long-term key in it vouches for the transient key and for this server. -/
  vouched : (CurveBox.mk (plaintext.take 32) ephSecret).decrypt
    (nonceLong (ascii "VOUCH---") ((plaintext.drop 32).take 16)) ((plaintext.drop 48).take 80) =
      some (clientPublic ++ server.ourLtPublic)
  /-- A configured authenticator accepted the long-term key. -/
  authorized : ∀ authenticator, server.authenticator = some authenticator →
    authenticator ⟨.curve, plaintext.take 32, props.identity, none, none⟩ = true

/-- The cookie in an INITIATE opens to the keys which the server then uses. -/
def CurveServer.Initiated (server : CurveServer) (body : Bytes) (props : PeerProperties)
    (reached : CurveServerState) : Prop :=
  ∃ cookieKey clientPublic ephSecret plaintext,
    server.cookieKey = some cookieKey ∧ clientPublic.length = 32 ∧
      openSecret cookieKey.key (nonceLong (ascii "COOKIE--") (body.take 16))
        ((body.take 96).drop 16) = some (clientPublic ++ ephSecret) ∧
      server.Vouched body clientPublic ephSecret props plaintext ∧
      reached = .done ephSecret clientPublic

theorem CurveServer.parseInitiate_eq_ok (parsed : parseInitiate body state = .ok props after) :
    state.mechanism.Initiated body props after.mechanism.state := by
  simp only [parseInitiate, guard_eq_ok, bind_eq_ok, mechanism_eq_ok] at parsed
  obtain ⟨-, _, _, ⟨rfl, rfl⟩, parsed⟩ := parsed
  rcases key : state.mechanism.cookieKey with _ | cookieKey <;> rw [key] at parsed
  · exact absurd parsed throw_ne_ok
  simp only [bind_eq_ok, setMechanism_eq_ok, Prod.exists] at parsed
  obtain ⟨_, _, rfl, clientPublic, ephSecret, middle, cookie, parsed⟩ := parsed
  obtain ⟨sized, unlocked⟩ := decryptCookie_eq_ok cookie
  rcases opened : (CurveBox.mk clientPublic ephSecret).decrypt
      (nonceShort (ascii "CurveZMQINITIATE") (BigEndian.decode ((body.drop 96).take 8)))
      (body.drop 104) with _ | plaintext <;> rw [opened] at parsed
  · exact absurd parsed throw_ne_ok
  simp only [guard_eq_ok, bind_eq_ok, ofExcept_eq_ok, mechanism_eq_ok, setMechanism_eq_ok,
    pure_eq_ok] at parsed
  obtain ⟨-, _, _, ⟨-, rfl⟩, _, _, ⟨vouched, rfl⟩, _, _, ⟨decoded, rfl⟩, _, _,
    ⟨authorized, rfl⟩, _, _, ⟨rfl, rfl⟩, _, _, rfl, rfl, rfl⟩ := parsed
  rw [take_take] at unlocked
  exact ⟨cookieKey, clientPublic, ephSecret, plaintext, key, sized, unlocked,
    ⟨opened, verifyVouch_eq_ok vouched, fun _ => authorize_eq_ok authorized⟩, rfl⟩

/-! ## Commands -/

/-- The long-term key and the authenticator, which no command changes. -/
def CurveServer.Configured (publicKey : Bytes) (authenticator : Option Authenticator)
    (server : CurveServer) : Prop :=
  server.ourLtPublic = publicKey ∧ server.authenticator = authenticator

/-- The configuration, and what was pushed so far. -/
def CurveServer.Unmoved (publicKey : Bytes) (authenticator : Option Authenticator)
    (out : List Command) (state : Handshake CurveServer) : Prop :=
  state.mechanism.Configured publicKey authenticator ∧ state.out = out

section Unmoved

variable {publicKey : Bytes} {authenticator : Option Authenticator} {out : List Command}

theorem CurveServer.unmoved_parseHello (body : Bytes) :
    Preserves (Unmoved publicKey authenticator out) (parseHello body) := by
  refine .guard (.guard (preserves_read fun _ _ => .bind (ofExcept _) fun _ => ?_))
  split
  · exact throw _
  · exact .guard fun _ holds => holds

theorem CurveServer.unmoved_buildWelcome (ephSecret clientPublic : Bytes) :
    Preserves (Unmoved publicKey authenticator out) (buildWelcome ephSecret clientPublic) :=
  fun _ holds => holds

theorem CurveServer.unmoved_parseInitiate (body : Bytes) :
    Preserves (Unmoved publicKey authenticator out) (parseInitiate body) := by
  refine .guard (preserves_read fun state holds => ?_)
  split
  · exact throw _
  · refine .bind (fun _ same => ⟨holds.1, same.2⟩) fun _ => .bind ?_ fun keys => ?_
    · refine .guard (.bind (fun _ holds => holds) fun _ => .guard ?_)
      dsimp only
      split
      · exact throw _
      · exact .guard (pure _)
    · dsimp only
      split
      · exact throw _
      · exact .guard (.bind (ofExcept _) fun _ => .bind (ofExcept _) fun _ =>
          .bind (ofExcept _) fun _ => .bind (ofExcept _) fun _ _ holds => holds)

theorem CurveServer.unmoved_buildReady :
    Preserves (Unmoved publicKey authenticator out) buildReady := by
  refine .bind (preserves_read fun state holds => ?_) fun _ => preserves_read fun _ _ => ?_
  · split
    · exact throw _
    · exact fun _ same => ⟨holds.1, same.2⟩
  · split
    · exact .bind (ofExcept _) fun _ => pure _
    · exact throw _

omit [CurvePrimitives] in
theorem CurveServer.configured_of_unmoved {α : Type} {step : HandshakeM CurveServer α}
    (unmoved : ∀ {out}, Preserves (Unmoved publicKey authenticator out) step) :
    Preserves (·.mechanism.Configured publicKey authenticator) step :=
  .of_finalState fun _ holds => (unmoved.finalState ⟨holds, rfl⟩).1

theorem CurveServer.configured_onCommand (command : Command) :
    Preserves (·.mechanism.Configured publicKey authenticator) (onCommand command) := by
  unfold onCommand onCommand.refuse
  split
  · exact throw _
  · split
    · refine preserves_read fun _ _ => ?_
      split
      · split
        · exact .bind (configured_of_unmoved (unmoved_parseHello _)) fun _ =>
            .bind (configured_of_unmoved (unmoved_buildWelcome _ _)) fun _ _ holds => holds
        · exact throw _
      · split
        · exact .bind (configured_of_unmoved (unmoved_parseInitiate _)) fun _ =>
            .bind (configured_of_unmoved unmoved_buildReady) fun _ _ holds => holds
        · exact throw _
      · exact throw _
    · exact throw _

end Unmoved

/-- READY takes a counter and leaves the rest of the server. -/
theorem CurveServer.buildReady_eq_ok (built : buildReady state = .ok body after) :
    after.mechanism.state = state.mechanism.state := by
  simp only [buildReady, nextOutCounter, bind_eq_ok, mechanism_eq_ok] at built
  obtain ⟨counter, counted, ⟨_, _, ⟨rfl, rfl⟩, counted_eq⟩, _, _, ⟨rfl, rfl⟩, built⟩ := built
  have same : counted.mechanism.state = state.mechanism.state := by
    rcases next : nextCounter state.mechanism.outCounter with _ | count <;> rw [next] at counted_eq
    · exact absurd counted_eq throw_ne_ok
    simp only [bind_eq_ok, setMechanism_eq_ok, pure_eq_ok] at counted_eq
    obtain ⟨_, _, rfl, -, rfl⟩ := counted_eq
    rfl
  cases reached : counted.mechanism.state <;> rw [reached] at built
  case done =>
    simp only [bind_eq_ok, ofExcept_eq_ok, pure_eq_ok] at built
    obtain ⟨_, _, ⟨-, rfl⟩, -, rfl⟩ := built
    exact same
  all_goals exact absurd built throw_ne_ok

/-- A server completes on INITIATE only, and what it shows is checked. -/
theorem CurveServer.onCommand_complete
    (completed : onCommand command state = .ok (.complete props) after) :
    ∃ body, command = .unknown (ascii "INITIATE") body ∧
      state.mechanism.Initiated body props after.mechanism.state := by
  rcases refused : tryErrorCommand command "CURVE" with _ | error <;>
    simp only [onCommand, onCommand.refuse, refused] at completed
  case some => exact absurd completed throw_ne_ok
  cases command
  case unknown name body =>
    simp only [bind_eq_ok, mechanism_eq_ok] at completed
    obtain ⟨_, _, ⟨rfl, rfl⟩, completed⟩ := completed
    cases reached : state.mechanism.state <;> simp only [reached] at completed
    case init =>
      split_ifs at completed
      · simp only [bind_eq_ok, pure_eq_ok, reduceCtorEq, false_and, and_false,
          exists_false] at completed
      · exact absurd completed throw_ne_ok
    case awaitingInitiate =>
      split_ifs at completed with initiate
      case neg => exact absurd completed throw_ne_ok
      simp only [bind_eq_ok, push_eq_ok, pure_eq_ok] at completed
      obtain ⟨_, _, parsed, _, _, built, _, _, rfl, shown, rfl⟩ := completed
      cases shown
      exact ⟨body, initiate ▸ rfl, buildReady_eq_ok built ▸ parseInitiate_eq_ok parsed⟩
    case done => exact absurd completed throw_ne_ok
  all_goals exact absurd completed throw_ne_ok

theorem CurveServer.onCommand_done (done : state.mechanism.state = .done ephSecret clientPublic)
    (command : Command) : ∃ error, onCommand command state = .error error state := by
  cases refused : tryErrorCommand command "CURVE" with
  | some error => exact ⟨error, by simp only [onCommand, refused, run_throw]⟩
  | none =>
    cases command with
    | unknown name body =>
      simp only [onCommand, onCommand.refuse, refused, run_bind, mechanism, run_get, run_pure, done]
      exact ⟨_, rfl⟩
    | _ =>
      simp only [onCommand, refused]
      exact ⟨_, rfl⟩

/-! ## A server and its commands -/

/-- A server with what it received and what it did. -/
structure CurveSession where
  server : CurveServer
  env : Environment
  received : List Command
  issued : List IssuedCookie
  completed : Option PeerProperties

namespace CurveSession

/-- A server before its first command. -/
def start (keypair : CurveKeypair) (options : CurveServerOptions) (ourProps : PeerProperties)
    (env : Environment) : CurveSession :=
  ⟨(new keypair options).start ourProps, env, [], [], none⟩

/-- Hand the server a command. -/
def step (session : CurveSession) (command : Command) : Option CurveSession :=
  let reply := (onCommand command).reply session.server session.env
  some {
    server := reply.mechanism
    env := reply.env
    received := session.received ++ [command]
    issued := session.issued ++ (session.server.issuedBy session.env command).toList
    completed := match reply.result with
      | .ok (.complete props) => some props
      | _ => session.completed }

def Unforged (session : CurveSession) : Command → Prop
  | .unknown _ body => ∀ cookieKey ∈ session.server.cookieKey,
      (openSecret cookieKey.key (nonceLong (ascii "COOKIE--") (body.take 16))
        ((body.take 96).drop 16)).isSome →
          ∃ issued ∈ session.issued, issued.cookieKey = cookieKey ∧ issued.cookie = body.take 96
  | _ => True

instance (session : CurveSession) (command : Command) : Decidable (session.Unforged command) :=
  match command with
  | .unknown _ body => inferInstanceAs (Decidable (∀ cookieKey ∈ session.server.cookieKey,
      (openSecret cookieKey.key (nonceLong (ascii "COOKIE--") (body.take 16))
        ((body.take 96).drop 16)).isSome →
          ∃ issued ∈ session.issued, issued.cookieKey = cookieKey ∧ issued.cookie = body.take 96))
  | .ready _ | .subscribe _ | .cancel _ | .ping _ _ | .pong _ | .error _ | .join _ | .leave _ =>
    inferInstanceAs (Decidable True)

/-- The client of a completed session. -/
structure Authenticated (keypair : CurveKeypair) (options : CurveServerOptions)
    (session : CurveSession) (props : PeerProperties) : Prop where
  evidence : ∃ issued ∈ session.issued, ∃ hello initiate plaintext : Bytes,
    -- The cookie was sealed by this server, for the transient key of a HELLO it received.
    .unknown (ascii "HELLO") hello ∈ session.received ∧ issued.Genuine hello ∧
    -- It came back in an INITIATE, and its keys are those in use.
    .unknown (ascii "INITIATE") initiate ∈ session.received ∧
    initiate.take 96 = issued.cookie ∧
    session.server.state = .done issued.ephSecret issued.clientPublic ∧
    -- The long-term key of the INITIATE vouches for that transient key and for this server.
    (CurveBox.mk issued.clientPublic issued.ephSecret).decrypt
      (nonceShort (ascii "CurveZMQINITIATE") (BigEndian.decode ((initiate.drop 96).take 8)))
        (initiate.drop 104) = some plaintext ∧
    (CurveBox.mk (plaintext.take 32) issued.ephSecret).decrypt
      (nonceLong (ascii "VOUCH---") ((plaintext.drop 32).take 16)) ((plaintext.drop 48).take 80) =
        some (issued.clientPublic ++ keypair.publicKey) ∧
    -- The authenticator accepted the long-term key.
    ∀ authenticator, options.authenticator = some authenticator →
      authenticator ⟨.curve, plaintext.take 32, props.identity, none, none⟩ = true

/-- What every command keeps. -/
structure Sound (keypair : CurveKeypair) (options : CurveServerOptions)
    (session : CurveSession) : Prop where
  configured : session.server.Configured keypair.publicKey options.authenticator
  genuine : ∀ issued ∈ session.issued,
    ∃ hello, .unknown (ascii "HELLO") hello ∈ session.received ∧ issued.Genuine hello
  authenticated : ∀ props, session.completed = some props →
    session.Authenticated keypair options props

variable {keypair : CurveKeypair} {options : CurveServerOptions}

theorem keys_of_cookie (ideal : IdealSecretBoxes) {hello body : Bytes}
    (genuine : issued.Genuine hello) (returned : issued.cookie = body.take 96)
    (sized : clientPublic.length = 32)
    (unlocked : openSecret issued.cookieKey.key
      (nonceLong (ascii "COOKIE--") (body.take 16)) ((body.take 96).drop 16) =
        some (clientPublic ++ ephSecret)) :
    clientPublic = issued.clientPublic ∧ ephSecret = issued.ephSecret := by
  obtain ⟨suffix, length, sealed⟩ := genuine.sealed
  have front : body.take 16 = suffix := by
    have cut := congrArg (List.take 16) (returned.symm.trans sealed)
    rwa [take_take, take_left' length] at cut
  have reopened : openSecret issued.cookieKey.key
      (nonceLong (ascii "COOKIE--") (body.take 16)) ((body.take 96).drop 16) =
        some (issued.clientPublic ++ issued.ephSecret) := by
    rw [ideal, front, ← returned, sealed, drop_left' length]
  have same := Option.some.inj (unlocked.symm.trans reopened)
  exact append_inj same (sized.trans genuine.length_clientPublic.symm)

variable {session next : CurveSession}

/-- A completing command shows who the client is. -/
theorem Sound.authenticated_of_complete (ideal : IdealSecretBoxes)
    (sound : session.Sound keypair options) (unforged : session.Unforged command)
    {after : Handshake CurveServer}
    (completed : onCommand command ⟨session.server, session.env, []⟩ =
      .ok (.complete props) after) (server : next.server = after.mechanism)
    (received : next.received = session.received ++ [command])
    (issued : session.issued ⊆ next.issued) : next.Authenticated keypair options props := by
  obtain ⟨body, rfl, cookieKey, clientPublic, ephSecret, plaintext, key, sized, unlocked, vouched,
    done⟩ := onCommand_complete completed
  obtain ⟨cookie, member, rfl, returned⟩ := unforged cookieKey key (by rw [unlocked]; rfl)
  obtain ⟨hello, helloed, genuine⟩ := sound.genuine cookie member
  obtain ⟨rfl, rfl⟩ := keys_of_cookie ideal genuine returned sized unlocked
  refine ⟨cookie, issued member, hello, body, plaintext, ?_, genuine, ?_, returned.symm, ?_,
    vouched.opened, ?_, ?_⟩
  · rw [received]
    exact mem_append_left _ helloed
  · rw [received]
    exact mem_append_right _ (.head _)
  · rw [server, done]
  · rw [← sound.configured.1]
    exact vouched.vouched
  · intro authenticator configured
    exact vouched.authorized authenticator (sound.configured.2.trans configured)

/-- A later session has the same evidence. -/
theorem Authenticated.mono (authenticated : session.Authenticated keypair options props)
    (server : next.server = session.server) (received : session.received ⊆ next.received)
    (issued : session.issued ⊆ next.issued) : next.Authenticated keypair options props := by
  obtain ⟨cookie, member, hello, initiate, plaintext, helloed, genuine, initiated, returned, done,
    rest⟩ := authenticated.evidence
  exact ⟨cookie, issued member, hello, initiate, plaintext, received helloed, genuine,
    received initiated, returned, server ▸ done, rest⟩

theorem Sound.step (ideal : IdealSecretBoxes) {before after : CurveSession}
    (unforged : before.Unforged command) (stepped : before.step command = some after)
    (sound : before.Sound keypair options) : after.Sound keypair options := by
  cases stepped
  have kept := configured_onCommand command ⟨before.server, before.env, []⟩ sound.configured
  constructor
  · simp only [reply, EStateM.run]
    cases result : onCommand command ⟨before.server, before.env, []⟩ <;> rw [result] at kept <;>
      exact kept
  · intro issued member
    obtain earlier | new := mem_append.mp member
    · obtain ⟨hello, helloed, genuine⟩ := sound.genuine issued earlier
      exact ⟨hello, mem_append_left _ helloed, genuine⟩
    · obtain ⟨-, hello, _, rfl, made⟩ := makeCookie_of_issuedBy (Option.mem_toList.mp new)
      exact ⟨hello, mem_append_right _ (.head _), (makeCookie_eq_ok made).1⟩
  · intro props completed
    -- Once complete, a server refuses every command and stays as it is.
    have settled (earlier : before.completed = some props) :
        ∃ error, onCommand command ⟨before.server, before.env, []⟩ =
          .error error ⟨before.server, before.env, []⟩ := by
      obtain ⟨_, _, _, _, _, _, _, _, _, done, _⟩ := (sound.authenticated props earlier).evidence
      exact onCommand_done done command
    cases result : onCommand command ⟨before.server, before.env, []⟩ with
    | ok progress state =>
      simp only [reply, EStateM.run, result] at completed ⊢
      cases progress with
      | complete shown =>
        cases completed
        exact sound.authenticated_of_complete ideal unforged result rfl rfl (subset_append_left _ _)
      | «continue» =>
        obtain ⟨_, refused⟩ := settled completed
        cases refused.symm.trans result
    | error error state =>
      simp only [reply, EStateM.run, result] at completed ⊢
      obtain ⟨_, refused⟩ := settled completed
      cases refused.symm.trans result
      exact (sound.authenticated props completed).mono rfl (subset_append_left _ _)
        (subset_append_left _ _)

theorem sound_start (keypair : CurveKeypair) (options : CurveServerOptions)
    (ourProps : PeerProperties) (env : Environment) :
    (start keypair options ourProps env).Sound keypair options where
  configured := ⟨rfl, rfl⟩
  genuine _ member := nomatch member
  authenticated _ completed := nomatch completed

/-- A server which completes, after whatever commands, has authenticated its client. -/
theorem authenticated_of_runs (ideal : IdealSecretBoxes) {keypair : CurveKeypair}
    {options : CurveServerOptions} {ourProps : PeerProperties} {env : Environment}
    {session : CurveSession}
    (runs : Runs CurveSession.step CurveSession.Unforged
      (start keypair options ourProps env) session) {props : PeerProperties}
    (completed : session.completed = some props) : session.Authenticated keypair options props := by
  have sound : session.Sound keypair options :=
    runs.invariant (fun unforged stepped sound => sound.step ideal unforged stepped)
      (sound_start keypair options ourProps env)
  exact sound.authenticated props completed

end CurveSession

end Primitives

/-! ## A handshake -/

/-- A key pair of equal bytes. -/
def CurveKeypair.constant (byte : UInt8) : CurveKeypair :=
  ⟨List.replicate 32 byte, List.replicate 32 byte⟩

def CurveServerOptions.accepting (key : Bytes) : CurveServerOptions :=
  ⟨1, some fun peer => peer.publicKey = key⟩

def handshakeCommands [CurvePrimitives] (client server : CurveKeypair)
    (options : CurveServerOptions) : List Command :=
  let (side, env) := CurveClient.new client server.publicKey .zero
  let hello := (CurveClient.start .new).reply side env
  match hello.out with
  | command :: _ =>
    let welcome := (onCommand command).reply (.new server options) .zero
    match welcome.out with
    | answer :: _ =>
      command :: ((CurveClient.onCommand answer).reply hello.mechanism hello.env).out
    | [] => []
  | [] => []

theorem handshake_authenticates :
    let _ := CurvePrimitives.marked
    ∃ session props, CurveSession.Authenticated (.constant 1)
      (.accepting (CurveKeypair.constant 2).publicKey) session props := by
  let _ := CurvePrimitives.marked
  obtain ⟨session, runs, complete⟩ : ∃ session, Runs CurveSession.step
      CurveSession.Unforged (CurveSession.start (.constant 1)
        (.accepting (CurveKeypair.constant 2).publicKey) .new .zero) session ∧
      session.completed.isSome :=
    exists_runs (handshakeCommands (.constant 2) (.constant 1)
      (.accepting (CurveKeypair.constant 2).publicKey)) (by decide +kernel)
  obtain ⟨props, completed⟩ := Option.isSome_iff_exists.mp complete
  exact ⟨session, props, CurveSession.authenticated_of_runs IdealSecretBoxes.marked runs completed⟩

end Omq
