import Mathlib.Data.List.Sort
import Omq.Library.Transition
import Omq.Proto.Mechanism.Curve

/-!
# The CURVE data channel

After the handshake both sides seal their frames under one key, each with a nonce of its own prefix
and counter.  Whoever carries the frames may drop, repeat, reorder or invent them.  With ideal boxes
a side accepts a part of what the other one sent, in the order in which it was sent.
-/

namespace Omq

open Function CurvePrimitives Transition List

/-! ## Ideal boxes -/

/-- Boxes which open on exactly what was sealed under the same key and nonce. -/
structure IdealBoxes [CurvePrimitives] : Prop where
  length_tag : ∀ peer secret nonce plaintext, (sealBox peer secret nonce plaintext).1.length = 16
  length_ciphertext : ∀ peer secret nonce plaintext,
    (sealBox peer secret nonce plaintext).2.length = plaintext.length
  opens_iff : ∀ {peer secret nonce tag ciphertext plaintext},
    openBox peer secret nonce tag ciphertext = some plaintext ↔
      sealBox peer secret nonce plaintext = (tag, ciphertext)
  /-- Both sides compute the same key from the other's public key. -/
  shared : ∀ left right nonce plaintext,
    sealBox (publicKey left) right nonce plaintext = sealBox (publicKey right) left nonce plaintext

/-- Secret-key boxes which open on exactly what was sealed under the same key and nonce. -/
def IdealSecretBoxes [CurvePrimitives] : Prop :=
  ∀ {key nonce ciphertext plaintext}, openSecret key nonce ciphertext =
    some plaintext ↔ sealSecret key nonce plaintext = ciphertext

/-- The tag of the boxes below: it mixes the two keys and the nonce. -/
def markedTag (peer secret nonce : Bytes) : Bytes :=
  (List.zipWith (· ^^^ ·) peer secret ++ nonce ++ List.replicate 16 0).take 16

/-- Primitives which hide nothing but open only what was sealed under the same key and nonce. -/
@[reducible]
def CurvePrimitives.marked : CurvePrimitives where
  publicKey secret := secret
  diffieHellman _ _ := [1]
  sealBox peer secret nonce plaintext := (markedTag peer secret nonce, plaintext)
  openBox peer secret nonce tag ciphertext :=
    if tag = markedTag peer secret nonce then some ciphertext else none
  sealSecret key nonce plaintext := markedTag key key nonce ++ plaintext
  openSecret key nonce ciphertext :=
    if ciphertext.take 16 = markedTag key key nonce then some (ciphertext.drop 16) else none

theorem length_markedTag (peer secret nonce : Bytes) :
    (markedTag peer secret nonce).length = 16 := by
  rw [markedTag, length_take, length_append, length_replicate]
  omega

theorem markedTag_comm (left right nonce : Bytes) :
    markedTag left right nonce = markedTag right left nonce := by
  rw [markedTag, markedTag, zipWith_comm_of_comm UInt8.xor_comm]

theorem IdealBoxes.marked : @IdealBoxes .marked :=
  @IdealBoxes.mk .marked (fun _ _ _ _ => length_markedTag _ _ _)
    (fun _ _ _ _ => rfl)
    (by
      intro peer secret nonce tag ciphertext plaintext
      change (if tag = markedTag peer secret nonce then some ciphertext else none) =
        some plaintext ↔ (markedTag peer secret nonce, plaintext) = (tag, ciphertext)
      simp [eq_comm])
    (fun left right nonce plaintext => congrArg (·, plaintext) (markedTag_comm left right nonce))

theorem IdealSecretBoxes.marked : @IdealSecretBoxes .marked := by
  intro key nonce ciphertext plaintext
  change (if ciphertext.take 16 = markedTag key key nonce then some (ciphertext.drop 16)
    else none) = some plaintext ↔ markedTag key key nonce ++ plaintext = ciphertext
  rw [Option.ite_none_right_eq_some, Option.some.injEq]
  constructor
  · rintro ⟨tag, rfl⟩
    rw [← tag, take_append_drop]
  · rintro rfl
    exact ⟨take_left' (length_markedTag _ _ _), drop_left' (length_markedTag _ _ _)⟩

/-! ## Nonces -/

def handshakeShortPrefixes : List Bytes :=
  [ascii "CurveZMQHELLO---", ascii "CurveZMQINITIATE", ascii "CurveZMQREADY---"]

def handshakeLongPrefixes : List Bytes := [ascii "WELCOME-", ascii "VOUCH---", ascii "COOKIE--"]

/-- A nonce with a prefix of the handshake.  The handshake uses no others. -/
def HandshakeNonce (nonce : Bytes) : Prop :=
  (∃ pre ∈ handshakeShortPrefixes, ∃ counter, nonce = nonceShort pre counter) ∨
    ∃ pre ∈ handshakeLongPrefixes, ∃ suffix, nonce = nonceLong pre suffix

open scoped Classical in
/-- Primitives which box as `inner` does at the nonces of the handshake and as `outer` elsewhere. -/
@[reducible]
noncomputable def CurvePrimitives.onHandshake (inner outer : CurvePrimitives) :
    CurvePrimitives where
  publicKey := inner.publicKey
  diffieHellman := inner.diffieHellman
  sealBox peer secret nonce :=
    (if HandshakeNonce nonce then inner else outer).sealBox peer secret nonce
  openBox peer secret nonce :=
    (if HandshakeNonce nonce then inner else outer).openBox peer secret nonce
  sealSecret key nonce := (if HandshakeNonce nonce then inner else outer).sealSecret key nonce
  openSecret key nonce := (if HandshakeNonce nonce then inner else outer).openSecret key nonce

theorem handshakeNonce_short (counter : Nat) :
    HandshakeNonce (nonceShort (ascii "CurveZMQHELLO---") counter) ∧
      HandshakeNonce (nonceShort (ascii "CurveZMQINITIATE") counter) ∧
        HandshakeNonce (nonceShort (ascii "CurveZMQREADY---") counter) := by
  refine ⟨?_, ?_, ?_⟩ <;> exact .inl ⟨_, by decide, counter, rfl⟩

theorem handshakeNonce_long (suffix : Bytes) :
    HandshakeNonce (nonceLong (ascii "WELCOME-") suffix) ∧
      HandshakeNonce (nonceLong (ascii "VOUCH---") suffix) ∧
        HandshakeNonce (nonceLong (ascii "COOKIE--") suffix) := by
  refine ⟨?_, ?_, ?_⟩ <;> exact .inr ⟨_, by decide, suffix, rfl⟩

section

variable {inner outer : CurvePrimitives}

theorem boxes_onHandshake {nonce : Bytes} (handshake : HandshakeNonce nonce) :
    (∀ peer secret, (inner.onHandshake outer).sealBox peer secret nonce =
        inner.sealBox peer secret nonce) ∧
      (∀ peer secret, (inner.onHandshake outer).openBox peer secret nonce =
        inner.openBox peer secret nonce) ∧
      (∀ key, (inner.onHandshake outer).sealSecret key nonce = inner.sealSecret key nonce) ∧
        ∀ key, (inner.onHandshake outer).openSecret key nonce = inner.openSecret key nonce := by
  unfold CurvePrimitives.onHandshake
  dsimp only
  rw [if_pos handshake]
  simp only [implies_true, and_self]

theorem keys_onHandshake : (inner.onHandshake outer).publicKey = inner.publicKey ∧
    @validateDhNotZero (inner.onHandshake outer) = @validateDhNotZero inner := ⟨rfl, rfl⟩

theorem client_onHandshake (command : Command) :
    @CurveClient.onCommand (inner.onHandshake outer) command =
      @CurveClient.onCommand inner command := by
  simp only [CurveClient.onCommand, CurveClient.processWelcome, CurveClient.buildInitiate,
    CurveClient.parseReady, CurveBox.encrypt, CurveBox.decrypt, boxes_onHandshake,
    keys_onHandshake, handshakeNonce_short, handshakeNonce_long]

theorem server_onHandshake (command : Command) :
    @CurveServer.onCommand (inner.onHandshake outer) command =
      @CurveServer.onCommand inner command := by
  simp only [CurveServer.onCommand, CurveServer.parseHello, CurveServer.buildWelcome,
    CurveServer.parseInitiate, CurveServer.verifyVouch, CurveServer.buildReady,
    CurveCookieKey.encryptCookie, CurveCookieKey.decryptCookie, CurveBox.encrypt, CurveBox.decrypt,
    boxes_onHandshake, keys_onHandshake, handshakeNonce_short, handshakeNonce_long]

end

/-- The handshake boxes at its own nonces only: whatever the primitives do at other nonces, either
side starts alike and answers every command alike. -/
theorem CurveMechanism.alike_onHandshake (inner outer : CurvePrimitives)
    (mechanism : CurveMechanism) (env : Environment) :
    (∀ ourProps, @CurveMechanism.start (inner.onHandshake outer) mechanism env ourProps =
        @CurveMechanism.start inner mechanism env ourProps) ∧
      ∀ command, @CurveMechanism.onCommand (inner.onHandshake outer) mechanism env command =
        @CurveMechanism.onCommand inner mechanism env command := by
  cases mechanism with
  | client side =>
    simp only [CurveMechanism.start, CurveMechanism.onCommand, client_onHandshake,
      CurveClient.start, CurveClient.buildHello, CurveBox.encrypt, boxes_onHandshake,
      handshakeNonce_short, implies_true, and_self]
  | server side =>
    exact ⟨fun _ => rfl, fun _ => by simp only [CurveMechanism.onCommand, server_onHandshake]⟩

inductive CurveSide
  | client
  | server
  deriving DecidableEq

namespace CurveSide

def peer : CurveSide → CurveSide
  | .client => .server
  | .server => .client

def messagePrefix : CurveSide → Bytes
  | .client => ascii "CurveZMQMESSAGEC"
  | .server => ascii "CurveZMQMESSAGES"

variable (side : CurveSide)

@[simp]
theorem peer_peer : side.peer.peer = side := by cases side <;> rfl

theorem peer_ne : side.peer ≠ side := by cases side <;> decide

theorem eq_peer_of_ne {side other : CurveSide} (different : side ≠ other) : side = other.peer := by
  revert different
  cases side <;> cases other <;> decide

theorem length_messagePrefix : side.messagePrefix.length = 16 := by
  cases side <;> decide

theorem messagePrefix_injective {left right : CurveSide}
    (same : left.messagePrefix = right.messagePrefix) : left = right := by
  revert same
  cases left <;> cases right <;> decide

/-- No frame is sealed with a nonce of the handshake. -/
theorem not_handshakeNonce (counter : Nat) :
    ¬HandshakeNonce (nonceShort side.messagePrefix counter) := by
  rintro (⟨pre, member, count, same⟩ | ⟨pre, member, suffix, same⟩)
  · have length : pre.length = 16 :=
      (by decide : ∀ pre ∈ handshakeShortPrefixes, pre.length = 16) pre member
    have front : side.messagePrefix = pre :=
      (append_inj same ((length_messagePrefix side).trans length.symm)).1
    have foreign : side.messagePrefix ∉ handshakeShortPrefixes := by cases side <;> decide
    exact foreign (front ▸ member)
  · have length : pre.length = 8 :=
      (by decide : ∀ pre ∈ handshakeLongPrefixes, pre.length = 8) pre member
    have front : side.messagePrefix.take 8 = pre := by
      have cut := congrArg (List.take 8) same
      rwa [nonceShort, nonceLong, take_left' length,
        take_append_of_le_length (by simp [length_messagePrefix])] at cut
    have foreign : side.messagePrefix.take 8 ∉ handshakeLongPrefixes := by cases side <;> decide
    exact foreign (front ▸ member)

end CurveSide

/-- Counted nonces of one prefix are ordered like their counters. -/
theorem decode_nonceShort {counter : Nat} (pre : Bytes) (fits : counter < 2 ^ 64) :
    BigEndian.decode (nonceShort pre counter) = BigEndian.decode pre * 2 ^ 64 + counter := by
  rw [nonceShort, BigEndian.decode_append, BigEndian.length_encode,
    BigEndian.decode_encode_of_lt fits]
  rfl

theorem nonceShort_inj {left right : Bytes} {first second : Nat}
    (length : left.length = right.length) (first_fits : first < 2 ^ 64)
    (second_fits : second < 2 ^ 64) (same : nonceShort left first = nonceShort right second) :
    left = right ∧ first = second := by
  obtain ⟨front, back⟩ := append_inj same length
  have counters := congrArg BigEndian.decode back
  rw [BigEndian.decode_encode_of_lt first_fits, BigEndian.decode_encode_of_lt second_fits]
    at counters
  exact ⟨front, counters⟩

/-! ## Frames -/

section Primitives

variable [CurvePrimitives]

namespace CurveTransform

/-- A frame which passed a side of the channel. -/
structure DataFrame where
  counter : Nat
  more : Bool
  command : Bool
  plaintext : Bytes
  body : Bytes
  deriving DecidableEq

def DataFrame.box (frame : DataFrame) (keys : CurveBox) (pre : Bytes) : Bytes × Bytes :=
  sealBox keys.peerPublic keys.ourSecret (nonceShort pre frame.counter)
    (innerFlags frame.more frame.command :: frame.plaintext)

def DataFrame.SealedWith (frame : DataFrame) (keys : CurveBox) (pre : Bytes) : Prop :=
  frame.counter < 2 ^ 64 ∧
    frame.body =
      BigEndian.encode 8 frame.counter ++ (frame.box keys pre).1 ++ (frame.box keys pre).2

omit [CurvePrimitives] in
theorem innerFlags_more (more command : Bool) :
    decide (innerFlags more command &&& 1 ≠ 0) = more := by
  revert more command
  decide

omit [CurvePrimitives] in
theorem innerFlags_command (more command : Bool) :
    decide (innerFlags more command &&& 2 ≠ 0) = command := by
  revert more command
  decide

/-- Sealing takes the next counter and nothing else. -/
theorem encryptMessage_eq_ok {transform after : CurveTransform} {more command : Bool}
    {plaintext body : Bytes} (sealed : transform.encryptMessage more command plaintext =
      .ok (body, after)) :
    after = { transform with outCounter := transform.outCounter + 1 } ∧
      DataFrame.SealedWith ⟨transform.outCounter + 1, more, command, plaintext, body⟩
        transform.salsa transform.outPrefix := by
  unfold encryptMessage nextCounter at sealed
  split at sealed
  · cases sealed
  next counter found =>
    obtain ⟨fits, next⟩ := Option.ite_none_right_eq_some.mp found
    cases next
    cases sealed
    exact ⟨rfl, fits, rfl⟩

def boxNonce (transform : CurveTransform) (body : Bytes) : Bytes :=
  nonceShort transform.inPrefix (BigEndian.decode (body.take 8))

def openBody (transform : CurveTransform) (body : Bytes) : Option Bytes :=
  openBox transform.salsa.peerPublic transform.salsa.ourSecret
    (transform.boxNonce body) ((body.drop 8).take 16) (body.drop 24)

theorem decryptMessage_eq_ok {transform after : CurveTransform} {more command : Bool}
    {plaintext body : Bytes} (opened : transform.decryptMessage body =
      .ok ((more, command, plaintext), after)) :
    8 + 16 + 1 ≤ body.length ∧
      transform.inCounter < BigEndian.decode (body.take 8) ∧
      after = { transform with inCounter := BigEndian.decode (body.take 8) } ∧
      ∃ flags : UInt8, more = decide (flags &&& 1 ≠ 0) ∧ command = decide (flags &&& 2 ≠ 0) ∧
        transform.openBody body = some (flags :: plaintext) := by
  revert opened
  fun_cases transform.decryptMessage body <;> rintro ⟨⟩
  next long _ fresh flags unlocked =>
    exact ⟨Nat.not_lt.mp long, Nat.not_le.mp fresh, rfl, flags, rfl, rfl, unlocked⟩

variable {frame : DataFrame} {keys : CurveBox}

theorem DataFrame.SealedWith.fields (ideal : IdealBoxes) {pre : Bytes}
    (sealed : frame.SealedWith keys pre) :
    8 + 16 + 1 ≤ frame.body.length ∧ BigEndian.decode (frame.body.take 8) = frame.counter ∧
      (frame.body.drop 8).take 16 = (frame.box keys pre).1 ∧
      frame.body.drop 24 = (frame.box keys pre).2 := by
  obtain ⟨fits, body⟩ := sealed
  have tag : (frame.box keys pre).1.length = 16 := ideal.length_tag _ _ _ _
  have ciphertext : (frame.box keys pre).2.length = frame.plaintext.length + 1 :=
    ideal.length_ciphertext _ _ _ _
  have counter : (BigEndian.encode 8 frame.counter).length = 8 := BigEndian.length_encode _ _
  have front : (BigEndian.encode 8 frame.counter ++ (frame.box keys pre).1).length = 24 := by
    rw [length_append, counter, tag]
  rw [body]
  refine ⟨?_, ?_, ?_, drop_left' front⟩
  · rw [length_append, front, ciphertext]
    omega
  · rw [append_assoc, take_left' counter, BigEndian.decode_encode_of_lt fits]
  · rw [append_assoc, drop_left' counter, take_left' tag]

/-- A frame sealed with the peer's keys opens to its content, if its counter is new. -/
theorem decryptMessage_of_sealed (ideal : IdealBoxes) {transform : CurveTransform}
    (sealed : frame.SealedWith keys transform.inPrefix)
    (shared : frame.box keys transform.inPrefix = frame.box transform.salsa transform.inPrefix)
    (fresh : transform.inCounter < frame.counter) :
    transform.decryptMessage frame.body = .ok ((frame.more, frame.command, frame.plaintext),
      { transform with inCounter := frame.counter }) := by
  obtain ⟨long, counter, tag, ciphertext⟩ := sealed.fields ideal
  have opened : openBox transform.salsa.peerPublic transform.salsa.ourSecret
      (nonceShort transform.inPrefix frame.counter) (frame.box keys transform.inPrefix).1
        (frame.box keys transform.inPrefix).2 =
          some (innerFlags frame.more frame.command :: frame.plaintext) := by
    rw [ideal.opens_iff, shared]
    rfl
  simp only [decryptMessage, Nat.not_lt.mpr long, counter, Nat.not_le.mpr fresh, tag, ciphertext,
    opened, if_false]
  rw [innerFlags_more, innerFlags_command]

end CurveTransform

open CurveTransform

/-! ## Two sides -/

/-- A side of the channel, with the frames it sealed and those it accepted. -/
structure CurveParty where
  transform : CurveTransform
  sent : List DataFrame
  accepted : List DataFrame

namespace CurveParty

/-- A side after the handshake. -/
def fresh (transform : CurveTransform) : CurveParty := ⟨transform, [], []⟩

def encrypt (party : CurveParty) (more command : Bool) (plaintext : Bytes) : CurveParty :=
  match party.transform.encryptMessage more command plaintext with
  | .error _ => party
  | .ok (body, transform) =>
    { party with
      transform
      sent := party.sent ++ [⟨transform.outCounter, more, command, plaintext, body⟩] }

def decrypt (party : CurveParty) (body : Bytes) : CurveParty :=
  match party.transform.decryptMessage body with
  | .error _ => party
  | .ok ((more, command, plaintext), transform) =>
    { party with
      transform
      accepted := party.accepted ++ [⟨transform.inCounter, more, command, plaintext, body⟩] }

end CurveParty

abbrev CurveChannel := CurveSide → CurveParty

namespace CurveChannel

/-- A call of one side's transform, to open any bytes at all. -/
inductive Action
  | encrypt (side : CurveSide) (more command : Bool) (plaintext : Bytes)
  | decrypt (side : CurveSide) (body : Bytes)

variable (channel : CurveChannel)

/-- Make a call. -/
def step : Action → Option CurveChannel
  | .encrypt side more command plaintext =>
    some (update channel side ((channel side).encrypt more command plaintext))
  | .decrypt side body => some (update channel side ((channel side).decrypt body))

/-- A box which somebody sealed under the key of the channel: a side its frame, or the handshake. -/
def Produced (nonce tag ciphertext : Bytes) : Prop :=
  HandshakeNonce nonce ∨ ∃ sender, ∃ frame ∈ (channel sender).sent,
    nonce = nonceShort (channel sender).transform.outPrefix frame.counter ∧
      frame.box (channel sender).transform.salsa (channel sender).transform.outPrefix =
        (tag, ciphertext)

def Unforged : Action → Prop
  | .encrypt _ _ _ _ => True
  | .decrypt side body =>
    ((channel side).transform.openBody body).isSome →
      channel.Produced ((channel side).transform.boxNonce body) ((body.drop 8).take 16)
        (body.drop 24)

/-- A channel before its first frame. -/
def fresh (transform : CurveSide → CurveTransform) : CurveChannel := fun side =>
  .fresh (transform side)

end CurveChannel

/-! ## What every call keeps -/

def handshakeCounter (client : CurveClient) (server : CurveServer) : CurveSide → Nat
  | .client => client.outCounter
  | .server => server.outCounter

section Run

variable (secret : CurveSide → Bytes) (counter : CurveSide → Nat)

def sideKeys (side : CurveSide) : CurveBox :=
  ⟨publicKey (secret side.peer), secret side⟩

/-- A side seals with its own keys and counters and accepts increasing counters. -/
structure CurveParty.Sound (side : CurveSide) (party : CurveParty) : Prop where
  salsa : party.transform.salsa = sideKeys secret side
  outPrefix : party.transform.outPrefix = side.messagePrefix
  inPrefix : party.transform.inPrefix = side.peer.messagePrefix
  sealed : ∀ frame ∈ party.sent, frame.SealedWith (sideKeys secret side) side.messagePrefix
  started : counter side ≤ party.transform.outCounter
  sent_range : ∀ frame ∈ party.sent,
    counter side < frame.counter ∧ frame.counter ≤ party.transform.outCounter
  sent_increase : party.sent.Pairwise fun first second => first.counter < second.counter
  accepted_le : ∀ frame ∈ party.accepted, frame.counter ≤ party.transform.inCounter
  accepted_last : party.transform.inCounter = 0 ∨
    ∃ frame ∈ party.accepted, frame.counter = party.transform.inCounter
  accepted_increase : party.accepted.Pairwise fun first second => first.counter < second.counter

/-- Both sides are sound, and what one accepted the other one sent. -/
structure CurveChannel.Sound (channel : CurveChannel) : Prop where
  party : ∀ side, (channel side).Sound secret counter side
  genuine : ∀ side, (channel side).accepted ⊆ (channel side.peer).sent

variable {secret counter} {side : CurveSide} {party : CurveParty}

theorem CurveParty.Sound.encrypt (sound : party.Sound secret counter side) (more command : Bool)
    (plaintext : Bytes) : (party.encrypt more command plaintext).Sound secret counter side := by
  unfold CurveParty.encrypt
  cases result : party.transform.encryptMessage more command plaintext with
  | error => exact sound
  | ok pair =>
    obtain ⟨body, after⟩ := pair
    obtain ⟨rfl, sealed⟩ := encryptMessage_eq_ok result
    rw [sound.salsa, sound.outPrefix] at sealed
    refine ⟨sound.salsa, sound.outPrefix, sound.inPrefix, ?_, Nat.le_succ_of_le sound.started, ?_,
      ?_, sound.accepted_le, sound.accepted_last, sound.accepted_increase⟩
    · exact forall_mem_append.mpr ⟨sound.sealed, forall_mem_singleton.mpr sealed⟩
    · refine forall_mem_append.mpr ⟨fun frame earlier => ?_, forall_mem_singleton.mpr ?_⟩
      · exact (sound.sent_range frame earlier).imp_right Nat.le_succ_of_le
      · exact ⟨Nat.lt_succ_of_le sound.started, Nat.le_refl _⟩
    · refine pairwise_append.mpr ⟨sound.sent_increase, pairwise_singleton _ _, ?_⟩
      intro first earlier second last
      rw [mem_singleton.mp last]
      exact Nat.lt_succ_of_le (sound.sent_range first earlier).2

theorem CurveParty.Sound.decrypt (sound : party.Sound secret counter side) (body : Bytes) :
    (party.decrypt body).Sound secret counter side := by
  unfold CurveParty.decrypt
  cases result : party.transform.decryptMessage body with
  | error => exact sound
  | ok pair =>
    obtain ⟨⟨more, command, plaintext⟩, after⟩ := pair
    obtain ⟨-, fresh, rfl, -⟩ := decryptMessage_eq_ok result
    refine ⟨sound.salsa, sound.outPrefix, sound.inPrefix, sound.sealed, sound.started,
      sound.sent_range, sound.sent_increase, ?_, .inr ⟨_, mem_append_right _ (.head _), rfl⟩,
      ?_⟩
    · refine forall_mem_append.mpr ⟨fun frame earlier => ?_, forall_mem_singleton.mpr le_rfl⟩
      exact ((sound.accepted_le frame earlier).trans_lt fresh).le
    · refine pairwise_append.mpr ⟨sound.accepted_increase, pairwise_singleton _ _, ?_⟩
      intro first earlier second last
      rw [mem_singleton.mp last]
      exact Nat.lt_of_le_of_lt (sound.accepted_le first earlier) fresh

/-- Sealing leaves what was sent and what was accepted. -/
theorem CurveParty.encrypt_keeps (party : CurveParty) (more command : Bool) (plaintext : Bytes) :
    party.sent ⊆ (party.encrypt more command plaintext).sent ∧
      (party.encrypt more command plaintext).accepted = party.accepted := by
  unfold CurveParty.encrypt
  cases party.transform.encryptMessage more command plaintext with
  | error => exact ⟨List.Subset.refl _, rfl⟩
  | ok => exact ⟨subset_append_left _ _, rfl⟩

/-- Opening leaves what was sent; what is newly accepted opened under the transform before. -/
theorem CurveParty.decrypt_keeps (party : CurveParty) (body : Bytes) :
    (party.decrypt body).sent = party.sent ∧
      ∀ frame ∈ (party.decrypt body).accepted, frame ∈ party.accepted ∨
        party.transform.decryptMessage body =
            .ok ((frame.more, frame.command, frame.plaintext), (party.decrypt body).transform) ∧
          frame.body = body ∧ frame.counter = (party.decrypt body).transform.inCounter := by
  unfold CurveParty.decrypt
  cases party.transform.decryptMessage body with
  | error => exact ⟨rfl, fun _ => .inl⟩
  | ok pair =>
    exact ⟨rfl, forall_mem_append.mpr
      ⟨fun _ => .inl, forall_mem_singleton.mpr (.inr ⟨rfl, rfl, rfl⟩)⟩⟩

/-- The two sides seal alike. -/
theorem box_peer (ideal : IdealBoxes) (frame : DataFrame) (side : CurveSide) (pre : Bytes) :
    frame.box (sideKeys secret side.peer) pre = frame.box (sideKeys secret side) pre := by
  rw [DataFrame.box, DataFrame.box, sideKeys, sideKeys, CurveSide.peer_peer]
  exact ideal.shared _ _ _ _

omit [CurvePrimitives] in
/-- A body is its counter, its tag and its ciphertext. -/
theorem body_fields {body : Bytes} (long : 8 + 16 + 1 ≤ body.length) :
    BigEndian.encode 8 (BigEndian.decode (body.take 8)) ++ (body.drop 8).take 16 ++ body.drop 24 =
      body := by
  have front : (body.take 8).length = 8 := by
    rw [length_take]
    omega
  have written := BigEndian.encode_decode (body.take 8)
  rw [front] at written
  have back : body.drop 24 = (body.drop 8).drop 16 := by rw [drop_drop]
  rw [written, append_assoc, back, take_append_drop, take_append_drop]

/-- What a side accepts, the other one sent. -/
theorem CurveChannel.Sound.mem_sent (ideal : IdealBoxes) {channel : CurveChannel}
    (sound : channel.Sound secret counter) {frame : DataFrame} {after : CurveTransform}
    (unforged : channel.Unforged (.decrypt side frame.body))
    (opened : (channel side).transform.decryptMessage frame.body =
      .ok ((frame.more, frame.command, frame.plaintext), after))
    (counted : frame.counter = after.inCounter) : frame ∈ (channel side.peer).sent := by
  obtain ⟨long, -, rfl, flags, more, command, unlocked⟩ := decryptMessage_eq_ok opened
  have produced := unforged (by rw [unlocked]; rfl)
  rw [CurveTransform.boxNonce, (sound.party side).inPrefix] at produced
  obtain handshake | ⟨sender, sent, member, nonce, box⟩ := produced
  · exact absurd handshake (CurveSide.not_handshakeNonce _ _)
  rw [(sound.party sender).outPrefix] at nonce box
  rw [(sound.party sender).salsa] at box
  have sealed := (sound.party sender).sealed sent member
  have fits : BigEndian.decode (frame.body.take 8) < 2 ^ 64 := by
    have bound : 256 ^ (frame.body.take 8).length ≤ 256 ^ 8 :=
      Nat.pow_le_pow_right (by decide) (length_take_le _ _)
    exact Nat.lt_of_lt_of_le (BigEndian.decode_lt _) bound
  obtain ⟨same_front, same_counter⟩ := nonceShort_inj
    (by rw [CurveSide.length_messagePrefix, CurveSide.length_messagePrefix]) fits sealed.1 nonce
  obtain rfl := CurveSide.messagePrefix_injective same_front
  -- Both the frame and what was opened are sealed in this box, so they are the same.
  have reopened : (channel side).transform.openBody frame.body =
      some (innerFlags sent.more sent.command :: sent.plaintext) := by
    rw [CurveTransform.openBody, (sound.party side).salsa, CurveTransform.boxNonce,
      (sound.party side).inPrefix, ideal.opens_iff, ← box, box_peer ideal, same_counter]
    rfl
  rw [unlocked] at reopened
  obtain ⟨rfl, plaintext⟩ : flags = innerFlags sent.more sent.command ∧
      frame.plaintext = sent.plaintext := by simpa using reopened
  have body : frame.body = sent.body := by
    rw [sealed.2, box, ← same_counter, body_fields long]
  rw [innerFlags_more] at more
  rw [innerFlags_command] at command
  have same : frame = sent := by
    cases frame
    cases sent
    simp_all
  exact same ▸ member

/-- A side which stays sound, keeps what it sent and accepts what the other one sent. -/
theorem CurveChannel.Sound.update {channel : CurveChannel} (sound : channel.Sound secret counter)
    {changed : CurveSide} (party_sound : party.Sound secret counter changed)
    (sent : (channel changed).sent ⊆ party.sent)
    (accepted : party.accepted ⊆ (channel changed.peer).sent) :
    CurveChannel.Sound secret counter (update channel changed party) where
  party := (forall_update_iff channel fun side party => party.Sound secret counter side).mpr
    ⟨party_sound, fun side _ => sound.party side⟩
  genuine side := by
    by_cases same : side = changed
    · subst same
      rwa [update_self, update_of_ne side.peer_ne]
    · obtain rfl := CurveSide.eq_peer_of_ne same
      rw [CurveSide.peer_peer, update_self, update_of_ne changed.peer_ne]
      have genuine := sound.genuine changed.peer
      rw [CurveSide.peer_peer] at genuine
      exact List.Subset.trans genuine sent

theorem CurveChannel.Sound.step (ideal : IdealBoxes) {before after : CurveChannel}
    {action : CurveChannel.Action} (unforged : before.Unforged action)
    (stepped : before.step action = some after) (sound : before.Sound secret counter) :
    after.Sound secret counter := by
  cases action with
  | encrypt changed more command plaintext =>
    cases stepped
    obtain ⟨sent, accepted⟩ := (before changed).encrypt_keeps more command plaintext
    refine sound.update ((sound.party changed).encrypt more command plaintext) sent ?_
    rw [accepted]
    exact sound.genuine changed
  | decrypt changed body =>
    cases stepped
    obtain ⟨sent, accepted⟩ := (before changed).decrypt_keeps body
    refine sound.update ((sound.party changed).decrypt body) (sent ▸ List.Subset.refl _) ?_
    intro frame member
    obtain earlier | ⟨opened, rfl, counted⟩ := accepted frame member
    · exact sound.genuine changed earlier
    · exact sound.mem_sent ideal unforged opened counted

/-- The transforms of two matching handshakes make a sound channel. -/
theorem CurveChannel.sound_fresh {client : CurveClient} {server : CurveServer}
    (client_done : client.state = .done (secret .client) (publicKey (secret .server)))
    (server_done : server.state = .done (secret .server) (publicKey (secret .client)))
    {transform : CurveSide → CurveTransform}
    (client_built : client.buildTransform = .ok (transform .client))
    (server_built : server.buildTransform = .ok (transform .server)) :
    CurveChannel.Sound secret (handshakeCounter client server) (CurveChannel.fresh transform) := by
  simp only [CurveClient.buildTransform, client_done, Except.ok.injEq] at client_built
  simp only [CurveServer.buildTransform, server_done, Except.ok.injEq] at server_built
  constructor
  · intro side
    cases side with
    | client =>
      rw [CurveChannel.fresh, ← client_built]
      exact ⟨rfl, rfl, rfl, forall_mem_nil _, Nat.le_refl _, forall_mem_nil _, .nil,
        forall_mem_nil _, .inl rfl, .nil⟩
    | server =>
      rw [CurveChannel.fresh, ← server_built]
      exact ⟨rfl, rfl, rfl, forall_mem_nil _, Nat.le_refl _, forall_mem_nil _, .nil,
        forall_mem_nil _, .inl rfl, .nil⟩
  · intro side
    exact nil_subset _

/-! ## What a run shows -/

variable (counter) in
/-- What the channel guarantees in a state which it reaches. -/
structure CurveChannel.Secure (channel : CurveChannel) : Prop where
  /-- The nonces of a side increase, as numbers of twenty-four bytes. -/
  nonces_increase : ∀ side, ((channel side).sent.map fun frame => BigEndian.decode
    (nonceShort (channel side).transform.outPrefix frame.counter)).Pairwise (· < ·)
  /-- They are the nonces of its boxes, larger than its nonces in the handshake and none of them. -/
  nonces_fresh : ∀ side, ∀ frame ∈ (channel side).sent,
    frame.SealedWith (channel side).transform.salsa (channel side).transform.outPrefix ∧
      counter side < frame.counter ∧
      ¬HandshakeNonce (nonceShort (channel side).transform.outPrefix frame.counter)
  /-- A frame delivered after no later one is opened to what was sealed. -/
  opens : ∀ side, ∀ frame ∈ (channel side.peer).sent,
    (∀ earlier ∈ (channel side).accepted, earlier.counter < frame.counter) →
      (channel side).transform.decryptMessage frame.body =
        .ok ((frame.more, frame.command, frame.plaintext),
          { (channel side).transform with inCounter := frame.counter })
  /-- Whatever is opened has a larger counter than every frame before it. -/
  increasing : ∀ side body content after,
    (channel side).transform.decryptMessage body = .ok (content, after) →
      ∀ earlier ∈ (channel side).accepted, earlier.counter < BigEndian.decode (body.take 8)
  /-- What a side accepted is a part of what the other one sent, in order and without repetition. -/
  accepted : ∀ side, (channel side).accepted.Sublist (channel side.peer).sent
  /-- A failed attempt leaves the side as it was. -/
  rejected : ∀ side body error, (channel side).transform.decryptMessage body = .error error →
    (channel side).decrypt body = channel side

theorem CurveChannel.Sound.secure (ideal : IdealBoxes) {channel : CurveChannel}
    (sound : channel.Sound secret counter) : channel.Secure counter where
  nonces_increase side := by
    rw [pairwise_map]
    refine List.Pairwise.imp_of_mem ?_ (sound.party side).sent_increase
    intro first second first_sent second_sent increase
    rw [decode_nonceShort _ ((sound.party side).sealed first first_sent).1,
      decode_nonceShort _ ((sound.party side).sealed second second_sent).1]
    exact Nat.add_lt_add_left increase _
  nonces_fresh side frame member := by
    rw [(sound.party side).salsa, (sound.party side).outPrefix]
    exact ⟨(sound.party side).sealed frame member, ((sound.party side).sent_range frame member).1,
      side.not_handshakeNonce frame.counter⟩
  opens side frame member newer := by
    have sealed := (sound.party side.peer).sealed frame member
    have new : (channel side).transform.inCounter < frame.counter := by
      obtain zero | ⟨last, accepted, counted⟩ := (sound.party side).accepted_last
      · rw [zero]
        exact Nat.zero_lt_of_lt ((sound.party side.peer).sent_range frame member).1
      · exact counted ▸ newer last accepted
    rw [← (sound.party side).inPrefix] at sealed
    refine decryptMessage_of_sealed ideal sealed ?_ new
    rw [box_peer ideal, (sound.party side).salsa]
  increasing side body content after opened earlier member := by
    obtain ⟨more, command, plaintext⟩ := content
    obtain ⟨-, new, -⟩ := decryptMessage_eq_ok opened
    exact Nat.lt_of_le_of_lt ((sound.party side).accepted_le earlier member) new
  accepted side := by
    have increase := (sound.party side).accepted_increase
    have distinct : (channel side).accepted.Nodup := by
      refine increase.imp ?_
      rintro first _ less rfl
      exact Nat.lt_irrefl _ less
    have antisymm : Std.Antisymm fun first second : DataFrame => first.counter < second.counter :=
      ⟨fun _ _ less greater => absurd greater (Nat.lt_asymm less)⟩
    exact sublist_of_subperm_of_pairwise (subperm_of_subset distinct (sound.genuine side))
      increase (sound.party side.peer).sent_increase
  rejected side body error failed := by rw [CurveParty.decrypt, failed]

/-- The data channel of two finished handshakes, over every sequence of frames sealed and of bytes
opened. -/
theorem CurveChannel.secure_of_runs (ideal : IdealBoxes) {client : CurveClient}
    {server : CurveServer} {secret : CurveSide → Bytes}
    (client_done : client.state = .done (secret .client) (publicKey (secret .server)))
    (server_done : server.state = .done (secret .server) (publicKey (secret .client)))
    {transform : CurveSide → CurveTransform}
    (client_built : client.buildTransform = .ok (transform .client))
    (server_built : server.buildTransform = .ok (transform .server)) {channel : CurveChannel}
    (runs : Runs CurveChannel.step CurveChannel.Unforged (CurveChannel.fresh transform) channel) :
    channel.Secure (handshakeCounter client server) := by
  have sound := CurveChannel.sound_fresh client_done server_done client_built server_built
  have reached : channel.Sound secret (handshakeCounter client server) :=
    runs.invariant (fun unforged stepped sound => sound.step ideal unforged stepped) sound
  exact reached.secure ideal

end Run

end Primitives

/-- A client at the end of its handshake, with empty keys. -/
def CurveClient.finished : CurveClient := ⟨[], [], [], .new, 2, [], .done [] []⟩

/-- A server at the end of its handshake, with empty keys. -/
def CurveServer.finished : CurveServer := ⟨[], [], 0, none, none, .new, 1, .done [] []⟩

/-- The transforms of these two. -/
def finishedTransform (side : CurveSide) : CurveTransform :=
  buildCurveTransform [] [] (handshakeCounter .finished .finished side) (side = .server)

def firstBody : Bytes := BigEndian.encode 8 3 ++ ascii "CurveZMQMESSAGEC" ++ [1, 97]

theorem frame_crosses :
    let _ := CurvePrimitives.marked
    ∃ channel : CurveChannel,
      run CurveChannel.step
          [.encrypt .client true false [97], .decrypt .server firstBody]
          (CurveChannel.fresh finishedTransform) = some channel ∧
        (channel .server).accepted = [⟨3, true, false, [97], firstBody⟩] ∧
        channel.Secure (handshakeCounter .finished .finished) := by
  let _ := CurvePrimitives.marked
  refine ⟨_, rfl, by decide +kernel, ?_⟩
  have produced : CurveChannel.Produced (update (CurveChannel.fresh finishedTransform)
      .client ((CurveParty.fresh (finishedTransform .client)).encrypt true false [97]))
      (nonceShort (ascii "CurveZMQMESSAGEC") 3) (ascii "CurveZMQMESSAGEC") [1, 97] :=
    .inr ⟨.client, ⟨3, true, false, [97], firstBody⟩, by decide +kernel, by decide +kernel,
      by decide +kernel⟩
  have first : Runs CurveChannel.step CurveChannel.Unforged
      (CurveChannel.fresh finishedTransform) _ :=
    .single (.encrypt .client true false [97]) trivial rfl
  exact @CurveChannel.secure_of_runs .marked .marked .finished .finished (fun _ => []) rfl rfl
    finishedTransform rfl rfl _ (first.tail ⟨.decrypt .server firstBody, fun _ => produced, rfl⟩)

end Omq
