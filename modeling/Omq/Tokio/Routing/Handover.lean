import Omq.Proto.TypeState
import Omq.Tokio.Outlets

/-!
# Identities of peers

The actor of an identity-routed socket gives every peer the identity it declared, or one generated
from its number, and a newcomer takes an identity over from the peer which holds it.  Declared
identities are not checked: one of the generated form takes the place of an anonymous peer.
-/

namespace Omq

open Function Transition

inductive PeerTarget
  | pipe (producer : SendPipeProducer)
  | repInproc (producer : SendPipeProducer)
  | direct (target : PeerOutbound)
  | inbox (channel : Channel Message)

namespace PeerTarget

def trySend (target : PeerTarget) (message : Message) (env : Environment) :
    Channel.Answer × PeerTarget × Environment :=
  match target with
  | .pipe producer =>
    let (answer, producer) := producer.trySend message
    (answer, .pipe producer, env)
  | .repInproc producer =>
    let (answer, producer) := producer.trySend message
    (answer, .repInproc producer, env)
  | .direct target =>
    let (result, target, env) := target.tryEncode message env
    match result with
    | .ok => (.ok, .direct target, env)
    | .full => (.full, .direct target, env)
    | _ => (.closed, .direct target, env)
  | .inbox channel =>
    let (answer, channel) := channel.trySend message
    (answer, .inbox channel, env)

end PeerTarget

structure IdentityPeer where
  identity : Bytes
  target : PeerTarget

/-- The strategy which routes by identity. -/
structure IdentitySubmitter where
  peers : Nat → Option IdentityPeer
  identityToPeer : Bytes → Option Nat
  closed : Bool
  routerMandatory : Bool

namespace IdentitySubmitter

variable (submitter : IdentitySubmitter)

def setTarget (id : Nat) (peer : IdentityPeer) (target : PeerTarget) : IdentitySubmitter :=
  { submitter with peers := update submitter.peers id (some { peer with target }) }

def removePeer (id : Nat) : IdentitySubmitter :=
  match submitter.peers id with
  | none => submitter
  | some peer =>
    { submitter with
      peers := update submitter.peers id none
      identityToPeer :=
        if submitter.identityToPeer peer.identity = some id then
          update submitter.identityToPeer peer.identity none
        else submitter.identityToPeer }

/-- A message without a route is refused or dropped. -/
def noRoute : TrySendResult :=
  if submitter.routerMandatory then .error .unroutable else .sent

def trySend (message : Message) (env : Environment) :
    TrySendResult × IdentitySubmitter × Environment :=
  match message.popFront with
  | (none, _) => (.error .unroutable, submitter, env)
  | (some identity, rest) =>
    if submitter.closed then (.closed, submitter, env)
    else
      match submitter.identityToPeer identity with
      | none => (submitter.noRoute, submitter, env)
      | some id =>
        match submitter.peers id with
        | none => (submitter.noRoute, submitter, env)
        | some peer =>
          match peer.target.trySend rest env with
          | (.ok, target, env) => (.sent, submitter.setTarget id peer target, env)
          | (.full, target, env) => (.full message, submitter.setTarget id peer target, env)
          | (.closed, _, env) => (submitter.noRoute, submitter.removePeer id, env)

end IdentitySubmitter

open IdentitySubmitter

/-- The identity of a peer which declared none: a null byte and the number of the peer. -/
def generatedIdentity (id : Nat) : Bytes := 0 :: BigEndian.encode 8 id

def Generated (identity : Bytes) : Prop := identity.length = 9 ∧ identity.head? = some 0

instance (identity : Bytes) : Decidable (Generated identity) :=
  inferInstanceAs (Decidable (_ ∧ _))

theorem generated_generatedIdentity (id : Nat) : Generated (generatedIdentity id) :=
  ⟨by simp [generatedIdentity, BigEndian.length_encode], rfl⟩

theorem generatedIdentity_injective {first second : Nat} (first_lt : first < 256 ^ 8)
    (second_lt : second < 256 ^ 8)
    (same : generatedIdentity first = generatedIdentity second) : first = second := by
  have encoded := congrArg BigEndian.decode (List.cons.inj same).2
  rwa [BigEndian.decode_encode_of_lt first_lt, BigEndian.decode_encode_of_lt second_lt] at encoded

namespace IdentitySubmitter

variable (submitter : IdentitySubmitter)

def connectionAdded (id : Nat) (identity : Bytes) (target : PeerTarget) : IdentitySubmitter :=
  { submitter with
    peers := update submitter.peers id (some ⟨identity, target⟩)
    identityToPeer := update submitter.identityToPeer identity (some id) }

/-- The identity a peer was added under. -/
def identityOf (id : Nat) : Option Bytes :=
  (submitter.peers id).map IdentityPeer.identity

/-- An identity leads to a peer which was added under it. -/
def Listed : Prop :=
  ∀ identity id, submitter.identityToPeer identity = some id →
    submitter.identityOf id = some identity

variable {submitter : IdentitySubmitter}

theorem identityOf_removePeer (id : Nat) :
    (submitter.removePeer id).identityOf = update submitter.identityOf id none := by
  funext other
  unfold removePeer identityOf
  by_cases same : other = id
  · subst same
    cases found : submitter.peers other <;> simp [found]
  · cases found : submitter.peers id <;> simp [same]

/-- Where the table leads without a peer, it led before, and not to that peer. -/
theorem identityToPeer_of_removePeer (listed : submitter.Listed) {id other : Nat} {identity : Bytes}
    (target : (submitter.removePeer id).identityToPeer identity = some other) :
    submitter.identityToPeer identity = some other ∧ other ≠ id := by
  unfold removePeer at target
  cases found : submitter.peers id with
  | none =>
    rw [found] at target
    refine ⟨target, ?_⟩
    rintro rfl
    simpa [identityOf, found] using listed _ _ target
  | some peer =>
    simp only [found] at target
    have led : submitter.identityToPeer identity = some other := by
      split_ifs at target
      · by_cases same : identity = peer.identity
        · simp [same] at target
        · rwa [update_of_ne same] at target
      · exact target
    refine ⟨led, ?_⟩
    rintro rfl
    have same : peer.identity = identity := by simpa [identityOf, found] using listed _ _ led
    simp [same, led] at target

theorem Listed.removePeer (listed : submitter.Listed) (id : Nat) :
    (submitter.removePeer id).Listed := by
  intro identity other target
  obtain ⟨led, apart⟩ := identityToPeer_of_removePeer listed target
  rw [identityOf_removePeer, update_of_ne apart]
  exact listed _ _ led

theorem identityOf_setTarget {id : Nat} {peer : IdentityPeer}
    (found : submitter.peers id = some peer) (target : PeerTarget) :
    (submitter.setTarget id peer target).identityOf = submitter.identityOf := by
  funext other
  unfold setTarget identityOf
  by_cases same : other = id
  · subst same
    simp [found]
  · simp [same]

theorem identityOf_connectionAdded (id : Nat) (identity : Bytes) (target : PeerTarget) :
    (submitter.connectionAdded id identity target).identityOf =
      update submitter.identityOf id (some identity) := by
  funext other
  unfold connectionAdded identityOf
  by_cases same : other = id <;> simp [same]

theorem Listed.connectionAdded (listed : submitter.Listed) {id : Nat}
    (absent : submitter.identityOf id = none) (identity : Bytes) (target : PeerTarget) :
    (submitter.connectionAdded id identity target).Listed := by
  intro other found target_eq
  rw [identityOf_connectionAdded]
  by_cases same : other = identity
  · subst same
    have found_eq : id = found := by simpa [IdentitySubmitter.connectionAdded] using target_eq
    rw [found_eq, update_self]
  · have before : submitter.identityToPeer other = some found := by
      simpa [IdentitySubmitter.connectionAdded, same] using target_eq
    have added := listed _ _ before
    rw [update_of_ne, added]
    rintro rfl
    rw [absent] at added
    cases added

/-- A message goes to the outlet of the peer its first part leads to, or that peer is gone. -/
theorem trySend_cases (submitter : IdentitySubmitter) (message : Message) (env : Environment) :
    (submitter.trySend message env).2.1 = submitter ∨
      ∃ identity rest id peer, message.popFront = (some identity, rest) ∧
        submitter.identityToPeer identity = some id ∧ submitter.peers id = some peer ∧
        ((∃ target, (submitter.trySend message env).2.1 = submitter.setTarget id peer target) ∨
          (submitter.trySend message env).2.1 = submitter.removePeer id) := by
  unfold trySend
  rcases popped : message.popFront with ⟨_ | identity, rest⟩
  · exact .inl rfl
  · dsimp only
    split_ifs
    · exact .inl rfl
    · cases known : submitter.identityToPeer identity with
      | none => exact .inl rfl
      | some id =>
        cases found : submitter.peers id with
        | none => simp [known, found]
        | some peer =>
          refine .inr ⟨identity, rest, id, peer, rfl, known, found, ?_⟩
          simp only [found]
          rcases peer.target.trySend rest env with ⟨_ | _ | _, target, later⟩
          · exact .inl ⟨target, rfl⟩
          · exact .inl ⟨target, rfl⟩
          · exact .inr rfl

end IdentitySubmitter

/-- What the actor knows of a connection. -/
structure PeerEntry where
  ready : Bool
  declared : Option Bytes

structure IdentityActor where
  nextPeerId : Nat
  entries : Nat → Option PeerEntry
  submitter : IdentitySubmitter

namespace IdentityActor

def new (routerMandatory : Bool) : IdentityActor where
  nextPeerId := 0
  entries := fun _ => none
  submitter := ⟨fun _ => none, fun _ => none, false, routerMandatory⟩

variable (actor : IdentityActor)

def removePeer (id : Nat) : IdentityActor :=
  match actor.entries id with
  | none => actor
  | some _ =>
    { actor with
      entries := update actor.entries id none
      submitter := actor.submitter.removePeer id }

/-- Evict the peer which holds an identity the newcomer takes. -/
def handOver (id : Nat) (identity : Bytes) : IdentityActor :=
  match actor.submitter.identityToPeer identity with
  | some old => if old ≠ id then actor.removePeer old else actor
  | none => actor

/-- A peer completed its handshake.  Its driver may be gone already; the outlet is the one which the
strategy picks from its handle. -/
def handleHandshakeSucceeded (id : Nat) (props : PeerProperties)
    (driverGone : Bool) (target : PeerTarget) : IdentityActor :=
  let identity := props.identity.getD (generatedIdentity id)
  let actor := actor.handOver id identity
  match actor.entries id with
  | none => actor
  | some _ =>
    let actor :=
      { actor with entries := update actor.entries id (some ⟨true, props.identity⟩) }
    if driverGone then actor.removePeer id
    else { actor with submitter := actor.submitter.connectionAdded id identity target }

inductive Action
  | spawn
  | handshakeSucceeded (id : Nat) (props : PeerProperties) (driverGone : Bool) (target : PeerTarget)
  | peerClosed (id : Nat)
  | trySend (message : Message) (env : Environment)

/-- One event.  Numbers are counted in 64 bits, and a connection reports its handshake once. -/
def step : Action → Option IdentityActor
  | .spawn =>
    if actor.nextPeerId + 1 < 256 ^ 8 then
      some { actor with
        nextPeerId := actor.nextPeerId + 1
        entries := update actor.entries actor.nextPeerId (some ⟨false, none⟩) }
    else none
  | .handshakeSucceeded id props driverGone target =>
    if 256 ^ 8 ≤ id ∨ (actor.entries id).any PeerEntry.ready then none
    else some (actor.handleHandshakeSucceeded id props driverGone target)
  | .peerClosed id => some (actor.removePeer id)
  | .trySend message env =>
    some { actor with submitter := (actor.submitter.trySend message env).2.1 }

/-- No peer declares an identity of the generated form. -/
def Unforged (_ : IdentityActor) : Action → Prop
  | .handshakeSucceeded _ props _ _ => ∀ identity ∈ props.identity, ¬Generated identity
  | _ => True

instance (actor : IdentityActor) (action : Action) : Decidable (actor.Unforged action) :=
  match action with
  | .handshakeSucceeded _ props _ _ =>
    inferInstanceAs (Decidable (∀ identity ∈ props.identity, ¬Generated identity))
  | .spawn => .isTrue trivial
  | .peerClosed _ => .isTrue trivial
  | .trySend _ _ => .isTrue trivial

/-- A connected peer lost its connection or its identity to a newcomer. -/
def Displaced (before after : IdentityActor) (newcomer other : Nat) : Prop :=
  other ≠ newcomer ∧ (before.entries other).any PeerEntry.ready ∧
    (after.entries other = none ∨
      ∃ identity, before.submitter.identityToPeer identity = some other ∧
      after.submitter.identityToPeer identity = some newcomer)

/-- Peers are known by what they declared, or by what was generated for them. -/
structure Sound (actor : IdentityActor) : Prop where
  /-- Numbers fit in 64 bits. -/
  bounded : actor.nextPeerId < 256 ^ 8
  /-- Numbers which were not given out have no connection. -/
  fresh : ∀ {id}, actor.nextPeerId ≤ id → actor.entries id = none
  /-- Nobody declared a generated identity. -/
  unforged : ∀ {id entry}, actor.entries id = some entry →
    ∀ identity ∈ entry.declared, ¬Generated identity
  listed : actor.submitter.Listed
  /-- A peer with an outlet is connected, under its own identity. -/
  named : ∀ {id identity}, actor.submitter.identityOf id = some identity →
    ∃ entry, actor.entries id = some entry ∧ entry.ready = true ∧
      identity = entry.declared.getD (generatedIdentity id)

variable {actor : IdentityActor}

theorem Sound.new (routerMandatory : Bool) : (new routerMandatory).Sound where
  bounded := show 0 < 256 ^ 8 by decide
  fresh := fun _ => rfl
  unforged := fun found => by cases found
  listed := fun _ _ target => by cases target
  named := fun found => by cases found

theorem Sound.removePeer (sound : actor.Sound) (id : Nat) : (actor.removePeer id).Sound := by
  unfold IdentityActor.removePeer
  cases found : actor.entries id with
  | none => exact sound
  | some entry =>
    refine ⟨sound.bounded, fun {other} later => ?_, fun kept => ?_, sound.listed.removePeer id,
      fun {other identity} added => ?_⟩
    · by_cases same : other = id
      · simp [same]
      · simpa [same] using sound.fresh later
    · obtain ⟨_, impossible⟩ | ⟨_, kept⟩ := mem_update.mp kept
      · cases impossible
      · exact sound.unforged kept
    · rw [identityOf_removePeer] at added
      by_cases same : other = id
      · simp [same] at added
      · rw [update_of_ne same] at added
        simpa only [update_of_ne same] using sound.named added

theorem Sound.handOver (sound : actor.Sound) (id : Nat) (identity : Bytes) :
    (actor.handOver id identity).Sound := by
  unfold IdentityActor.handOver
  split
  · split_ifs
    · exact sound.removePeer _
    · exact sound
  · exact sound

/-- A connection without an outlet gets a new entry. -/
theorem Sound.enter (sound : actor.Sound) {id next : Nat} {entry : PeerEntry}
    (bounded : next < 256 ^ 8) (grows : actor.nextPeerId ≤ next) (given : id < next)
    (absent : actor.submitter.identityOf id = none)
    (unforged : ∀ identity ∈ entry.declared, ¬Generated identity) :
    Sound { actor with
      nextPeerId := next
      entries := update actor.entries id (some entry) } := by
  refine ⟨bounded, fun {other} later => ?_, fun kept => ?_, sound.listed,
    fun {other identity} added => ?_⟩
  · have apart : other ≠ id := (lt_of_lt_of_le given later).ne'
    simpa only [update_of_ne apart] using sound.fresh (grows.trans later)
  · obtain ⟨_, same⟩ | ⟨_, kept⟩ := mem_update.mp kept
    · cases same
      exact unforged
    · exact sound.unforged kept
  · have apart : other ≠ id := by
      rintro rfl
      exact absurd added (by simp [absent])
    simpa only [update_of_ne apart] using sound.named added

variable {id other : Nat} {props : PeerProperties} {identity : Bytes}

/-- A peer without a completed handshake has no outlet. -/
theorem Sound.absent (sound : actor.Sound)
    (waiting : (actor.entries id).any PeerEntry.ready = false) :
    actor.submitter.identityOf id = none := by
  cases added : actor.submitter.identityOf id with
  | none => rfl
  | some identity =>
    obtain ⟨entry, found, ready, _⟩ := sound.named added
    simp [found, ready] at waiting

theorem Sound.lt_nextPeerId (sound : actor.Sound) {entry : PeerEntry}
    (found : actor.entries id = some entry) : id < actor.nextPeerId := by
  by_contra later
  rw [sound.fresh (Nat.le_of_not_lt later)] at found
  cases found

theorem entries_handOver (id : Nat) (identity : Bytes) :
    (actor.handOver id identity).entries id = actor.entries id := by
  unfold handOver removePeer
  split
  · split_ifs with apart
    · split
      · rfl
      · exact update_of_ne (Ne.symm apart) ..
    · rfl
  · rfl

/-- A handshake is accepted for a connection which was not ready. -/
theorem Sound.handshake (sound : actor.Sound)
    (waiting : (actor.entries id).any PeerEntry.ready = false)
    (unforged : ∀ identity ∈ props.identity, ¬Generated identity) (driverGone : Bool)
    (target : PeerTarget) : (actor.handleHandshakeSucceeded id props driverGone target).Sound := by
  unfold handleHandshakeSucceeded
  dsimp only
  have handed := sound.handOver id (props.identity.getD (generatedIdentity id))
  rw [← entries_handOver id (props.identity.getD (generatedIdentity id))] at waiting
  generalize actor.handOver id (props.identity.getD (generatedIdentity id)) = actor
    at handed waiting ⊢
  cases found : actor.entries id with
  | none => exact handed
  | some entry =>
    have absent := handed.absent waiting
    have entered := @Sound.enter actor handed id _ ⟨true, props.identity⟩ handed.bounded le_rfl
      (handed.lt_nextPeerId found) absent unforged
    dsimp only
    split_ifs
    · exact entered.removePeer id
    · refine ⟨entered.bounded, entered.fresh, entered.unforged,
        handed.listed.connectionAdded absent _ target, fun {other identity} added => ?_⟩
      rw [identityOf_connectionAdded] at added
      by_cases same : other = id
      · subst same
        rw [update_self] at added
        exact ⟨_, update_self .., rfl, (Option.some.inj added).symm⟩
      · rw [update_of_ne same] at added
        exact entered.named added

theorem Sound.trySend (sound : actor.Sound) (message : Message) (env : Environment) :
    Sound { actor with submitter := (actor.submitter.trySend message env).2.1 } := by
  obtain kept | ⟨_, _, id, peer, _, _, found, ⟨target, sent⟩ | gone⟩ :=
    actor.submitter.trySend_cases message env
  · rw [kept]
    exact sound
  · have same := identityOf_setTarget found target
    rw [sent]
    exact ⟨sound.bounded, sound.fresh, sound.unforged,
      fun identity other led => same ▸ sound.listed identity other led,
      fun added => sound.named (same ▸ added)⟩
  · rw [gone]
    refine ⟨sound.bounded, sound.fresh, sound.unforged, sound.listed.removePeer id,
      fun {other identity} added => ?_⟩
    rw [identityOf_removePeer] at added
    by_cases same : other = id
    · simp [same] at added
    · rw [update_of_ne same] at added
      exact sound.named added

theorem Sound.step {after : IdentityActor} {action : Action} (honest : actor.Unforged action)
    (stepped : actor.step action = some after) (sound : actor.Sound) : after.Sound := by
  cases action with
  | spawn =>
    obtain ⟨room, after_eq⟩ := Option.ite_none_right_eq_some.mp stepped
    cases after_eq
    exact sound.enter room (Nat.le_succ _) (Nat.lt_succ_self _)
      (sound.absent (by rw [sound.fresh le_rfl]; rfl)) (by simp)
  | handshakeSucceeded id props driverGone target =>
    obtain ⟨waiting, after_eq⟩ := Option.ite_none_left_eq_some.mp stepped
    cases after_eq
    exact sound.handshake (by simpa using (not_or.mp waiting).2) honest driverGone target
  | peerClosed id =>
    cases stepped
    exact sound.removePeer id
  | trySend message env =>
    cases stepped
    exact sound.trySend message env

/-! ## Who is displaced -/

theorem Sound.led (sound : actor.Sound) {peer : Nat} (fits : id < 256 ^ 8)
    (led : actor.submitter.identityToPeer (generatedIdentity id) = some peer) : peer = id := by
  obtain ⟨entry, found, _, named⟩ := sound.named (sound.listed _ _ led)
  cases declared : entry.declared with
  | some identity =>
    rw [declared, Option.getD_some] at named
    exact absurd (named ▸ generated_generatedIdentity id) (sound.unforged found identity declared)
  | none =>
    rw [declared, Option.getD_none] at named
    exact (generatedIdentity_injective fits
      ((sound.lt_nextPeerId found).trans sound.bounded) named).symm

theorem entries_removePeer (apart : other ≠ id) :
    (actor.removePeer id).entries other = actor.entries other := by
  unfold removePeer
  split
  · rfl
  · exact update_of_ne apart ..

/-- The table of an actor which forgot a connection. -/
theorem Sound.led_of_removePeer (sound : actor.Sound)
    (led : (actor.removePeer id).submitter.identityToPeer identity = some other) :
    actor.submitter.identityToPeer identity = some other := by
  unfold IdentityActor.removePeer at led
  split at led
  · exact led
  · exact (identityToPeer_of_removePeer sound.listed led).1

/-- Handing an identity over evicts its holder and leads nowhere new. -/
theorem Sound.handOver_cases (sound : actor.Sound) (id : Nat) (identity : Bytes) :
    (∀ other, (actor.handOver id identity).entries other = actor.entries other ∨
      actor.submitter.identityToPeer identity = some other) ∧
    ∀ {named other}, (actor.handOver id identity).submitter.identityToPeer named = some other →
      actor.submitter.identityToPeer named = some other := by
  unfold IdentityActor.handOver
  cases held : actor.submitter.identityToPeer identity with
  | none => exact ⟨fun _ => .inl rfl, fun led => led⟩
  | some old =>
    dsimp only
    split_ifs
    · refine ⟨fun other => ?_, sound.led_of_removePeer⟩
      by_cases same : other = old
      · exact .inr (congrArg some same.symm)
      · exact .inl (entries_removePeer same)
    · exact ⟨fun _ => .inl rfl, fun led => led⟩

theorem Sound.handshake_cases (sound : actor.Sound)
    (identity_eq : props.identity.getD (generatedIdentity id) = identity) (driverGone : Bool)
    (target : PeerTarget) :
    (∀ other ≠ id, (actor.handleHandshakeSucceeded id props driverGone target).entries other =
      (actor.handOver id identity).entries other) ∧
    ∀ named ≠ identity, (actor.handleHandshakeSucceeded id props driverGone
        target).submitter.identityToPeer named = some id →
      (actor.handOver id identity).submitter.identityToPeer named = some id := by
  have listed := (sound.handOver id identity).listed
  unfold handleHandshakeSucceeded
  simp only [identity_eq]
  split
  · exact ⟨fun _ _ => rfl, fun _ _ led => led⟩
  · split_ifs
    · refine ⟨fun other apart => ?_, fun named _ led => ?_⟩
      · rw [entries_removePeer apart]
        exact update_of_ne apart ..
      · simp only [IdentityActor.removePeer, update_self] at led
        exact (identityToPeer_of_removePeer listed led).1
    · refine ⟨fun other apart => update_of_ne apart .., fun named apart led => ?_⟩
      exact (update_of_ne apart ..).symm.trans led

/-- Only the peer which holds the identity of the newcomer is displaced. -/
theorem Sound.held_of_displaced (sound : actor.Sound) {driverGone : Bool} {target : PeerTarget}
    (displaced : Displaced actor (actor.handleHandshakeSucceeded id props driverGone target) id
      other) :
    actor.submitter.identityToPeer (props.identity.getD (generatedIdentity id)) = some other := by
  obtain ⟨apart, connected, lost⟩ := displaced
  obtain ⟨entries_handed, led_before⟩ :=
    sound.handOver_cases id (props.identity.getD (generatedIdentity id))
  obtain ⟨entries_eq, led_handed⟩ := sound.handshake_cases rfl driverGone target
  obtain gone | ⟨named, held, taken⟩ := lost
  · obtain kept | held := entries_handed other
    · rw [entries_eq other apart, kept] at gone
      simp [gone] at connected
    · exact held
  · by_cases same : named = props.identity.getD (generatedIdentity id)
    · exact same ▸ held
    · have led := led_before (led_handed named same taken)
      exact absurd (Option.some.inj (held.symm.trans led)) apart

/-- Nobody is impersonated as long as no peer declares an identity of the generated form: a peer is
displaced by a newcomer only when both declared one identity, and a message for a generated identity
changes no other outlet than that of the peer it was generated for. -/
theorem no_impersonation {routerMandatory : Bool}
    (runs : Runs step Unforged (new routerMandatory) actor) :
    (∀ id props driverGone target after,
      actor.Unforged (.handshakeSucceeded id props driverGone target) →
      actor.step (.handshakeSucceeded id props driverGone target) = some after →
      ∀ other, Displaced actor after id other →
        ∃ entry identity, actor.entries other = some entry ∧ entry.declared = some identity ∧
          props.identity = some identity) ∧
      ∀ id message rest env, id < 256 ^ 8 →
        message.popFront = (some (generatedIdentity id), rest) → ∀ other ≠ id,
          (actor.submitter.trySend message env).2.1.peers other = actor.submitter.peers other := by
  have sound := runs.invariant (fun honest stepped => Sound.step honest stepped)
    (Sound.new routerMandatory)
  constructor
  · intro id props driverGone target after honest stepped other displaced
    obtain ⟨possible, after_eq⟩ := Option.ite_none_left_eq_some.mp stepped
    have fits := (not_or.mp possible).1
    cases after_eq
    have held := sound.held_of_displaced displaced
    obtain ⟨entry, found, _, named⟩ := sound.named (sound.listed _ _ held)
    have other_fits := (sound.lt_nextPeerId found).trans sound.bounded
    cases declared : props.identity with
    | none =>
      rw [declared, Option.getD_none] at held
      exact absurd (sound.led (Nat.lt_of_not_le fits) held) displaced.1
    | some identity =>
      rw [declared, Option.getD_some] at named
      cases own : entry.declared with
      | none =>
        rw [own, Option.getD_none] at named
        exact absurd (named ▸ generated_generatedIdentity other) (honest identity declared)
      | some other_identity =>
        rw [own, Option.getD_some] at named
        exact ⟨entry, identity, found, own.trans (congrArg some named.symm), rfl⟩
  · intro id message rest env fits addressed other apart
    obtain kept | ⟨identity, _, peerId, peer, popped, led, found, changed⟩ :=
      actor.submitter.trySend_cases message env
    · rw [kept]
    · rw [addressed] at popped
      cases popped
      have same := sound.led fits led
      subst same
      obtain ⟨target, sent⟩ | gone := changed
      · rw [sent]
        exact update_of_ne apart ..
      · rw [gone, IdentitySubmitter.removePeer, found]
        exact update_of_ne apart ..

/-- A DEALER which declares an identity completes its handshake. -/
def joins (id : Nat) (identity : Option Bytes) : Action :=
  .handshakeSucceeded id ⟨some .dealer, identity, []⟩ false
    (.pipe ⟨.queue ⟨1000, [], false⟩, false⟩)

/-- An anonymous peer and one with a name are connected, and the name is taken over. -/
theorem no_impersonation_of_names :
    ∃ actor after, Runs step Unforged (new false) actor ∧
      actor.step (joins 2 (some [65])) = some after ∧ Displaced actor after 2 1 ∧
      ∃ entry identity, actor.entries 1 = some entry ∧ entry.declared = some identity ∧
        some [65] = some identity := by
  obtain ⟨actor, ran, seen⟩ := (Option.any_eq_true (fun actor : IdentityActor =>
      (actor.entries 1).any PeerEntry.ready &&
        (actor.step (joins 2 (some [65]))).any fun after => (after.entries 1).isNone)
    (runChecked step (fun actor action => decide (actor.Unforged action))
      [.spawn, joins 0 none, .spawn, joins 1 (some [65]), .spawn] (new false))).mp
    (by decide +kernel)
  obtain ⟨connected, evicted⟩ := Bool.and_eq_true_iff.mp seen
  obtain ⟨after, stepped, gone⟩ := (Option.any_eq_true _ _).mp evicted
  have runs : Runs step Unforged (new false) actor :=
    Runs.of_runChecked (fun _ _ => of_decide_eq_true) ran
  have honest : ∀ identity ∈ some ([65] : Bytes), ¬Generated identity := by decide
  have displaced : Displaced actor after 2 1 :=
    ⟨by decide, connected, .inl (Option.isNone_iff_eq_none.mp gone)⟩
  exact ⟨actor, after, runs, stepped, displaced,
    (no_impersonation runs).1 2 ⟨_, some [65], _⟩ _ _ after honest stepped 1 displaced⟩

/-- A peer declares the identity which was generated for the first one: the anonymous peer is
evicted, and the newcomer gets its messages. -/
theorem impersonated :
    ∃ actor after, Reaches step (new false) actor ∧
      actor.step (joins 1 (some (generatedIdentity 0))) = some after ∧
      (actor.entries 0).map PeerEntry.declared = some none ∧ Displaced actor after 1 0 ∧
      after.submitter.identityToPeer (generatedIdentity 0) = some 1 := by
  obtain ⟨actor, ran, seen⟩ := (Option.any_eq_true (fun actor : IdentityActor =>
      (actor.entries 0).any PeerEntry.ready &&
        decide ((actor.entries 0).map PeerEntry.declared = some none) &&
        (actor.step (joins 1 (some (generatedIdentity 0)))).any fun after : IdentityActor =>
          (after.entries 0).isNone &&
            decide (after.submitter.identityToPeer (generatedIdentity 0) = some 1))
    (run step [.spawn, joins 0 none, .spawn] (new false))).mp (by decide +kernel)
  simp only [Bool.and_eq_true, decide_eq_true_eq] at seen
  obtain ⟨⟨connected, anonymous⟩, evicted⟩ := seen
  obtain ⟨after, stepped, seen⟩ := (Option.any_eq_true _ _).mp evicted
  simp only [Bool.and_eq_true, decide_eq_true_eq] at seen
  exact ⟨actor, after, .of_run ran, stepped, anonymous,
    ⟨by decide, connected, .inl (Option.isNone_iff_eq_none.mp seen.1)⟩, seen.2⟩

end IdentityActor

end Omq
