import Omq.Proto.Command
import Omq.Proto.Greeting

/-!
# What every security mechanism shares

A mechanism consumes commands and emits commands.  Its randomness and its clock are explicit: the
environment is a tape of random bytes and a tape of clock readings with their positions, so that
two runs of one connection can be compared under the same answers of the operating system.
-/

namespace Omq

/-- The answers of the random generator and of the clock, and how many were used. -/
structure Environment where
  /-- The random bytes, in the order they are drawn. -/
  random : Nat → UInt8
  /-- The clock readings in nanoseconds, in the order they are taken. -/
  clock : Nat → Nat
  drawn : Nat
  ticks : Nat

namespace Environment

def zero : Environment := ⟨fun _ => 0, fun _ => 0, 0, 0⟩

variable (env : Environment)

def fillBytes (count : Nat) : Bytes × Environment :=
  ((List.range count).map fun index => env.random (env.drawn + index),
    { env with drawn := env.drawn + count })

theorem length_fillBytes (count : Nat) : (env.fillBytes count).1.length = count := by
  simp [fillBytes]

def now : Nat × Environment :=
  (env.clock env.ticks, { env with ticks := env.ticks + 1 })

end Environment

/-- What an authenticator learns about a peer. -/
structure MechanismPeerInfo where
  mechanism : MechanismName
  /-- The peer's long-term public key; zero for PLAIN. -/
  publicKey : Bytes
  identity : Option Bytes
  username : Option Bytes
  password : Option Bytes

/-- A server-side admission callback. -/
abbrev Authenticator := MechanismPeerInfo → Bool

/-- Progress of a mechanism handshake. -/
inductive MechanismStep
  | continue
  | complete (peerProperties : PeerProperties)

/-- A mechanism after one call: its state, the environment, the commands it pushed, its result. -/
structure Reply (μ α : Type) where
  mechanism : μ
  env : Environment
  /-- Commands pushed for the peer. -/
  out : List Command
  result : Except Error α

def Reply.map {μ ν α : Type} (rename : μ → ν) (reply : Reply μ α) : Reply ν α :=
  ⟨rename reply.mechanism, reply.env, reply.out, reply.result⟩

/-- The variant name of a command, as the handshake errors print it. -/
def Command.kind : Command → String
  | .ready _ => "Ready"
  | .subscribe _ => "Subscribe"
  | .cancel _ => "Cancel"
  | .ping _ _ => "Ping"
  | .pong _ => "Pong"
  | .error _ => "Error"
  | .join _ => "Join"
  | .leave _ => "Leave"
  | .unknown _ _ => "Unknown"

/-- The failure announced by a peer's ERROR command. -/
def tryErrorCommand (command : Command) (mechanism : String) : Option Error :=
  match command with
  | .unknown name body =>
    if name ≠ ascii "ERROR" then none
    else
      let reason := match body with
        | [] => []
        | length :: rest => rest.take length.toNat
      some (.handshakeFailed (mechanism ++ " peer sent ERROR: " ++ displayText reason))
  | _ => none

end Omq
