import Omq.Proto.Error

/-!
# Socket types

The wire names of the twenty ZMTP socket types and their compatibility matrix.
-/

namespace Omq

inductive SocketType
  | req | rep | pub | sub | xpub | xsub | push | pull | dealer | router
  | pair | client | server | radio | dish | scatter | gather | channel | peer | stream
  deriving DecidableEq

namespace SocketType

/-- Wire-level name used in the `Socket-Type` property. -/
def asStr : SocketType → Bytes
  | .req => ascii "REQ"
  | .rep => ascii "REP"
  | .pub => ascii "PUB"
  | .sub => ascii "SUB"
  | .xpub => ascii "XPUB"
  | .xsub => ascii "XSUB"
  | .push => ascii "PUSH"
  | .pull => ascii "PULL"
  | .dealer => ascii "DEALER"
  | .router => ascii "ROUTER"
  | .pair => ascii "PAIR"
  | .client => ascii "CLIENT"
  | .server => ascii "SERVER"
  | .radio => ascii "RADIO"
  | .dish => ascii "DISH"
  | .scatter => ascii "SCATTER"
  | .gather => ascii "GATHER"
  | .channel => ascii "CHANNEL"
  | .peer => ascii "PEER"
  | .stream => ascii "STREAM"

/-- The variant name, as the handshake errors print it. -/
def debug : SocketType → String
  | .req => "Req"
  | .rep => "Rep"
  | .pub => "Pub"
  | .sub => "Sub"
  | .xpub => "XPub"
  | .xsub => "XSub"
  | .push => "Push"
  | .pull => "Pull"
  | .dealer => "Dealer"
  | .router => "Router"
  | .pair => "Pair"
  | .client => "Client"
  | .server => "Server"
  | .radio => "Radio"
  | .dish => "Dish"
  | .scatter => "Scatter"
  | .gather => "Gather"
  | .channel => "Channel"
  | .peer => "Peer"
  | .stream => "Stream"

/-- The names `fromWire` recognises, in the order it tries them. -/
def wireNames : List (Bytes × SocketType) :=
  [(ascii "REQ", .req), (ascii "REP", .rep), (ascii "PUB", .pub), (ascii "SUB", .sub),
    (ascii "XPUB", .xpub), (ascii "XSUB", .xsub), (ascii "PUSH", .push), (ascii "PULL", .pull),
    (ascii "DEALER", .dealer), (ascii "ROUTER", .router), (ascii "PAIR", .pair),
    (ascii "CLIENT", .client), (ascii "SERVER", .server), (ascii "RADIO", .radio),
    (ascii "DISH", .dish), (ascii "SCATTER", .scatter), (ascii "GATHER", .gather),
    (ascii "CHANNEL", .channel), (ascii "PEER", .peer), (ascii "STREAM", .stream)]

/-- Parse a wire-level name, case-sensitively. -/
def fromWire (name : Bytes) : Option SocketType := wireNames.lookup name

theorem length_asStr_le (socketType : SocketType) : socketType.asStr.length ≤ 7 := by
  cases socketType <;> decide

end SocketType

def isCompatible (ours theirs : SocketType) : Bool :=
  match ours, theirs with
  | .pub, .sub | .pub, .xsub | .xpub, .sub | .xpub, .xsub => true
  | .sub, .pub | .sub, .xpub | .xsub, .pub | .xsub, .xpub => true
  | .push, .pull => true
  | .pull, .push => true
  | .req, .rep | .req, .router | .req, .dealer => true
  | .rep, .req | .rep, .dealer => true
  | .dealer, .req | .dealer, .rep | .dealer, .dealer | .dealer, .router => true
  | .router, .req | .router, .dealer | .router, .router => true
  | .pair, .pair => true
  | .client, .server => true
  | .server, .client => true
  | .radio, .dish => true
  | .dish, .radio => true
  | .scatter, .gather => true
  | .gather, .scatter => true
  | .channel, .channel => true
  | .peer, .peer => true
  | _, _ => false

theorem isCompatible_comm (ours theirs : SocketType) :
    isCompatible ours theirs = isCompatible theirs ours := by
  cases ours <;> cases theirs <;> rfl

end Omq
