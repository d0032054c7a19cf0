import Omq.Library.Transition

/-!
# A receive ring of an inproc peer

The driver of an inproc peer pushes into the receive ring of the socket.  A message which finds the
ring full goes through the actor and the pump into a second ring, which the application looks into
when it finds nothing in the first.  A message which finds room again overtakes it.
-/

namespace Omq.Libzmq

open Transition

/-- A socket with an inproc peer, whose driver has the receive ring `fast`.  Of the other queues a
full one makes its writer wait and decides nothing. -/
structure InprocSink (Message : Type) where
  cap : Nat
  /-- SERVER sockets wait for room in the ring. -/
  server : Bool
  /-- The message is larger than `max_message_size`. -/
  exceeds : Message → Bool
  driving : Bool
  inbound : List Message
  fast : List Message
  events : List Message
  recvPipe : List Message
  /-- The message which the pump has taken and not pushed yet. -/
  pumping : Option Message
  pump : List Message
  sent : List Message
  received : List Message

namespace InprocSink

variable {Message : Type}

def new (cap : Nat) (server : Bool) (exceeds : Message → Bool) : InprocSink Message :=
  ⟨cap, server, exceeds, true, [], [], [], [], none, [], [], []⟩

variable (sink : InprocSink Message)

/-- The driver takes the next message, `none` while it waits.  It ends at one which is too large. -/
def drive : Option (InprocSink Message) :=
  match sink.inbound with
  | [] => none
  | message :: inbound =>
    if sink.exceeds message then some { sink with driving := false }
    else if sink.fast.length < sink.cap then
      some { sink with inbound, fast := sink.fast ++ [message] }
    else if sink.server then none
    else some { sink with inbound, events := sink.events ++ [message] }

def tryPopDual : Option (InprocSink Message) :=
  match sink.fast, sink.pump with
  | message :: fast, _ => some { sink with fast, received := sink.received ++ [message] }
  | [], message :: pump => some { sink with pump, received := sink.received ++ [message] }
  | [], [] => none

inductive Action (Message : Type)
  | send (message : Message)
  | drive
  | deliver
  | pumpTakes
  | pumpPushes
  | receive

def step : Action Message → Option (InprocSink Message)
  | .send message =>
    some { sink with inbound := sink.inbound ++ [message], sent := sink.sent ++ [message] }
  | .drive => if sink.driving then sink.drive else none
  | .deliver =>
    match sink.events with
    | [] => none
    | message :: events => some { sink with events, recvPipe := sink.recvPipe ++ [message] }
  | .pumpTakes =>
    match sink.pumping, sink.recvPipe with
    | none, message :: recvPipe => some { sink with recvPipe, pumping := some message }
    | _, _ => none
  | .pumpPushes =>
    sink.pumping.map fun message => { sink with pumping := none, pump := sink.pump ++ [message] }
  | .receive => sink.tryPopDual

/-- The messages on the way past the ring, oldest first. -/
def overflow : List Message :=
  sink.pump ++ sink.pumping.toList ++ sink.recvPipe ++ sink.events

/-- The driver finds room in the ring only when nothing is on the way past it. -/
def Unhurried : Action Message → Prop
  | .drive => sink.fast.length < sink.cap → sink.overflow = []
  | _ => True

/-- The history of the messages. -/
def Ordered : Prop :=
  sink.received ++ sink.fast ++ sink.overflow ++ sink.inbound = sink.sent

theorem Ordered.step {sink after : InprocSink Message} {action : Action Message}
    (unhurried : sink.Unhurried action) (stepped : sink.step action = some after)
    (ordered : sink.Ordered) : after.Ordered := by
  unfold Ordered overflow at *
  revert stepped
  fun_cases sink.step action <;> intro stepped
  case case2 =>
    -- drive
    revert stepped
    fun_cases InprocSink.drive sink <;> rintro ⟨⟩
    · exact ordered
    next inbound_eq _ room =>
      have nothing : sink.overflow = [] := unhurried room
      simp only [overflow, List.append_eq_nil_iff] at nothing
      simp [← ordered, nothing, inbound_eq]
    next inbound_eq _ _ _ => simp [← ordered, inbound_eq]
  case case8 =>
    -- pumpPushes
    obtain ⟨message, pumping, rfl⟩ := Option.map_eq_some_iff.mp stepped
    simp [← ordered, pumping]
  case case9 =>
    -- receive
    revert stepped
    fun_cases tryPopDual sink <;> rintro ⟨⟩
    next fast_eq => simp [← ordered, fast_eq]
    next fast_eq pump_eq => simp [← ordered, fast_eq, pump_eq]
  all_goals cases stepped
  · -- send
    simp [← ordered]
  next events_eq => -- deliver
    simp [← ordered, events_eq]
  next idle recvPipe_eq => -- pumpTakes
    simp [← ordered, idle, recvPipe_eq]

instance (sink : InprocSink Message) (action : Action Message) :
    Decidable (sink.Unhurried action) :=
  match action with
  | .drive => inferInstanceAs (Decidable (_ → _ = []))
  | .send _ | .deliver | .pumpTakes | .pumpPushes | .receive => .isTrue trivial

end InprocSink

end Omq.Libzmq
