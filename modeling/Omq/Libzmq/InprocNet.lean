import Omq.Library.Queues
import Omq.Library.Transition

/-!
# PUSH and PULL sockets joined by inproc

Every pair of a PUSH and a PULL socket which an inproc bind and a connect join gets a byte ring of
its own, but a socket keeps one end that it uses and one which waits to be taken into use.  A PULL
socket which takes a new end into use drops the one it used, with the messages in that ring; and a
`zmq_recv` which waits on a ring never takes a new end into use.
-/

namespace Omq.Libzmq

open Function Queues Transition
open List

/-- Sockets which may use byte rings. -/
inductive EndKind
  | push
  | pull
  deriving DecidableEq

/-- A byte ring between two sockets. -/
structure InprocPipe (Message : Type) where
  /-- The PULL socket it was made for. -/
  receiver : Nat
  unread : List Message
  closed : Bool
  deriving DecidableEq

/-- What a receive call which waits does when it is woken. -/
inductive RecvWait
  /-- `recv_bypass_direct` looks into the ring it began with. -/
  | direct
  /-- Any other call takes a waiting end into use first. -/
  | adopting
  deriving DecidableEq

/-- The sockets of a context. -/
structure InprocNet (Message : Type) where
  kinds : Nat → EndKind
  /-- The context has no threads for the inner sockets. -/
  zeroIoThreads : Bool
  inprocBinds : Nat → Option Nat
  inprocWaiting : Nat → List Nat
  /-- Pairs of a PUSH and a PULL whose inner sockets are joined. -/
  links : List (Nat × Nat)
  /-- Every byte ring there ever was. -/
  pipes : List (InprocPipe Message)
  pendingBypassSend : Nat → Option Nat
  bypassSend : Nat → Option Nat
  pendingBypassRecv : Nat → Option Nat
  bypassRecv : Nat → Option Nat
  /-- The receive call of a socket which waits. -/
  receiving : Nat → Option RecvWait
  /-- What the inner PUSH sockets hold. -/
  outgoing : List (Nat × Message)
  /-- What waits for the inner PULL sockets. -/
  incoming : List (Nat × Message)
  accepted : List (Nat × Message)
  delivered : List (Nat × Message)

namespace InprocNet

variable {Message : Type}

/-- Sockets which are not joined. -/
def new (kinds : Nat → EndKind) (zeroIoThreads : Bool) : InprocNet Message where
  kinds := kinds
  zeroIoThreads := zeroIoThreads
  inprocBinds := fun _ => none
  inprocWaiting := fun _ => []
  links := []
  pipes := []
  pendingBypassSend := fun _ => none
  bypassSend := fun _ => none
  pendingBypassRecv := fun _ => none
  bypassRecv := fun _ => none
  receiving := fun _ => none
  outgoing := []
  incoming := []
  accepted := []
  delivered := []

/-- An end is dropped, which closes its ring. -/
def dropEnd (pipes : List (InprocPipe Message)) : Option Nat → List (InprocPipe Message)
  | none => pipes
  | some index => pipes.modify index fun pipe => { pipe with closed := true }

variable (net : InprocNet Message)

/-- Make a ring; its ends replace those which wait. -/
def tryInstallBypass (sender receiver : Nat) : InprocNet Message :=
  { net with
    pipes := dropEnd (dropEnd (net.pipes ++ [⟨receiver, [], false⟩])
      (net.pendingBypassSend sender)) (net.pendingBypassRecv receiver)
    pendingBypassSend := update net.pendingBypassSend sender (some net.pipes.length)
    pendingBypassRecv := update net.pendingBypassRecv receiver (some net.pipes.length) }

/-- The sender and the receiver of an eligible pair. -/
def eligible (connector binder : Nat) : Option (Nat × Nat) :=
  match net.kinds connector, net.kinds binder with
  | .push, .pull => some (connector, binder)
  | .pull, .push => some (binder, connector)
  | _, _ => none

/-- Join a pair: its inner sockets, and a ring. -/
def join (connector binder : Nat) : InprocNet Message :=
  match net.eligible connector binder with
  | none => net
  | some (sender, receiver) =>
    { net.tryInstallBypass sender receiver with links := net.links ++ [(sender, receiver)] }

/-- `register_inproc_bind`: join everybody who waits for the name. -/
def registerInprocBind (socket name : Nat) : InprocNet Message :=
  (net.inprocWaiting name).foldl (fun net waiter => net.join waiter socket)
    { net with
      inprocBinds := update net.inprocBinds name (some socket)
      inprocWaiting := update net.inprocWaiting name [] }

/-- `register_inproc_connect`: join the binder, or wait for the name. -/
def registerInprocConnect (socket name : Nat) : InprocNet Message :=
  match net.inprocBinds name with
  | some binder => net.join socket binder
  | none =>
    { net with
      inprocWaiting := update net.inprocWaiting name (net.inprocWaiting name ++ [socket]) }

variable (socket : Nat)

/-- Take the sending end which waits into use. -/
def adoptPendingBypassSend : InprocNet Message :=
  match net.pendingBypassSend socket with
  | none => net
  | some index =>
    { net with
      pipes := dropEnd net.pipes (net.bypassSend socket)
      pendingBypassSend := update net.pendingBypassSend socket none
      bypassSend := update net.bypassSend socket (some index) }

/-- Take the receiving end which waits into use. -/
def adoptPendingBypassRecv : InprocNet Message :=
  match net.pendingBypassRecv socket with
  | none => net
  | some index =>
    { net with
      pipes := dropEnd net.pipes (net.bypassRecv socket)
      pendingBypassRecv := update net.pendingBypassRecv socket none
      bypassRecv := update net.bypassRecv socket (some index) }

/-- The ring of an end. -/
def pipeAt (place : Option Nat) : Option (InprocPipe Message) :=
  place.bind (net.pipes[·]?)

/-- Drop a sending end whose ring is closed. -/
def clearStaleBypass : InprocNet Message :=
  if (net.pipeAt (net.bypassSend socket)).any InprocPipe.closed then
    { net with bypassSend := update net.bypassSend socket none }
  else net

/-- Drop a receiving end whose ring is closed and empty. -/
def clearStaleRecvBypass : InprocNet Message :=
  if (net.pipeAt (net.bypassRecv socket)).any fun pipe => pipe.closed && pipe.unread.isEmpty then
    { net with bypassRecv := update net.bypassRecv socket none }
  else net

variable (message : Message)

/-- Hand a message to the inner socket, which a context without threads does not have. -/
def sendInner : InprocNet Message :=
  if net.zeroIoThreads then net
  else
    { net with
      outgoing := net.outgoing ++ [(socket, message)]
      accepted := net.accepted ++ [(socket, message)] }

/-- Push a message of one part into the ring in use, or else hand it to the inner socket. -/
def sendBypass : InprocNet Message :=
  match net.bypassSend socket with
  | none => net.sendInner socket message
  | some index =>
    match net.pipes[index]? with
    | none => net
    | some pipe =>
      { net with
        pipes := net.pipes.set index { pipe with unread := pipe.unread ++ [message] }
        accepted := net.accepted ++ [(socket, message)] }

/-- `zmq_send` of the last part of a message, when there is room for it. -/
def send (multipart : Bool) : InprocNet Message :=
  if multipart then net.sendInner socket message
  else ((net.adoptPendingBypassSend socket).clearStaleBypass socket).sendBypass socket message

/-- Take a message which came through the inner socket. -/
def popQueue : Option (InprocNet Message) :=
  (takeFor socket net.incoming).map fun taken =>
    { net with
      incoming := taken.2
      delivered := net.delivered ++ [(socket, taken.1)] }

/-- Take a message from the ring in use. -/
def popRing : Option (InprocNet Message) :=
  match net.bypassRecv socket with
  | none => none
  | some index =>
    match net.pipes[index]? with
    | some ⟨receiver, message :: unread, closed⟩ =>
      some { net with
        pipes := net.pipes.set index ⟨receiver, unread, closed⟩
        delivered := net.delivered ++ [(socket, message)] }
    | _ => none

/-- Take a waiting end into use and drop a stale one, as receive calls do first. -/
def settle : InprocNet Message :=
  (net.adoptPendingBypassRecv socket).clearStaleRecvBypass socket

/-- The ring in use is closed, on which a receive call fails. -/
def ringClosed : Bool := (net.pipeAt (net.bypassRecv socket)).any InprocPipe.closed

/-- A receive call of `zmq_msg_recv` or of `zmq_recv`: it returns a message, fails or waits. -/
def receive (frame dontwait : Bool) : InprocNet Message :=
  let net := net.settle socket
  match (net.popQueue socket).or (net.popRing socket) with
  | some after => after
  | none =>
    if dontwait || (!frame && net.ringClosed socket) then net
    else
      let wait := if !frame && (net.bypassRecv socket).isSome then .direct else .adopting
      { net with receiving := update net.receiving socket (some wait) }

/-- A waiting call returns. -/
def leave : InprocNet Message :=
  { net with receiving := update net.receiving socket none }

/-- What a waiting call looks at. -/
def wakened : RecvWait → InprocNet Message
  | .direct => net
  | .adopting => net.settle socket

/-- A waiting call is woken and looks again, into the ring first. -/
def retry (wait : RecvWait) : InprocNet Message :=
  let net := net.wakened socket wait
  match (net.popRing socket).or (net.popQueue socket) with
  | some after => after.leave socket
  | none => if net.ringClosed socket then net.leave socket else net

/-- The call which waits looks again, or a new one begins. -/
def attend : InprocNet Message :=
  match net.receiving socket with
  | some wait => net.retry socket wait
  | none => net.receive socket false true

/-- A socket keeps receiving, with nothing else happening. -/
def receives : Nat → InprocNet Message → InprocNet Message
  | 0, net => net
  | count + 1, net => receives count (net.attend socket)

/-- The inner sockets carry a message along a link. -/
def dispatch (sender receiver : Nat) : Option (InprocNet Message) :=
  if (sender, receiver) ∈ net.links then
    (takeFor sender net.outgoing).map fun taken =>
      { net with
        outgoing := taken.2
        incoming := net.incoming ++ [(receiver, taken.1)] }
  else none

/-- What can happen. -/
inductive Action (Message : Type)
  | bind (socket name : Nat)
  | connect (socket name : Nat)
  | send (socket : Nat) (message : Message) (multipart : Bool)
  | receive (socket : Nat) (frame dontwait : Bool)
  /-- A waiting call is woken. -/
  | wake (socket : Nat)
  /-- A waiting call gives up. -/
  | expire (socket : Nat)
  | dispatch (sender receiver : Nat)

/-- One action.  The inner sockets refuse a name which is bound already. -/
def step : Action Message → Option (InprocNet Message)
  | .bind socket name =>
    if !net.zeroIoThreads && (net.inprocBinds name).isSome then none
    else some (net.registerInprocBind socket name)
  | .connect socket name => some (net.registerInprocConnect socket name)
  | .send socket message multipart =>
    if net.kinds socket = .push then some (net.send socket message multipart) else none
  | .receive socket frame dontwait =>
    if net.kinds socket = .pull ∧ net.receiving socket = none then
      some (net.receive socket frame dontwait)
    else none
  | .wake socket => (net.receiving socket).map (net.retry socket)
  | .expire socket => (net.receiving socket).map fun _ => net.leave socket
  | .dispatch sender receiver => net.dispatch sender receiver

/-! ## What the application may rely on -/

/-- The rings with the PULL socket each was made for and what is unread in it. -/
def rings : List (Nat × List Message) :=
  net.pipes.map fun pipe => (pipe.receiver, pipe.unread)

/-- What was accepted and not received. -/
def waiting : List Message :=
  net.rings.flatMap Prod.snd ++ (net.outgoing.map Prod.snd ++ net.incoming.map Prod.snd)

/-- Nothing more comes to a socket by receiving. -/
def NothingWaits : Prop :=
  (∀ entry ∈ net.incoming, entry.1 ≠ socket) ∧ ∀ ring ∈ net.rings, ring.1 = socket → ring.2 = []

/-- Every accepted message was received once or waits; and a PULL socket which keeps receiving, the
call which waits first, gets everything that waits in its queue and in the rings made for it. -/
structure Lossless (net : InprocNet Message) : Prop where
  conserved : net.delivered.map Prod.snd ++ net.waiting ~ net.accepted.map Prod.snd
  toPull : ∀ ring ∈ net.rings, net.kinds ring.1 = .pull
  returned : ∀ socket, ∃ count, (net.receives socket count).NothingWaits socket

/-- The receive end which is in use after the next receive call. -/
def newest : Option Nat :=
  (net.pendingBypassRecv socket).or (net.bypassRecv socket)

/-- Nothing is unread in the rings whose ends a socket has. -/
def Drained (receiver : Nat) : Prop :=
  (∀ index ∈ net.pendingBypassRecv receiver, ∀ ring ∈ net.rings[index]?, ring.2 = []) ∧
    ∀ index ∈ net.bypassRecv receiver, ∀ ring ∈ net.rings[index]?, ring.2 = []

/-- A pair may be joined when nothing is unread at its receiver and no `zmq_recv` of it waits on a
ring. -/
def Joinable (connector binder : Nat) : Prop :=
  ∀ pair ∈ net.eligible connector binder, net.Drained pair.2 ∧ net.receiving pair.2 ≠ some .direct

/-- Sockets are joined only when nothing is unread in the rings of the PULL socket and it does not
wait on one of them, and a message is pushed only into a ring which is the newest of its PULL
socket, and only if it is not empty: a ring is a queue of payloads which are not empty. -/
def Careful (length : Message → Nat) (net : InprocNet Message) : Action Message → Prop
  | .bind socket name => ∀ waiter ∈ net.inprocWaiting name, net.Joinable waiter socket
  | .connect socket name => ∀ binder ∈ net.inprocBinds name, net.Joinable socket binder
  | .send socket message multipart => multipart = false →
      ∀ index ∈ (net.pendingBypassSend socket).or (net.bypassSend socket),
        ∀ pipe ∈ net.pipes[index]?, pipe.closed = false →
          net.newest pipe.receiver = some index ∧ length message ≠ 0
  | _ => True

/-! ## Every action keeps the messages in place -/

/-- A ring with unread messages is the newest of its socket. -/
def Placed : Prop :=
  ∀ index ring, net.rings[index]? = some ring → ring.2 ≠ [] → net.newest ring.1 = some index

/-- Nothing is lost, every ring with unread messages is in its place, and who waits on a ring waits
on the newest one. -/
structure Sound (net : InprocNet Message) : Prop where
  conserved : net.delivered.map Prod.snd ++ net.waiting ~ net.accepted.map Prod.snd
  toPull : ∀ ring ∈ net.rings, net.kinds ring.1 = .pull
  placed : net.Placed
  attended : ∀ socket, net.receiving socket = some .direct → net.pendingBypassRecv socket = none

theorem sound_new (kinds : Nat → EndKind) (zeroIoThreads : Bool) :
    (new kinds zeroIoThreads : InprocNet Message).Sound :=
  ⟨List.Perm.refl _, nofun, fun _ _ found => (nomatch found), nofun⟩

@[simp] theorem map_dropEnd (pipes : List (InprocPipe Message)) (place : Option Nat) :
    (dropEnd pipes place).map (fun pipe => (pipe.receiver, pipe.unread)) =
      pipes.map fun pipe => (pipe.receiver, pipe.unread) := by
  cases place with
  | none => rfl
  | some index =>
    simp only [dropEnd]
    rw [map_modify]
    exact fun _ => rfl

@[simp] theorem rings_tryInstallBypass (net : InprocNet Message) (sender receiver : Nat) :
    (net.tryInstallBypass sender receiver).rings = net.rings ++ [(receiver, [])] := by
  simp [rings, tryInstallBypass]

theorem getElem?_rings_of_fresh {net : InprocNet Message} {receiver index : Nat}
    {ring : Nat × List Message} (found : (net.rings ++ [(receiver, [])])[index]? = some ring)
    (unread : ring.2 ≠ []) : net.rings[index]? = some ring := by
  by_cases older : index < net.rings.length
  · rwa [List.getElem?_append_left older] at found
  · rw [List.getElem?_append_right (Nat.not_lt.mp older)] at found
    obtain rfl := mem_singleton.mp (mem_of_getElem? found)
    exact absurd rfl unread

/-- What does not depend on the ends of the sockets. -/
def books :
    (Nat → EndKind) × List (Nat × Message) × List (Nat × Message) × List (Nat × Message) ×
      List (Nat × Message) :=
  (net.kinds, net.outgoing, net.incoming, net.accepted, net.delivered)

variable {net : InprocNet Message} {connector binder sender receiver : Nat}
  {pipe : InprocPipe Message}
  {after : InprocNet Message} {index socket : Nat} {length : Message → Nat}

/-- Ends may have changed, but not the newest ones. -/
structure Alike (net after : InprocNet Message) : Prop where
  books : after.books = net.books
  rings : after.rings = net.rings
  newest : after.newest = net.newest
  receiving : after.receiving = net.receiving
  adopted : ∀ socket, net.pendingBypassRecv socket = none → after.pendingBypassRecv socket = none

theorem Sound.alike (sound : net.Sound) (alike : net.Alike after) : after.Sound := by
  have same_books := alike.books
  simp only [books, Prod.mk.injEq] at same_books
  obtain ⟨kinds, outgoing, incoming, accepted, delivered⟩ := same_books
  refine ⟨?_, ?_, ?_, fun socket waits => alike.adopted socket (sound.attended socket ?_)⟩
  · rw [delivered, accepted, waiting, alike.rings, outgoing, incoming]
    exact sound.conserved
  · rw [alike.rings, kinds]
    exact sound.toPull
  · rw [Placed, alike.rings, alike.newest]
    exact sound.placed
  · rwa [alike.receiving] at waits

variable (net socket) in
theorem alike_adoptPendingBypassSend : net.Alike (net.adoptPendingBypassSend socket) := by
  unfold adoptPendingBypassSend
  split
  · exact ⟨rfl, rfl, rfl, rfl, fun _ => id⟩
  · exact ⟨rfl, map_dropEnd _ _, rfl, rfl, fun _ => id⟩

variable (net socket) in
theorem alike_adoptPendingBypassRecv : net.Alike (net.adoptPendingBypassRecv socket) := by
  unfold adoptPendingBypassRecv
  split
  · exact ⟨rfl, rfl, rfl, rfl, fun _ => id⟩
  next index waits =>
    refine ⟨rfl, map_dropEnd _ _, funext fun other => ?_, rfl, fun other none_waits => ?_⟩
    · by_cases same : other = socket
      · subst same
        simp [newest, waits]
      · simp [newest, same]
    · by_cases same : other = socket
      · simp [same]
      · simpa [same] using none_waits

/-- A stale end has nothing unread, so it is not missed. -/
theorem Sound.clearStaleRecvBypass (sound : net.Sound) (socket : Nat) :
    (net.clearStaleRecvBypass socket).Sound := by
  unfold InprocNet.clearStaleRecvBypass
  split
  next stale =>
    obtain ⟨pipe, at_end, stale⟩ := (Option.any_eq_true ..).mp stale
    obtain ⟨used, in_use, found_used⟩ := Option.bind_eq_some_iff.mp at_end
    refine ⟨sound.conserved, sound.toPull, fun index ring found unread => ?_, sound.attended⟩
    have kept := sound.placed index ring found unread
    by_cases same : ring.1 = socket
    · cases pending : net.pendingBypassRecv socket with
      | some waits => simpa [newest, same, pending] using kept
      | none =>
        have same_end : used = index := by simpa [newest, same, pending, in_use] using kept
        have same_ring : (pipe.receiver, pipe.unread) = ring := by
          simpa [rings, ← same_end, found_used] using found
        simp [← same_ring] at unread
        simp [unread] at stale
    · simpa [newest, same] using kept
  · exact sound

theorem Sound.settle (sound : net.Sound) (socket : Nat) : (net.settle socket).Sound :=
  (sound.alike (net.alike_adoptPendingBypassRecv socket)).clearStaleRecvBypass socket

theorem kinds_of_eligible (eligible : net.eligible connector binder = some (sender, receiver)) :
    net.kinds receiver = .pull := by
  revert eligible
  fun_cases net.eligible connector binder <;> rintro ⟨⟩ <;> assumption

@[simp] theorem length_rings (net : InprocNet Message) : net.rings.length = net.pipes.length :=
  length_map ..

theorem newest_tryInstallBypass (net : InprocNet Message) (sender receiver : Nat) :
    (net.tryInstallBypass sender receiver).newest =
      update net.newest receiver (some net.rings.length) := by
  funext socket
  by_cases same : socket = receiver
  · simp [newest, tryInstallBypass, same]
  · simp [newest, tryInstallBypass, same]

theorem Drained.unread_eq_nil {ring : Nat × List Message} (drained : net.Drained ring.1)
    (newest : net.newest ring.1 = some index) (found : net.rings[index]? = some ring) :
    ring.2 = [] := by
  obtain pending | ⟨-, used⟩ := Option.or_eq_some_iff.mp newest
  · exact drained.1 index pending ring found
  · exact drained.2 index used ring found

/-- A ring may be made when nothing is unread at its receiver and it does not wait on a ring. -/
theorem Sound.tryInstallBypass (sound : net.Sound) (pull : net.kinds receiver = .pull)
    (drained : net.Drained receiver) (awake : net.receiving receiver ≠ some .direct) :
    (net.tryInstallBypass sender receiver).Sound := by
  refine ⟨?_, ?_, ?_, fun socket waits => ?_⟩
  · rw [waiting, rings_tryInstallBypass]
    simpa [waiting, InprocNet.tryInstallBypass] using sound.conserved
  · rw [rings_tryInstallBypass]
    refine forall_mem_append.mpr ⟨sound.toPull, fun ring fresh => ?_⟩
    obtain rfl := mem_singleton.mp fresh
    exact pull
  · rw [Placed, rings_tryInstallBypass, newest_tryInstallBypass]
    intro index ring found unread
    have found := getElem?_rings_of_fresh found unread
    have kept := sound.placed index ring found unread
    by_cases same : ring.1 = receiver
    · exact absurd (Drained.unread_eq_nil (same ▸ drained) kept found) unread
    · rwa [update_of_ne same]
  · have other : socket ≠ receiver := fun same => awake (same ▸ waits)
    simpa [InprocNet.tryInstallBypass, other] using sound.attended socket waits

theorem Sound.join (sound : net.Sound) (joinable : net.Joinable connector binder) :
    (net.join connector binder).Sound := by
  unfold InprocNet.join
  split
  · exact sound
  next sender receiver eligible =>
    have installed : (net.tryInstallBypass sender receiver).Sound :=
      sound.tryInstallBypass (kinds_of_eligible eligible) (joinable _ eligible).1
        (joinable _ eligible).2
    exact installed.alike ⟨rfl, rfl, rfl, rfl, fun _ => id⟩

theorem Drained.tryInstallBypass (drained : net.Drained socket) (sender receiver : Nat) :
    (net.tryInstallBypass sender receiver).Drained socket := by
  have still {index : Nat} (read : ∀ ring ∈ net.rings[index]?, ring.2 = []) :
      ∀ ring ∈ (net.tryInstallBypass sender receiver).rings[index]?, ring.2 = [] := by
    intro ring found
    rw [rings_tryInstallBypass] at found
    by_contra unread
    exact unread (read ring (getElem?_rings_of_fresh found unread))
  refine ⟨fun index pending => still fun ring found => ?_, fun index used =>
    still (drained.2 index used)⟩
  by_cases same : socket = receiver
  · subst same
    have fresh : net.rings.length = index := by
      simpa [InprocNet.tryInstallBypass] using pending
    rw [← fresh, List.getElem?_eq_none (Nat.le_refl _)] at found
    cases found
  · refine drained.1 index ?_ ring found
    simpa [InprocNet.tryInstallBypass, same] using pending

/-- Joining a pair leaves the others joinable, as its ring is empty. -/
theorem Joinable.join (joinable : net.Joinable connector binder) (first second : Nat) :
    (net.join first second).Joinable connector binder := by
  unfold InprocNet.join
  split
  · exact joinable
  next sender receiver _ =>
    exact fun pair eligible =>
      ⟨(joinable pair eligible).1.tryInstallBypass sender receiver, (joinable pair eligible).2⟩

theorem Sound.registerInprocBind (sound : net.Sound) {name : Nat}
    (joinable : ∀ waiter ∈ net.inprocWaiting name, net.Joinable waiter socket) :
    (net.registerInprocBind socket name).Sound := by
  have joined (waiters : List Nat) : ∀ net : InprocNet Message, net.Sound →
      (∀ waiter ∈ waiters, net.Joinable waiter socket) →
      (waiters.foldl (fun net waiter => net.join waiter socket) net).Sound := by
    induction waiters with
    | nil => exact fun _ sound _ => sound
    | cons waiter waiters induction =>
      intro net sound joinable
      obtain ⟨first, rest⟩ := forall_mem_cons.mp joinable
      exact induction _ (sound.join first) fun later member =>
        (rest later member).join waiter socket
  exact joined _ _ (sound.alike ⟨rfl, rfl, rfl, rfl, fun _ => id⟩) joinable

theorem Sound.sendInner (sound : net.Sound) (socket : Nat) (message : Message) :
    (net.sendInner socket message).Sound := by
  unfold InprocNet.sendInner
  split
  · exact sound
  · refine ⟨?_, sound.toPull, sound.placed, sound.attended⟩
    rw [map_append]
    refine conserved_enter sound.conserved ?_
    have behind : net.outgoing.map Prod.snd ++ [message] ++ net.incoming.map Prod.snd ~
        net.outgoing.map Prod.snd ++ net.incoming.map Prod.snd ++ [message] := by
      rw [append_assoc, append_assoc]
      exact perm_append_comm.append_left _
    simpa [waiting, rings] using behind.append_left (net.rings.flatMap Prod.snd)

/-- A ring with an end in use is the one which was there before an end was dropped. -/
theorem of_getElem?_dropEnd {pipes : List (InprocPipe Message)} {place : Option Nat}
    (found : (dropEnd pipes place)[index]? = some pipe) :
    ∃ old, pipes[index]? = some old ∧ old.receiver = pipe.receiver ∧
      (pipe.closed = false → old.closed = false) := by
  cases place with
  | none => exact ⟨pipe, found, rfl, id⟩
  | some dropped =>
    rw [dropEnd, List.getElem?_modify] at found
    obtain ⟨old, before, rfl⟩ := Option.map_eq_some_iff.mp found
    refine ⟨old, before, ?_⟩
    split_ifs
    · exact ⟨rfl, nofun⟩
    · exact ⟨rfl, id⟩

/-- The ring which a sender uses after it took the waiting end and dropped a stale one. -/
theorem newest_of_careful
    (careful : ∀ index ∈ (net.pendingBypassSend socket).or (net.bypassSend socket),
      ∀ pipe ∈ net.pipes[index]?, pipe.closed = false → net.newest pipe.receiver = some index)
    (used : ((net.adoptPendingBypassSend socket).clearStaleBypass socket).bypassSend socket =
      some index) (found : (net.adoptPendingBypassSend socket).pipes[index]? = some pipe) :
    net.newest pipe.receiver = some index := by
  unfold InprocNet.clearStaleBypass at used
  split at used
  · simp at used
  next fresh =>
    have opened : pipe.closed = false := by
      simpa [pipeAt, used, found] using fresh
    cases pending : net.pendingBypassSend socket with
    | none =>
      simp only [adoptPendingBypassSend, pending] at used found
      exact careful index (by simp [pending, used]) pipe found opened
    | some waits =>
      simp only [adoptPendingBypassSend, pending, update_self] at used found
      obtain ⟨old, before, receiver, still_opened⟩ := of_getElem?_dropEnd found
      rw [← receiver]
      exact careful index (by simp [pending, used]) old before (still_opened opened)

theorem getElem?_rings (found : net.pipes[index]? = some pipe) :
    net.rings[index]? = some (pipe.receiver, pipe.unread) := by
  simp [rings, found]

/-- One ring changes; the newest ends and the kinds stay. -/
theorem Sound.setRing (sound : net.Sound) {unread : List Message}
    (found : net.pipes[index]? = some pipe) (newest : net.newest pipe.receiver = some index)
    (pipes_eq : after.pipes = net.pipes.set index { pipe with unread })
    (same : after.kinds = net.kinds ∧ after.newest = net.newest)
    (still : after.receiving = net.receiving ∧ after.pendingBypassRecv = net.pendingBypassRecv)
    (conserved : after.rings = net.rings.set index (pipe.receiver, unread) →
      after.delivered.map Prod.snd ++ after.waiting ~ after.accepted.map Prod.snd) :
    after.Sound := by
  have rings_eq : after.rings = net.rings.set index (pipe.receiver, unread) := by
    rw [rings, pipes_eq, rings, List.map_set]
  refine ⟨conserved rings_eq, ?_, ?_, by rw [still.1, still.2]; exact sound.attended⟩
  · intro ring member
    rw [rings_eq] at member
    rw [same.1]
    obtain old | rfl := mem_or_eq_of_mem_set member
    · exact sound.toPull ring old
    · exact sound.toPull (pipe.receiver, pipe.unread) (mem_of_getElem? (getElem?_rings found))
  · intro place ring there holds
    rw [rings_eq] at there
    rw [same.2]
    obtain ⟨rfl, rfl⟩ | ⟨-, elsewhere⟩ := of_getElem?_set there
    · exact newest
    · exact sound.placed place ring elsewhere holds

theorem Sound.push (sound : net.Sound) (found : net.pipes[index]? = some pipe)
    (newest : net.newest pipe.receiver = some index) (socket : Nat) (message : Message) :
    ({ net with
        pipes := net.pipes.set index { pipe with unread := pipe.unread ++ [message] }
        accepted := net.accepted ++ [(socket, message)] } : InprocNet Message).Sound := by
  refine sound.setRing found newest rfl ⟨rfl, rfl⟩ ⟨rfl, rfl⟩ fun pushed => ?_
  rw [List.map_append, waiting, pushed]
  exact conserved_enter sound.conserved (enter_append (getElem?_rings found) rfl _)

variable (net socket) in
@[simp] theorem pipes_clearStaleBypass : (net.clearStaleBypass socket).pipes = net.pipes := by
  unfold clearStaleBypass
  split <;> rfl

variable (net socket) in
theorem alike_clearStaleBypass : net.Alike (net.clearStaleBypass socket) := by
  unfold clearStaleBypass
  split <;> exact ⟨rfl, rfl, rfl, rfl, fun _ => id⟩

theorem Sound.send (sound : net.Sound) {message : Message} {multipart : Bool}
    (careful : net.Careful length (.send socket message multipart)) :
    (net.send socket message multipart).Sound := by
  unfold InprocNet.send
  split
  · exact sound.sendInner socket message
  next single =>
    have careful := fun index used pipe found opened =>
      (careful (Bool.eq_false_iff.mpr single) index used pipe found opened).1
    have adopts := net.alike_adoptPendingBypassSend socket
    have clears := (net.adoptPendingBypassSend socket).alike_clearStaleBypass socket
    have cleared := (sound.alike adopts).alike clears
    unfold InprocNet.sendBypass
    split
    · exact cleared.sendInner socket message
    next index used =>
      split
      · exact cleared
      next pipe found =>
        rw [pipes_clearStaleBypass] at found
        refine cleared.push ?_ ?_ socket message
        · rwa [pipes_clearStaleBypass]
        · rw [clears.newest, adopts.newest]
          exact newest_of_careful careful used found

theorem Sound.popQueue (sound : net.Sound) (popped : net.popQueue socket = some after) :
    after.Sound := by
  obtain ⟨⟨message, left⟩, taken, rfl⟩ := Option.map_eq_some_iff.mp popped
  refine ⟨?_, sound.toPull, sound.placed, sound.attended⟩
  rw [map_append]
  refine conserved_leave sound.conserved ?_
  have taken : [message] ++ left.map Prod.snd ~ net.incoming.map Prod.snd :=
    (perm_of_takeFor taken).map Prod.snd
  calc [message] ++
        (net.rings.flatMap Prod.snd ++ (net.outgoing.map Prod.snd ++ left.map Prod.snd))
    _ ~ net.rings.flatMap Prod.snd ++
          ([message] ++ (net.outgoing.map Prod.snd ++ left.map Prod.snd)) :=
        perm_append_comm_assoc ..
    _ ~ net.rings.flatMap Prod.snd ++
          (net.outgoing.map Prod.snd ++ ([message] ++ left.map Prod.snd)) :=
        (perm_append_comm_assoc ..).append_left _
    _ ~ net.waiting := (taken.append_left _).append_left _

theorem Sound.popRing (sound : net.Sound) (popped : net.popRing socket = some after) :
    after.Sound := by
  revert popped
  fun_cases net.popRing socket <;> rintro ⟨⟩
  next index used receiver message unread closed found =>
    have here := getElem?_rings found
    refine sound.setRing found (sound.placed index _ here (cons_ne_nil _ _)) rfl ⟨rfl, rfl⟩
      ⟨rfl, rfl⟩ fun taken => ?_
    rw [List.map_append, waiting, taken]
    exact conserved_leave sound.conserved (leave_append here rfl _)

variable (net socket) in
theorem settle_pendingBypassRecv : (net.settle socket).pendingBypassRecv socket = none := by
  have adopted : (net.adoptPendingBypassRecv socket).pendingBypassRecv socket = none := by
    unfold adoptPendingBypassRecv
    split
    next nothing => exact nothing
    · simp
  unfold settle clearStaleRecvBypass
  split <;> exact adopted

theorem Sound.leave (sound : net.Sound) (socket : Nat) : (net.leave socket).Sound := by
  refine ⟨sound.conserved, sound.toPull, sound.placed, fun other waits => ?_⟩
  by_cases same : other = socket
  · simp [InprocNet.leave, same] at waits
  · exact sound.attended other (by simpa [InprocNet.leave, same] using waits)

theorem Sound.receive (sound : net.Sound) (socket : Nat) (frame dontwait : Bool) :
    (net.receive socket frame dontwait).Sound := by
  have settled := sound.settle socket
  unfold InprocNet.receive
  dsimp only
  split
  next after popped =>
    obtain popped | ⟨-, popped⟩ := Option.or_eq_some_iff.mp popped
    · exact settled.popQueue popped
    · exact settled.popRing popped
  · split
    · exact settled
    · refine ⟨settled.conserved, settled.toPull, settled.placed, fun other waits => ?_⟩
      by_cases same : other = socket
      · exact same ▸ net.settle_pendingBypassRecv socket
      · exact settled.attended other (by simpa [same] using waits)

theorem Sound.wakened (sound : net.Sound) (socket : Nat) (wait : RecvWait) :
    (net.wakened socket wait).Sound := by
  cases wait with
  | direct => exact sound
  | adopting => exact sound.settle socket

theorem Sound.retry (sound : net.Sound) (socket : Nat) (wait : RecvWait) :
    (net.retry socket wait).Sound := by
  have wakened := sound.wakened socket wait
  unfold InprocNet.retry
  dsimp only
  split
  next after popped =>
    obtain popped | ⟨-, popped⟩ := Option.or_eq_some_iff.mp popped
    · exact (wakened.popRing popped).leave socket
    · exact (wakened.popQueue popped).leave socket
  · split
    · exact wakened.leave socket
    · exact wakened

theorem Sound.dispatch (sound : net.Sound)
    (dispatched : net.dispatch sender receiver = some after) : after.Sound := by
  obtain ⟨-, dispatched⟩ := Option.ite_none_right_eq_some.mp dispatched
  obtain ⟨⟨message, left⟩, taken, rfl⟩ := Option.map_eq_some_iff.mp dispatched
  refine ⟨List.Perm.trans (List.Perm.append_left _ ?_) sound.conserved, sound.toPull, sound.placed,
    sound.attended⟩
  have taken : [message] ++ left.map Prod.snd ~ net.outgoing.map Prod.snd :=
    (perm_of_takeFor taken).map Prod.snd
  have moved : left.map Prod.snd ++ (net.incoming.map Prod.snd ++ [message]) ~
      net.outgoing.map Prod.snd ++ net.incoming.map Prod.snd := by
    calc left.map Prod.snd ++ (net.incoming.map Prod.snd ++ [message])
      _ = left.map Prod.snd ++ net.incoming.map Prod.snd ++ [message] := (append_assoc ..).symm
      _ ~ [message] ++ (left.map Prod.snd ++ net.incoming.map Prod.snd) := perm_append_comm
      _ = [message] ++ left.map Prod.snd ++ net.incoming.map Prod.snd := (append_assoc ..).symm
      _ ~ net.outgoing.map Prod.snd ++ net.incoming.map Prod.snd := taken.append_right _
  simpa [waiting, rings] using moved.append_left (net.rings.flatMap Prod.snd)

theorem Sound.step {action : Action Message} (careful : net.Careful length action)
    (stepped : net.step action = some after) (sound : net.Sound) : after.Sound := by
  cases action with
  | bind socket name =>
    obtain ⟨-, stepped⟩ := Option.ite_none_left_eq_some.mp stepped
    cases stepped
    exact sound.registerInprocBind careful
  | connect socket name =>
    cases stepped
    unfold registerInprocConnect
    split
    next binder bound => exact sound.join (careful binder bound)
    · exact ⟨sound.conserved, sound.toPull, sound.placed, sound.attended⟩
  | send socket message multipart =>
    obtain ⟨-, rfl⟩ := Option.ite_some_none_eq_some.mp stepped
    exact sound.send careful
  | receive socket frame dontwait =>
    obtain ⟨-, rfl⟩ := Option.ite_some_none_eq_some.mp stepped
    exact sound.receive socket frame dontwait
  | wake socket =>
    obtain ⟨wait, -, rfl⟩ := Option.map_eq_some_iff.mp stepped
    exact sound.retry socket wait
  | expire socket =>
    obtain ⟨-, -, rfl⟩ := Option.map_eq_some_iff.mp stepped
    exact sound.leave socket
  | dispatch sender receiver => exact sound.dispatch stepped

/-! ## Receiving often enough -/

variable (net socket) in
theorem settle_same :
    (net.settle socket).books = net.books ∧ (net.settle socket).rings = net.rings := by
  have adopts := net.alike_adoptPendingBypassRecv socket
  rw [← adopts.books, ← adopts.rings, settle]
  unfold clearStaleRecvBypass
  split <;> exact ⟨rfl, rfl⟩

/-- A message was returned to the application. -/
def Returned (net : InprocNet Message) (socket : Nat) (after : InprocNet Message) : Prop :=
  ∃ message, after.accepted = net.accepted ∧ after.delivered = net.delivered ++ [(socket, message)]

variable (net socket) in
theorem popQueue_cases :
    (∃ after, net.popQueue socket = some after ∧ net.Returned socket after) ∨
    net.popQueue socket = none ∧ ∀ entry ∈ net.incoming, entry.1 ≠ socket := by
  unfold popQueue
  cases result : takeFor socket net.incoming with
  | some taken => exact .inl ⟨_, rfl, taken.1, rfl, rfl⟩
  | none => exact .inr ⟨rfl, takeFor_eq_none result⟩

variable (net socket) in
theorem popRing_cases :
    (∃ after, net.popRing socket = some after ∧ net.Returned socket after) ∨
    net.popRing socket = none ∧ ∀ index ring, net.bypassRecv socket = some index →
      net.rings[index]? = some ring → ring.2 = [] := by
  fun_cases net.popRing socket with
  | case1 unused => exact .inr ⟨rfl, fun index ring used => nomatch unused.symm.trans used⟩
  | case2 index used receiver message => exact .inl ⟨_, rfl, message, rfl, rfl⟩
  | case3 index used other =>
    refine .inr ⟨rfl, fun place ring in_use found => ?_⟩
    obtain rfl := Option.some.inj (used.symm.trans in_use)
    obtain ⟨⟨receiver, unread, closed⟩, here, rfl⟩ :=
      Option.map_eq_some_iff.mp (List.getElem?_map .. ▸ found)
    cases unread with
    | nil => rfl
    | cons message unread => exact (other receiver message unread closed here).elim

/-- Who has no end which waits gets a message, from the queue or from a ring, unless none waits. -/
theorem Sound.pop_cases (sound : net.Sound) (adopted : net.pendingBypassRecv socket = none) :
    net.popQueue socket = none ∧ net.popRing socket = none ∧ net.NothingWaits socket ∨
      (∃ after, (net.popQueue socket).or (net.popRing socket) = some after ∧
        net.Returned socket after) ∧
      ∃ after, (net.popRing socket).or (net.popQueue socket) = some after ∧
        net.Returned socket after := by
  obtain ⟨first, queued, returned⟩ | ⟨no_queue, none_queued⟩ := net.popQueue_cases socket <;>
    obtain ⟨second, ringed, returned'⟩ | ⟨no_ring, read⟩ := net.popRing_cases socket
  · exact .inr ⟨⟨first, by simp [queued], returned⟩, second, by simp [ringed], returned'⟩
  · exact .inr ⟨⟨first, by simp [queued], returned⟩, first, by simp [queued, no_ring], returned⟩
  · exact .inr ⟨⟨second, by simp [no_queue, ringed], returned'⟩, second, by simp [ringed],
      returned'⟩
  · refine .inl ⟨no_queue, no_ring, none_queued, fun ring member own => ?_⟩
    obtain ⟨index, found⟩ := mem_iff_getElem?.mp member
    by_contra unread
    have newest := sound.placed index ring found unread
    rw [InprocNet.newest, own, adopted, Option.none_or] at newest
    exact unread (read index ring newest found)

variable (net socket) in
theorem settle_nothingWaits_iff :
    (net.settle socket).NothingWaits socket ↔ net.NothingWaits socket := by
  obtain ⟨same_books, same_rings⟩ := net.settle_same socket
  simp only [books, Prod.mk.injEq] at same_books
  rw [NothingWaits, NothingWaits, same_books.2.2.1, same_rings]

variable (net socket) in
theorem settle_returned_iff (after : InprocNet Message) :
    (net.settle socket).Returned socket after ↔ net.Returned socket after := by
  obtain ⟨same_books, -⟩ := net.settle_same socket
  simp only [books, Prod.mk.injEq] at same_books
  rw [Returned, Returned, same_books.2.2.2.1, same_books.2.2.2.2]

/-- What a waiting call looks at: nothing waits to be adopted there. -/
theorem Sound.wakened_cases (sound : net.Sound) {wait : RecvWait}
    (waits : net.receiving socket = some wait) :
    (net.wakened socket wait).pendingBypassRecv socket = none ∧
      ((net.wakened socket wait).NothingWaits socket → net.NothingWaits socket) ∧
      ∀ after, (net.wakened socket wait).Returned socket after → net.Returned socket after := by
  cases wait with
  | direct => exact ⟨sound.attended socket waits, id, fun _ => id⟩
  | adopting =>
    exact ⟨net.settle_pendingBypassRecv socket, (net.settle_nothingWaits_iff socket).mp,
      fun after => (net.settle_returned_iff socket after).mp⟩

/-- A call takes a message as long as one waits for the socket. -/
theorem Sound.attend_cases (sound : net.Sound) (socket : Nat) :
    net.Returned socket (net.attend socket) ∨ net.NothingWaits socket := by
  unfold InprocNet.attend
  cases waits : net.receiving socket with
  | none =>
    obtain ⟨-, -, nothing⟩ | ⟨⟨after, popped, returned⟩, -⟩ :=
      (sound.settle socket).pop_cases (net.settle_pendingBypassRecv socket)
    · exact .inr ((net.settle_nothingWaits_iff socket).mp nothing)
    · have received : net.receive socket false true = after := by
        simp [InprocNet.receive, popped]
      exact .inl (received ▸ (net.settle_returned_iff socket after).mp returned)
  | some wait =>
    obtain ⟨adopted, still_nothing, still_returned⟩ := sound.wakened_cases waits
    obtain ⟨-, -, nothing⟩ | ⟨-, after, popped, returned⟩ :=
      (sound.wakened socket wait).pop_cases adopted
    · exact .inr (still_nothing nothing)
    · have received : net.retry socket wait = after.leave socket := by
        simp [InprocNet.retry, popped]
      dsimp only
      rw [received]
      exact .inl (still_returned after returned)

theorem Sound.attend (sound : net.Sound) (socket : Nat) : (net.attend socket).Sound := by
  unfold InprocNet.attend
  split
  next wait _ => exact sound.retry socket wait
  · exact sound.receive socket false true

theorem Sound.returned (sound : net.Sound) (socket : Nat) :
    ∃ count, (net.receives socket count).NothingWaits socket := by
  induction left : net.waiting.length using Nat.strongRecOn generalizing net with
  | _ left induction =>
    obtain ⟨message, accepted, delivered⟩ | nothing := sound.attend_cases socket
    · have next_sound := sound.attend socket
      have before := sound.conserved.length_eq
      have after := next_sound.conserved.length_eq
      simp only [accepted, delivered, length_append, length_map, length_singleton] at before after
      obtain ⟨count, returned⟩ := induction _ (by omega) next_sound rfl
      exact ⟨count + 1, returned⟩
    · exact ⟨0, nothing⟩

instance (net : InprocNet Message) (receiver : Nat) : Decidable (net.Drained receiver) :=
  inferInstanceAs (Decidable ((∀ index ∈ _, ∀ ring ∈ _, _ = []) ∧ ∀ index ∈ _, ∀ ring ∈ _, _ = []))

instance (net : InprocNet Message) (connector binder : Nat) :
    Decidable (net.Joinable connector binder) :=
  inferInstanceAs (Decidable (∀ pair ∈ _, net.Drained _ ∧ _ ≠ some RecvWait.direct))

instance (net : InprocNet Message) (action : Action Message) :
    Decidable (net.Careful length action) :=
  match action with
  | .bind _ _ => inferInstanceAs (Decidable (∀ waiter ∈ (_ : List Nat), net.Joinable _ _))
  | .connect _ _ => inferInstanceAs (Decidable (∀ binder ∈ _, net.Joinable _ _))
  | .send _ message _ => inferInstanceAs (Decidable
      (_ → ∀ index ∈ _, ∀ pipe ∈ _, _ → _ = some index ∧ length message ≠ 0))
  | .receive _ _ _ | .wake _ | .expire _ | .dispatch _ _ => .isTrue trivial

/-- Socket 0 is a PULL socket, the others are PUSH sockets. -/
def onePull (socket : Nat) : EndKind := if socket = 0 then .pull else .push

/-- A socket which found nothing finds nothing when it looks again. -/
theorem receives_idle (no_pending : net.pendingBypassRecv socket = none)
    (used : net.bypassRecv socket = some index)
    (read : net.pipes[index]? = some ⟨receiver, [], false⟩) (no_queue : net.incoming = [])
    (no_call : net.receiving socket = none) (count : Nat) : net.receives socket count = net := by
  have idle : net.attend socket = net := by
    simp [attend, no_call, receive, settle, adoptPendingBypassRecv, no_pending,
      clearStaleRecvBypass, pipeAt, used, read, popQueue, popRing, no_queue, takeFor]
  induction count with
  | zero => rfl
  | succ count induction => rw [receives, idle, induction]

end InprocNet

end Omq.Libzmq
