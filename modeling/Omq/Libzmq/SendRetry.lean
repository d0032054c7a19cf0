import Omq.Library.Transition
import Omq.Proto.TypeState
import Omq.Tokio.FanOut.Lane

/-!
# Sending through the C API

`zmq_send` and `zmq_msg_send` collect the parts of a message in the socket until a part without
SNDMORE completes it, and offer the message to the inner socket.  A failing call may be repeated.  A
call which fails before the collected parts are taken changes nothing, but one which fails after
that has lost them; a group is collected before anything is checked; and a request which was full at
first is offered again with the delimiter it has, which only a short request of one part keeps
single.
-/

namespace Omq.Libzmq

open Transition

/-- Error codes of a send. -/
inductive Errno
  | eagain
  | emsgsize
  | eterm
  | einval
  | eprotonosupport
  | other (code : Nat)
  deriving DecidableEq

/-- Answers of a non-blocking attempt of the inner socket. -/
inductive TrySend
  | sent
  | full
  | closed
  | error (errno : Errno)
  deriving DecidableEq

/-- Answers of a blocking attempt of the inner socket. -/
inductive BlockingSend
  | sent
  | failed
  /-- The deadline passed first. -/
  | elapsed
  deriving DecidableEq

/-- Flags of a send. -/
structure SendFlags where
  sndmore : Bool
  dontwait : Bool
  deriving DecidableEq

/-- A call of the application: `zmq_send` or `zmq_msg_send`, whose message may name a group and a
routing id. -/
inductive SendCall
  | send (data : Bytes) (flags : SendFlags)
  | msgSend (data group : Bytes) (routingId : UInt32) (flags : SendFlags)
  deriving DecidableEq

namespace SendCall

/-- The part of the call. -/
def data : SendCall → Bytes
  | .send data _ | .msgSend data _ _ _ => data

/-- The group in front of it, if any. -/
def group : SendCall → Bytes
  | .send _ _ => []
  | .msgSend _ group _ _ => group

/-- The flags of the call. -/
def flags : SendCall → SendFlags
  | .send _ flags | .msgSend _ _ _ flags => flags

/-- Whether the call is `zmq_msg_send`. -/
def isMsgSend : SendCall → Bool
  | .send _ _ => false
  | .msgSend _ _ _ _ => true

end SendCall

/-- What a call finds around the socket. -/
structure SendEnv where
  terminated : Bool
  /-- Largest message size of the context; zero for no limit. -/
  maxMsgSize : Nat
  sndtimeo : Int
  materialized : Bool
  /-- A connected socket queues before a peer is ready. -/
  canQueueWithoutReadyPeer : Bool
  readyPeerCount : Nat
  /-- What waiting for a ready peer comes to. -/
  waited : Option Errno
  /-- Answers of the inner socket to one non-blocking attempt after the other. -/
  attempts : Nat → TrySend
  runtime : Bool
  deadline : Bool
  blocking : BlockingSend
  subscribed : Option Errno
  /-- What the installed inproc bypass answers; `none` when none is installed. -/
  bypass : Option (Option Errno)

/-- What leaves the socket. -/
inductive Delivery
  | message (parts : List Bytes)
  | subscribe (pre : Bytes)
  | unsubscribe (pre : Bytes)
  deriving DecidableEq

/-- A socket of the C API with the inner socket.  `rep_current`, which only the asynchronous
receive calls set, is always empty here. -/
structure SendSocket where
  socketType : SocketType
  /-- Parts collected by calls with SNDMORE. -/
  accum : List Bytes
  reqAwaitingReply : Bool
  /-- The envelope of the request a REP socket answers. -/
  typeState : TypeState
  delivered : List Delivery

/-- Outcome of a non-blocking attempt; a full socket returns the message it was about to send. -/
inductive TryResult
  | sent
  | full (message : Message)
  | closed
  | error (errno : Errno)

/-- The number of parts which some types require. -/
def checkPreSendFrameCount (socketType : SocketType) (message : Message) : Bool :=
  match socketType with
  | .client | .scatter | .gather | .channel => message.len = 1
  | _ => true

/-- The routing id of a message of one part. -/
def takeServerRoutingId (message : Message) : Option UInt32 :=
  if message.len ≠ 1 then none else message.routingId.filter (· ≠ 0)

/-- Parse a frame of an XSUB socket. -/
def xsubRawCommand (message : Message) : Option Delivery :=
  if message.len ≠ 1 then none
  else
    match (message.partBytes 0).getD [] with
    | 1 :: pre => some (.subscribe pre)
    | 0 :: pre => some (.unsubscribe pre)
    | _ => none

/-- A message which the inner socket is about to give to its routes. -/
structure Offer where
  /-- What leaves when a route takes it. -/
  delivery : Delivery
  /-- What comes back when the routes are full. -/
  returned : Message
  /-- The socket once the message is taken, or the caller gave up. -/
  begun : SendSocket
  /-- The socket once the routes refused the message. -/
  undone : SendSocket

namespace SendSocket

variable (socket : SendSocket)

/-- Add what a transport accepted. -/
def deliver (delivery : Delivery) : SendSocket :=
  { socket with delivered := socket.delivered ++ [delivery] }

variable (message : Message)

/-- What the inner socket does before a message reaches its routes: REQ adds a delimiter, REP the
envelope, which it has only once, and other types check the message. -/
def offer : Option Offer :=
  match socket.socketType with
  | .req =>
    if socket.reqAwaitingReply then none
    else
      let wire := message.withPrefix []
      some ⟨.message wire.parts, wire, { socket with reqAwaitingReply := true }, socket⟩
  | .rep =>
    match TypeState.preSend .rep message socket.typeState with
    | .error _ _ => none
    | .ok wire typeState =>
      some ⟨.message wire.parts, wire, { socket with typeState }, { socket with typeState }⟩
  | .server =>
    (takeServerRoutingId message).map fun _ => ⟨.message message.parts, message, socket, socket⟩
  | .xsub => (xsubRawCommand message).map fun command => ⟨command, message, socket, socket⟩
  | .radio =>
    match LaneDispatch.prepare .group message with
    | .error _ => none
    | .ok _ => some ⟨.message message.parts, message, socket, socket⟩
  | socketType =>
    if checkPreSendFrameCount socketType message then
      some ⟨.message message.parts, message, socket, socket⟩
    else none

/-- `Socket::try_send`, with the answer of the routes. -/
def trySend (answer : TrySend) : TryResult × SendSocket :=
  match socket.offer message with
  | none => (.error .eprotonosupport, socket)
  | some offer =>
    match answer with
    | .sent => (.sent, offer.begun.deliver offer.delivery)
    | .full => (.full offer.returned, offer.undone)
    | .closed => (.closed, offer.undone)
    | .error errno => (.error errno, offer.undone)

/-- `Socket::send`, with the error of a passed deadline. -/
def blockingSend (answer : BlockingSend) (late : Errno) : Option Errno × SendSocket :=
  match socket.offer message with
  | none => (some .eterm, socket)
  | some offer =>
    match answer with
    | .sent => (none, offer.begun.deliver offer.delivery)
    | .failed => (some .eterm, offer.undone)
    | .elapsed => (some late, offer.begun)

/-- Block until the message is sent. -/
def submitBlocking (env : SendEnv) (socket : SendSocket) (message : Message) :
    Option Errno × SendSocket :=
  if !env.runtime then (some .eterm, socket)
  else if 0 < env.sndtimeo ∧ env.deadline then
    socket.blockingSend message env.blocking .eagain
  else socket.blockingSend message env.blocking .eterm

/-- Try a number of times, then block. -/
def submitAgain (env : SendEnv) : Nat → SendSocket → Message → Option Errno × SendSocket
  | 0, socket, message => socket.submitBlocking env message
  | left + 1, socket, message =>
    match socket.trySend message (env.attempts (8 - left)) with
    | (.sent, socket) => (none, socket)
    | (.closed, socket) => (some .eterm, socket)
    | (.error errno, socket) => (some errno, socket)
    | (.full returned, socket) => submitAgain env left socket returned

/-- Try once and, unless the call does not wait, go on with what a full attempt returned. -/
def submitMessage (env : SendEnv) (socket : SendSocket) (message : Message) (flags : SendFlags) :
    Option Errno × SendSocket :=
  if !env.materialized then (some .eterm, socket)
  else
    match socket.trySend message (env.attempts 0) with
    | (.sent, socket) => (none, socket)
    | (.closed, socket) => (some .eterm, socket)
    | (.error errno, socket) => (some errno, socket)
    | (.full returned, socket) =>
      if flags.dontwait ∨ env.sndtimeo = 0 then (some .eagain, socket)
      else submitAgain env 8 socket returned

end SendSocket

/-- Types which send to one peer after the other. -/
def roundRobinSendMutesWithoutReadyPeer : SocketType → Bool
  | .push | .dealer | .req | .client | .scatter => true
  | _ => false

/-- Refuse a message which has no peer to go to. -/
def ensureLibzmqSendRoute (env : SendEnv) (socketType : SocketType) (flags : SendFlags) :
    Option Errno :=
  if !roundRobinSendMutesWithoutReadyPeer socketType then none
  else if env.canQueueWithoutReadyPeer then none
  else if !env.materialized then some .eterm
  else if env.readyPeerCount ≠ 0 then none
  else if flags.dontwait ∨ env.sndtimeo = 0 then some .eagain
  else env.waited

/-- The largest length a call can return. -/
def maxCInt : Nat := 2 ^ 31 - 1

/-- Refuse what is too long. -/
def checkSize (env : SendEnv) (data : Bytes) : Option Errno :=
  if maxCInt < data.length then some .emsgsize
  else if 0 < env.maxMsgSize ∧ env.maxMsgSize < data.length then some .emsgsize
  else none

/-- The subscription an XSUB frame stands for. -/
def xsubCommand : Bytes → Delivery
  | 1 :: pre => .subscribe pre
  | 0 :: pre => .unsubscribe pre
  | data => .subscribe data

namespace SendSocket

variable (env : SendEnv) (socket : SendSocket)

/-- The answer of the inproc bypass.  Only PUSH sockets have one, for messages of one part. -/
def bypassAnswer (flags : SendFlags) : Option (Option Errno) :=
  if socket.socketType = .push ∧ !flags.sndmore ∧ socket.accum = [] then env.bypass else none

variable (data : Bytes)

/-- The collected parts with the last one. -/
def gather : Message :=
  if socket.accum = [] then .ofSingle data else .multipart (socket.accum ++ [data])

/-- Core send dispatch. -/
def sendBytes (flags : SendFlags) : Option Errno × SendSocket :=
  match checkSize env data with
  | some errno => (some errno, socket)
  | none =>
    if socket.socketType = .xsub ∧ data ≠ [] then
      match env.subscribed with
      | some errno => (some errno, socket)
      | none => (none, socket.deliver (xsubCommand data))
    else
      match socket.bypassAnswer env flags with
      | some (some errno) => (some errno, socket)
      | some none => (none, socket.deliver (.message [data]))
      | none =>
        match ensureLibzmqSendRoute env socket.socketType flags with
        | some errno => (some errno, socket)
        | none =>
          if flags.sndmore then
            (none, { socket with accum := socket.accum ++ [data] })
          else
            -- The collected parts are taken before the message is accepted.
            submitMessage env { socket with accum := [] } (socket.gather data) flags

/-- `zmq_send`. -/
def zmqSend (flags : SendFlags) : Option Errno × SendSocket :=
  if env.terminated then (some .eterm, socket) else socket.sendBytes env data flags

/-- A message of one part with a routing id. -/
def routed (routingId : UInt32) : Message :=
  if fits : data.length ≤ maxInlineRoutedMessage then .routedInline routingId data fits
  else .routedBytes routingId data

/-- `send_message`: the message of a SERVER socket is not collected. -/
def sendServer (routingId : UInt32) (flags : SendFlags) : Option Errno × SendSocket :=
  match checkSize env data with
  | some errno => (some errno, socket)
  | none =>
    if flags.sndmore then (some .einval, socket)
    else
      match ensureLibzmqSendRoute env socket.socketType flags with
      | some errno => (some errno, socket)
      | none => submitMessage env socket (routed data routingId) flags

/-- Collect the group of a message. -/
def collectGroup (group : Bytes) : SendSocket :=
  if group = [] then socket else { socket with accum := socket.accum ++ [group] }

/-- `zmq_msg_send`: the group is collected before anything is checked. -/
def zmqMsgSend (data group : Bytes) (routingId : UInt32) (flags : SendFlags) :
    Option Errno × SendSocket :=
  let socket := socket.collectGroup group
  if socket.socketType = .server then socket.sendServer env data routingId flags
  else socket.sendBytes env data flags

/-- A call of the application; `none` when it succeeds. -/
def perform : SendCall → Option Errno × SendSocket
  | .send data flags => socket.zmqSend env data flags
  | .msgSend data group routingId flags => socket.zmqMsgSend env data group routingId flags

end SendSocket

/-! ## What the application intends -/

/-- What successful calls amount to. -/
structure Intended where
  pending : List Bytes
  envelope : Option (List Bytes)
  messages : List Delivery

namespace Intended

/-- The parts of a call: a group in front of the data. -/
def partsOf (call : SendCall) : List Bytes :=
  if call.group = [] then [call.data] else [call.group, call.data]

/-- The parts with the delimiter of a request or the envelope of a reply. -/
def wire (intended : Intended) (socketType : SocketType) (parts : List Bytes) : List Bytes :=
  match socketType with
  | .req => [] :: parts
  | .rep => intended.envelope.getD [] ++ [] :: parts
  | _ => parts

theorem wire_plain {socketType : SocketType} (not_req : socketType ≠ .req)
    (not_rep : socketType ≠ .rep) (intended : Intended) (parts : List Bytes) :
    intended.wire socketType parts = parts := by
  fun_cases intended.wire socketType parts <;> first | rfl | contradiction

/-- The intention after a successful call: a subscription, a message of a SERVER, a further part or
the last part of a message. -/
def call (intended : Intended) (socketType : SocketType) (call : SendCall) : Intended :=
  if socketType = .xsub ∧ call.data ≠ [] then
    { intended with messages := intended.messages ++ [xsubCommand call.data] }
  else if socketType = .server ∧ call.isMsgSend then
    { intended with messages := intended.messages ++ [.message [call.data]] }
  else if call.flags.sndmore then
    { intended with pending := intended.pending ++ partsOf call }
  else
    { pending := []
      envelope := if socketType = .rep then none else intended.envelope
      messages := intended.messages ++
        [.message (intended.wire socketType (intended.pending ++ partsOf call))] }

end Intended

/-- A socket whose application repeats failed calls. -/
structure SendRun where
  socket : SendSocket
  intended : Intended
  /-- The failed call which is to be repeated. -/
  retrying : Option SendCall

namespace SendRun

/-- A fresh socket; a REP socket may have a request to answer. -/
def new (socketType : SocketType) (typeState : TypeState) : SendRun :=
  ⟨⟨socketType, [], false, typeState, []⟩, ⟨[], typeState.repEnvelope, []⟩, none⟩

/-- One call, which repeats the call before if that failed. -/
def step (run : SendRun) (action : SendCall × SendEnv) : Option SendRun :=
  if run.retrying.all (· = action.1) then
    match run.socket.perform action.2 action.1 with
    | (none, socket) =>
      some ⟨socket, run.intended.call run.socket.socketType action.1, none⟩
    | (some _, socket) => some { run with socket, retrying := some action.1 }
  else none

/-- What was delivered is what was intended. -/
def Exact (run : SendRun) : Prop := run.socket.delivered = run.intended.messages

end SendRun

/-! ## Calls which lose nothing -/

namespace SendEnv

/-- Whether one of the repeated attempts, or the blocking one, is accepted. -/
def acceptsAgain (env : SendEnv) : Nat → Bool
  | 0 => env.runtime && env.blocking = .sent
  | left + 1 =>
    match env.attempts (8 - left) with
    | .sent => true
    | .full => env.acceptsAgain left
    | .closed | .error _ => false

/-- Whether a call does not wait. -/
def hurried (env : SendEnv) (flags : SendFlags) : Bool := flags.dontwait || env.sndtimeo = 0

/-- Whether the inner socket accepts the message of a call. -/
def accepts (env : SendEnv) (flags : SendFlags) : Bool :=
  env.materialized && match env.attempts 0 with
    | .sent => true
    | .full => !env.hurried flags && env.acceptsAgain 8
    | .closed | .error _ => false

end SendEnv

namespace SendSocket

variable (socket : SendSocket)

/-- The call takes collected parts and hands them to the inner socket. -/
def Takes (call : SendCall) (env : SendEnv) : Prop :=
  call.flags.sndmore = false ∧ (socket.accum ≠ [] ∨ call.group ≠ []) ∧
    ¬(socket.socketType = .xsub ∧ call.data ≠ []) ∧
    ¬(socket.socketType = .server ∧ call.isMsgSend = true) ∧
    checkSize env call.data = none ∧ ensureLibzmqSendRoute env socket.socketType call.flags = none

/-- The inner socket accepts a message whose parts were collected; only a REP socket may refuse it,
when it has no request to answer.  A group is given on RADIO sockets only, for data which is not too
long.  The first attempt of a REQ socket is not full, unless the call does not wait or the request
is one short part. -/
structure Sparing (socket : SendSocket) (call : SendCall) (env : SendEnv) : Prop where
  collected : socket.Takes call env → env.accepts call.flags = true ∧ (socket.socketType = .rep ∨
    (({ socket with accum := [] } : SendSocket).offer
      ((socket.collectGroup call.group).gather call.data)).isSome = true)
  grouped : call.group ≠ [] → socket.socketType = .radio ∧ checkSize env call.data = none
  unwrapped : socket.socketType = .req → env.attempts 0 = .full → env.hurried call.flags = true ∨
    socket.accum = [] ∧ call.data.length ≤ maxInlineMessage

/-! ## Handing over a message -/

/-- A REP socket which has no request to answer. -/
def Spent : Prop :=
  socket.socketType = .rep ∧ socket.typeState.repEnvelope = none

/-- Nothing was sent; at most the envelope of a REP socket is gone. -/
structure Unsent (before after : SendSocket) : Prop where
  type_eq : after.socketType = before.socketType
  accum_eq : after.accum = before.accum
  delivered_eq : after.delivered = before.delivered
  envelope_eq : after.typeState = before.typeState ∨ after.Spent

theorem Unsent.refl : Unsent socket socket := ⟨rfl, rfl, rfl, .inl rfl⟩

variable {socket after : SendSocket} {message : Message} {accepted : Bool} {call : SendCall}

theorem Unsent.spent {before : SendSocket} (unsent : Unsent before after)
    (spent : before.Spent) : after.Spent := by
  obtain same | gone := unsent.envelope_eq
  · exact ⟨unsent.type_eq.trans spent.1, by rw [same, spent.2]⟩
  · exact gone

theorem Unsent.trans {first second third : SendSocket} (before : Unsent first second)
    (after : Unsent second third) : Unsent first third := by
  refine ⟨after.type_eq.trans before.type_eq, after.accum_eq.trans before.accum_eq,
    after.delivered_eq.trans before.delivered_eq, ?_⟩
  obtain same | gone := before.envelope_eq
  · rw [← same]
    exact after.envelope_eq
  · exact .inr (after.spent gone)

theorem offer_rep (rep : socket.socketType = .rep) (message : Message) :
    socket.offer message = socket.typeState.repEnvelope.map fun envelope =>
      ⟨.message (envelope ++ [] :: message.parts), message.withRepEnvelope envelope,
        { socket with typeState := { socket.typeState with repEnvelope := none } },
        { socket with typeState := { socket.typeState with repEnvelope := none } }⟩ := by
  simp only [offer, rep, TypeState.preSend_rep]
  cases socket.typeState.repEnvelope <;> simp

variable {offer : Offer}

/-- Types without a delimiter or an envelope offer the message as it is. -/
theorem offer_plain (not_req : socket.socketType ≠ .req) (not_rep : socket.socketType ≠ .rep)
    (offered : socket.offer message = some offer) :
    offer.returned = message ∧ offer.begun = socket ∧ offer.undone = socket ∧
      (socket.socketType ≠ .xsub → offer.delivery = .message message.parts) := by
  revert offered
  fun_cases socket.offer message <;> intro offered
  case case1 | case2 => contradiction
  case case3 | case4 => contradiction
  case case5 =>
    obtain ⟨_, -, rfl⟩ := Option.map_eq_some_iff.mp offered
    exact ⟨rfl, rfl, rfl, fun _ => rfl⟩
  case case6 xsub =>
    obtain ⟨_, -, rfl⟩ := Option.map_eq_some_iff.mp offered
    exact ⟨rfl, rfl, rfl, fun other => absurd xsub other⟩
  all_goals
    cases offered
    try exact ⟨rfl, rfl, rfl, fun _ => rfl⟩

theorem unsent_undone (offered : socket.offer message = some offer) :
    Unsent socket offer.undone ∧ Unsent socket offer.begun := by
  by_cases req : socket.socketType = .req
  · simp only [SendSocket.offer, req] at offered
    split_ifs at offered
    cases offered
    exact ⟨.refl socket, req.symm, rfl, rfl, .inl rfl⟩
  by_cases rep : socket.socketType = .rep
  · rw [offer_rep rep] at offered
    obtain ⟨envelope, -, rfl⟩ := Option.map_eq_some_iff.mp offered
    exact ⟨⟨rfl, rfl, rfl, .inr ⟨rep, rfl⟩⟩, rfl, rfl, rfl, .inr ⟨rep, rfl⟩⟩
  · obtain ⟨-, begun, undone, -⟩ := offer_plain req rep offered
    rw [begun, undone]
    exact ⟨.refl socket, .refl socket⟩

/-- The message was taken. -/
def Handed (before : SendSocket) (message : Message) (after : SendSocket) : Prop :=
  ∃ offer, before.offer message = some offer ∧ after = offer.begun.deliver offer.delivery

/-- A hand-over which sent the message it was given, or failed and sent nothing; it fails when the
message is not accepted or the inner socket refuses to offer it, or because a REP socket has no
request to answer any more. -/
def Settled (socket : SendSocket) (message : Message) (accepted : Bool)
    (result : Option Errno × SendSocket) : Prop :=
  result.1 = none ∧ socket.Handed message result.2 ∨
    result.1 ≠ none ∧ Unsent socket result.2 ∧
      (accepted = false ∨ socket.offer message = none ∨ result.2.Spent)

/-- A failure is justified by a refused offer or by the answer. -/
theorem settled_of_failure (errno : Errno) (unsent : Unsent socket after)
    (refused : accepted = false ∨ socket.offer message = none ∨ after.Spent) :
    socket.Settled message accepted (some errno, after) :=
  .inr ⟨nofun, unsent, refused⟩

/-- A request keeps its delimiter single when it is stored inline. -/
def Repeatable (socket : SendSocket) (message : Message) : Prop :=
  socket.socketType = .req → ∃ delimited data fits, message = .inline delimited data fits

/-- What a full attempt returned is offered just as the message was, unless a REP socket has spent
its envelope. -/
theorem offer_returned (repeatable : socket.Repeatable message)
    (offered : socket.offer message = some offer) :
    offer.undone.offer offer.returned = some offer ∧ offer.undone.Repeatable offer.returned ∨
      offer.undone.Spent := by
  by_cases req : socket.socketType = .req
  · obtain ⟨delimited, data, fits, rfl⟩ := repeatable req
    simp only [SendSocket.offer, req] at offered
    split_ifs at offered with awaiting
    cases offered
    refine .inl ⟨?_, fun _ => ⟨true, data, fits, rfl⟩⟩
    simp [SendSocket.offer, req, awaiting, Message.withPrefix, Message.prependEmptyDelimiter]
  by_cases rep : socket.socketType = .rep
  · rw [offer_rep rep] at offered
    obtain ⟨envelope, -, rfl⟩ := Option.map_eq_some_iff.mp offered
    exact .inr ⟨rep, rfl⟩
  · obtain ⟨returned, -, undone, -⟩ := offer_plain req rep offered
    rw [returned, undone]
    exact .inl ⟨offered, repeatable⟩

theorem Spent.offer_eq_none (spent : socket.Spent) (message : Message) :
    socket.offer message = none := by
  rw [offer_rep spent.1, spent.2]
  rfl

/-- Submitting what a full attempt returned is submitting the message itself. -/
theorem Settled.returned {result : Option Errno × SendSocket}
    (repeatable : socket.Repeatable message) (offered : socket.offer message = some offer)
    (settled : offer.undone.Settled offer.returned accepted result) :
    socket.Settled message accepted result := by
  obtain ⟨undone, -⟩ := unsent_undone offered
  obtain ⟨again, -⟩ | spent := offer_returned repeatable offered
  · obtain ⟨sent, other, offered_again, result_eq⟩ | ⟨failed, unsent, refused⟩ := settled
    · obtain rfl := Option.some.inj (again.symm.trans offered_again)
      exact .inl ⟨sent, offer, offered, result_eq⟩
    · refine .inr ⟨failed, undone.trans unsent, ?_⟩
      rw [again] at refused
      exact refused.imp_right fun later => .inr (later.resolve_left nofun)
  · obtain ⟨-, other, offered_again, -⟩ | ⟨failed, unsent, -⟩ := settled
    · rw [spent.offer_eq_none] at offered_again
      cases offered_again
    · exact .inr ⟨failed, undone.trans unsent, .inr (.inr (unsent.spent spent))⟩

theorem blockingSend_settled (answer : BlockingSend) (late : Errno) :
    socket.Settled message (answer = .sent) (socket.blockingSend message answer late) := by
  unfold blockingSend
  cases offered : socket.offer message with
  | none => exact settled_of_failure _ (.refl socket) (.inr (.inl offered))
  | some offer =>
    obtain ⟨undone, begun⟩ := unsent_undone offered
    cases answer with
    | sent => exact .inl ⟨rfl, offer, offered, rfl⟩
    | failed => exact settled_of_failure _ undone (.inl rfl)
    | elapsed => exact settled_of_failure _ begun (.inl rfl)

/-- An attempt settles the message, unless it is full: then what follows has to. -/
theorem trySend_settled {answer : TrySend}
    {again : Message → SendSocket → Option Errno × SendSocket}
    (sent : answer ≠ .sent → answer ≠ .full → accepted = false)
    (full : ∀ offer, answer = .full → socket.offer message = some offer →
      socket.Settled message accepted (again offer.returned offer.undone)) :
    socket.Settled message accepted (match socket.trySend message answer with
      | (.sent, socket) => (none, socket)
      | (.closed, socket) => (some .eterm, socket)
      | (.error errno, socket) => (some errno, socket)
      | (.full returned, socket) => again returned socket) := by
  unfold trySend
  cases offered : socket.offer message with
  | none => exact settled_of_failure _ (.refl socket) (.inr (.inl offered))
  | some offer =>
    obtain ⟨undone, -⟩ := unsent_undone offered
    cases answer with
    | sent => exact .inl ⟨rfl, offer, offered, rfl⟩
    | full => exact full offer rfl offered
    | closed | error => exact settled_of_failure _ undone (.inl (sent nofun nofun))

/-- Repeated attempts hand over the message they were given, or nothing. -/
theorem submitAgain_settled (env : SendEnv) (left : Nat) (repeatable : socket.Repeatable message) :
    socket.Settled message (env.acceptsAgain left) (submitAgain env left socket message) := by
  induction left generalizing socket message with
  | zero =>
    unfold submitAgain submitBlocking SendEnv.acceptsAgain
    cases env.runtime with
    | false => exact settled_of_failure _ (.refl socket) (.inl rfl)
    | true =>
      simp only [Bool.not_true, Bool.false_eq_true, if_false, Bool.true_and]
      split_ifs
      · exact blockingSend_settled _ _
      · exact blockingSend_settled _ _
  | succ left induction =>
    refine trySend_settled ?_ fun offer full offered => ?_
    · cases answer : env.attempts (8 - left) <;> simp [SendEnv.acceptsAgain, answer]
    · rw [SendEnv.acceptsAgain, full]
      refine Settled.returned repeatable offered (induction ?_)
      obtain ⟨-, again⟩ | spent := offer_returned repeatable offered
      · exact again
      · exact fun req => nomatch spent.1.symm.trans req

theorem submitMessage_settled (env : SendEnv) (socket : SendSocket) (message : Message)
    (flags : SendFlags)
    (unwrapped : socket.socketType = .req → env.attempts 0 = .full →
      env.hurried flags = true ∨ socket.Repeatable message) :
    socket.Settled message (env.accepts flags) (submitMessage env socket message flags) := by
  unfold submitMessage SendEnv.accepts
  cases env.materialized with
  | false => exact settled_of_failure _ (.refl socket) (.inl rfl)
  | true =>
    simp only [Bool.not_true, Bool.false_eq_true, if_false, Bool.true_and]
    refine trySend_settled ?_ fun offer full offered => ?_
    · cases env.attempts 0 <;> simp
    · obtain ⟨undone, -⟩ := unsent_undone offered
      rw [full]
      by_cases hurried : flags.dontwait ∨ env.sndtimeo = 0
      · have hurries : env.hurried flags = true := by simpa [SendEnv.hurried] using hurried
        rw [if_pos hurried]
        exact settled_of_failure _ undone (.inl (by simp [hurries]))
      · have waits : env.hurried flags = false := by
          simpa [SendEnv.hurried, not_or] using hurried
        have repeatable : socket.Repeatable message := fun req =>
          (unwrapped req full).resolve_left (by simp [waits]) req
        rw [if_neg hurried, waits]
        refine Settled.returned repeatable offered (submitAgain_settled env 8 ?_)
        obtain ⟨-, again⟩ | spent := offer_returned repeatable offered
        · exact again
        · exact fun req => nomatch spent.1.symm.trans req

/-- What the send dispatch does: it fails early, subscribes, uses the bypass, collects the part or
hands the message over. -/
theorem sendBytes_cases (env : SendEnv) (socket : SendSocket) (data : Bytes) (flags : SendFlags)
    (unwrapped : socket.socketType = .req → env.attempts 0 = .full →
      env.hurried flags = true ∨ socket.Repeatable (socket.gather data)) :
    (∃ errno, socket.sendBytes env data flags = (some errno, socket) ∧
      ¬(checkSize env data = none ∧ socket.socketType = .radio)) ∨
    (socket.socketType = .xsub ∧ data ≠ [] ∧
      socket.sendBytes env data flags = (none, socket.deliver (xsubCommand data))) ∨
    (socket.socketType = .push ∧ flags.sndmore = false ∧ socket.accum = [] ∧
      socket.sendBytes env data flags = (none, socket.deliver (.message [data]))) ∨
    ¬(socket.socketType = .xsub ∧ data ≠ []) ∧
      (flags.sndmore = true ∧
        socket.sendBytes env data flags = (none, { socket with accum := socket.accum ++ [data] }) ∨
      flags.sndmore = false ∧ checkSize env data = none ∧
        ensureLibzmqSendRoute env socket.socketType flags = none ∧
        ({ socket with accum := [] } : SendSocket).Settled (socket.gather data)
          (env.accepts flags) (socket.sendBytes env data flags)) := by
  fun_cases sendBytes env socket data flags with
  | case1 errno sized => exact .inl ⟨errno, rfl, fun early => nomatch sized.symm.trans early.1⟩
  | case2 _ subscribing errno =>
    exact .inl ⟨errno, rfl, fun early => nomatch subscribing.1.symm.trans early.2⟩
  | case3 _ subscribing => exact .inr (.inl ⟨subscribing.1, subscribing.2, rfl⟩)
  | case4 _ _ errno answered =>
    obtain ⟨⟨push, -⟩, -⟩ := Option.ite_none_right_eq_some.mp answered
    exact .inl ⟨errno, rfl, fun early => nomatch push.symm.trans early.2⟩
  | case5 _ _ answered =>
    obtain ⟨⟨push, single, fresh⟩, -⟩ := Option.ite_none_right_eq_some.mp answered
    exact .inr (.inr (.inl ⟨push, by simpa using single, fresh, rfl⟩))
  | case6 _ _ _ errno routed =>
    refine .inl ⟨errno, rfl, fun early => ?_⟩
    rw [early.2] at routed
    cases routed
  | case7 _ plain _ _ more => exact .inr (.inr (.inr ⟨plain, .inl ⟨more, rfl⟩⟩))
  | case8 sized plain _ routed last =>
    exact .inr (.inr (.inr ⟨plain, .inr ⟨by simpa using last, sized, routed,
      submitMessage_settled env { socket with accum := [] } _ flags unwrapped⟩⟩))

/-! ## Every call keeps the intention -/

/-- The socket delivered what was intended, and has what the intention needs for the message in
progress, unless it is a REP socket which cannot answer any more. -/
structure Agrees (socket : SendSocket) (intended : Intended) : Prop where
  delivered_eq : socket.delivered = intended.messages
  collected : socket.Spent ∨
    socket.accum = intended.pending ∧ socket.typeState.repEnvelope = intended.envelope

@[simp] theorem collectGroup_nil (socket : SendSocket) : socket.collectGroup [] = socket := rfl

@[simp] theorem fields_collectGroup (socket : SendSocket) (group : Bytes) :
    (socket.collectGroup group).socketType = socket.socketType ∧
      (socket.collectGroup group).typeState = socket.typeState ∧
      (socket.collectGroup group).delivered = socket.delivered := by
  unfold collectGroup
  split_ifs <;> exact ⟨rfl, rfl, rfl⟩

theorem Agrees.handed {socket after : SendSocket} {intended : Intended} {message : Message}
    (agrees : socket.Agrees intended) (not_xsub : socket.socketType ≠ .xsub)
    (compact : socket.socketType = .req → ¬message.CompactDelimited)
    (handed : ({ socket with accum := [] } : SendSocket).Handed message after) :
    socket.accum = intended.pending ∧ after.Agrees
      { pending := []
        envelope := if socket.socketType = .rep then none else intended.envelope
        messages := intended.messages ++
          [.message (intended.wire socket.socketType message.parts)] } := by
  obtain ⟨offer, offered, rfl⟩ := handed
  obtain ⟨delivered, collected⟩ := agrees
  by_cases rep : socket.socketType = .rep
  · rw [@offer_rep { socket with accum := [] } rep] at offered
    obtain ⟨envelope, found, rfl⟩ := Option.map_eq_some_iff.mp offered
    obtain ⟨-, gone⟩ | ⟨collected, kept⟩ := collected
    · rw [gone] at found
      cases found
    · have intended_envelope : intended.envelope = some envelope := kept ▸ found
      refine ⟨collected, ?_, .inl ⟨rep, rfl⟩⟩
      simp [deliver, Intended.wire, rep, delivered, intended_envelope]
  · obtain ⟨collected, kept⟩ := collected.resolve_left fun gone => rep gone.1
    refine ⟨collected, ?_⟩
    by_cases req : socket.socketType = .req
    · simp only [SendSocket.offer, req] at offered
      split_ifs at offered
      cases offered
      refine ⟨?_, .inr ⟨rfl, ?_⟩⟩
      · simp [deliver, Intended.wire, req, delivered, Message.withPrefix,
          Message.parts_prependEmptyDelimiter, compact req]
      · simp [deliver, rep, kept]
    · obtain ⟨-, begun, -, delivery⟩ :=
        @offer_plain { socket with accum := [] } message offer req rep offered
      rw [begun, delivery not_xsub]
      refine ⟨?_, .inr ⟨rfl, ?_⟩⟩
      · simp [deliver, Intended.wire_plain req rep, delivered]
      · simp [deliver, rep, kept]

/-- What a call came to, against the intention. -/
def Outcome (intended : Intended) (socketType : SocketType) (call : SendCall)
    (result : Option Errno × SendSocket) : Prop :=
  result.1 = none ∧ result.2.Agrees (intended.call socketType call) ∨
    result.1 ≠ none ∧ result.2.Agrees intended

theorem collectGroup_append (socket : SendSocket) (call : SendCall) :
    (socket.collectGroup call.group).accum ++ [call.data] =
      socket.accum ++ Intended.partsOf call := by
  unfold collectGroup Intended.partsOf
  split_ifs <;> simp

theorem parts_gather (socket : SendSocket) (data : Bytes) :
    (socket.gather data).parts = socket.accum ++ [data] := by
  unfold gather
  split_ifs with fresh
  · simp [fresh]
  · exact Message.parts_multipart _

theorem not_compact_gather (socket : SendSocket) (data : Bytes) :
    ¬(socket.gather data).CompactDelimited := by
  unfold gather Message.ofSingle Message.fromInline Message.multipart Message.fromPayloadsVec
  split_ifs
  · simp [Message.CompactDelimited]
  · simp [Message.CompactDelimited]
  · split <;> simp [Message.CompactDelimited]

theorem xsubRawCommand_gather_nil (socket : SendSocket) :
    xsubRawCommand (socket.gather []) = none := by
  unfold xsubRawCommand
  split_ifs with single
  · rfl
  · rw [Message.partBytes, parts_gather]
    rw [not_not, ← Message.length_parts, parts_gather] at single
    have fresh : socket.accum = [] := by simpa using single
    simp [fresh]

/-- A short part which nothing was collected before is stored inline. -/
theorem repeatable_gather (fresh : socket.accum = []) {data : Bytes}
    (short : data.length ≤ maxInlineMessage) : socket.Repeatable (socket.gather data) := fun _ =>
  ⟨false, data, short, by
    rw [gather, if_pos fresh, Message.ofSingle, Message.fromInline, dif_pos short]⟩

variable {env : SendEnv} {intended : Intended}

/-- The send dispatch keeps the agreement, with a group in front of the part. -/
theorem sendBytes_outcome (agrees : socket.Agrees intended) (sparing : socket.Sparing call env)
    (not_server : ¬(socket.socketType = .server ∧ call.isMsgSend = true)) :
    Outcome intended socket.socketType call
      ((socket.collectGroup call.group).sendBytes env call.data call.flags) := by
  have ungrouped (elsewhere : socket.socketType ≠ .radio) : call.group = [] := by
    by_contra group
    exact elsewhere (sparing.grouped group).1
  have unwrapped (req : (socket.collectGroup call.group).socketType = .req)
      (full : env.attempts 0 = .full) : env.hurried call.flags = true ∨
        (socket.collectGroup call.group).Repeatable
          ((socket.collectGroup call.group).gather call.data) := by
    rw [(fields_collectGroup ..).1] at req
    refine (sparing.unwrapped req full).imp_right fun ⟨fresh, short⟩ => ?_
    rw [ungrouped fun radio => nomatch req.symm.trans radio, collectGroup_nil]
    exact repeatable_gather fresh short
  obtain ⟨errno, failed, early⟩ | ⟨xsub, nonempty, sent⟩ | ⟨push, single, fresh, sent⟩ |
    ⟨not_command, ⟨more, sent⟩ | ⟨single, sized, routed, settled⟩⟩ :=
    sendBytes_cases env (socket.collectGroup call.group) call.data call.flags unwrapped
  · have no_group : call.group = [] := by
      by_contra group
      obtain ⟨radio, sized⟩ := sparing.grouped group
      exact early ⟨sized, (fields_collectGroup ..).1.trans radio⟩
    rw [failed, no_group]
    exact .inr ⟨nofun, agrees⟩
  · rw [(fields_collectGroup ..).1] at xsub
    have no_group := ungrouped fun radio => nomatch xsub.symm.trans radio
    rw [sent, no_group, Outcome, Intended.call, if_pos ⟨xsub, nonempty⟩]
    refine .inl ⟨rfl, ?_, agrees.collected⟩
    simp [deliver, agrees.delivered_eq]
  · rw [(fields_collectGroup ..).1] at push
    have no_group := ungrouped fun radio => nomatch push.symm.trans radio
    rw [no_group, collectGroup_nil] at fresh sent
    obtain ⟨pending, kept⟩ :=
      agrees.collected.resolve_left fun gone => nomatch push.symm.trans gone.1
    rw [no_group, collectGroup_nil, sent]
    refine .inl ⟨rfl, ?_, .inr ?_⟩
    · simp [deliver, agrees.delivered_eq, Intended.call, Intended.wire, Intended.partsOf, push,
        no_group, single, ← pending, fresh]
    · simp [deliver, Intended.call, push, single, fresh, kept]
  · rw [(fields_collectGroup ..).1] at not_command
    rw [sent, collectGroup_append, Outcome, Intended.call, if_neg not_command, if_neg not_server,
      if_pos more]
    refine .inl ⟨rfl, ?_, ?_⟩
    · exact (fields_collectGroup ..).2.2.trans agrees.delivered_eq
    · simpa only [Spent, fields_collectGroup] using
        agrees.collected.imp_right fun ⟨pending, kept⟩ => ⟨pending ▸ rfl, kept⟩
  · rw [(fields_collectGroup ..).1] at not_command routed
    have taken : ({ socket.collectGroup call.group with accum := [] } : SendSocket) =
        { socket with accum := [] } := by
      unfold collectGroup
      split_ifs <;> rfl
    rw [taken] at settled
    have parts_eq : ((socket.collectGroup call.group).gather call.data).parts =
        socket.accum ++ Intended.partsOf call := (parts_gather ..).trans (collectGroup_append ..)
    obtain ⟨sent, handed⟩ | ⟨failed, unsent, refused⟩ := settled
    · have not_xsub : socket.socketType ≠ .xsub := fun xsub => by
        obtain ⟨offer, offered, -⟩ := handed
        have empty : call.data = [] := by_contra fun nonempty => not_command ⟨xsub, nonempty⟩
        simp [SendSocket.offer, xsub, empty, xsubRawCommand_gather_nil] at offered
      obtain ⟨pending, agrees⟩ := agrees.handed not_xsub (fun _ => not_compact_gather _ _) handed
      rw [Outcome, Intended.call, if_neg not_command, if_neg not_server,
        if_neg (Bool.eq_false_iff.mp single), ← pending, ← parts_eq]
      exact .inl ⟨sent, agrees⟩
    · refine .inr ⟨failed, unsent.delivered_eq.trans agrees.delivered_eq, ?_⟩
      obtain same | spent := unsent.envelope_eq
      · by_cases rep : socket.Spent
        · exact .inl (unsent.spent rep)
        -- Nothing had been collected, as the message would have been accepted otherwise.
        have nothing : socket.accum = [] := by
          by_contra collected
          obtain ⟨accepted, offered⟩ := sparing.collected
            ⟨single, .inl collected, not_command, not_server, sized, routed⟩
          obtain unaccepted | unoffered | spent := refused
          · rw [unaccepted] at accepted
            cases accepted
          · obtain type_eq | offered := offered
            · rw [@offer_rep { socket with accum := [] } type_eq] at unoffered
              exact rep ⟨type_eq, Option.map_eq_none_iff.mp unoffered⟩
            · rw [unoffered] at offered
              cases offered
          · exact rep ⟨unsent.type_eq.symm.trans spent.1, by rw [← spent.2, same]⟩
        refine .inr ?_
        obtain ⟨pending, kept⟩ := agrees.collected.resolve_left rep
        rw [unsent.accum_eq, same]
        exact ⟨nothing ▸ pending, kept⟩
      · exact .inl spent

theorem sendServer_outcome (agrees : socket.Agrees intended) (server : socket.socketType = .server)
    (isMsgSend : call.isMsgSend = true) (routingId : UInt32) :
    Outcome intended socket.socketType call
      (socket.sendServer env call.data routingId call.flags) := by
  have not_req : socket.socketType ≠ .req := by simp [server]
  have not_rep : socket.socketType ≠ .rep := by simp [server]
  have not_xsub : socket.socketType ≠ .xsub := by simp [server]
  have parts_eq : (routed call.data routingId).parts = [call.data] := by
    unfold routed
    split_ifs <;> rfl
  fun_cases sendServer env socket call.data routingId call.flags with
  | case1 | case2 | case3 => exact .inr ⟨Option.some_ne_none _, agrees⟩
  | case4 =>
    obtain ⟨sent, offer, offered, result⟩ | ⟨failed, unsent, -⟩ :=
      submitMessage_settled env socket (routed call.data routingId) call.flags (absurd · not_req)
    · obtain ⟨-, begun, -, delivery⟩ := offer_plain not_req not_rep offered
      refine .inl ⟨sent, ?_⟩
      rw [result, begun, delivery not_xsub, parts_eq, Intended.call,
        if_neg fun command => not_xsub command.1, if_pos ⟨server, isMsgSend⟩]
      exact ⟨by simp [deliver, agrees.delivered_eq], agrees.collected⟩
    · refine .inr ⟨failed, unsent.delivered_eq.trans agrees.delivered_eq, ?_⟩
      have kept := unsent.envelope_eq.resolve_right fun gone =>
        not_rep (unsent.type_eq.symm.trans gone.1)
      rw [Spent, unsent.type_eq, unsent.accum_eq, kept]
      exact agrees.collected

theorem perform_outcome (agrees : socket.Agrees intended) (sparing : socket.Sparing call env) :
    Outcome intended socket.socketType call (socket.perform env call) := by
  cases call with
  | send data flags =>
    simp only [perform, zmqSend]
    split_ifs
    · exact .inr ⟨nofun, agrees⟩
    · exact sendBytes_outcome agrees sparing fun server => nomatch server.2
  | msgSend data group routingId flags =>
    simp only [perform, zmqMsgSend, fields_collectGroup]
    split_ifs with server
    · have no_group : group = [] := by
        by_contra grouped
        exact nomatch server.symm.trans (sparing.grouped grouped).1
      rw [no_group, collectGroup_nil]
      exact sendServer_outcome agrees server rfl routingId
    · exact sendBytes_outcome agrees sparing fun both => server both.1

end SendSocket

namespace SendRun

theorem agrees_step {run next : SendRun} {action : SendCall × SendEnv}
    (sparing : run.socket.Sparing action.1 action.2) (stepped : run.step action = some next)
    (agrees : run.socket.Agrees run.intended) : next.socket.Agrees next.intended := by
  have outcome := SendSocket.perform_outcome agrees sparing
  revert stepped
  fun_cases run.step action <;> rintro ⟨⟩
  next performed =>
    rw [performed] at outcome
    exact (outcome.resolve_right fun failed => failed.1 rfl).2
  next performed =>
    rw [performed] at outcome
    exact (outcome.resolve_left fun sent => nomatch sent.1).2

instance (socket : SendSocket) (call : SendCall) (env : SendEnv) :
    Decidable (socket.Takes call env) :=
  inferInstanceAs (Decidable (_ ∧ _))

instance (socket : SendSocket) (call : SendCall) (env : SendEnv) :
    Decidable (socket.Sparing call env) :=
  decidable_of_iff ((socket.Takes call env → env.accepts call.flags = true ∧
        (socket.socketType = .rep ∨ (({ socket with accum := [] } : SendSocket).offer
          ((socket.collectGroup call.group).gather call.data)).isSome = true)) ∧
      (call.group ≠ [] → socket.socketType = .radio ∧ checkSize env call.data = none) ∧
      (socket.socketType = .req → env.attempts 0 = .full → env.hurried call.flags = true ∨
        socket.accum = [] ∧ call.data.length ≤ maxInlineMessage))
    ⟨fun ⟨collected, grouped, unwrapped⟩ => ⟨collected, grouped, unwrapped⟩,
      fun sparing => ⟨sparing.collected, sparing.grouped, sparing.unwrapped⟩⟩

/-- A ready peer, and an inner socket which answers the attempts of a call as given, sent when the
answers are exhausted. -/
def ready (answers : List TrySend) : SendEnv where
  terminated := false
  maxMsgSize := 0
  sndtimeo := -1
  materialized := true
  canQueueWithoutReadyPeer := false
  readyPeerCount := 1
  waited := none
  attempts index := answers.getD index .sent
  runtime := true
  deadline := true
  blocking := .sent
  subscribed := none
  bypass := none

end SendRun

end Omq.Libzmq
