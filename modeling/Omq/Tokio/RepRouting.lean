import Omq.Library.Transition
import Omq.Proto.TypeState

/-!
# REP through the socket actor

The actor splits a request when it arrives and saves its envelope, identity first, in the type
state.  The body waits in the receive queue.  `send` takes the saved envelope and routes by its
first frame, so the envelope in use is that of the request which arrived last, not of the request
which was returned last.
-/

namespace Omq

open Transition TypeState

/-- The ready peers of an identity-routed socket.  A peer which announces the identity of another
evicts it, so identities are distinct. -/
structure IdentityTable (Peer : Type*) where
  identity : Peer → Bytes
  identityToPeer : Bytes → Option Peer
  /-- Whether a message without a route is refused. -/
  routerMandatory : Bool
  named : ∀ peer, identity peer ≠ []
  found : ∀ peer, identityToPeer (identity peer) = some peer

namespace IdentityTable

variable {Peer : Type*} (table : IdentityTable Peer)

def wrap (peer : Peer) (message : Message) : Message := message.withPrefix (table.identity peer)

/-- Route a message by its first part.  `none` is a message which is dropped silently. -/
def send (message : Message) : Except Error (Option (Peer × Message)) :=
  match message.popFront with
  | (none, _) => .error .unroutable
  | (some identity, rest) =>
    match table.identityToPeer identity with
    | some peer => .ok (some (peer, rest))
    | none => if table.routerMandatory then .error .unroutable else .ok none

theorem send_of_parts {message : Message} {peer : Peer} {rest : List Bytes}
    (starts : message.parts = table.identity peer :: rest) :
    ∃ routed : Message, routed.parts = rest ∧ table.send message = .ok (some (peer, routed)) := by
  obtain ⟨front_eq, rest_eq⟩ := message.popFront_spec
  refine ⟨message.popFront.2, by rw [rest_eq, starts, List.tail_cons], ?_⟩
  have popped : message.popFront = (some (table.identity peer), message.popFront.2) :=
    Prod.ext (by rw [front_eq, starts, List.head?_cons]) rfl
  rw [send, popped]
  simp only [table.found]

/-- The actor saves the envelope of a request behind the identity of its sender. -/
theorem postRecv_wrap (peer : Peer) (message : Message) (typeState : TypeState) :
    match splitAtDelimiter message.parts with
    | none => typeState.postRecv .rep (table.wrap peer message) = (none, typeState)
    | some (envelope, body) => ∃ stripped : Message, stripped.parts = body ∧
        typeState.postRecv .rep (table.wrap peer message) =
          (some stripped,
            { typeState with repEnvelope := some (table.identity peer :: envelope) }) := by
  have received := typeState.postRecv_rep (table.wrap peer message)
  rw [wrap, Message.parts_withPrefix (table.named peer), splitAtDelimiter,
    if_neg (table.named peer)] at received
  cases split : splitAtDelimiter message.parts with
  | none => rwa [split] at received
  | some pair => rwa [split] at received

/-- Two clients with one-byte identities. -/
def pair : IdentityTable Bool where
  identity peer := [if peer then 1 else 0]
  identityToPeer identity :=
    if identity = [1] then some true else if identity = [0] then some false else none
  routerMandatory := false
  named := by decide
  found := by decide

end IdentityTable

/-- What `recv` of a REP socket does with the message it took from the receive queue.  A message
whose second part is empty is taken for one which still has its envelope. -/
def repReceive (message : Message) (typeState : TypeState) : Option Message × TypeState :=
  if message.len < 2 ∨ message.partBytes 1 ≠ some [] then (some message, typeState)
  else typeState.postRecv .rep message

/-- A message without an empty second part is returned as it is. -/
theorem repReceive_of_parts {message : Message} (plain : message.parts[1]? ≠ some [])
    (typeState : TypeState) : repReceive message typeState = (some message, typeState) :=
  if_pos (.inr plain)

theorem repReceive_of_empty {message : Message} (second : message.parts[1]? = some [])
    (typeState : TypeState) :
    ∃ seen : Message, ∃ after, repReceive message typeState = (some seen, after) ∧
      seen.parts.length < message.parts.length := by
  have long : ¬message.len < 2 := by
    rw [← message.length_parts]
    exact Nat.not_lt.mpr (List.getElem?_eq_some_iff.mp second).1
  obtain ⟨envelope, body, split⟩ := exists_splitAtDelimiter (List.mem_of_getElem? second)
  have received := postRecv_rep message typeState
  rw [split] at received
  obtain ⟨seen, parts_eq, received⟩ := received
  refine ⟨seen, _, (if_neg (not_or.mpr ⟨long, not_not.mpr second⟩)).trans received, ?_⟩
  rw [parts_eq, (eq_of_splitAtDelimiter split).1, List.length_append, List.length_cons]
  omega

theorem repReceive_isSome (message : Message) (typeState : TypeState) :
    (repReceive message typeState).1.isSome := by
  by_cases second : message.parts[1]? = some []
  · obtain ⟨seen, after, received, _⟩ := repReceive_of_empty second typeState
    rw [received]
    rfl
  · rw [repReceive_of_parts second]
    rfl

namespace RepActor

variable {Peer : Type*}

/-- Who sent a request, and the frames before its delimiter. -/
structure Origin (Peer : Type*) where
  peer : Peer
  envelope : List Bytes
  deriving DecidableEq

/-- A request body in the receive queue.  Its origin is history: the queue holds the body only. -/
structure Request (Peer : Type*) where
  origin : Origin Peer
  body : Message

structure Reply (Peer : Type*) where
  /-- The request which `recv` returned last, if no reply to it was sent yet. -/
  answers : Option (Origin Peer)
  reply : Message
  result : Except Error (Option (Peer × Message))
  deriving DecidableEq

/-- A reply goes to the sender of the request it answers, behind the envelope of that request. -/
def Reply.Right (reply : Reply Peer) : Prop :=
  ∀ origin ∈ reply.answers, ∃ wire : Message,
    reply.result = .ok (some (origin.peer, wire)) ∧
      wire.parts = origin.envelope ++ [] :: reply.reply.parts

end RepActor

structure RepActor (Peer : Type*) where
  typeState : TypeState
  queue : List (RepActor.Request Peer)
  /-- The body the actor waits to push. -/
  delivering : Option (RepActor.Request Peer)
  /-- The request which `recv` returned last, until a reply is sent. -/
  unanswered : Option (RepActor.Origin Peer)
  replies : List (RepActor.Reply Peer)

namespace RepActor

variable {Peer : Type*}

def start : RepActor Peer := ⟨.new, [], none, none, []⟩

/-- The steps of the actor and of the application. -/
inductive Action (Peer : Type*)
  | arrive (peer : Peer) (message : Message)
  /-- The actor gets its body into the receive queue. -/
  | deliver
  | recv
  | send (reply : Message)

variable (table : IdentityTable Peer) (capacity : Nat)

/-- `handle_peer_event`: a request is split on arrival, and its envelope saved at once. -/
def arrive (peer : Peer) (message : Message) (socket : RepActor Peer) : RepActor Peer :=
  match socket.typeState.postRecv .rep (table.wrap peer message) with
  | (some body, typeState) =>
    let envelope := (splitRepRequest message).elim [] Prod.fst
    { socket with typeState, delivering := some ⟨⟨peer, envelope⟩, body⟩ }
  | (none, typeState) => { socket with typeState }

/-- `send`: the saved envelope is taken and the reply routed by its first frame. -/
def send (reply : Message) (socket : RepActor Peer) : RepActor Peer :=
  let (result, typeState) : Except Error (Option (Peer × Message)) × TypeState :=
    match preSend .rep reply socket.typeState with
    | .ok message typeState => (table.send message, typeState)
    | .error error typeState => (.error error, typeState)
  { socket with
    typeState
    unanswered := none
    replies := socket.replies ++ [⟨socket.unanswered, reply, result⟩] }

variable (socket : RepActor Peer)

def step : Action Peer → Option (RepActor Peer)
  | .arrive peer message =>
    -- While the actor waits for room in the receive queue it handles no other event.
    if socket.delivering.isNone then some (socket.arrive table peer message) else none
  | .deliver =>
    match socket.delivering with
    | some request =>
      if socket.queue.length < capacity then
        some { socket with queue := socket.queue ++ [request], delivering := none }
      else none
    | none => none
  | .recv =>
    match socket.queue with
    | request :: queue =>
      match repReceive request.body socket.typeState with
      | (some _, typeState) =>
        some { socket with typeState, queue, unanswered := some request.origin }
      | (none, typeState) => some { socket with typeState, queue }
    | [] => none
  | .send reply => some (socket.send table reply)

/-- The requests which were not answered yet, oldest first. -/
def outstanding : List (Origin Peer) :=
  socket.unanswered.toList ++ socket.queue.map Request.origin ++
    socket.delivering.toList.map Request.origin

/-- What keeps replies right: no body in the queue has an empty second part, and `send` is called
only when the request which `recv` returned last is also the one which arrived last, or when it is
refused because there is no request. -/
def Prompt : Action Peer → Prop
  | .recv => ∀ request ∈ socket.queue.head?, request.body.parts[1]? ≠ some []
  | .send _ =>
    (socket.unanswered.isSome ∧ socket.queue = [] ∧ socket.delivering = none) ∨
      (socket.unanswered = none ∧ socket.typeState.repEnvelope = none)
  | _ => True

instance (socket : RepActor Peer) (action : Action Peer) : Decidable (socket.Prompt action) := by
  cases action <;> unfold Prompt <;> infer_instance

def savedEnvelope (origin : Origin Peer) : List Bytes :=
  table.identity origin.peer :: origin.envelope

/-- The saved envelope is that of the request which arrived last, and replies were right. -/
structure Faithful (socket : RepActor Peer) : Prop where
  saved : ∀ origin ∈ socket.outstanding.getLast?,
    socket.typeState.repEnvelope = some (savedEnvelope table origin)
  right : ∀ reply ∈ socket.replies, reply.Right

/-- A request saves its envelope behind the identity of its sender. -/
theorem arrive_spec (peer : Peer) (message : Message) :
    match splitAtDelimiter message.parts with
    | none => socket.arrive table peer message = socket
    | some (envelope, body) => ∃ stripped : Message, stripped.parts = body ∧
        socket.arrive table peer message = { socket with
          typeState := { socket.typeState with
            repEnvelope := some (savedEnvelope table ⟨peer, envelope⟩) }
          delivering := some ⟨⟨peer, envelope⟩, stripped⟩ } := by
  have received := table.postRecv_wrap peer message socket.typeState
  unfold arrive
  rw [splitRepRequest_eq]
  cases split : splitAtDelimiter message.parts with
  | none =>
    rw [split] at received
    rw [show _ = _ from received]
  | some pair =>
    rw [split] at received
    obtain ⟨stripped, parts_eq, received⟩ := received
    exact ⟨stripped, parts_eq, by rw [received]; rfl⟩

variable {table capacity}

theorem Faithful.arrive {socket : RepActor Peer} (faithful : socket.Faithful table) (peer : Peer)
    (message : Message) : (socket.arrive table peer message).Faithful table := by
  have spec := arrive_spec table socket peer message
  cases split : splitAtDelimiter message.parts with
  | none =>
    rw [split] at spec
    rwa [show _ = _ from spec]
  | some pair =>
    rw [split] at spec
    obtain ⟨stripped, _, arrived⟩ := spec
    rw [arrived]
    exact ⟨by simp [outstanding], faithful.right⟩

/-- A reply under a saved envelope is right. -/
theorem send_spec {socket : RepActor Peer} {origin : Origin Peer}
    (saved : socket.typeState.repEnvelope = some (savedEnvelope table origin)) (reply : Message) :
    ∃ wire : Message, wire.parts = origin.envelope ++ [] :: reply.parts ∧
      socket.send table reply = { socket with
        typeState := { socket.typeState with repEnvelope := none }
        unanswered := none
        replies := socket.replies ++
          [⟨socket.unanswered, reply, .ok (some (origin.peer, wire))⟩] } := by
  have prepared : preSend .rep reply socket.typeState =
      .ok (reply.withRepEnvelope (savedEnvelope table origin))
        { socket.typeState with repEnvelope := none } := by
    simp [preSend, checkFrameCount, saved]
  have starts : (reply.withRepEnvelope (savedEnvelope table origin)).parts =
      table.identity origin.peer :: (origin.envelope ++ [] :: reply.parts) :=
    Message.parts_withRepEnvelope _ _
  obtain ⟨wire, parts_eq, routed⟩ := table.send_of_parts starts
  exact ⟨wire, parts_eq, by simp only [send, prepared, routed]⟩

theorem send_refused {socket : RepActor Peer} (none_saved : socket.typeState.repEnvelope = none)
    (reply : Message) :
    socket.send table reply = { socket with
      unanswered := none
      replies := socket.replies ++ [⟨socket.unanswered, reply,
        .error (.protocol "REP socket must receive a request before replying")⟩] } := by
  have refused : preSend .rep reply socket.typeState =
      .error (.protocol "REP socket must receive a request before replying") socket.typeState := by
    simp [preSend, checkFrameCount, none_saved]
  simp only [send, refused]

theorem Faithful.send {socket : RepActor Peer} (faithful : socket.Faithful table) {reply : Message}
    (prompt : socket.Prompt (.send reply)) : (socket.send table reply).Faithful table := by
  obtain ⟨received, queue_nil, idle⟩ | ⟨nothing, none_saved⟩ := prompt
  · obtain ⟨origin, unanswered_eq⟩ := Option.isSome_iff_exists.mp received
    have saved : socket.typeState.repEnvelope = some (savedEnvelope table origin) :=
      faithful.saved origin (by simp [outstanding, unanswered_eq, queue_nil, idle])
    obtain ⟨wire, parts_eq, sent⟩ := send_spec saved reply
    rw [sent]
    refine ⟨by simp [outstanding, queue_nil, idle], ?_⟩
    intro last member
    obtain earlier | rfl := by simpa using member
    · exact faithful.right last earlier
    · intro answered answered_mem
      obtain rfl : origin = answered := by simpa [unanswered_eq] using answered_mem
      exact ⟨wire, rfl, parts_eq⟩
  · rw [send_refused none_saved]
    refine ⟨fun origin last => faithful.saved origin ?_, ?_⟩
    · simpa [outstanding, nothing] using last
    · intro last member
      obtain earlier | rfl := by simpa using member
      · exact faithful.right last earlier
      · intro answered answered_mem
        simp [nothing] at answered_mem

/-- Taking the oldest body does not change which request arrived last. -/
theorem getLast?_outstanding_recv {socket : RepActor Peer} {request : Request Peer}
    {queue : List (Request Peer)} (queue_eq : socket.queue = request :: queue) :
    ({ socket with
        queue, unanswered := some request.origin } : RepActor Peer).outstanding.getLast? =
      socket.outstanding.getLast? := by
  simp [outstanding, queue_eq, List.getLast?_append, List.getLast?_cons]

/-- Every prompt step keeps the saved envelope that of the last arrival. -/
theorem Faithful.step {before after : RepActor Peer} {action : Action Peer}
    (faithful : before.Faithful table) (prompt : before.Prompt action)
    (stepped : before.step table capacity action = some after) : after.Faithful table := by
  cases action with
  | arrive peer message =>
    obtain ⟨_, rfl⟩ := Option.ite_some_none_eq_some.mp stepped
    exact faithful.arrive peer message
  | deliver =>
    simp only [RepActor.step] at stepped
    cases waiting : before.delivering with
    | none => simp [waiting] at stepped
    | some request =>
      simp only [waiting, Option.ite_none_right_eq_some, Option.some.injEq] at stepped
      obtain ⟨_, rfl⟩ := stepped
      have same : ({ before with
          queue := before.queue ++ [request], delivering := none } : RepActor Peer).outstanding =
          before.outstanding := by
        simp [outstanding, waiting]
      exact ⟨by rw [same]; exact faithful.saved, faithful.right⟩
  | recv =>
    simp only [RepActor.step] at stepped
    cases queue_eq : before.queue with
    | nil => simp [queue_eq] at stepped
    | cons request queue =>
      have plain := prompt request (by rw [queue_eq]; rfl)
      simp only [queue_eq, repReceive_of_parts plain, Option.some.injEq] at stepped
      subst stepped
      refine ⟨?_, faithful.right⟩
      rw [getLast?_outstanding_recv queue_eq]
      exact faithful.saved
  | send reply =>
    obtain rfl : before.send table reply = after := Option.some.inj stepped
    exact faithful.send prompt

/-- In every run in which `send` answers the request which arrived last, and no body with an empty
second part is received, every reply goes to the peer of the request it answers and carries the
envelope of that request. -/
theorem replies_right_of_prompt (table : IdentityTable Peer) (capacity : Nat)
    {final : RepActor Peer} (runs : Runs (RepActor.step table capacity) Prompt start final) :
    ∀ reply ∈ final.replies, reply.Right := by
  have kept {before after : RepActor Peer} {action : Action Peer} (prompt : before.Prompt action)
      (stepped : before.step table capacity action = some after)
      (faithful : before.Faithful table) : after.Faithful table :=
    faithful.step prompt stepped
  have fresh : (start : RepActor Peer).Faithful table :=
    ⟨by simp [outstanding, start], by simp [start]⟩
  exact (runs.invariant kept fresh).right

/-- A request of one part, as it arrives. -/
def requestOf (body : Bytes) : Message := .multipart [[], body]

/-- Each client is answered before the other sends its request. -/
theorem answered_in_turn : ∃ final : RepActor Bool,
    Runs (RepActor.step .pair 1) Prompt start final ∧ final.replies.length = 2 ∧
      ∀ reply ∈ final.replies, reply.Right := by
  have runs : Runs (RepActor.step .pair 1) Prompt start _ :=
    .computed [.arrive false (requestOf [7]), .deliver, .recv, .send (.ofSingle [9]),
      .arrive true (requestOf [8]), .deliver, .recv, .send (.ofSingle [10])] (by decide +kernel)
  exact ⟨_, runs, by decide +kernel, replies_right_of_prompt .pair 1 runs⟩

/-- A client sends its request between `recv` and `send`, and gets the reply to another. -/
theorem reply_misrouted : ∃ final : RepActor Bool,
    Reaches (RepActor.step .pair 1) start final ∧ ∃ reply ∈ final.replies, ¬reply.Right := by
  obtain ⟨final, reached, replies_eq⟩ : ∃ final : RepActor Bool,
      Reaches (RepActor.step .pair 1) start final ∧ final.replies =
        [⟨some ⟨false, []⟩, .ofSingle [9], .ok (some (true, .multipart [[], [9]]))⟩] :=
    exists_reaches [.arrive false (requestOf [7]), .deliver, .recv,
      .arrive true (requestOf [8]), .send (.ofSingle [9])] (by decide +kernel)
  refine ⟨final, reached, _, by rw [replies_eq]; exact .head _, fun right => ?_⟩
  obtain ⟨_, routed, _⟩ := right ⟨false, []⟩ rfl
  simp at routed

end RepActor

end Omq
