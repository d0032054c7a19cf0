import Omq.Tokio.RepRouting

/-!
# One request and its reply

REQ adds a delimiter and REP strips it, on its way through the actor or in the driver.  `recv` of
REP then looks for an envelope once more, in a body whose second part is empty.  A request comes
through unless it is caught there, or its own leading delimiter was merged with that of REQ.
-/

namespace Omq

open Message

namespace ReqRep

/-- The two ways a request reaches `recv` of a REP socket. -/
inductive ReceivePath
  /-- The driver splits the request and records its envelope. -/
  | latency
  /-- The actor splits the request through the type state. -/
  | throughput

/-- A connection which carries the parts of a message.  The receiver may hold them in another
representation. -/
structure Carrier where
  carry : Message → Message
  parts_carry : ∀ message, (carry message).parts = message.parts

variable (request : Message)

def reqSend : Message := request.withPrefix []

/-- `recv` of a REQ socket; a message without a delimiter is skipped. -/
def reqReceive (message : Message) : Option Message :=
  match message.popFront with
  | (some [], body) => some body
  | _ => none

variable {Peer : Type*} (path : ReceivePath) (table : IdentityTable Peer)

/-- A REP socket receives a request of a peer and replies: what `recv` returned, and where the reply
was routed. -/
def serve (typeState : TypeState) (peer : Peer) (arrived reply : Message) :
    Option (Message × Option (Peer × Message)) :=
  match path with
  | .latency =>
    match splitRepRequest arrived with
    | none => none
    | some (envelope, body) =>
      match repReceive body typeState with
      | (none, _) => none
      | (some seen, _) => some (seen, some (peer, repReplyWithEnvelope envelope reply))
  | .throughput =>
    match typeState.postRecv .rep (table.wrap peer arrived) with
    | (none, _) => none
    | (some body, typeState) =>
      match repReceive body typeState with
      | (none, _) => none
      | (some seen, typeState) =>
        match TypeState.preSend .rep reply typeState with
        | .error _ _ => some (seen, none)
        | .ok message _ => some (seen, (table.send message).toOption.join)

/-- A request and its reply: what `recv` returned on either side. -/
def exchange [DecidableEq Peer] (carrier : Carrier) (table : IdentityTable Peer)
    (typeState : TypeState) (peer : Peer) (request reply : Message) :
    Option (Message × Option Message) :=
  (serve path table typeState peer (carrier.carry (reqSend request)) reply).map
    fun (seen, routed) => (seen, routed.bind fun (target, wire) =>
      if target = peer then reqReceive (carrier.carry wire) else none)

variable {body : List Bytes} {arrived : Message}

theorem reqReceive_of_parts {message : Message} (delimited : message.parts = [] :: body) :
    ∃ received : Message, received.parts = body ∧ reqReceive message = some received := by
  obtain ⟨front_eq, rest_eq⟩ := message.popFront_spec
  rw [delimited] at front_eq rest_eq
  refine ⟨message.popFront.2, rest_eq, ?_⟩
  have popped : message.popFront = (some [], message.popFront.2) := Prod.ext front_eq rfl
  rw [reqReceive, popped]

/-- The body which REP finds behind the delimiter. -/
def bodyParts : List Bytes :=
  if request.CompactDelimited then request.parts.tail else request.parts

theorem parts_reqSend : (reqSend request).parts = [] :: bodyParts request := by
  rw [reqSend, withPrefix, if_pos rfl, parts_prependEmptyDelimiter, bodyParts]
  split_ifs with compact
  · cases request with
    | inline delimited data fits =>
      obtain rfl : delimited = true := compact
      rfl
    | emptyDelimitedBytes data => rfl
    | _ => exact compact.elim
  · rfl

theorem length_bodyParts_le : (bodyParts request).length ≤ request.parts.length := by
  unfold bodyParts
  split_ifs
  · simp
  · exact le_rfl

/-- The body is the request unless a delimiter was merged. -/
theorem bodyParts_eq_iff : bodyParts request = request.parts ↔ ¬request.CompactDelimited := by
  unfold bodyParts
  split_ifs with compact
  · refine iff_of_false (fun same => ?_) (not_not.mpr compact)
    have lengths := congrArg List.length same
    cases request with
    | inline delimited data fits =>
      obtain rfl : delimited = true := compact
      simp [parts] at lengths
    | emptyDelimitedBytes data => simp [parts] at lengths
    | _ => exact compact.elim
  · exact iff_of_true rfl compact

theorem splitRepRequest_of_parts (delimited : arrived.parts = [] :: body) :
    splitRepRequest arrived = some ([], .multipart body) := by
  rw [splitRepRequest_eq, delimited]
  rfl

theorem postRecv_wrap_of_parts (typeState : TypeState) (peer : Peer)
    (delimited : arrived.parts = [] :: body) :
    ∃ stripped : Message, stripped.parts = body ∧
      typeState.postRecv .rep (table.wrap peer arrived) =
        (some stripped, { typeState with repEnvelope := some [table.identity peer] }) := by
  have received := table.postRecv_wrap peer arrived typeState
  rwa [delimited] at received

/-- Behind its delimiter a body without an empty second part is received as it is, and the reply
goes back behind a delimiter. -/
theorem serve_of_parts (typeState : TypeState) (peer : Peer)
    (delimited : arrived.parts = [] :: body) (plain : body[1]? ≠ some []) (reply : Message) :
    ∃ seen wire : Message, seen.parts = body ∧ wire.parts = [] :: reply.parts ∧
      serve path table typeState peer arrived reply = some (seen, some (peer, wire)) := by
  cases path with
  | latency =>
    have received := repReceive_of_parts
      (by rwa [parts_multipart] : (multipart body).parts[1]? ≠ some []) typeState
    refine ⟨.multipart body, repReplyWithEnvelope [] reply, parts_multipart body,
      parts_multipart _, ?_⟩
    simp only [serve, splitRepRequest_of_parts delimited, received]
  | throughput =>
    obtain ⟨stripped, parts_eq, stripped_eq⟩ :=
      postRecv_wrap_of_parts table typeState peer delimited
    have received := repReceive_of_parts (by rwa [parts_eq] : stripped.parts[1]? ≠ some [])
      { typeState with repEnvelope := some [table.identity peer] }
    have starts : (reply.withRepEnvelope [table.identity peer]).parts =
        table.identity peer :: ([] :: reply.parts) := parts_withRepEnvelope _ _
    obtain ⟨wire, wire_eq, routed⟩ := table.send_of_parts starts
    refine ⟨stripped, wire, parts_eq, wire_eq, ?_⟩
    simp only [serve, stripped_eq, received]
    simp [TypeState.preSend, TypeState.checkFrameCount, routed, Except.toOption]

theorem serve_of_empty (typeState : TypeState) (peer : Peer)
    (delimited : arrived.parts = [] :: body) (second : body[1]? = some []) (reply : Message) :
    ∃ (seen : Message) (routed : Option (Peer × Message)),
      serve path table typeState peer arrived reply = some (seen, routed) ∧
        seen.parts.length < body.length := by
  cases path with
  | latency =>
    obtain ⟨seen, after, received, shorter⟩ := repReceive_of_empty
      (by rwa [parts_multipart] : (multipart body).parts[1]? = some []) typeState
    rw [parts_multipart] at shorter
    refine ⟨seen, some (peer, repReplyWithEnvelope [] reply), ?_, shorter⟩
    simp only [serve, splitRepRequest_of_parts delimited, received]
  | throughput =>
    obtain ⟨stripped, parts_eq, stripped_eq⟩ :=
      postRecv_wrap_of_parts table typeState peer delimited
    obtain ⟨seen, after, received, shorter⟩ := repReceive_of_empty
      (by rwa [parts_eq] : stripped.parts[1]? = some [])
      { typeState with repEnvelope := some [table.identity peer] }
    rw [parts_eq] at shorter
    simp only [serve, stripped_eq, received]
    cases TypeState.preSend .rep reply after with
    | error error state => exact ⟨seen, _, rfl, shorter⟩
    | ok message state => exact ⟨seen, _, rfl, shorter⟩

/-- A request and its reply come through whole exactly if the request does not start with a
delimiter in compact form and its second part is not empty. -/
theorem exchange_faithful_iff [DecidableEq Peer] (path : ReceivePath) (carrier : Carrier)
    (table : IdentityTable Peer) (typeState : TypeState) (peer : Peer) (request reply : Message) :
    (∃ seen answered : Message,
      exchange path carrier table typeState peer request reply = some (seen, some answered) ∧
        seen.parts = request.parts ∧ answered.parts = reply.parts) ↔
      ¬request.CompactDelimited ∧ request.parts[1]? ≠ some [] := by
  have delimited : (carrier.carry (reqSend request)).parts = [] :: bodyParts request := by
    rw [carrier.parts_carry, parts_reqSend]
  by_cases second : (bodyParts request)[1]? = some []
  · obtain ⟨seen, routed, served, shorter⟩ :=
      serve_of_empty path table typeState peer delimited second reply
    refine iff_of_false ?_ ?_
    · rintro ⟨returned, answered, exchanged, returned_eq, _⟩
      have same : seen = returned := by
        simp only [exchange, served, Option.map_some, Option.some.injEq, Prod.mk.injEq] at exchanged
        exact exchanged.1
      rw [same, returned_eq] at shorter
      exact absurd (length_bodyParts_le request) (Nat.not_le.mpr shorter)
    · rintro ⟨whole, plain⟩
      rw [(bodyParts_eq_iff request).mpr whole] at second
      exact plain second
  · obtain ⟨seen, wire, seen_eq, wire_eq, served⟩ :=
      serve_of_parts path table typeState peer delimited second reply
    obtain ⟨answered, answered_eq, received⟩ :=
      reqReceive_of_parts ((carrier.parts_carry wire).trans wire_eq)
    have exchanged : exchange path carrier table typeState peer request reply =
        some (seen, some answered) := by
      simp [exchange, served, received]
    rw [exchanged]
    constructor
    · rintro ⟨_, _, same, returned_eq, _⟩
      obtain ⟨rfl, _⟩ : seen = _ ∧ answered = _ := by simpa using same
      have whole : bodyParts request = request.parts := seen_eq.symm.trans returned_eq
      exact ⟨(bodyParts_eq_iff request).mp whole, by rwa [whole] at second⟩
    · rintro ⟨whole, _⟩
      exact ⟨seen, answered, rfl, seen_eq.trans ((bodyParts_eq_iff request).mpr whole), answered_eq⟩

/-- The parts which REP receives on both paths when the second part of a request is empty, and when
a request with a compact delimiter is sent. -/
theorem requests_received_short :
    (exchange .latency ⟨id, fun _ => rfl⟩ .pair .new true (.multipart [[97], []])
        (.ofSingle [98])).map (fun result => result.1.parts) = some [] ∧
      (exchange .throughput ⟨id, fun _ => rfl⟩ .pair .new true (.multipart [[97], []])
        (.ofSingle [98])).map (fun result => (result.1.parts, result.2)) = some ([], none) ∧
      (exchange .latency ⟨id, fun _ => rfl⟩ .pair .new true ((ofSingle [97]).withPrefix [])
        (.ofSingle [98])).map (fun result => result.1.parts) = some [[97]] := by
  decide +kernel

end ReqRep

end Omq
