import Omq.Proto.TypeState

/-!
# Alternation of request and reply sockets

A socket calls its type state in any order and with any messages.  The history of such calls says
which request a reply answers: the latest one accepted, if no reply was accepted after it.  The two
fields of the type state are what this reading of the history needs.
-/

namespace Omq.TypeState

inductive Call
  | preSend (socketType : SocketType) (message : Message)
  | postRecv (socketType : SocketType) (message : Message)

inductive Answer
  | sent (message : Message)
  | refused (error : Error)
  | received (message : Message)
  | dropped

/-- The call was not rejected. -/
def Answer.accepted : Answer → Bool
  | .sent _ | .received _ => true
  | .refused _ | .dropped => false

/-- A call and its answer. -/
structure Entry where
  call : Call
  answer : Answer

def Call.socketType : Call → SocketType
  | .preSend socketType _ | .postRecv socketType _ => socketType

def Entry.AcceptedFor (entry : Entry) (socketType : SocketType) : Prop :=
  entry.call.socketType = socketType ∧ entry.answer.accepted = true

def perform (state : TypeState) : Call → Answer × TypeState
  | .preSend socketType message =>
    match preSend socketType message state with
    | .ok wire after => (.sent wire, after)
    | .error error after => (.refused error, after)
  | .postRecv socketType message =>
    match postRecv socketType message state with
    | (some body, after) => (.received body, after)
    | (none, after) => (.dropped, after)

/-- Make calls one after the other, and keep their answers. -/
def performAll : List Call → TypeState → List Entry × TypeState
  | [], state => ([], state)
  | call :: calls, state =>
    let (answer, next) := perform state call
    let (entries, final) := performAll calls next
    (⟨call, answer⟩ :: entries, final)

/-! ## What the history of calls says -/

/-- The latest accepted REP call was a request, with this envelope. -/
def UnansweredRequest (history : List Entry) (envelope : List Bytes) : Prop :=
  ∃ (earlier later : List Entry) (request body : Message),
    history = earlier ++ ⟨.postRecv .rep request, .received body⟩ :: later ∧
      (∀ entry ∈ later, ¬entry.AcceptedFor .rep) ∧
      request.parts = envelope ++ [] :: body.parts ∧ ∀ part ∈ envelope, part ≠ []

/-- The latest accepted REQ call was a send. -/
def UnansweredSend (history : List Entry) : Prop :=
  ∃ (earlier later : List Entry) (request wire : Message),
    history = earlier ++ ⟨.preSend .req request, .sent wire⟩ :: later ∧
      ∀ entry ∈ later, ¬entry.AcceptedFor .req

structure Permits (history : List Entry) (entry : Entry) : Prop where
  /-- An accepted reply carries the envelope of the latest request, which has no other reply. -/
  reply : ∀ {message wire : Message}, entry = ⟨.preSend .rep message, .sent wire⟩ →
    ∃ envelope, UnansweredRequest history envelope ∧ wire.parts = envelope ++ [] :: message.parts
  /-- An accepted answer follows a send which has no other answer. -/
  answer : ∀ {message body : Message}, entry = ⟨.postRecv .req message, .received body⟩ →
    UnansweredSend history

/-- Entries which are neither a reply nor an answer are always permitted. -/
theorem permits_of_other {history : List Entry} {entry : Entry}
    (notReply : ¬(entry.call.socketType = .rep ∧ ∃ wire, entry.answer = .sent wire))
    (notAnswer : ¬(entry.call.socketType = .req ∧ ∃ body, entry.answer = .received body)) :
    Permits history entry where
  reply same := by
    subst same
    exact absurd ⟨rfl, _, rfl⟩ notReply
  answer same := by
    subst same
    exact absurd ⟨rfl, _, rfl⟩ notAnswer

variable {history : List Entry} {entry : Entry} {state : TypeState}

theorem UnansweredRequest.snoc {envelope : List Bytes}
    (unanswered : UnansweredRequest history envelope) (other : ¬entry.AcceptedFor .rep) :
    UnansweredRequest (history ++ [entry]) envelope := by
  obtain ⟨earlier, later, request, body, rfl, quiet, parts, named⟩ := unanswered
  refine ⟨earlier, later ++ [entry], request, body, by simp, ?_, parts, named⟩
  simpa [or_imp, forall_and] using ⟨quiet, other⟩

theorem UnansweredSend.snoc (unanswered : UnansweredSend history)
    (other : ¬entry.AcceptedFor .req) : UnansweredSend (history ++ [entry]) := by
  obtain ⟨earlier, later, request, wire, rfl, quiet⟩ := unanswered
  refine ⟨earlier, later ++ [entry], request, wire, by simp, ?_⟩
  simpa [or_imp, forall_and] using ⟨quiet, other⟩

/-! ## Calls -/

inductive Effect (state : TypeState) : Call → Answer → TypeState → Prop
  | rejected (call : Call) {answer : Answer} (refusal : answer.accepted = false) :
      Effect state call answer state
  | request {envelope : List Bytes} {message body : Message}
      (parts : message.parts = envelope ++ [] :: body.parts)
      (named : ∀ part ∈ envelope, part ≠ []) :
      Effect state (.postRecv .rep message) (.received body)
        { state with repEnvelope := some envelope }
  | reply {envelope : List Bytes} {message wire : Message}
      (saved : state.repEnvelope = some envelope)
      (parts : wire.parts = envelope ++ [] :: message.parts) :
      Effect state (.preSend .rep message) (.sent wire) { state with repEnvelope := none }
  | ask (message wire : Message) :
      Effect state (.preSend .req message) (.sent wire) { state with reqAwaitingReply := true }
  | answered {message body : Message} (awaiting : state.reqAwaitingReply = true) :
      Effect state (.postRecv .req message) (.received body)
        { state with reqAwaitingReply := false }
  | other {call : Call} (answer : Answer) (notReq : call.socketType ≠ .req)
      (notRep : call.socketType ≠ .rep) : Effect state call answer state

theorem effect_postRecv_rep (state : TypeState) (message : Message) :
    Effect state (.postRecv .rep message) (perform state (.postRecv .rep message)).1
      (perform state (.postRecv .rep message)).2 := by
  have spec := postRecv_rep message state
  cases split : splitAtDelimiter message.parts with
  | none =>
    rw [split] at spec
    simp only [perform, spec]
    exact .rejected _ rfl
  | some pair =>
    obtain ⟨envelope, body⟩ := pair
    rw [split] at spec
    obtain ⟨stripped, rfl, result⟩ := spec
    obtain ⟨parts, named⟩ := eq_of_splitAtDelimiter split
    simp only [perform, result]
    exact .request parts named

theorem effect_postRecv_req (state : TypeState) (message : Message) :
    Effect state (.postRecv .req message) (perform state (.postRecv .req message)).1
      (perform state (.postRecv .req message)).2 := by
  cases awaiting : state.reqAwaitingReply with
  | false =>
    simp only [perform, postRecv, awaiting]
    exact .rejected _ rfl
  | true =>
    simp only [perform, postRecv, awaiting]
    cases message.partsPayload with
    | nil => exact .rejected _ rfl
    | cons first rest =>
      cases empty : first.isEmpty with
      | false =>
        simp only [empty]
        exact .rejected _ rfl
      | true =>
        simp only [empty]
        exact .answered awaiting

theorem effect_preSend_rep (state : TypeState) (message : Message) :
    Effect state (.preSend .rep message) (perform state (.preSend .rep message)).1
      (perform state (.preSend .rep message)).2 := by
  rw [perform, preSend_rep]
  cases saved : state.repEnvelope with
  | none => exact .rejected _ rfl
  | some envelope => exact .reply saved (Message.parts_withRepEnvelope envelope message)

theorem effect_preSend_req (state : TypeState) (message : Message) :
    Effect state (.preSend .req message) (perform state (.preSend .req message)).1
      (perform state (.preSend .req message)).2 := by
  rw [perform, preSend_req]
  cases state.reqAwaitingReply with
  | false => exact .ask message _
  | true => exact .rejected _ rfl

variable {call : Call} {answer : Answer}

theorem perform_other (state : TypeState) (notReq : call.socketType ≠ .req)
    (notRep : call.socketType ≠ .rep) : (perform state call).2 = state := by
  cases call with
  | preSend socketType message =>
    have result := @preSend_other socketType notReq notRep message state
    simp only [perform, result]
    cases checkFrameCount socketType message <;> rfl
  | postRecv socketType message =>
    cases socketType with
    | req | rep => contradiction
    | dish =>
      rw [perform, postRecv]
      by_cases two : message.len = 2 <;> simp [two]
    | _ => rfl

theorem effect_perform (state : TypeState) (call : Call) :
    Effect state call (perform state call).1 (perform state call).2 := by
  by_cases req : call.socketType = .req
  · cases call with
    | preSend socketType message =>
      obtain rfl : socketType = .req := req
      exact effect_preSend_req state message
    | postRecv socketType message =>
      obtain rfl : socketType = .req := req
      exact effect_postRecv_req state message
  by_cases rep : call.socketType = .rep
  · cases call with
    | preSend socketType message =>
      obtain rfl : socketType = .rep := rep
      exact effect_preSend_rep state message
    | postRecv socketType message =>
      obtain rfl : socketType = .rep := rep
      exact effect_postRecv_rep state message
  rw [perform_other state req rep]
  exact .other _ req rep

/-! ## Histories -/

/-- The type state says what the history of calls says. -/
structure Follows (history : List Entry) (state : TypeState) : Prop where
  request : ∀ envelope, state.repEnvelope = some envelope → UnansweredRequest history envelope
  send : state.reqAwaitingReply = true → UnansweredSend history

theorem not_acceptedFor (refusal : answer.accepted = false) (socketType : SocketType) :
    ¬Entry.AcceptedFor ⟨call, answer⟩ socketType := by
  rintro ⟨_, accepted⟩
  exact Bool.false_ne_true (refusal.symm.trans accepted)

theorem Follows.perform {next : TypeState} (follows : Follows history state)
    (effect : Effect state call answer next) :
    Permits history ⟨call, answer⟩ ∧ Follows (history ++ [⟨call, answer⟩]) next := by
  cases effect with
  | rejected _ refusal =>
    refine ⟨permits_of_other ?_ ?_, fun envelope saved => ?_, fun awaiting => ?_⟩
    · rintro ⟨_, wire, rfl⟩
      cases refusal
    · rintro ⟨_, body, rfl⟩
      cases refusal
    · exact (follows.request envelope saved).snoc (not_acceptedFor refusal _)
    · exact (follows.send awaiting).snoc (not_acceptedFor refusal _)
  | request parts named =>
    refine ⟨permits_of_other (by simp) (by simp [Call.socketType]), fun envelope saved => ?_,
      fun awaiting => ?_⟩
    · cases saved
      exact ⟨history, [], _, _, rfl, List.forall_mem_nil _, parts, named⟩
    · exact (follows.send awaiting).snoc fun accepted => nomatch accepted.1
  | reply saved parts =>
    refine ⟨⟨?_, fun same => nomatch same⟩,
      ⟨fun envelope saved => (nomatch saved), fun awaiting => ?_⟩⟩
    · rintro message wire ⟨⟩
      exact ⟨_, follows.request _ saved, parts⟩
    · exact (follows.send awaiting).snoc fun accepted => nomatch accepted.1
  | ask message wire =>
    refine ⟨permits_of_other (by simp [Call.socketType]) (by simp), fun envelope saved => ?_,
      fun _ => ?_⟩
    · exact (follows.request envelope saved).snoc fun accepted => nomatch accepted.1
    · exact ⟨history, [], _, _, rfl, List.forall_mem_nil _⟩
  | answered awaiting =>
    refine ⟨⟨fun same => (nomatch same), fun _ => follows.send awaiting⟩,
      ⟨fun envelope saved => ?_, fun awaiting => nomatch awaiting⟩⟩
    exact (follows.request envelope saved).snoc fun accepted => nomatch accepted.1
  | other _ notReq notRep =>
    refine ⟨permits_of_other (fun same => notRep same.1) (fun same => notReq same.1),
      fun envelope saved => ?_, fun awaiting => ?_⟩
    · exact (follows.request envelope saved).snoc fun accepted => notRep accepted.1
    · exact (follows.send awaiting).snoc fun accepted => notReq accepted.1

/-- Every entry of a run is permitted by what came before it. -/
theorem permits_performAll (follows : Follows history state) (calls : List Call)
    {earlier later : List Entry} (split : (performAll calls state).1 = earlier ++ entry :: later) :
    Permits (history ++ earlier) entry := by
  induction calls generalizing history state earlier with
  | nil => simp [performAll] at split
  | cons call calls induction =>
    obtain ⟨permitted, following⟩ := follows.perform (effect_perform state call)
    cases earlier with
    | nil =>
      obtain ⟨rfl, _⟩ := List.cons.inj split
      rwa [List.append_nil]
    | cons first earlier =>
      obtain ⟨rfl, rest⟩ := List.cons.inj split
      rw [List.append_cons]
      exact induction following rest

theorem follows_new : Follows [] new where
  request _ saved := nomatch saved
  send awaiting := nomatch awaiting

theorem perform_rejected (rejected : (perform state call).1.accepted = false) :
    (perform state call).2 = state := by
  have effect := effect_perform state call
  generalize (perform state call).1 = answer, (perform state call).2 = next at effect rejected ⊢
  cases effect with
  | rejected | other => rfl
  | _ => cases rejected

/-- A reply to a request with identities in front of its delimiter has them in front of its own. -/
theorem reply_envelope (state : TypeState) {identities body : List Bytes}
    (named : ∀ identity ∈ identities, identity ≠ []) {request : Message}
    (parts : request.parts = identities ++ [] :: body) (reply : Message) :
    ∃ (received wire : Message) (pending answered : TypeState),
      perform state (.postRecv .rep request) = (.received received, pending) ∧
        received.parts = body ∧
        perform pending (.preSend .rep reply) = (.sent wire, answered) ∧
        wire.parts = identities ++ [] :: reply.parts := by
  have spec := postRecv_rep request state
  rw [parts, splitAtDelimiter_append named] at spec
  obtain ⟨received, received_parts, result⟩ := spec
  refine ⟨received, reply.withRepEnvelope identities, { state with repEnvelope := some identities },
    { state with repEnvelope := none }, by rw [perform, result], received_parts, ?_,
    Message.parts_withRepEnvelope identities reply⟩
  rw [perform, preSend_rep]

/-- The type state of a socket: a reply carries its request's envelope, in every history of calls
each accepted reply answers the latest request and each accepted answer the latest send, and a
rejected call changes nothing. -/
theorem envelope_and_alternation :
    (∀ (state : TypeState) (identities body : List Bytes) (request reply : Message),
      (∀ identity ∈ identities, identity ≠ []) → request.parts = identities ++ [] :: body →
        ∃ (received wire : Message) (pending answered : TypeState),
          perform state (.postRecv .rep request) = (.received received, pending) ∧
            received.parts = body ∧
            perform pending (.preSend .rep reply) = (.sent wire, answered) ∧
            wire.parts = identities ++ [] :: reply.parts) ∧
      (∀ (calls : List Call) (earlier later : List Entry) (entry : Entry),
        (performAll calls new).1 = earlier ++ entry :: later → Permits earlier entry) ∧
      ∀ (state : TypeState) (call : Call),
        (perform state call).1.accepted = false → (perform state call).2 = state := by
  refine ⟨fun state identities body request reply named parts => ?_,
    fun calls earlier later entry split => ?_, fun state call => perform_rejected⟩
  · exact reply_envelope state named parts reply
  · exact permits_performAll follows_new calls split

/-- A request through two routers. -/
theorem envelope_of_two_identities :
    ∃ (received wire : Message) (pending answered : TypeState),
      perform new (.postRecv .rep (.multipart [[1], [2], [], [3]])) =
          (.received received, pending) ∧
        received.parts = [[3]] ∧
        perform pending (.preSend .rep (.ofSingle [4])) = (.sent wire, answered) ∧
        wire.parts = [[1], [2]] ++ [] :: [[4]] :=
  envelope_and_alternation.1 new [[1], [2]] [[3]] (.multipart [[1], [2], [], [3]]) (.ofSingle [4])
    (by decide) (by decide)

end Omq.TypeState
