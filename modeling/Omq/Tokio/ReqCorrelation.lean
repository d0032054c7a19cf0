import Omq.Tokio.ReqRep

/-!
# Replies and requests of a REQ socket

The drivers of all peers push what they receive into the queues of the socket, and `recv` returns
the next message which starts with a delimiter.  Neither looks at the alternation flag or at the
peer the request went to.  A run in which peers send nothing but one reply to the outstanding
request pairs replies and requests; any other message is taken for a reply.
-/

namespace Omq

open ReqRep Function Transition List

/-- What happened at a REQ socket. -/
inductive ReqEvent (Peer : Type)
  /-- A request was accepted for a peer. -/
  | sent (peer : Peer) (wire : Message)
  | arrived (peer : Peer) (message : Message)
  /-- A call of `recv` returned. -/
  | returned (body : Message)
  deriving DecidableEq

structure ReqSocket (Peer : Type) where
  reqAwaitingReply : Bool
  /-- What the driver of each peer queued. -/
  received : Peer → List Message
  history : List (ReqEvent Peer)

namespace ReqSocket

variable {Peer : Type}

/-- A socket before the first call. -/
def fresh : ReqSocket Peer := ⟨false, fun _ => [], []⟩

/-- A call, an arrival, or one turn of the loop of `recv`. -/
inductive Action (Peer : Type)
  /-- `send`: the routing layer takes the request for a peer or refuses it. -/
  | send (request : Message) (target : Option Peer)
  | arrive (peer : Peer) (message : Message)
  /-- `recv` takes the next message from the queue of a peer. -/
  | take (peer : Peer)

variable [DecidableEq Peer]

def step (socket : ReqSocket Peer) : Action Peer → Option (ReqSocket Peer)
  | .send request target =>
    if socket.reqAwaitingReply then
      -- the call returns the alternation error
      some socket
    else
      match target with
      | some peer =>
        some { socket with
          reqAwaitingReply := true
          history := socket.history ++ [.sent peer (reqSend request)] }
      | none =>
        -- the flag is taken back
        some socket
  | .arrive peer message =>
    some { socket with
      received := update socket.received peer (socket.received peer ++ [message])
      history := socket.history ++ [.arrived peer message] }
  | .take peer =>
    match socket.received peer with
    | [] => none
    | message :: rest =>
      match reqReceive message with
      | some body =>
        some {
          reqAwaitingReply := false
          received := update socket.received peer rest
          history := socket.history ++ [.returned body] }
      | none =>
        -- without a delimiter the loop goes on
        some { socket with received := update socket.received peer rest }

/-! ## Correlation -/

def replyOf (peer : Peer) : ReqEvent Peer → Option Message
  | .arrived from_peer message => if from_peer = peer then reqReceive message else none
  | _ => none

def IsArrival : ReqEvent Peer → Prop
  | .arrived _ _ => True
  | _ => False

variable (history : List (ReqEvent Peer))

/-- After these events `body` is the reply to the outstanding request: the latest request went to
a peer, nothing was returned since, and `body` is the first reply of that peer since then. -/
def Answers (body : Message) : Prop :=
  ∃ earlier peer wire since, history = earlier ++ .sent peer wire :: since ∧
    (∀ event ∈ since, IsArrival event) ∧ (since.filterMap (replyOf peer)).head? = some body

/-- Whatever was returned answered the outstanding request. -/
def Correlated : Prop :=
  ∀ before body after, history = before ++ .returned body :: after → Answers before body

/-! ## Runs with solicited replies only -/

/-- The peer of a request which nobody answered so far. -/
def openRequest : Option Peer :=
  history.foldl (fun current event =>
    match event with
    | .sent peer _ => some peer
    | .arrived _ message => if (reqReceive message).isSome then none else current
    | .returned _ => none) none

/-- A message which starts with a delimiter arrives only from the peer of the unanswered request. -/
def Solicited (socket : ReqSocket Peer) : Action Peer → Prop
  | .arrive peer message => (reqReceive message).isSome → openRequest socket.history = some peer
  | _ => True

instance (socket : ReqSocket Peer) : (action : Action Peer) → Decidable (Solicited socket action)
  | .arrive peer message => inferInstanceAs
      (Decidable ((reqReceive message).isSome → openRequest socket.history = some peer))
  | .send _ _ => inferInstanceAs (Decidable True)
  | .take _ => inferInstanceAs (Decidable True)

omit [DecidableEq Peer] in
theorem openRequest_append (event : ReqEvent Peer) :
    openRequest (history ++ [event]) =
      match event with
      | .sent peer _ => some peer
      | .arrived _ message => if (reqReceive message).isSome then none else openRequest history
      | .returned _ => none := by
  rw [openRequest, foldl_append]
  cases event <;> rfl

variable {history : List (ReqEvent Peer)} {messages : List Message} {message : Message}
  {peer : Peer} {body : Message} {socket after : ReqSocket Peer} {rest : List Message}

/-- Since an unanswered request nothing but messages without a delimiter arrived. -/
theorem since_openRequest (unanswered : openRequest history = some peer) :
    ∃ earlier wire since, history = earlier ++ .sent peer wire :: since ∧
      (∀ event ∈ since, IsArrival event) ∧ since.filterMap (replyOf peer) = [] := by
  induction history using List.reverseRecOn with
  | nil => cases unanswered
  | append_singleton history event ih =>
    rw [openRequest_append] at unanswered
    cases event with
    | sent target wire =>
      cases unanswered
      exact ⟨history, wire, [], rfl, by simp, rfl⟩
    | returned body => cases unanswered
    | arrived source message =>
      by_cases reply : (reqReceive message).isSome
      · simp [reply] at unanswered
      · simp only [reply] at unanswered
        obtain ⟨earlier, wire, since, rfl, arrivals, silent⟩ := ih unanswered
        refine ⟨earlier, wire, since ++ [.arrived source message], by simp, ?_, ?_⟩
        · exact forall_mem_append.mpr ⟨arrivals, forall_mem_singleton.mpr trivial⟩
        · have no_reply : reqReceive message = none := by simpa using reply
          simp [silent, replyOf, no_reply]

/-- No message in a queue starts with a delimiter. -/
def Quiet (messages : List Message) : Prop := ∀ message ∈ messages, reqReceive message = none

/-- Where a socket can be while all replies are solicited. -/
inductive Phase (socket : ReqSocket Peer) : Prop
  | quiet (queues : ∀ peer, Quiet (socket.received peer))
      (flag : (openRequest socket.history).isSome → socket.reqAwaitingReply = true)
  /-- The reply to the outstanding request is queued, and nothing else to return. -/
  | replied (peer : Peer) (front back : List Message) (reply body : Message)
      (queue : socket.received peer = front ++ reply :: back)
      (content : reqReceive reply = some body) (front_quiet : Quiet front)
      (back_quiet : Quiet back) (others : ∀ other, other ≠ peer → Quiet (socket.received other))
      (flag : socket.reqAwaitingReply = true) (answered : openRequest socket.history = none)
      (answers : Answers socket.history body)

/-- What every action keeps while all replies are solicited. -/
structure Sound (socket : ReqSocket Peer) : Prop where
  correlated : Correlated socket.history
  phase : Phase socket

theorem Correlated.append (correlated : Correlated history) {event : ReqEvent Peer}
    (other : ∀ body, event ≠ .returned body) : Correlated (history ++ [event]) := by
  intro before body after split
  obtain rfl | ⟨rest, last, rfl⟩ := eq_nil_or_concat' after
  · obtain ⟨_, same⟩ := append_inj' split rfl
    exact absurd (singleton_inj.mp same) (other body)
  · rw [← cons_append, ← append_assoc] at split
    obtain ⟨same, _⟩ := append_inj' split rfl
    exact correlated before body rest same

theorem Correlated.returned (correlated : Correlated history) (answers : Answers history body) :
    Correlated (history ++ [.returned body]) := by
  intro before other after split
  obtain rfl | ⟨rest, last, rfl⟩ := eq_nil_or_concat' after
  · obtain ⟨same, last_eq⟩ := append_inj' split rfl
    cases last_eq
    rw [← same]
    exact answers
  · rw [← cons_append, ← append_assoc] at split
    obtain ⟨same, _⟩ := append_inj' split rfl
    exact correlated before other rest same

/-- Another arrival does not change which reply is the first. -/
theorem Answers.arrived (answers : Answers history body) (peer : Peer) (message : Message) :
    Answers (history ++ [.arrived peer message]) body := by
  obtain ⟨earlier, target, wire, since, rfl, arrivals, first⟩ := answers
  refine ⟨earlier, target, wire, since ++ [.arrived peer message], by simp, ?_, ?_⟩
  · exact forall_mem_append.mpr ⟨arrivals, forall_mem_singleton.mpr trivial⟩
  · rw [filterMap_append, List.head?_append, first]
    rfl

theorem Quiet.update {received : Peer → List Message} (queues : ∀ other, Quiet (received other))
    (quiet : Quiet messages) (other : Peer) : Quiet (update received peer messages other) :=
  (forall_update_iff received fun _ => Quiet).mpr ⟨quiet, fun other _ => queues other⟩ other

omit [DecidableEq Peer] in
theorem Quiet.append_singleton (quiet : Quiet messages) (silent : reqReceive message = none) :
    Quiet (messages ++ [message]) :=
  forall_mem_append.mpr ⟨quiet, forall_mem_singleton.mpr silent⟩

theorem Sound.send (sound : socket.Sound) {request : Message} {target : Option Peer}
    (stepped : socket.step (.send request target) = some after) : after.Sound := by
  unfold step at stepped
  split_ifs at stepped with awaiting
  · cases stepped
    exact sound
  · cases target with
    | none =>
      cases stepped
      exact sound
    | some peer =>
      cases stepped
      refine ⟨sound.correlated.append (fun _ => nofun), ?_⟩
      cases sound.phase with
      | quiet queues _ => exact .quiet queues fun _ => rfl
      | replied _ _ _ _ _ _ _ _ _ _ flag => exact absurd flag awaiting

theorem Sound.arrive_silent {socket : ReqSocket Peer} (sound : socket.Sound) (peer : Peer)
    {message : Message} (silent : reqReceive message = none) :
    Phase { socket with
      received := update socket.received peer (socket.received peer ++ [message])
      history := socket.history ++ [.arrived peer message] } := by
  have same_request : openRequest (socket.history ++ [.arrived peer message]) =
      openRequest socket.history := by
    rw [openRequest_append]
    simp [silent]
  cases sound.phase with
  | quiet queues flag =>
    refine .quiet (Quiet.update queues ((queues peer).append_singleton silent)) ?_
    rw [same_request]
    exact flag
  | replied target front back reply body queue content front_quiet back_quiet others flag
      answered answers =>
      by_cases same : peer = target
      · subst same
        refine .replied peer front (back ++ [message]) reply body ?_ content front_quiet
          (back_quiet.append_singleton silent) ?_ flag (same_request.trans answered)
          (answers.arrived peer message)
        · simp [queue]
        · intro other differs
          simpa only [update_of_ne differs] using others other differs
      · refine .replied target front back reply body ?_ content front_quiet back_quiet ?_ flag
          (same_request.trans answered) (answers.arrived peer message)
        · simpa only [update_of_ne (Ne.symm same)] using queue
        · intro other differs
          by_cases sender : other = peer
          · subst sender
            simpa only [update_self] using (others other differs).append_singleton silent
          · simpa only [update_of_ne sender] using others other differs

/-- A solicited reply is queued: it is the first since the request. -/
theorem Sound.arrive_reply {socket : ReqSocket Peer} (sound : socket.Sound) {peer : Peer}
    {message body : Message} (reply : reqReceive message = some body)
    (solicited : openRequest socket.history = some peer) :
    Phase { socket with
      received := update socket.received peer (socket.received peer ++ [message])
      history := socket.history ++ [.arrived peer message] } := by
  cases sound.phase with
  | replied _ _ _ _ _ _ _ _ _ _ _ answered => cases answered.symm.trans solicited
  | quiet queues flag =>
    obtain ⟨earlier, wire, since, history_eq, arrivals, silent⟩ := since_openRequest solicited
    refine .replied peer (socket.received peer) [] message body ?_ reply (queues peer)
      (fun _ member => nomatch member) ?_ (flag (by rw [solicited]; rfl)) ?_ ?_
    · simp only [update_self]
    · intro other differs
      simpa only [update_of_ne differs] using queues other
    · rw [openRequest_append]
      simp [reply]
    · refine ⟨earlier, peer, wire, since ++ [.arrived peer message], by simp [history_eq], ?_, ?_⟩
      · exact forall_mem_append.mpr ⟨arrivals, forall_mem_singleton.mpr trivial⟩
      · simp [silent, replyOf, reply]

theorem Sound.arrive (sound : socket.Sound) (solicited : Solicited socket (.arrive peer message))
    (stepped : socket.step (.arrive peer message) = some after) : after.Sound := by
  cases stepped
  refine ⟨sound.correlated.append (fun _ => nofun), ?_⟩
  cases reply : reqReceive message with
  | none => exact sound.arrive_silent peer reply
  | some body => exact sound.arrive_reply reply (solicited (by rw [reply]; rfl))

/-- A message without a delimiter is taken while the reply is queued. -/
theorem Phase.dropped (phase : Phase socket) (queue_eq : socket.received peer = message :: rest)
    (silent : reqReceive message = none) :
    Phase { socket with received := update socket.received peer rest } := by
  cases phase with
  | quiet queues flag =>
    have quiet : Quiet (message :: rest) := queue_eq ▸ queues peer
    exact .quiet (Quiet.update queues fun other member => quiet other (by simp [member])) flag
  | replied target front back reply body queue content front_quiet back_quiet others flag
      answered answers =>
      by_cases same : peer = target
      · subst same
        have split := queue_eq.symm.trans queue
        cases front with
        | nil =>
          cases split
          cases silent.symm.trans content
        | cons first front =>
          obtain ⟨rfl, rfl⟩ := List.cons.inj split
          refine .replied peer front back reply body (by simp) content
            (fun other member => front_quiet other (by simp [member])) back_quiet ?_ flag answered
            answers
          intro other differs
          simpa only [update_of_ne differs] using others other differs
      · have quiet : Quiet (message :: rest) := queue_eq ▸ others peer same
        refine .replied target front back reply body ?_ content front_quiet back_quiet ?_ flag
          answered answers
        · simpa only [update_of_ne (Ne.symm same)] using queue
        · intro other differs
          by_cases taken : other = peer
          · subst taken
            have rest_quiet : Quiet rest := fun other member => quiet other (by simp [member])
            simpa only [update_self] using rest_quiet
          · simpa only [update_of_ne taken] using others other differs

/-- A message with a delimiter is the reply to the outstanding request, and the only one. -/
theorem Phase.taken (phase : Phase socket) (queue_eq : socket.received peer = message :: rest)
    (reply : reqReceive message = some body) :
    Answers socket.history body ∧ ∀ other, Quiet (update socket.received peer rest other) := by
  cases phase with
  | quiet queues _ =>
    have quiet : Quiet (message :: rest) := queue_eq ▸ queues peer
    cases (quiet message (by simp)).symm.trans reply
  | replied target front back queued content queue queued_eq front_quiet back_quiet others _ _
      answers =>
      by_cases same : peer = target
      · subst same
        have split := queue_eq.symm.trans queue
        cases front with
        | cons first front =>
          obtain ⟨rfl, rfl⟩ := List.cons.inj split
          cases (front_quiet message (by simp)).symm.trans reply
        | nil =>
          obtain ⟨rfl, rfl⟩ := List.cons.inj split
          cases queued_eq.symm.trans reply
          refine ⟨answers, fun other => ?_⟩
          by_cases differs : other = peer
          · rw [differs, update_self]
            exact back_quiet
          · rw [update_of_ne differs]
            exact others other differs
      · have quiet : Quiet (message :: rest) := queue_eq ▸ others peer same
        cases (quiet message (by simp)).symm.trans reply

theorem Sound.take (sound : socket.Sound) (stepped : socket.step (.take peer) = some after) :
    after.Sound := by
  simp only [step] at stepped
  split at stepped
  · cases stepped
  next message rest queue_eq =>
    split at stepped <;> cases stepped
    next body reply =>
      obtain ⟨answers, quiet⟩ := sound.phase.taken queue_eq reply
      refine ⟨sound.correlated.returned answers, .quiet quiet ?_⟩
      rw [openRequest_append]
      exact nofun
    next reply => exact ⟨sound.correlated, sound.phase.dropped queue_eq reply⟩

/-- In a run in which messages with a delimiter arrive only as the first reply of the peer the
outstanding request went to, whatever `recv` returns answers that request. -/
theorem correlated_of_solicited {final : ReqSocket Peer}
    (runs : Runs step Solicited fresh final) : Correlated final.history := by
  have sound : final.Sound := by
    refine runs.invariant (fun {before after action} solicited stepped sound => ?_)
      ⟨fun before body after split => absurd split (by simp [fresh]),
        .quiet (fun _ _ member => nomatch member) nofun⟩
    cases action with
    | send request target => exact sound.send stepped
    | arrive peer message => exact sound.arrive solicited stepped
    | take peer => exact sound.take stepped
  exact sound.correlated

/-- Of two peers the first is sent a request and answers, and its reply is returned. -/
theorem correlated_of_solicited_pair :
    ∃ final : ReqSocket Bool, Runs step Solicited fresh final ∧
      final.history.length = 3 ∧ Correlated final.history := by
  have runs : Runs step Solicited fresh _ := .computed [.send .empty (some false),
    .arrive false (.emptyDelimitedBytes [7]), .take false] (by decide +kernel)
  exact ⟨_, runs, by decide +kernel, correlated_of_solicited runs⟩

/-- The request went to the first peer, and a message of the second is returned as its reply. -/
theorem foreign_reply_returned :
    ∃ final : ReqSocket Bool, Reaches step fresh final ∧ ¬ Correlated final.history := by
  obtain ⟨final, reached, seen⟩ : ∃ final : ReqSocket Bool, Reaches step fresh final ∧
      final.history = [.sent false (reqSend .empty), .arrived true (.emptyDelimitedBytes [7]),
      .returned (Message.emptyDelimitedBytes [7]).popFront.2] :=
    exists_reaches [.send .empty (some false), .arrive true (.emptyDelimitedBytes [7]),
      .take true] (by decide +kernel)
  refine ⟨final, reached, fun correlated => ?_⟩
  obtain ⟨earlier, peer, wire, since, split, -, first⟩ := correlated [_, _] _ [] seen
  cases earlier with
  | nil =>
    cases split
    cases first
  | cons _ earlier =>
    obtain ⟨-, split⟩ := List.cons.inj split
    cases earlier with
    | nil => cases split
    | cons _ earlier => simp at split

end ReqSocket

end Omq
