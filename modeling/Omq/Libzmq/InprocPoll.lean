import Omq.Library.EdgeSignal
import Omq.Libzmq.ByteRingRefinement

/-!
# Polling an inproc bypass

The receiver of a byte ring polls a notification which the sender signals when it finds the ring
empty before it publishes a payload.  Receiving drains the notification when the ring becomes empty,
and `zmq_poll` drains it before it looks at the ring a second time and blocks.  As the sender looks
before it publishes, a receiver which takes the last payload and blocks in between is not signalled.
-/

namespace Omq.Libzmq

open EdgeSignal Transition ByteRing
open WrappingCursor (cursorAt)

/-- Where the thread of the receiver is between two accesses. -/
inductive RecvPhase
  | idle
  /-- A look at the next entry loads the tail. -/
  | peeking (phase : PeekPhase)
  /-- The entry was copied; store the head. -/
  | releasing (data : Bytes)
  /-- The head is stored; load the tail. -/
  | checkingEmpty
  /-- The ring is empty; drain the notification. -/
  | draining
  /-- `zmq_poll` loads the tail. -/
  | pollChecking
  /-- `zmq_poll` drains the notification. -/
  | preparing
  /-- `zmq_poll` loads the tail again. -/
  | pollRechecking
  /-- `zmq_poll` waits for the notification. -/
  | blocked
  /-- `zmq_recv` waits for the notification, for a limited time. -/
  | waiting
  | waitDraining
  /-- A look at the next entry panicked. -/
  | panicked
  deriving DecidableEq

/-- A byte ring with the notification of its receiver. -/
structure InprocPoll where
  bytes : ByteRing
  receiving : RecvPhase
  signalled : Bool

/-- Steps of both threads. -/
inductive PollAction
  | send (action : ByteRing.SendAction)
  | signal
  /-- `zmq_recv` without waiting begins. -/
  | recv
  | recvWait
  /-- `zmq_poll` begins. -/
  | poll
  | receive
  | timeout

/-- A ring of 64 bytes. -/
def smallRing : RingLayout := ⟨6, by decide, by decide⟩

namespace InprocPoll

variable (layout : RingLayout)

/-- An empty ring whose receiver does nothing. -/
def new : InprocPoll := ⟨.new, .idle, false⟩

variable (poll : InprocPoll)

/-- Go on with what a look at the next entry came to. -/
def peeked (result : ByteRing.Peeked × ByteRing) : InprocPoll :=
  { poll with
    bytes := result.2
    receiving := match result.1 with
      | .load phase => .peeking phase
      | .found data => .releasing data
      | .nothing => .idle
      | .panicked => .panicked }

/-- Begin a look at the next entry. -/
def peek : InprocPoll := poll.peeked (poll.bytes.beginPeek layout)

/-- The next access of the receiver; `none` while it waits. -/
def receiveStep : Option InprocPoll :=
  match poll.receiving with
  | .idle | .panicked => none
  | .peeking phase => some (poll.peeked (poll.bytes.loadPeek layout phase))
  | .releasing data =>
    some { poll with bytes := poll.bytes.advanceAndRelease data, receiving := .checkingEmpty }
  | .checkingEmpty =>
    some { poll with receiving := if poll.bytes.isEmpty then .draining else .idle }
  | .draining => some { poll with signalled := false, receiving := .idle }
  | .pollChecking =>
    some { poll with receiving := if poll.bytes.isEmpty then .preparing else .idle }
  | .preparing => some { poll with signalled := false, receiving := .pollRechecking }
  | .pollRechecking =>
    some { poll with receiving := if poll.bytes.isEmpty then .blocked else .idle }
  | .blocked => if poll.signalled then some { poll with receiving := .idle } else none
  | .waiting => if poll.signalled then some { poll with receiving := .waitDraining } else none
  | .waitDraining => some (({ poll with signalled := false } : InprocPoll).peek layout)

/-- One access of either thread. -/
def step : PollAction → Option InprocPoll
  | .send action => (poll.bytes.sendStep layout action).map fun bytes => { poll with bytes }
  | .signal =>
    match poll.bytes.sending with
    | .signalling =>
      some { poll with bytes := { poll.bytes with sending := .idle }, signalled := true }
    | _ => none
  | .recv =>
    match poll.receiving with
    | .idle => some (poll.peek layout)
    | _ => none
  | .recvWait =>
    match poll.receiving with
    | .idle => some { poll with receiving := .waiting }
    | _ => none
  | .poll =>
    match poll.receiving with
    | .idle => some { poll with receiving := .pollChecking }
    | _ => none
  | .receive => poll.receiveStep layout
  | .timeout =>
    match poll.receiving with
    | .blocked => some { poll with receiving := .idle }
    | .waiting => some (poll.peek layout)
    | _ => none

/-- The sender is not between the store of an entry and the signal which may follow it. -/
def OutsideFlush : Prop :=
  poll.bytes.sending ≠ .loadingTail ∧ (∀ prevTail, poll.bytes.sending ≠ .looking prevTail) ∧
    (∀ wasEmpty, poll.bytes.sending ≠ .publishing wasEmpty) ∧ poll.bytes.sending ≠ .signalling

/-- The receiver is blocked in `zmq_poll` on a published payload and nothing will wake it. -/
def Stranded : Prop :=
  poll.receiving = .blocked ∧ poll.signalled = false ∧ poll.OutsideFlush ∧
    poll.bytes.isEmpty = false

/-- `zmq_poll` does not find the ring empty for the second time between a look of the sender which
still saw a payload and the store of the tail. -/
def Timely : PollAction → Prop
  | .receive => poll.receiving = .pollRechecking → poll.bytes.isEmpty = true →
      poll.bytes.sending ≠ .publishing false
  | _ => True

/-! ## The abstract protocol -/

/-- Where the sender is in the abstract protocol. -/
def producerPhase : SendPhase → ProducerPhase (BitVec 64)
  | .looking prevTail => .looking prevTail
  | .publishing wasEmpty => .publishing wasEmpty
  | .signalling => .signalling
  | .idle | .loadingHead _ | .loadingHeadToWrap _ | .loadingTail => .idle

/-- The ring as the abstract protocol has it. -/
def view : Waiting (BitVec 64) where
  tail := poll.bytes.ring.tail
  head := poll.bytes.ring.head
  producer := producerPhase poll.bytes.sending
  asleep := poll.receiving = .blocked
  signalled := poll.signalled

/-- What is known where the receiver is. -/
def receivingHolds (careful : Prop) (phase : RecvPhase) (marks : RingMarks) (seen : List Entry) :
    Prop :=
  match phase with
  | .releasing data => ∃ rest, seen = ⟨false, data⟩ :: rest
  | .panicked => ¬careful ∧ ∃ rest, seen = ⟨false, []⟩ :: rest
  | .peeking peeking => peeking = .loadingTail ∧ marks.released = marks.read
  | _ => marks.released = marks.read

variable {layout} {careful : Prop} {poll : InprocPoll}

/-- Writing an entry publishes nothing. -/
theorem writeOrWrap_private (bytes : ByteRing) (data : Bytes) :
    (bytes.writeOrWrap layout data).ring.tail = bytes.ring.tail ∧
      (bytes.writeOrWrap layout data).ring.head = bytes.ring.head ∧
      producerPhase (bytes.writeOrWrap layout data).sending = .idle := by
  unfold writeOrWrap
  split_ifs <;> exact ⟨rfl, rfl, rfl⟩

variable {bytes : ByteRing}

/-- An access of the sender is a step of the abstract protocol or none. -/
theorem send_followed {action : ByteRing.SendAction}
    (sent : poll.bytes.sendStep layout action = some bytes) :
    Runs move EdgeSignal.Timely poll.view ({ poll with bytes } : InprocPoll).view := by
  have unpublished {before : SendPhase} (phase_eq : poll.bytes.sending = before)
      (outside : producerPhase before = .idle)
      (private_eq : bytes.ring.tail = poll.bytes.ring.tail ∧
        bytes.ring.head = poll.bytes.ring.head ∧ producerPhase bytes.sending = .idle) :
      ({ poll with bytes } : InprocPoll).view = poll.view := by
    obtain ⟨tail_eq, head_eq, idle⟩ := private_eq
    simp only [view, tail_eq, head_eq, idle, phase_eq, outside]
  revert sent
  fun_cases poll.bytes.sendStep layout action <;> rintro ⟨⟩
  next idle _ => -- push of too long a payload
    rw [unpublished idle rfl ⟨rfl, rfl, rfl⟩]
    exact .refl
  next idle _ _ => -- push without room
    rw [unpublished idle rfl ⟨rfl, rfl, rfl⟩]
    exact .refl
  next idle _ _ => -- push
    rw [unpublished idle rfl (writeOrWrap_private _ _)]
    exact .refl
  next loading _ _ => -- loadHead without room
    rw [unpublished loading rfl ⟨rfl, rfl, rfl⟩]
    exact .refl
  next data loading _ _ => -- loadHead
    rw [unpublished loading rfl (writeOrWrap_private poll.bytes.reloadHead data)]
    exact .refl
  next loading _ _ => -- loadHeadToWrap without room
    rw [unpublished loading rfl ⟨rfl, rfl, rfl⟩]
    exact .refl
  next loading _ _ => -- loadHeadToWrap
    rw [unpublished loading rfl ⟨rfl, rfl, rfl⟩]
    exact .refl
  next loading => -- loadTail
    exact .single .beginFlush trivial (by simp [move, view, producerPhase, loading])
  next looking => -- look
    exact .single .look trivial (by simp [move, view, producerPhase, looking])
  next wasEmpty publishing => -- publish
    refine .single (.publish poll.bytes.producer.tail) trivial ?_
    cases wasEmpty <;> simp [move, view, producerPhase, publishing]

/-- The ring is valid and the receiver is where it should be. -/
def Sound (layout : RingLayout) (careful : Prop) (poll : InprocPoll) : Prop :=
  ∃ marks seen unseen unpublished,
    poll.bytes.Valid layout careful marks seen unseen unpublished ∧
      receivingHolds careful poll.receiving marks seen

variable {marks : RingMarks} {seen unseen unpublished : List Entry}

/-- A look at the next entry publishes nothing. -/
theorem peeked_followed {result : ByteRing.Peeked × ByteRing}
    (valid : result.2.Valid layout careful marks seen unseen unpublished)
    (holds : match result.1 with
      | .load phase => phase = .loadingTail ∧ marks.released = marks.read
      | .found data => ∃ rest, seen = ⟨false, data⟩ :: rest
      | .nothing => marks.released = marks.read
      | .panicked => ¬careful ∧ ∃ rest, seen = ⟨false, []⟩ :: rest)
    (ring_eq : result.2.ring.tail = poll.bytes.ring.tail ∧
      result.2.ring.head = poll.bytes.ring.head)
    (sending_eq : result.2.sending = poll.bytes.sending) (awake : poll.receiving ≠ .blocked) :
    (poll.peeked result).view = poll.view ∧ (poll.peeked result).Sound layout careful := by
  obtain ⟨peeked, bytes⟩ := result
  obtain ⟨tail_eq, head_eq⟩ := ring_eq
  dsimp only at tail_eq head_eq sending_eq
  refine ⟨?_, ?_⟩
  · cases peeked <;> simp [view, InprocPoll.peeked, tail_eq, head_eq, sending_eq, awake]
  · cases peeked <;> exact ⟨marks, seen, unseen, unpublished, valid, holds⟩

theorem readEntry_followed {entry : Entry}
    (valid : bytes.Valid layout careful marks (entry :: seen) unseen unpublished)
    (tail_eq : bytes.ring.tail = poll.bytes.ring.tail)
    (head_eq : bytes.ring.head = poll.bytes.ring.head)
    (sending_eq : bytes.sending = poll.bytes.sending) (awake : poll.receiving ≠ .blocked) :
    (poll.peeked (bytes.readEntry layout)).view = poll.view ∧
      (poll.peeked (bytes.readEntry layout)).Sound layout careful := by
  have entered := valid.enter
  have moved_valid : (bytes.moveHead (cursorAt 0 (entry.start layout marks.read))).Valid layout
      careful _ (⟨false, entry.data⟩ :: seen) unseen unpublished := ⟨entered, valid.ready⟩
  rw [valid.readEntry]
  obtain found | ⟨panicked, careless, empty⟩ := entered.entryAt_eq
  · rw [found]
    exact peeked_followed moved_valid ⟨seen, rfl⟩ ⟨tail_eq, head_eq⟩ sending_eq awake
  · rw [panicked]
    exact peeked_followed moved_valid ⟨careless, seen, by rw [empty]⟩ ⟨tail_eq, head_eq⟩ sending_eq
      awake

section

variable (valid : poll.bytes.Valid layout careful marks seen unseen unpublished)

include valid

theorem peek_followed (rested : marks.released = marks.read) (awake : poll.receiving ≠ .blocked) :
    (poll.peek layout).view = poll.view ∧ (poll.peek layout).Sound layout careful := by
  unfold peek
  obtain ⟨rfl, load⟩ | ⟨entry, rest, rfl, found⟩ := valid.beginPeek
  · rw [load]
    exact peeked_followed valid ⟨rfl, rested⟩ ⟨rfl, rfl⟩ rfl awake
  · rw [found]
    exact readEntry_followed valid rfl rfl rfl awake

theorem loadPeek_followed (rested : marks.released = marks.read)
    (awake : poll.receiving ≠ .blocked) :
    (poll.peeked (poll.bytes.loadPeek layout .loadingTail)).view = poll.view ∧
      (poll.peeked (poll.bytes.loadPeek layout .loadingTail)).Sound layout careful := by
  have loaded : poll.bytes.reloadTail.Valid layout careful marks (seen ++ unseen) [] unpublished :=
    ⟨valid.reloadTail, valid.ready⟩
  obtain ⟨-, nothing⟩ | ⟨entry, rest, published, found⟩ := valid.loadPeek
  · rw [nothing]
    exact peeked_followed loaded rested ⟨rfl, rfl⟩ rfl awake
  · rw [found]
    rw [published] at loaded
    exact readEntry_followed loaded rfl rfl rfl awake

theorem Sound.rest {receiving : RecvPhase} {signalled : Bool} (rested : marks.released = marks.read)
    (plain : receivingHolds careful receiving marks seen = (marks.released = marks.read)) :
    ({ poll with receiving, signalled } : InprocPoll).Sound layout careful :=
  ⟨marks, seen, unseen, unpublished, valid, plain ▸ rested⟩

end

/-- An access of the receiver is a step of the abstract protocol or none. -/
theorem receive_followed {after : InprocPoll} (timely : poll.Timely .receive)
    (received : poll.receiveStep layout = some after) (sound : poll.Sound layout careful) :
    Runs move EdgeSignal.Timely poll.view after.view ∧ after.Sound layout careful := by
  obtain ⟨marks, seen, unseen, unpublished, valid, holds⟩ := sound
  have stays {next : InprocPoll} (followed : next.view = poll.view ∧ next.Sound layout careful) :
      Runs move EdgeSignal.Timely poll.view next.view ∧ next.Sound layout careful :=
    ⟨followed.1 ▸ .refl, followed.2⟩
  revert received
  fun_cases poll.receiveStep layout <;> rintro ⟨⟩ <;> simp only [*] at holds
  next peeking phase =>
    obtain ⟨rfl, rested⟩ := holds
    exact stays (loadPeek_followed valid rested (by simp [phase]))
  next data phase =>
    obtain ⟨rest, rfl⟩ := holds
    refine ⟨.single (.release (poll.bytes.advanceAndRelease data).ring.head) trivial ?_,
      _, rest, unseen, unpublished, ⟨valid.advanceAndRelease, valid.ready⟩, rfl⟩
    simp [move, view, phase, advanceAndRelease]
  next phase => -- checkingEmpty
    refine stays ⟨?_, Sound.rest valid holds ?_⟩ <;> split_ifs <;> simp [view, phase] <;> rfl
  next phase => -- draining
    exact ⟨.single .clear trivial (by simp [move, view, phase]), Sound.rest valid holds rfl⟩
  next phase => -- pollChecking
    refine stays ⟨?_, Sound.rest valid holds ?_⟩ <;> split_ifs <;> simp [view, phase] <;> rfl
  next phase => -- preparing
    exact ⟨.single .clear trivial (by simp [move, view, phase]), Sound.rest valid holds rfl⟩
  next phase => -- pollRechecking
    split_ifs with empty
    · refine ⟨.single .sleep ?_ ?_, Sound.rest valid holds rfl⟩
      · intro publishing
        refine timely phase empty ?_
        cases sending : poll.bytes.sending <;> simp_all [view, producerPhase]
      · -- All that was read is released, so the published head is the receiver's own.
        have released : poll.bytes.ring.head = poll.bytes.consumer.head := by
          rw [valid.ringHead, valid.head]
          exact congrArg _ holds
        have emptied : poll.bytes.consumer.head = poll.bytes.ring.tail := of_decide_eq_true empty
        simp [move, view, phase, released, emptied]
    · exact stays ⟨by simp [view, phase], Sound.rest valid holds rfl⟩
  next phase _ => -- blocked
    exact ⟨.single .wake trivial (by simp [move, view, *]), Sound.rest valid holds rfl⟩
  next phase _ => -- waiting
    exact stays ⟨by simp [view, phase], Sound.rest valid holds rfl⟩
  next phase => -- waitDraining
    have drained : (⟨poll.bytes, .waitDraining, false⟩ : InprocPoll).bytes.Valid layout careful
        marks seen unseen unpublished := valid
    obtain ⟨view_eq, sound⟩ := peek_followed drained holds (by simp)
    rw [phase]
    exact ⟨view_eq ▸ .single .clear trivial (by simp [move, view, phase]), sound⟩

theorem Sound.send {action : ByteRing.SendAction} (sound : poll.Sound layout careful)
    (sent : poll.bytes.sendStep layout action = some bytes)
    (indexed : ∀ {data}, action = .push data → careful → poll.bytes.Indexed layout data) :
    ({ poll with bytes } : InprocPoll).Sound layout careful := by
  obtain ⟨marks, seen, unseen, unpublished, valid, holds⟩ := sound
  obtain ⟨cachedHead, published, written, valid⟩ := valid.sendStep sent indexed
  refine ⟨_, seen, published, written, valid, ?_⟩
  unfold receivingHolds at holds ⊢
  exact holds

/-- Every step is followed by the abstract protocol. -/
theorem followed {before after : InprocPoll} {action : PollAction} (timely : before.Timely action)
    (stepped : before.step layout action = some after) (sound : before.Sound layout False) :
    Runs move EdgeSignal.Timely before.view after.view ∧ after.Sound layout False := by
  obtain ⟨marks, seen, unseen, unpublished, valid, holds⟩ := id sound
  revert stepped timely
  fun_cases before.step layout action <;> intro timely stepped
  case case1 =>
    obtain ⟨bytes, sent, rfl⟩ := Option.map_eq_some_iff.mp stepped
    exact ⟨send_followed sent, sound.send sent fun _ => False.elim⟩
  case case10 => exact receive_followed timely stepped sound
  all_goals cases stepped
  next signalling => -- signal
    refine ⟨.single .signal trivial ?_, marks, seen, unseen, unpublished,
      ⟨valid.sending .idle, trivial⟩, holds⟩
    simp [move, view, producerPhase, signalling]
  next idle => -- recv
    rw [idle] at holds
    obtain ⟨view_eq, sound⟩ := peek_followed valid holds (by simp [idle])
    exact ⟨view_eq ▸ .refl, sound⟩
  next idle => -- recvWait
    rw [idle] at holds
    have view_eq : ({ before with receiving := .waiting } : InprocPoll).view = before.view := by
      simp [view, idle]
    exact ⟨view_eq ▸ .refl, Sound.rest valid holds rfl⟩
  next idle => -- poll
    rw [idle] at holds
    have view_eq : ({ before with receiving := .pollChecking } : InprocPoll).view =
        before.view := by
      simp [view, idle]
    exact ⟨view_eq ▸ .refl, Sound.rest valid holds rfl⟩
  next blocked => -- timeout of a poll
    rw [blocked] at holds
    exact ⟨.single .wake trivial (by simp [move, view]), Sound.rest valid holds rfl⟩
  next waiting => -- timeout of a recv
    rw [waiting] at holds
    obtain ⟨view_eq, sound⟩ := peek_followed valid holds (by simp [waiting])
    exact ⟨view_eq ▸ .refl, sound⟩

/-- While `zmq_poll` never blocks between a look of the sender which still saw a payload and the
store of the tail, it is not left blocked on a published payload. -/
theorem not_stranded_of_timely_poll {final : InprocPoll}
    (runs : Runs (step layout) Timely new final) : ¬final.Stranded := by
  rintro ⟨blocked, unsignalled, ⟨_, unlooked, unpublished, silent⟩, held⟩
  have start : (new : InprocPoll).Sound layout False :=
    ⟨_, _, _, _, ⟨.new layout False, trivial⟩, rfl⟩
  obtain ⟨_, moves, rfl, sound⟩ := runs.simulated
    (fun {before after action view} timely stepped (related : view = before.view ∧
      before.Sound layout False) =>
        ⟨after.view, related.1 ▸ (followed timely stepped related.2).1, rfl,
          (followed timely stepped related.2).2⟩) ⟨rfl, start⟩
  have outside : final.view.producer = .idle := by
    cases sending : final.bytes.sending <;> simp_all [view, producerPhase]
  have empty : final.bytes.ring.head = final.bytes.ring.tail :=
    empty_of_asleep moves rfl rfl (by simp [view, blocked]) unsignalled outside
  obtain ⟨marks, seen, unseen, written, valid, holds⟩ := sound
  rw [blocked] at holds
  have released : final.bytes.ring.head = final.bytes.consumer.head := by
    rw [valid.ringHead, valid.head]
    exact congrArg _ holds
  simp [isEmpty, ← released, empty] at held

instance (action : PollAction) : Decidable (poll.Timely action) :=
  match action with
  | .receive => inferInstanceAs (Decidable (poll.receiving = .pollRechecking →
      poll.bytes.isEmpty = true → poll.bytes.sending ≠ .publishing false))
  | .send _ | .signal | .recv | .recvWait | .poll | .timeout => .isTrue trivial

/-- The accesses of a push up to the store of the tail. -/
def pushUntilPublish (data : Bytes) : List PollAction :=
  [.send (.push data), .send .loadTail, .send .look]

/-- The receiver takes a payload and blocks. -/
def takeAndPoll : List PollAction :=
  [.recv, .receive, .receive, .receive, .receive, .poll, .receive, .receive, .receive]

/-- A receiver which blocks before the sender looks is signalled. -/
theorem signalled_before_poll : ∃ final,
    Runs (step smallRing) Timely new final ∧ final.receiving = .blocked ∧
      final.signalled = true ∧ final.bytes.received = [[1]] ∧ ¬final.Stranded := by
  have runs : Runs (step smallRing) Timely new _ :=
    .computed (pushUntilPublish [1] ++ [.send .publish, .signal] ++ takeAndPoll ++
      pushUntilPublish [2] ++ [.send .publish, .signal]) (by decide +kernel)
  exact ⟨_, runs, by decide +kernel, by decide +kernel, by decide +kernel,
    not_stranded_of_timely_poll runs⟩

/-- A receiver which takes the first payload and blocks after the sender looked, and before it
stores the tail of the second payload, is not signalled. -/
theorem stranded_in_poll : ∃ final,
    Reaches (step smallRing) new final ∧ final.Stranded := by
  obtain ⟨final, reached, blocked, unsignalled, idle, held⟩ : ∃ final : InprocPoll,
      Reaches (step smallRing) new final ∧ final.receiving = .blocked ∧
      final.signalled = false ∧ final.bytes.sending = .idle ∧ final.bytes.isEmpty = false :=
    exists_reaches (pushUntilPublish [1] ++ [.send .publish, .signal] ++
      pushUntilPublish [2] ++ takeAndPoll ++ [.send .publish]) (by decide +kernel)
  exact ⟨final, reached, blocked, unsignalled, by simp [OutsideFlush, idle], held⟩

end InprocPoll

end Omq.Libzmq
