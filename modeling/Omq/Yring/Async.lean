import Omq.Yring.WakeUp

/-!
# The end of an asynchronous stream

`poll_next` looks for items, publishes what it consumed, registers its waker and looks again.  When
there is still nothing it loads whether the producer is gone, and then reports the end of the
stream.  Items which the producer flushes between the second look and that load, right before it
goes, are not seen.
-/

namespace Omq.Yring

open Transition

variable {width : Nat} {layout : Layout width} {α : Type}

/-- What `poll_next` returns. -/
inductive PollResult (α : Type)
  | ready (item : Option α)
  | pending
  deriving DecidableEq

/-- Where `poll_next` is between two accesses. -/
inductive PollPhase
  | idle
  | firstPrefetch
  | firstPop
  | releasing
  | registering
  | secondPrefetch
  | secondPop
  | checkingDropped
  deriving DecidableEq

structure AsyncSpsc {width : Nat} (layout : Layout width) (α : Type) where
  spsc : Spsc layout α
  /-- The producer wakes the consumer next. -/
  owesWake : Bool
  registered : Bool
  woken : Bool
  phase : PollPhase
  /-- What the last call of `poll_next` returned. -/
  result : Option (PollResult α)

/-- Steps of the producer and of the consumer. -/
inductive AsyncAction (α : Type)
  | produce (action : Action α)
  | wakeConsumer
  /-- The next access of `poll_next`. -/
  | poll

def Action.isAsyncProducer : Action α → Bool
  | .push _ | .loadHead | .write | .isFull | .probe | .flush | .closeProducer
  | .markProducerDropped | .producerLeaves => true
  | _ => false

/-- The accesses which are followed by a wake-up. -/
def Action.wakes : Action α → Bool
  | .flush | .closeProducer | .markProducerDropped => true
  | _ => false

namespace AsyncSpsc

def start (layout : Layout width) (α : Type) (cursor : BitVec width) : AsyncSpsc layout α :=
  ⟨.withCursors layout α cursor, false, false, false, .idle, none⟩

variable (async : AsyncSpsc layout α)

def exhausted : Bool :=
  async.spsc.consumer.head = async.spsc.consumer.cachedTail

def front : Option α :=
  (async.spsc.ring.buf (layout.index async.spsc.consumer.head)).content

def returns (result : PollResult α) : AsyncSpsc layout α :=
  { async with phase := .idle, result := some result }

/-- `poll_next` takes an item and returns it. -/
def yield : AsyncSpsc layout α :=
  { async.returns (.ready async.front) with spsc := async.spsc.readSlot }

/-- One access of `poll_next`. -/
def pollStep : AsyncSpsc layout α :=
  match async.phase with
  | .idle =>
    { async with
      woken := false
      phase := if async.exhausted then .firstPrefetch else .firstPop
      result := none }
  | .firstPrefetch => { async with spsc := async.spsc.reloadTail, phase := .firstPop }
  | .firstPop => if async.exhausted then { async with phase := .releasing } else async.yield
  | .releasing => { async with spsc := async.spsc.storeHead, phase := .registering }
  | .registering =>
    { async with
      registered := true
      phase := if async.exhausted then .secondPrefetch else .secondPop }
  | .secondPrefetch => { async with spsc := async.spsc.reloadTail, phase := .secondPop }
  | .secondPop =>
    if async.exhausted then { async with phase := .checkingDropped } else async.yield
  | .checkingDropped =>
    async.returns (if async.spsc.ring.producerDropped then .ready none else .pending)

def step : AsyncAction α → Option (AsyncSpsc layout α)
  | .produce action =>
    if action.isAsyncProducer ∧ !async.owesWake then
      (async.spsc.produceStep action).map fun spsc =>
        { async with spsc, owesWake := action.wakes }
    else none
  | .wakeConsumer =>
    if async.owesWake then
      some { async with
        owesWake := false
        registered := false
        woken := async.woken || async.registered }
    else none
  | .poll => some async.pollStep

/-- The end of the stream was reported although the producer is still there or an item was not
yielded. -/
def EndedEarly : Prop :=
  async.result = some (.ready none) ∧
    ¬(async.spsc.ring.producerDropped = true ∧
      async.spsc.history.popped = async.spsc.history.pushed)

/-- `poll_next` found nothing when it looked the second time, or is about to find nothing. -/
def foundNothing : Bool :=
  (async.phase = .secondPop ∨ async.phase = .checkingDropped) ∧ async.exhausted

/-- The producer does not leave while items it flushed escaped the second look of `poll_next`. -/
def Unhurried : AsyncAction α → Prop
  | .produce .markProducerDropped =>
    async.foundNothing = true → async.spsc.ring.tail = async.spsc.consumer.cachedTail
  | _ => True

/-! ## What a run keeps -/

/-- What holds between two accesses. -/
structure Sound (cursor : BitVec width) (async : AsyncSpsc layout α) : Prop where
  reached : Reaches Spsc.step (Spsc.withCursors layout α cursor) async.spsc
  polling : async.spsc.consumer.phase = .idle
  gone : async.spsc.ring.producerDropped = true →
    async.spsc.producer.phase = .leaving ∨ async.spsc.producer.phase = .left
  checking : async.phase = .checkingDropped → async.exhausted = true
  seen : async.spsc.ring.producerDropped = true → async.foundNothing = true →
    async.spsc.ring.tail = async.spsc.consumer.cachedTail
  /-- A call which has not returned has no result. -/
  running : async.phase ≠ .idle → async.result = none
  exact : ¬async.EndedEarly

variable {cursor : BitVec width} {async : AsyncSpsc layout α}

/-- The ring is in use, as the consumer polls. -/
theorem Sound.inUse (sound : async.Sound cursor) :
    ∃ fifo marks, InUse cursor async.spsc fifo marks := by
  obtain ⟨fifo, _, stands⟩ := stands_of_reaches sound.reached
  cases stands with
  | inUse marks inUse => exact ⟨fifo, marks, inUse⟩
  | tornDown tornDown => exact nomatch sound.polling.symm.trans tornDown.consumer

/-- There is an item in the window unless it is exhausted. -/
theorem Sound.front_isSome (sound : async.Sound cursor) (filled : async.exhausted = false) :
    async.front.isSome := by
  obtain ⟨fifo, marks, inUse⟩ := sound.inUse
  have apart : async.spsc.consumer.head ≠ async.spsc.consumer.cachedTail := by
    simpa [exhausted] using filled
  obtain ⟨waiting, _⟩ := inUse.readSlot apart
  rw [front, inUse.head, inUse.stored fifo.popped (Nat.le_refl _) waiting,
    List.getElem?_eq_getElem waiting]
  rfl

/-- A producer which is gone has flushed everything: what was not yielded is in the ring. -/
theorem Sound.popped_eq_pushed (sound : async.Sound cursor)
    (dropped : async.spsc.ring.producerDropped = true)
    (drained : async.spsc.ring.tail = async.spsc.consumer.head) :
    async.spsc.history.popped = async.spsc.history.pushed := by
  obtain ⟨fifo, marks, inUse⟩ := sound.inUse
  have flushed : marks.tail = fifo.pushed.length := by
    have producing := inUse.producing
    obtain leaving | left := sound.gone dropped
    · rwa [leaving] at producing
    · rwa [left] at producing
  have all : ¬fifo.popped < marks.tail := fun waiting => inUse.tail_ne_head_iff.mpr waiting drained
  have taken : fifo.pushed.length ≤ fifo.popped := by omega
  rw [inUse.popped, inUse.pushed, BoundedFifo.handedOut, List.take_of_length_le taken]

/-- What an access of the producer changes: it leaves the consumer alone, and only a producer which
has not left accesses the ring. -/
theorem produceStep_cases {state after : Spsc layout α} {action : Action α}
    (produced : state.produceStep action = some after) (polling : state.consumer.phase = .idle) :
    after.consumer = state.consumer ∧
      ((action = .markProducerDropped ∧ state.producer.phase = .closing ∧
          after.ring.tail = state.ring.tail ∧ after.producer.phase = .leaving) ∨
        after = state.produce .left ∨
        (after.ring.producerDropped = state.ring.producerDropped ∧
          state.producer.phase ≠ .leaving ∧ state.producer.phase ≠ .left)) := by
  revert produced
  fun_cases state.produceStep action <;> rintro ⟨⟩
  case case23 closing => exact ⟨rfl, .inl ⟨rfl, closing, rfl, rfl⟩⟩
  case case25 =>
    rw [if_neg (by simp [polling])]
    exact ⟨rfl, .inr (.inl rfl)⟩
  all_goals exact ⟨rfl, .inr (.inr ⟨rfl, by simp [*], by simp [*]⟩)⟩

section

variable (sound : async.Sound cursor)

include sound

theorem Sound.produce {after : AsyncSpsc layout α} {action : Action α}
    (unhurried : async.Unhurried (.produce action))
    (stepped : async.step (.produce action) = some after) : after.Sound cursor := by
  simp only [step] at stepped
  split_ifs at stepped
  obtain ⟨spsc, produced, rfl⟩ := Option.map_eq_some_iff.mp stepped
  obtain ⟨consumer_eq, change⟩ := produceStep_cases produced sound.polling
  have reached : Reaches Spsc.step (Spsc.withCursors layout α cursor) spsc := by
    refine sound.reached.tail ⟨action, trivial, ?_⟩
    rw [Spsc.step, produced, Option.some_or]
  have exhausted_eq : ({ async with spsc, owesWake := action.wakes } :
      AsyncSpsc layout α).exhausted = async.exhausted := by
    simp only [exhausted, consumer_eq]
  have foundNothing_eq : ({ async with spsc, owesWake := action.wakes } :
      AsyncSpsc layout α).foundNothing = async.foundNothing := by
    simp only [foundNothing, exhausted_eq]
  have active : async.spsc.producer.phase ≠ .leaving → async.spsc.producer.phase ≠ .left →
      async.spsc.ring.producerDropped = false := by
    intro staying present
    refine Bool.eq_false_of_not_eq_true fun dropped => ?_
    obtain leaving | left := sound.gone dropped
    · exact staying leaving
    · exact present left
  refine ⟨reached, consumer_eq ▸ sound.polling, fun dropped => ?_, fun checking => ?_,
    fun dropped nothing => ?_, sound.running, fun ended => ?_⟩
  · obtain ⟨_, _, _, leaving⟩ | rfl | ⟨dropped_eq, staying, present⟩ := change
    · exact .inl leaving
    · exact .inr rfl
    · simp [dropped_eq, active staying present] at dropped
  · exact exhausted_eq.trans (sound.checking checking)
  · rw [foundNothing_eq] at nothing
    obtain ⟨rfl, _, tail_eq, _⟩ | rfl | ⟨dropped_eq, staying, present⟩ := change
    · simp only [tail_eq, consumer_eq]
      exact unhurried nothing
    · exact sound.seen dropped nothing
    · simp [dropped_eq, active staying present] at dropped
  · obtain ⟨result_eq, early⟩ := ended
    have dropped : async.spsc.ring.producerDropped = true := by
      by_contra present
      exact sound.exact ⟨result_eq, fun finished => present finished.1⟩
    obtain ⟨_, closing, _⟩ | rfl | ⟨_, staying, present⟩ := change
    · simp [active (by simp [closing]) (by simp [closing])] at dropped
    · exact sound.exact ⟨result_eq, early⟩
    · simp [active staying present] at dropped

/-- The consumer accesses the ring. -/
theorem Sound.reached_of_consumeStep (action : Action α) {spsc : Spsc layout α}
    (produced : async.spsc.produceStep action = none)
    (consumed : async.spsc.consumeStep action = some spsc) :
    Reaches Spsc.step (Spsc.withCursors layout α cursor) spsc := by
  refine sound.reached.tail ⟨action, trivial, ?_⟩
  rw [Spsc.step, produced, consumed, Option.none_or]

theorem Sound.yield (filled : async.exhausted = false) : async.yield.Sound cursor := by
  have apart : async.spsc.consumer.head ≠ async.spsc.consumer.cachedTail := by
    simpa [exhausted] using filled
  obtain ⟨producer_eq, consumer_eq⟩ := async.spsc.phases_readSlot
  have dropped_eq : async.spsc.readSlot.ring.producerDropped = async.spsc.ring.producerDropped := by
    unfold Spsc.readSlot
    split <;> rfl
  have popped : async.spsc.consumeStep .pop = some async.spsc.readSlot := by
    simp [Spsc.consumeStep, sound.polling, apart]
  refine ⟨sound.reached_of_consumeStep .pop rfl popped, consumer_eq.trans sound.polling,
    fun dropped => ?_, (fun phase_eq => by cases phase_eq), fun _ nothing => ?_,
    fun busy => absurd rfl busy, fun ended => ?_⟩
  · rw [show async.yield.spsc.producer.phase = _ from producer_eq]
    exact sound.gone (dropped_eq.symm.trans dropped)
  · simp [foundNothing, AsyncSpsc.yield, returns] at nothing
  · have missing : async.front = none := PollResult.ready.inj (Option.some.inj ended.1)
    simpa [missing] using sound.front_isSome filled

theorem Sound.goOn {spsc : Spsc layout α} {registered woken : Bool}
    {phase : PollPhase} (reached : Reaches Spsc.step (.withCursors layout α cursor) spsc)
    (polling : spsc.consumer.phase = .idle)
    (dropped_eq : spsc.ring.producerDropped = async.spsc.ring.producerDropped)
    (producer_eq : spsc.producer = async.spsc.producer)
    (checking : phase = .checkingDropped → spsc.consumer.head = spsc.consumer.cachedTail)
    (seen : async.spsc.ring.producerDropped = true → phase = .secondPop ∨ phase = .checkingDropped →
      spsc.consumer.head = spsc.consumer.cachedTail → spsc.ring.tail = spsc.consumer.cachedTail) :
    (AsyncSpsc.mk spsc async.owesWake registered woken phase none).Sound cursor := by
  refine ⟨reached, polling, fun dropped => ?_, fun phase_eq => decide_eq_true (checking phase_eq),
    fun dropped nothing => ?_, fun _ => rfl, fun ended => nomatch ended.1⟩
  · rw [show (AsyncSpsc.mk spsc async.owesWake registered woken phase none).spsc.producer = _ from
      producer_eq]
    exact sound.gone (dropped_eq.symm.trans dropped)
  · obtain ⟨late, window⟩ := of_decide_eq_true nothing
    exact seen (dropped_eq.symm.trans dropped) late (of_decide_eq_true window)

/-- The next access of `poll_next`. -/
theorem Sound.poll : async.pollStep.Sound cursor := by
  obtain ⟨spsc, owesWake, registered, woken, phase, result⟩ := async
  have polling : spsc.consumer.phase = .idle := sound.polling
  have loaded : spsc.consumeStep .prefetch = some spsc.reloadTail := by
    simp [Spsc.consumeStep, polling]
  have stored : spsc.consumeStep .release = some spsc.storeHead := by
    simp [Spsc.consumeStep, polling]
  have pending (busy : phase ≠ .idle) : result = none := sound.running busy
  cases phase with
  | idle =>
    refine sound.goOn sound.reached sound.polling rfl rfl ?_ ?_
    · split_ifs <;> simp
    · split_ifs <;> simp
  | firstPrefetch =>
    obtain rfl := pending (by simp)
    exact sound.goOn (sound.reached_of_consumeStep .prefetch rfl loaded) sound.polling rfl rfl
      (by simp) (by simp)
  | firstPop =>
    obtain rfl := pending (by simp)
    simp only [pollStep]
    split_ifs with exhausted
    · exact sound.goOn sound.reached sound.polling rfl rfl (by simp) (by simp)
    · exact sound.yield (Bool.eq_false_of_not_eq_true exhausted)
  | releasing =>
    obtain rfl := pending (by simp)
    exact sound.goOn (sound.reached_of_consumeStep .release rfl stored) sound.polling rfl rfl
      (by simp) (by simp)
  | registering =>
    obtain rfl := pending (by simp)
    simp only [pollStep]
    refine sound.goOn sound.reached sound.polling rfl rfl ?_ ?_
    · split_ifs <;> simp
    · split_ifs with window
      · simp
      · exact fun _ _ drained => absurd (decide_eq_true drained) window
  | secondPrefetch =>
    obtain rfl := pending (by simp)
    exact sound.goOn (sound.reached_of_consumeStep .prefetch rfl loaded) sound.polling rfl rfl
      (by simp) (fun _ _ _ => rfl)
  | secondPop =>
    obtain rfl := pending (by simp)
    simp only [pollStep]
    split_ifs with window
    · refine sound.goOn sound.reached sound.polling rfl rfl
        (fun _ => of_decide_eq_true window) fun dropped _ _ => sound.seen dropped ?_
      simpa [foundNothing] using window
    · exact sound.yield (Bool.eq_false_of_not_eq_true window)
  | checkingDropped =>
    have window := sound.checking rfl
    refine ⟨sound.reached, sound.polling, sound.gone, (fun phase_eq => by cases phase_eq),
      fun _ nothing => ?_, fun busy => absurd rfl busy, fun ended => ?_⟩
    · simp [foundNothing, pollStep, returns] at nothing
    · obtain ⟨result_eq, early⟩ := ended
      have dropped : spsc.ring.producerDropped = true := by
        by_contra present
        simp [pollStep, returns, present] at result_eq
      have tail_eq : spsc.ring.tail = spsc.consumer.cachedTail :=
        sound.seen dropped (by simpa [foundNothing] using window)
      have head_eq : spsc.consumer.head = spsc.consumer.cachedTail := of_decide_eq_true window
      exact early ⟨dropped, sound.popped_eq_pushed dropped (tail_eq.trans head_eq.symm)⟩

end

/-- The end of the stream is reported only after the producer left and every item was yielded, in
every run in which the producer does not leave right after a flush which escaped `poll_next`. -/
theorem not_endedEarly_of_unhurried {final : AsyncSpsc layout α}
    (runs : Runs step Unhurried (start layout α cursor) final) : ¬final.EndedEarly := by
  have kept {before after : AsyncSpsc layout α} {action : AsyncAction α}
      (unhurried : before.Unhurried action) (stepped : before.step action = some after)
      (sound : before.Sound cursor) : after.Sound cursor := by
    cases action with
    | produce action => exact sound.produce unhurried stepped
    | wakeConsumer =>
      simp only [step] at stepped
      split_ifs at stepped
      cases stepped
      exact ⟨sound.reached, sound.polling, sound.gone, sound.checking, sound.seen, sound.running,
        sound.exact⟩
    | poll =>
      cases stepped
      exact sound.poll
  have sound_start : (start layout α cursor).Sound cursor :=
    ⟨.refl, rfl, nofun, nofun, nofun, fun _ => rfl, fun ended => nomatch ended.1⟩
  exact (runs.invariant kept sound_start).exact

instance (async : AsyncSpsc layout α) (action : AsyncAction α) :
    Decidable (async.Unhurried action) :=
  match action with
  | .produce .markProducerDropped => inferInstanceAs (Decidable
      (async.foundNothing = true → async.spsc.ring.tail = async.spsc.consumer.cachedTail))
  | .wakeConsumer | .poll => .isTrue trivial
  | .produce (.push _) | .produce .loadHead | .produce .write | .produce .isFull
  | .produce .probe | .produce .flush | .produce .flushAndCheck | .produce .checkHead
  | .produce .publish | .produce .closeProducer | .produce .producerLeaves | .produce .prefetch
  | .produce .pop | .produce .release | .produce .closeConsumer | .produce .markConsumerDropped
  | .produce .consumerLeaves => .isTrue trivial

/-- The producer pushes an item and leaves, which flushes it. -/
def pushAndLeave : List (AsyncAction Nat) :=
  [.produce (.push 10), .produce .write, .produce .closeProducer, .wakeConsumer,
    .produce .markProducerDropped, .wakeConsumer]

/-- The producer leaves before the consumer polls, which yields the item and then the end. -/
theorem ended_after_item : ∃ final : AsyncSpsc (⟨1, by decide⟩ : Layout 64) Nat,
    Runs step Unhurried (start ⟨1, by decide⟩ Nat 0) final ∧
      final.result = some (.ready none) ∧ final.spsc.history.popped = [10] ∧
      ¬final.EndedEarly := by
  have runs : Runs step Unhurried (start (⟨1, by decide⟩ : Layout 64) Nat 0) _ :=
    .computed (pushAndLeave ++ List.replicate 11 .poll) (by decide +kernel)
  exact ⟨_, runs, by decide +kernel, by decide +kernel, not_endedEarly_of_unhurried runs⟩

/-- The producer pushes an item and leaves between the second look of `poll_next` and its load of
the flag: the end is reported although the item was not yielded. -/
theorem ended_before_item : ∃ final : AsyncSpsc (⟨1, by decide⟩ : Layout 64) Nat,
    Reaches step (start ⟨1, by decide⟩ Nat 0) final ∧ final.EndedEarly := by
  obtain ⟨final, reached, ended, left_over⟩ : ∃ final : AsyncSpsc (⟨1, by decide⟩ : Layout 64) Nat,
      Reaches step (start ⟨1, by decide⟩ Nat 0) final ∧
      final.result = some (.ready none) ∧
        final.spsc.history.popped ≠ final.spsc.history.pushed := by
    exact exists_reaches (List.replicate 7 .poll ++ pushAndLeave ++ [.poll]) (by decide +kernel)
  exact ⟨final, reached, ended, fun finished => left_over finished.2⟩

end AsyncSpsc

end Omq.Yring
