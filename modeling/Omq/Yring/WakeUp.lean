import Omq.Library.EdgeSignal
import Omq.Yring.Refinement

/-!
# Waking a consumer with `flush_and_check`

The producer signals the consumer when `flush_and_check` reports that the ring was empty.  The
consumer clears its signal, and sleeps after it finds the ring empty.  The report compares a head
which is loaded before the tail is stored: a consumer which drains the ring and falls asleep in
between is not signalled.
-/

namespace Omq.Yring

open EdgeSignal Transition Spsc

variable {width : Nat} {layout : Layout width} {α : Type}

/-- A ring whose consumer may sleep. -/
structure Sleeper {width : Nat} (layout : Layout width) (α : Type) where
  spsc : Spsc layout α
  /-- The producer reported an empty ring and has not signalled yet. -/
  signalling : Bool
  signalled : Bool
  /-- The consumer took an item since its last release. -/
  unreleased : Bool
  asleep : Bool

/-- Steps of the producer and of the consumer. -/
inductive SleeperAction (α : Type)
  | produce (action : Action α)
  | signal
  | consume (action : Action α)
  | clear
  /-- Look whether the ring is empty, and sleep when it is. -/
  | check
  | wake

def Action.isPushOrFlushAndCheck : Action α → Bool
  | .push _ | .loadHead | .write | .flushAndCheck | .checkHead | .publish => true
  | _ => false

def Action.isPopOrRelease : Action α → Bool
  | .prefetch | .pop | .release => true
  | _ => false

theorem Spsc.cursors_readSlot (state : Spsc layout α) :
    state.readSlot.ring.tail = state.ring.tail ∧ state.readSlot.ring.head = state.ring.head := by
  unfold readSlot
  split <;> exact ⟨rfl, rfl⟩

/-- The producer is about to store the tail, and saw items when it looked at the head. -/
def ProducerPhase.sawItems : ProducerPhase width α → Bool
  | .publishing (.flushed _ wasEmpty) => !wasEmpty
  | _ => false

/-- The cursors tell whether a flushed item waits. -/
theorem Represents.tail_ne_head_iff {start : BitVec width} {state : Spsc layout α}
    {fifo : BoundedFifo α layout.capacity} {marks : Marks}
    (represents : Represents start state fifo marks) :
    state.ring.tail ≠ state.consumer.head ↔ fifo.popped < marks.tail := by
  have ordered : fifo.popped ≤ marks.tail := represents.popped_le.trans represents.cachedTail_le
  have near : marks.tail - fifo.popped < 2 ^ width := by
    have bounded := fifo.bounded
    have released := fifo.released_le
    have flushed := represents.tail_le
    have fits := layout.capacity_lt
    omega
  rw [represents.ringTail, represents.head, ne_comm, ne_eq,
    WrappingCursor.cursorAt_inj start ordered near]
  omega

namespace Sleeper

def start (layout : Layout width) (α : Type) (cursor : BitVec width) : Sleeper layout α :=
  ⟨.withCursors layout α cursor, false, false, false, false⟩

variable (sleeper : Sleeper layout α)

def isEmpty : Bool :=
  sleeper.spsc.consumer.head = sleeper.spsc.consumer.cachedTail ∧
    sleeper.spsc.ring.tail = sleeper.spsc.consumer.head

/-- The result which a `publish` step returns is that the ring was empty. -/
def reportsEmpty (action : Action α) : Bool :=
  match action, sleeper.spsc.producer.phase with
  | .publish, .publishing (.flushed _ wasEmpty) => wasEmpty
  | _, _ => false

def step : SleeperAction α → Option (Sleeper layout α)
  | .produce action =>
    if action.isPushOrFlushAndCheck ∧ !sleeper.signalling then
      (sleeper.spsc.produceStep action).map fun spsc =>
        { sleeper with spsc, signalling := sleeper.reportsEmpty action }
    else none
  | .signal =>
    if sleeper.signalling then some { sleeper with signalling := false, signalled := true }
    else none
  | .consume action =>
    if action.isPopOrRelease ∧ !sleeper.asleep then
      (sleeper.spsc.consumeStep action).map fun spsc =>
        { sleeper with
          spsc
          unreleased := match action with
            | .pop => sleeper.unreleased ||
                sleeper.spsc.consumer.head ≠ sleeper.spsc.consumer.cachedTail
            | .release => false
            | _ => sleeper.unreleased }
    else none
  | .clear => if sleeper.asleep then none else some { sleeper with signalled := false }
  | .check =>
    if !sleeper.asleep ∧ !sleeper.unreleased then
      some { sleeper with asleep := sleeper.isEmpty }
    else none
  | .wake =>
    if sleeper.asleep ∧ sleeper.signalled then some { sleeper with asleep := false } else none

/-- The producer is outside `flush_and_check` and the signal after it. -/
def OutsideFlush : Prop :=
  sleeper.signalling = false ∧
    (∀ prevTail, sleeper.spsc.producer.phase ≠ .checkingHead prevTail) ∧
    ∀ result, sleeper.spsc.producer.phase ≠ .publishing result

/-- The consumer sleeps on flushed items and nothing will wake it. -/
def Stranded : Prop :=
  sleeper.asleep = true ∧ sleeper.signalled = false ∧ sleeper.OutsideFlush ∧
    sleeper.spsc.ring.tail ≠ sleeper.spsc.consumer.head

/-- The consumer does not find the ring empty between a look of the producer which still saw items
and the store of the tail. -/
def Timely : SleeperAction α → Prop
  | .check => sleeper.isEmpty = true → sleeper.spsc.producer.phase.sawItems = false
  | _ => True

/-! ## The abstract protocol -/

/-- Where the producer is in the abstract protocol. -/
def producerPhase : EdgeSignal.ProducerPhase (BitVec width) :=
  if sleeper.signalling then .signalling
  else
    match sleeper.spsc.producer.phase with
    | .checkingHead prevTail => .looking prevTail
    | .publishing (.flushed _ wasEmpty) => .publishing wasEmpty
    | .publishing .nothingToFlush => .publishing false
    | _ => .idle

/-- The abstract protocol. -/
def view : Waiting (BitVec width) where
  tail := sleeper.spsc.ring.tail
  head := sleeper.spsc.ring.head
  producer := sleeper.producerPhase
  asleep := sleeper.asleep
  signalled := sleeper.signalled

/-- What holds besides the abstract protocol. -/
structure Consistent (sleeper : Sleeper layout α) : Prop where
  /-- A signal is due only between two operations. -/
  idle : sleeper.signalling = true → sleeper.spsc.producer.phase = .idle
  /-- Only a flush which has something to flush goes on. -/
  flushing : sleeper.spsc.producer.phase ≠ .publishing .nothingToFlush
  released : sleeper.unreleased = false → sleeper.spsc.ring.head = sleeper.spsc.consumer.head
  /-- The consumer released what it took before it fell asleep. -/
  rested : sleeper.asleep = true → sleeper.unreleased = false

variable {before after : Sleeper layout α} {action : Action α}

/-- A step of the ring which the abstract protocol can follow. -/
def Followed (before after : Sleeper layout α) : Prop :=
  Runs move EdgeSignal.Timely before.view after.view ∧ after.Consistent

variable (consistent : before.Consistent)

include consistent

theorem private_followed (view_eq : after.view = before.view) (silent : after.signalling = false)
    (flushing : after.spsc.producer.phase ≠ .publishing .nothingToFlush)
    (unreleased : after.unreleased = before.unreleased)
    (consumer_eq : after.spsc.consumer.head = before.spsc.consumer.head) :
    Followed before after := by
  have asleep_eq : after.asleep = before.asleep := congrArg Waiting.asleep view_eq
  have head_eq : after.spsc.ring.head = before.spsc.ring.head := congrArg Waiting.head view_eq
  refine ⟨view_eq ▸ .refl, by simp [silent], flushing, fun released => ?_, fun asleep => ?_⟩
  · rw [head_eq, consumer_eq]
    exact consistent.released (unreleased ▸ released)
  · rw [unreleased]
    exact consistent.rested (asleep_eq ▸ asleep)

/-- A step of the producer is a step of the abstract protocol or none. -/
theorem produce_followed {spsc : Spsc layout α} (offered : action.isPushOrFlushAndCheck = true)
    (quiet : before.signalling = false) (produced : before.spsc.produceStep action = some spsc) :
    Followed before { before with spsc, signalling := before.reportsEmpty action } := by
  revert produced
  fun_cases before.spsc.produceStep action <;> rintro ⟨⟩ <;> cases offered
  case case1.refl value idle => -- push
    refine private_followed consistent ?_ rfl ?_ rfl rfl
    · split_ifs <;> simp [view, producerPhase, reportsEmpty, quiet, idle, produce]
    · split_ifs <;> simp [produce]
  case case3.refl value phase _ _ | case4.refl value phase _ _ | case6.refl value phase =>
    -- loadHead and write
    exact private_followed consistent (by simp +zetaDelta [view, producerPhase, reportsEmpty,
      quiet, phase, produce, reloadHead, writeSlot]) rfl (by simp [produce]) rfl rfl
  case case14.refl idle _ => -- flushAndCheck with nothing to flush
    exact private_followed consistent (by simp [view, producerPhase, reportsEmpty, quiet, idle])
      rfl (by simp [idle]) rfl rfl
  case case15.refl idle _ => -- flushAndCheck
    refine ⟨.single .beginFlush trivial ?_, by simp [reportsEmpty], by simp [produce],
      consistent.released, consistent.rested⟩
    simp [move, view, producerPhase, reportsEmpty, quiet, idle, produce]
  case case17.refl prevTail checking => -- checkHead
    refine ⟨.single .look trivial ?_, by simp [reportsEmpty], by simp [produce],
      consistent.released, consistent.rested⟩
    simp [move, view, producerPhase, reportsEmpty, quiet, checking, produce, reloadHead]
  case case19.refl result publishing => -- publish
    cases result with
    | nothingToFlush => exact absurd publishing consistent.flushing
    | flushed count wasEmpty =>
      refine ⟨.single (.publish before.spsc.producer.cursor) trivial ?_, fun _ => rfl,
        by simp [produce], consistent.released, consistent.rested⟩
      cases wasEmpty <;> simp [move, view, producerPhase, reportsEmpty, quiet,
        publishing, produce, storeTail]

theorem consume_followed (stepped : before.step (.consume action) = some after) :
    Followed before after := by
  simp only [step] at stepped
  split_ifs at stepped with allowed
  obtain ⟨offered, awake⟩ := allowed
  simp only [Bool.not_eq_true'] at awake
  obtain ⟨spsc, consumed, rfl⟩ := Option.map_eq_some_iff.mp stepped
  revert consumed
  fun_cases before.spsc.consumeStep action <;> rintro ⟨⟩ <;> cases offered
  · -- prefetch
    exact ⟨.refl, consistent.idle, consistent.flushing, consistent.released, consistent.rested⟩
  · -- pop
    by_cases exhausted : before.spsc.consumer.head = before.spsc.consumer.cachedTail
    · simp only [exhausted, ne_eq, not_true_eq_false, decide_false, Bool.or_false]
      exact ⟨.refl, consistent.idle, consistent.flushing, consistent.released, consistent.rested⟩
    · simp only [if_neg exhausted]
      obtain ⟨phase_eq, _⟩ := before.spsc.phases_readSlot
      obtain ⟨tail_eq, head_eq⟩ := before.spsc.cursors_readSlot
      refine ⟨?_, ?_, ?_, ?_, by simp [awake]⟩
      · simp only [view, producerPhase, phase_eq, tail_eq, head_eq]
        exact .refl
      · exact fun due => phase_eq.trans (consistent.idle due)
      · exact phase_eq ▸ consistent.flushing
      · simp [exhausted]
  · -- release
    refine ⟨.single (.release before.spsc.consumer.head) trivial ?_, consistent.idle,
      consistent.flushing, fun _ => rfl, fun _ => rfl⟩
    simp [move, view, awake, storeHead, producerPhase]

omit consistent

/-- A producer which did not see items will signal. -/
theorem announced (timely : sleeper.spsc.producer.phase.sawItems = false)
    (flushing : sleeper.spsc.producer.phase ≠ .publishing .nothingToFlush) :
    sleeper.producerPhase ≠ .publishing false := by
  unfold producerPhase
  split_ifs
  · simp
  · split
    · simp
    next count wasEmpty publishing =>
      simp only [publishing, ProducerPhase.sawItems, Bool.not_eq_false'] at timely
      simp [timely]
    next publishing => exact absurd publishing flushing
    · simp

theorem followed {action : SleeperAction α} (timely : before.Timely action)
    (stepped : before.step action = some after) (consistent : before.Consistent) :
    Followed before after := by
  revert stepped
  fun_cases before.step action with
  | case1 action allowed =>
    intro stepped
    obtain ⟨spsc, produced, rfl⟩ := Option.map_eq_some_iff.mp stepped
    exact produce_followed consistent allowed.1 (by simpa using allowed.2) produced
  | case3 due =>
    rintro ⟨⟩
    have idle := consistent.idle due
    refine ⟨.single .signal trivial ?_, by simp, by simp [idle], consistent.released,
      consistent.rested⟩
    simp [move, view, producerPhase, due, idle]
  | case5 action allowed =>
    exact fun stepped => consume_followed consistent ((if_pos allowed).trans stepped)
  | case8 asleep =>
    rintro ⟨⟩
    refine ⟨.single .clear trivial ?_, consistent.idle, consistent.flushing, consistent.released,
      consistent.rested⟩
    simp [move, view, producerPhase, asleep]
  | case9 ready =>
    rintro ⟨⟩
    obtain ⟨awake, released⟩ := ready
    simp only [Bool.not_eq_true'] at awake released
    have head_eq := consistent.released released
    refine ⟨?_, consistent.idle, consistent.flushing, consistent.released, fun _ => released⟩
    by_cases empty : before.isEmpty = true
    · have tail_eq : before.spsc.ring.tail = before.spsc.consumer.head := by
        simp only [isEmpty, Bool.decide_and, Bool.and_eq_true, decide_eq_true_eq] at empty
        exact empty.2
      refine .single .sleep (before.announced (timely empty) consistent.flushing) ?_
      simp [move, view, producerPhase, awake, empty, head_eq, tail_eq]
    · simp only [Bool.eq_false_of_not_eq_true empty, view, producerPhase, awake]
      exact .refl
  | case11 woken =>
    rintro ⟨⟩
    refine ⟨.single .wake trivial ?_, consistent.idle, consistent.flushing, consistent.released,
      by simp⟩
    simp [move, view, producerPhase]
  | case2 | case4 | case6 | case7 | case10 | case12 => rintro ⟨⟩

/-- A consumer which is asleep without a signal, outside a flush, sleeps on an empty ring. -/
theorem not_stranded_of_timely {cursor : BitVec width} {final : Sleeper layout α}
    (runs : Runs step Timely (start layout α cursor) final) : ¬final.Stranded := by
  rintro ⟨asleep, unsignalled, ⟨silent, unchecked, unpublished⟩, held⟩
  have matching : (start layout α cursor).Consistent :=
    ⟨by simp [start], by simp [start, withCursors], fun _ => rfl, by simp [start]⟩
  obtain ⟨_, moves, rfl, consistent⟩ := runs.simulated
    (fun {before after action view} timely stepped (related : view = before.view ∧
      before.Consistent) => ⟨after.view, related.1 ▸ (followed timely stepped related.2).1, rfl,
        (followed timely stepped related.2).2⟩) ⟨rfl, matching⟩
  have outside : final.view.producer = .idle := by
    simp only [view, producerPhase, silent, Bool.false_eq_true, if_false]
    split
    next prevTail checking => exact absurd checking (unchecked prevTail)
    next count wasEmpty publishing => exact absurd publishing (unpublished _)
    next publishing => exact absurd publishing (unpublished _)
    · rfl
  have empty : final.spsc.ring.head = final.spsc.ring.tail :=
    empty_of_asleep moves rfl rfl asleep unsignalled outside
  exact held (empty.symm.trans (consistent.released (consistent.rested asleep)))

/-- The accesses of a push, and of a flush up to its store of the tail. -/
def pushUntilPublish (value : Nat) : List (SleeperAction Nat) :=
  [.produce (.push value), .produce .write, .produce .flushAndCheck, .produce .checkHead]

def takeAndSleep : List (SleeperAction Nat) :=
  [.consume .prefetch, .consume .pop, .consume .release, .clear, .check]

instance (sleeper : Sleeper layout α) (action : SleeperAction α) :
    Decidable (sleeper.Timely action) :=
  match action with
  | .check => inferInstanceAs
      (Decidable (sleeper.isEmpty = true → sleeper.spsc.producer.phase.sawItems = false))
  | .produce _ | .signal | .consume _ | .clear | .wake => .isTrue trivial

/-- A consumer which sleeps before the producer looks is signalled. -/
theorem signalled_in_time : ∃ final : Sleeper (⟨1, by decide⟩ : Layout 64) Nat,
    Runs step Timely (start ⟨1, by decide⟩ Nat 0) final ∧ final.asleep = true ∧
      final.signalled = true ∧ final.spsc.history.pushed = [10, 20] ∧ ¬final.Stranded := by
  have runs : Runs step Timely (start (⟨1, by decide⟩ : Layout 64) Nat 0) _ :=
    .computed (pushUntilPublish 10 ++ [.produce .publish, .signal] ++ takeAndSleep ++
      pushUntilPublish 20 ++ [.produce .publish, .signal]) (by decide +kernel)
  exact ⟨_, runs, by decide +kernel, by decide +kernel, by decide +kernel,
    not_stranded_of_timely runs⟩

/-- A consumer which takes the first item and sleeps after the producer looked, and before it
stores the tail of the second item, is not signalled. -/
theorem stranded_between_look_and_publish : ∃ final : Sleeper (⟨1, by decide⟩ : Layout 64) Nat,
    Reaches step (start ⟨1, by decide⟩ Nat 0) final ∧ final.Stranded := by
  obtain ⟨final, reached, asleep, unsignalled, silent, idle, held⟩ :
      ∃ final : Sleeper (⟨1, by decide⟩ : Layout 64) Nat,
      Reaches step (start ⟨1, by decide⟩ Nat 0) final ∧
      final.asleep = true ∧ final.signalled = false ∧ final.signalling = false ∧
      final.spsc.producer.phase = .idle ∧ final.spsc.ring.tail ≠ final.spsc.consumer.head := by
    exact exists_reaches (pushUntilPublish 10 ++ [.produce .publish, .signal] ++
      pushUntilPublish 20 ++ takeAndSleep ++ [.produce .publish]) (by decide +kernel)
  exact ⟨final, reached, asleep, unsignalled, ⟨silent, by simp [idle], by simp [idle]⟩, held⟩

end Sleeper

end Omq.Yring
