import Omq.Library.Transition

/-!
# The signal of a queue

Producers push and then mark; the consumer enters a pass, drains, looks whether the queue is empty
and clears the signal after that look.  Each atomic access is a step of its own.  An item whose
producer has finished its mark is never left behind an idle signal.
-/

namespace Omq

open Transition

inductive SignalState
  | idle
  | pending
  | draining
  | dirty
  deriving DecidableEq

/-- Where a producer is. -/
inductive MarkPhase
  /-- Outside, or done with its mark. -/
  | resting
  /-- The item is in the queue; `mark` starts. -/
  | pushed
  /-- `mark` saw this state and is about to exchange it. -/
  | exchanging (seen : SignalState)
  deriving DecidableEq

inductive DrainPhase
  | outside
  /-- `begin_drain` saw a pending signal. -/
  | entering
  | draining
  /-- The queue was seen empty; `clear_after` starts. -/
  | clearing
  /-- `clear_after` saw a pass which nobody marked. -/
  | idling
  | rearming
  /-- `rearm` saw this state and is about to exchange it. -/
  | exchanging (seen : SignalState)
  deriving DecidableEq

def MarkPhase.seeing : SignalState → MarkPhase
  | .pending | .dirty => .resting
  | seen => .exchanging seen

def SignalState.marked : SignalState → SignalState
  | .draining => .dirty
  | _ => .pending

/-- How `clear_after` goes on after it saw a state. -/
def DrainPhase.seeing : SignalState → DrainPhase
  | .draining => .idling
  | .dirty => .rearming
  | .pending | .idle => .outside

def DrainPhase.rearmSeeing : SignalState → DrainPhase
  | .pending => .outside
  | seen => .exchanging seen

/-- A signal, the length of its queue, and everybody who uses it. -/
structure DataSignal (Producer : Type*) where
  state : SignalState
  queued : Nat
  producers : Producer → MarkPhase
  consumer : DrainPhase

namespace DataSignal

variable {Producer : Type*}

def new : DataSignal Producer := ⟨.idle, 0, fun _ => .resting, .outside⟩

def isIdle (signal : DataSignal Producer) : Bool := signal.state = .idle

/-- The accesses.  A weak exchange may fail although the state is the expected one. -/
inductive Action (Producer : Type*)
  | push (producer : Producer)
  | loadMark (producer : Producer)
  | exchangeMark (producer : Producer) (spurious : Bool)
  | beginDrain
  | exchangeBegin
  | drain
  | look
  | loadClear
  | exchangeClear (spurious : Bool)
  | loadRearm
  | exchangeRearm (spurious : Bool)

variable [DecidableEq Producer] (signal : DataSignal Producer)

def setProducer (producer : Producer) (phase : MarkPhase) : DataSignal Producer :=
  { signal with producers := Function.update signal.producers producer phase }

/-- One access.  The consumer may start a pass at any time: `ready` also returns on a notification
which was left over. -/
def step : Action Producer → Option (DataSignal Producer)
  | .push producer =>
    if signal.producers producer = .resting then
      some { signal.setProducer producer .pushed with queued := signal.queued + 1 }
    else none
  | .loadMark producer =>
    if signal.producers producer = .pushed then
      some (signal.setProducer producer (.seeing signal.state))
    else none
  | .exchangeMark producer spurious =>
    match signal.producers producer with
    | .exchanging seen =>
      if signal.state = seen ∧ !spurious then
        some { signal.setProducer producer .resting with state := seen.marked }
      else some (signal.setProducer producer (.seeing signal.state))
    | _ => none
  | .beginDrain =>
    if signal.consumer = .outside then
      some { signal with
        consumer := if signal.state = .pending then .entering else .draining }
    else none
  | .exchangeBegin =>
    if signal.consumer = .entering then
      some { signal with
        state := if signal.state = .pending then .draining else signal.state
        consumer := .draining }
    else none
  | .drain =>
    if signal.consumer = .draining then some { signal with queued := signal.queued - 1 }
    else none
  | .look =>
    if signal.consumer = .draining then
      some { signal with consumer := if signal.queued = 0 then .clearing else .rearming }
    else none
  | .loadClear =>
    if signal.consumer = .clearing then
      some { signal with consumer := .seeing signal.state }
    else none
  | .exchangeClear spurious =>
    if signal.consumer = .idling then
      if signal.state = .draining ∧ !spurious then
        some { signal with state := .idle, consumer := .outside }
      else some { signal with consumer := .seeing signal.state }
    else none
  | .loadRearm =>
    if signal.consumer = .rearming then
      some { signal with consumer := .rearmSeeing signal.state }
    else none
  | .exchangeRearm spurious =>
    match signal.consumer with
    | .exchanging seen =>
      if signal.state = seen ∧ !spurious then
        some { signal with state := .pending, consumer := .outside }
      else some { signal with consumer := .rearmSeeing signal.state }
    | _ => none

/-- The queue is about to be looked at again, or the signal says so. -/
def Covered : Prop :=
  match signal.consumer with
  | .outside => signal.state ≠ .idle
  | .clearing | .idling => signal.state = .pending ∨ signal.state = .dirty
  | _ => True

/-- An item in the queue is covered, unless some producer is not done with its mark. -/
def Attended : Prop :=
  0 < signal.queued → (∃ producer, signal.producers producer ≠ .resting) ∨ signal.Covered

variable {before after signal : DataSignal Producer}

omit [DecidableEq Producer] in
theorem covered_of_marked (marked : signal.state = .pending ∨ signal.state = .dirty) :
    signal.Covered := by
  unfold Covered
  split
  · rcases marked with marked | marked <;> rw [marked] <;> decide
  · exact marked
  · exact marked
  · trivial

/-- A producer which is not done stands for its item. -/
theorem attended_setProducer {producer : Producer} {phase : MarkPhase} {queued : Nat}
    (unfinished : phase ≠ .resting) :
    ({ signal.setProducer producer phase with queued } : DataSignal Producer).Attended :=
  fun _ => .inl ⟨producer, by simpa [setProducer] using unfinished⟩

/-- A producer which saw a state either goes on or leaves a marked signal. -/
theorem attended_seeing (signal : DataSignal Producer) (producer : Producer) :
    (signal.setProducer producer (.seeing signal.state)).Attended := by
  cases state : signal.state with
  | idle | draining => exact attended_setProducer (by simp [MarkPhase.seeing])
  | pending => exact fun _ => .inr (covered_of_marked (.inl state))
  | dirty => exact fun _ => .inr (covered_of_marked (.inr state))

omit [DecidableEq Producer] in
/-- Accesses of the consumer only have to keep the items covered. -/
theorem Attended.consumer (attended : signal.Attended) {queued : Nat}
    (fewer : queued ≤ signal.queued) {state : SignalState} {consumer : DrainPhase}
    (covered : 0 < queued → signal.Covered →
      ({ signal with state, consumer } : DataSignal Producer).Covered) :
    ({ signal with state, queued, consumer } : DataSignal Producer).Attended :=
  fun waiting => (attended (Nat.lt_of_lt_of_le waiting fewer)).imp_right (covered waiting)

omit [DecidableEq Producer] in
theorem covered_seeing (marked : signal.state = .pending ∨ signal.state = .dirty) :
    ({ signal with consumer := .seeing signal.state } : DataSignal Producer).Covered := by
  rcases marked with state | state <;> simp [Covered, state, DrainPhase.seeing]

omit [DecidableEq Producer] in
theorem covered_rearmSeeing (signal : DataSignal Producer) :
    ({ signal with consumer := .rearmSeeing signal.state } : DataSignal Producer).Covered := by
  cases state : signal.state <;> simp [Covered, DrainPhase.rearmSeeing]

theorem Attended.step {action : Action Producer} (stepped : before.step action = some after)
    (attended : before.Attended) : after.Attended := by
  cases action with
  | push producer =>
    obtain ⟨_, rfl⟩ := Option.ite_some_none_eq_some.mp stepped
    exact attended_setProducer nofun
  | loadMark producer =>
    obtain ⟨_, rfl⟩ := Option.ite_some_none_eq_some.mp stepped
    exact attended_seeing before producer
  | exchangeMark producer spurious =>
    cases phase : before.producers producer with
    | exchanging seen =>
      simp only [DataSignal.step, phase] at stepped
      split at stepped <;> cases stepped
      · refine fun _ => .inr (covered_of_marked ?_)
        cases seen <;> simp [SignalState.marked]
      · exact attended_seeing before producer
    | _ => simp [DataSignal.step, phase] at stepped
  | beginDrain =>
    obtain ⟨_, rfl⟩ := Option.ite_some_none_eq_some.mp stepped
    refine attended.consumer (Nat.le_refl _) fun _ _ => ?_
    by_cases pending : before.state = .pending <;> simp [Covered, pending]
  | exchangeBegin =>
    obtain ⟨_, rfl⟩ := Option.ite_some_none_eq_some.mp stepped
    exact attended.consumer (Nat.le_refl _) fun _ _ => trivial
  | drain =>
    obtain ⟨draining, rfl⟩ := Option.ite_some_none_eq_some.mp stepped
    exact attended.consumer (Nat.sub_le _ _) fun _ covered => covered
  | look =>
    obtain ⟨_, rfl⟩ := Option.ite_some_none_eq_some.mp stepped
    -- Whoever pushes after an empty look has its mark still to make.
    refine attended.consumer (Nat.le_refl _) fun waiting _ => ?_
    simp [Covered, Nat.ne_of_gt waiting]
  | loadClear =>
    obtain ⟨clearing, rfl⟩ := Option.ite_some_none_eq_some.mp stepped
    refine attended.consumer (Nat.le_refl _) fun _ covered => covered_seeing ?_
    rwa [Covered, clearing] at covered
  | exchangeClear spurious =>
    obtain ⟨idling, moved⟩ := Option.ite_none_right_eq_some.mp stepped
    have marked (covered : before.Covered) : before.state = .pending ∨ before.state = .dirty := by
      rwa [Covered, idling] at covered
    split at moved <;> cases moved
    · rename_i exchanged
      refine attended.consumer (Nat.le_refl _) fun _ covered => ?_
      simpa [exchanged.1] using marked covered
    · exact attended.consumer (Nat.le_refl _) fun _ covered => covered_seeing (marked covered)
  | loadRearm =>
    obtain ⟨_, rfl⟩ := Option.ite_some_none_eq_some.mp stepped
    exact attended.consumer (Nat.le_refl _) fun _ _ => covered_rearmSeeing before
  | exchangeRearm spurious =>
    cases phase : before.consumer with
    | exchanging seen =>
      simp only [DataSignal.step, phase] at stepped
      split at stepped <;> cases stepped
      · exact attended.consumer (Nat.le_refl _) fun _ _ => nofun
      · exact attended.consumer (Nat.le_refl _) fun _ _ => covered_rearmSeeing before
    | _ => simp [DataSignal.step, phase] at stepped

/-- No wake-up is lost: `ready` returns at once when an item waits, every producer is done with its
mark and the consumer is outside a pass. -/
theorem not_isIdle_of_queued (reached : Reaches step new signal)
    (waiting : 0 < signal.queued) (done : ∀ producer, signal.producers producer = .resting)
    (outside : signal.consumer = .outside) : signal.isIdle = false := by
  have attended : signal.Attended :=
    reached.invariant (fun _ stepped => Attended.step stepped) nofun
  obtain ⟨producer, unfinished⟩ | covered := attended waiting
  · exact absurd (done producer) unfinished
  · rw [Covered, outside] at covered
    simpa [isIdle] using covered

omit [DecidableEq Producer] in
/-- One producer marks while the pass of the other's item is cleared. -/
theorem not_isIdle_of_queued_late : ∃ final : DataSignal Bool,
    Reaches step new final ∧ 0 < final.queued ∧
      (∀ producer, final.producers producer = .resting) ∧ final.consumer = .outside ∧
      final.isIdle = false := by
  have reached : Reaches step (new : DataSignal Bool) _ := .computed [.push true, .loadMark true,
    .exchangeMark true false, .beginDrain, .exchangeBegin, .drain, .look, .loadClear, .push false,
    .loadMark false, .exchangeMark false false, .exchangeClear false, .loadRearm,
    .exchangeRearm false] (by decide +kernel)
  exact ⟨_, reached, by decide +kernel, by decide +kernel, by decide +kernel,
    not_isIdle_of_queued reached (by decide +kernel) (by decide +kernel) (by decide +kernel)⟩

end DataSignal

end Omq
