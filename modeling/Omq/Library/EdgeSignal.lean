import Omq.Library.Transition

/-!
# Signals on the edge from empty to not empty

A producer publishes a write position and signals only when the queue looked empty: it compares the
position published before with a read position it loads before it publishes.  A consumer publishes
a read position, clears the signal, and sleeps when it finds both positions equal.  It is never left
asleep on a queue which is not empty, unless it falls asleep between the look of the producer, which
still saw items, and the publication.
-/

namespace EdgeSignal

variable {Position : Type*}

inductive ProducerPhase (Position : Type*)
  | idle
  /-- The position published before is known. -/
  | looking (published : Position)
  /-- The read position was compared. -/
  | publishing (wasEmpty : Bool)
  /-- The new position is published, and a signal is due. -/
  | signalling

/-- Both halves. -/
structure Waiting (Position : Type*) where
  tail : Position
  head : Position
  producer : ProducerPhase Position
  asleep : Bool
  signalled : Bool

/-- Accesses of either half. -/
inductive Move (Position : Type*)
  | beginFlush
  | look
  | publish (position : Position)
  | signal
  | release (position : Position)
  | clear
  | sleep
  | wake

variable [DecidableEq Position]

def move (waiting : Waiting Position) : Move Position → Option (Waiting Position)
  | .beginFlush =>
    match waiting.producer with
    | .idle => some { waiting with producer := .looking waiting.tail }
    | _ => none
  | .look =>
    match waiting.producer with
    | .looking published =>
      some { waiting with producer := .publishing (published = waiting.head) }
    | _ => none
  | .publish position =>
    match waiting.producer with
    | .publishing wasEmpty =>
      some { waiting with
        tail := position
        producer := if wasEmpty then .signalling else .idle }
    | _ => none
  | .signal =>
    match waiting.producer with
    | .signalling => some { waiting with producer := .idle, signalled := true }
    | _ => none
  | .release position =>
    if waiting.asleep then none else some { waiting with head := position }
  | .clear => if waiting.asleep then none else some { waiting with signalled := false }
  | .sleep =>
    if !waiting.asleep ∧ waiting.head = waiting.tail then some { waiting with asleep := true }
    else none
  | .wake => some { waiting with asleep := false }

/-- The consumer does not fall asleep while the producer is about to publish without a signal. -/
def Timely (waiting : Waiting Position) : Move Position → Prop
  | .sleep => waiting.producer ≠ .publishing false
  | _ => True

/-- A consumer which sleeps is signalled, or will be by what the producer does next. -/
structure Attended (waiting : Waiting Position) : Prop where
  /-- Only the producer moves the write position. -/
  current : ∀ published, waiting.producer = .looking published → published = waiting.tail
  due : waiting.asleep = true → waiting.signalled = true ∨ waiting.producer = .signalling ∨
    waiting.head = waiting.tail ∧ waiting.producer ≠ .publishing false

theorem Attended.move {before after : Waiting Position} {action : Move Position}
    (timely : Timely before action) (moved : move before action = some after)
    (attended : Attended before) : Attended after := by
  obtain ⟨current, due⟩ := attended
  revert moved timely
  fun_cases EdgeSignal.move before action <;> rintro timely ⟨⟩
  next idle => -- beginFlush
    refine ⟨fun _ same => (ProducerPhase.looking.inj same).symm, fun sleeping => ?_⟩
    obtain raised | raising | ⟨empty, _⟩ := due sleeping
    · exact .inl raised
    · cases idle.symm.trans raising
    · exact .inr (.inr ⟨empty, by simp⟩)
  next published looking => -- look
    refine ⟨by simp, fun sleeping => ?_⟩
    obtain raised | raising | ⟨empty, _⟩ := due sleeping
    · exact .inl raised
    · cases looking.symm.trans raising
    · -- The consumer found the queue empty, so the look finds it empty too.
      refine .inr (.inr ⟨empty, ?_⟩)
      simpa using (current _ looking).trans empty.symm
  next wasEmpty publishing => -- publish
    refine ⟨by cases wasEmpty <;> simp, fun sleeping => ?_⟩
    obtain raised | raising | ⟨_, announced⟩ := due sleeping
    · exact .inl raised
    · cases publishing.symm.trans raising
    · cases wasEmpty with
      | true => exact .inr (.inl rfl)
      | false => exact absurd publishing announced
  · -- signal
    exact ⟨by simp, fun _ => .inl rfl⟩
  next awake => -- release
    exact ⟨current, fun sleeping => absurd sleeping awake⟩
  next awake => -- clear
    exact ⟨current, fun sleeping => absurd sleeping awake⟩
  next empty => -- sleep
    exact ⟨current, fun _ => .inr (.inr ⟨empty.2, timely⟩)⟩
  · -- wake
    exact ⟨current, fun sleeping => nomatch sleeping⟩

/-- After a timely run, a consumer which sleeps without a signal while the producer is outside its
flush sleeps on an empty queue. -/
theorem empty_of_asleep {start final : Waiting Position}
    (runs : Transition.Runs move Timely start final) (idle : start.producer = .idle)
    (awake : start.asleep = false) (asleep : final.asleep = true)
    (unsignalled : final.signalled = false) (outside : final.producer = .idle) :
    final.head = final.tail := by
  have attended : Attended final := runs.invariant Attended.move ⟨by simp [idle], by simp [awake]⟩
  obtain raised | raising | ⟨empty, _⟩ := attended.due asleep
  · simp [unsignalled] at raised
  · simp [outside] at raising
  · exact empty

end EdgeSignal
