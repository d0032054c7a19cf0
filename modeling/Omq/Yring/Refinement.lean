import Omq.Library.BoundedFifo
import Omq.Library.Transition
import Omq.Yring.Spsc

/-!
# The ring refines a bounded queue

Counting without wrapping, the positions of the two halves are ordered: cached head, published
head, read position, cached tail, published tail, write position, and the write position is at
most one capacity ahead of the cached head.  Every word of the ring is one of these counts seen
through the machine word, and the slots between the read and the write position hold the items
which were not handed out.
-/

namespace Omq.Yring

open WrappingCursor Function Transition Spsc

variable {width : Nat} {layout : Layout width} {α : Type}

/-- Positions of a ring which its callers cannot see. -/
structure Marks where
  cachedHead : Nat
  tail : Nat
  cachedTail : Nat

/-- Positions less than one capacity apart are in different slots. -/
theorem Layout.index_inj (layout : Layout width) (start : BitVec width) {earlier later : Nat}
    (ordered : earlier ≤ later) (near : later < earlier + layout.capacity)
    (same : layout.index (cursorAt start earlier) = layout.index (cursorAt start later)) :
    earlier = later := by
  have residues : (cursorAt start earlier).toNat % 2 ^ layout.exponent =
      (cursorAt start later).toNat % 2 ^ layout.exponent := by
    rw [← toNat_and_mask layout.exponent_le, ← toNat_and_mask layout.exponent_le]
    exact congrArg (fun slot : Fin layout.capacity => slot.val) same
  rw [toNat_cursorAt_mod _ layout.exponent_le, toNat_cursorAt_mod _ layout.exponent_le] at residues
  exact eq_of_mod_eq ordered near residues

/-- What a ring in use represents. -/
structure Represents (start : BitVec width) (state : Spsc layout α)
    (fifo : BoundedFifo α layout.capacity) (marks : Marks) : Prop where
  pushed : state.history.pushed = fifo.pushed
  popped : state.history.popped = fifo.handedOut
  released : state.history.released = fifo.released
  dropped : state.history.dropped = []
  /-- No slot without a live value was read. -/
  defined : state.history.undefined = false
  cursor : state.producer.cursor = cursorAt start fifo.pushed.length
  head : state.consumer.head = cursorAt start fifo.popped
  ringHead : state.ring.head = cursorAt start fifo.released
  ringTail : state.ring.tail = cursorAt start marks.tail
  cachedHead : state.producer.cachedHead = cursorAt start marks.cachedHead
  cachedTail : state.consumer.cachedTail = cursorAt start marks.cachedTail
  cachedHead_le : marks.cachedHead ≤ fifo.released
  popped_le : fifo.popped ≤ marks.cachedTail
  cachedTail_le : marks.cachedTail ≤ marks.tail
  /-- The published tail is an earlier write position. -/
  tail_le : marks.tail ≤ fifo.pushed.length
  bounded : fifo.pushed.length ≤ marks.cachedHead + layout.capacity
  /-- Items which were not handed out are in their slots. -/
  stored : ∀ position, fifo.popped ≤ position → position < fifo.pushed.length →
    (state.ring.buf (layout.index (cursorAt start position))).content = fifo.pushed[position]?
  /-- A slot carries the number of an item which belongs there. -/
  numbered : ∀ slot position, (state.ring.buf slot).serial = some position →
    position < fifo.pushed.length ∧ layout.index (cursorAt start position) = slot

namespace Represents

variable {start : BitVec width} {state : Spsc layout α} {fifo : BoundedFifo α layout.capacity}
  {marks : Marks}

/-- A fresh ring is an empty queue. -/
theorem withCursors (layout : Layout width) (α : Type) (start : BitVec width) :
    Represents start (withCursors layout α start) .empty ⟨0, 0, 0⟩ where
  pushed := rfl
  popped := rfl
  released := rfl
  dropped := rfl
  defined := rfl
  cursor := (cursorAt_zero start).symm
  head := (cursorAt_zero start).symm
  ringHead := (cursorAt_zero start).symm
  ringTail := (cursorAt_zero start).symm
  cachedHead := (cursorAt_zero start).symm
  cachedTail := (cursorAt_zero start).symm
  cachedHead_le := Nat.le_refl 0
  popped_le := Nat.le_refl 0
  cachedTail_le := Nat.le_refl 0
  tail_le := Nat.le_refl 0
  bounded := Nat.zero_le _
  stored := fun _ _ inside => absurd inside (Nat.not_lt_zero _)
  numbered := fun _ _ written => nomatch written

variable (represents : Represents start state fifo marks)

include represents

theorem produce (phase : ProducerPhase width α) :
    Represents start (state.produce phase) fifo marks :=
  { represents with }

theorem consume (phase : ConsumerPhase) : Represents start (state.consume phase) fifo marks :=
  { represents with }

theorem reloadHead :
    Represents start state.reloadHead fifo { marks with cachedHead := fifo.released } :=
  { represents with
    cachedHead := represents.ringHead
    cachedHead_le := Nat.le_refl _
    bounded := fifo.bounded }

theorem storeTail :
    Represents start state.storeTail fifo { marks with tail := fifo.pushed.length } :=
  { represents with
    ringTail := represents.cursor
    cachedTail_le := represents.cachedTail_le.trans represents.tail_le
    tail_le := Nat.le_refl _ }

theorem storeHead : Represents start state.storeHead fifo.release marks :=
  { represents with
    released := by
      change state.history.popped.length = fifo.popped
      rw [represents.popped, fifo.length_handedOut]
    ringHead := represents.head
    cachedHead_le := represents.cachedHead_le.trans fifo.released_le }

theorem reloadTail :
    Represents start state.reloadTail fifo { marks with cachedTail := marks.tail } :=
  { represents with
    cachedTail := represents.ringTail
    popped_le := represents.popped_le.trans represents.cachedTail_le
    cachedTail_le := Nat.le_refl _ }

/-- The producer looks full exactly when it is one capacity ahead of its cached head. -/
theorem appearsFull_iff :
    state.producer.appearsFull layout.capacity = true ↔
      fifo.pushed.length = marks.cachedHead + layout.capacity := by
  have bounded := represents.bounded
  have ordered : marks.cachedHead ≤ fifo.pushed.length :=
    represents.cachedHead_le.trans (fifo.released_le.trans fifo.popped_le)
  have range := layout.capacity_lt
  rw [Producer.appearsFull, represents.cursor, represents.cachedHead,
    toNat_sub_cursorAt start ordered (by omega), decide_eq_true_iff]
  omega

/-- The slot about to be written holds no unreleased item. -/
theorem released_of_serial (room : fifo.pushed.length < fifo.released + layout.capacity)
    {position : Nat}
    (written : (state.ring.buf (layout.index state.producer.cursor)).serial = some position) :
    position < fifo.released := by
  obtain ⟨inside, same⟩ := represents.numbered _ _ written
  rw [represents.cursor] at same
  by_contra unreleased
  have equal := layout.index_inj start (Nat.le_of_lt inside) (by omega) same
  omega

theorem writeSlot (value : α) (ahead : fifo.pushed.length < marks.cachedHead + layout.capacity)
    (room : fifo.pushed.length < fifo.released + layout.capacity) :
    Represents start (state.writeSlot value) (fifo.push value room) marks := by
  have length_eq : (fifo.push value room).pushed.length = fifo.pushed.length + 1 := by
    simp [BoundedFifo.push]
  have pushed_eq : (fifo.push value room).pushed = fifo.pushed ++ [value] := rfl
  have buf_eq : (state.writeSlot value).ring.buf = update state.ring.buf
      (layout.index (cursorAt start fifo.pushed.length))
      ⟨some value, some fifo.pushed.length⟩ := by
    rw [← represents.cursor, ← represents.pushed]
    rfl
  refine { represents with
    pushed := ?_, popped := ?_, cursor := ?_, tail_le := ?_, bounded := ?_, stored := ?_,
    numbered := ?_ }
  · change state.history.pushed ++ [value] = _
    rw [represents.pushed, pushed_eq]
  · rw [fifo.handedOut_push]
    exact represents.popped
  · rw [length_eq, ← cursorAt_add_one, ← represents.cursor]
    rfl
  · have tail_le := represents.tail_le
    omega
  · omega
  · intro position unread inside
    rw [buf_eq, pushed_eq]
    by_cases last : position = fifo.pushed.length
    · subst last
      rw [update_self, List.getElem?_concat_length]
    · have earlier : position < fifo.pushed.length := by omega
      have still_unread : fifo.popped ≤ position := unread
      have other : layout.index (cursorAt start position) ≠
          layout.index (cursorAt start fifo.pushed.length) := by
        intro same
        have released_le := fifo.released_le
        exact last (layout.index_inj start (by omega) (by omega) same)
      rw [update_of_ne other, List.getElem?_append_left earlier]
      exact represents.stored position still_unread earlier
  · intro slot position written
    rw [buf_eq] at written
    by_cases same : slot = layout.index (cursorAt start fifo.pushed.length)
    · subst same
      rw [update_self] at written
      cases written
      exact ⟨by omega, rfl⟩
    · rw [update_of_ne same] at written
      obtain ⟨inside, belongs⟩ := represents.numbered slot position written
      exact ⟨by omega, belongs⟩

theorem readSlot (visible : state.consumer.head ≠ state.consumer.cachedTail) :
    ∃ waiting, Represents start state.readSlot (fifo.pop waiting) marks := by
  have range := layout.capacity_lt
  have popped_le := represents.popped_le
  have cachedTail_le := represents.cachedTail_le
  have tail_le := represents.tail_le
  have bounded := fifo.bounded
  have released_le := fifo.released_le
  have below : fifo.popped < marks.cachedTail := by
    refine Nat.lt_of_le_of_ne popped_le fun same => visible ?_
    rw [represents.head, represents.cachedTail, same]
  have waiting : fifo.popped < fifo.pushed.length := by omega
  have content := represents.stored fifo.popped (Nat.le_refl _) waiting
  rw [List.getElem?_eq_getElem waiting, ← represents.head] at content
  refine ⟨waiting, ?_⟩
  unfold Spsc.readSlot
  rw [content]
  refine { represents with
    popped := ?_, head := ?_, popped_le := below, stored := ?_, numbered := ?_ }
  · rw [fifo.handedOut_pop waiting, ← represents.popped]
  · change state.consumer.head + 1 = _
    rw [represents.head, cursorAt_add_one]
    rfl
  · intro position unread inside
    have later : fifo.popped < position := unread
    have other : layout.index (cursorAt start position) ≠ layout.index state.consumer.head := by
      rw [represents.head]
      intro same
      have equal := layout.index_inj start later.le (by
        change position < fifo.pushed.length at inside
        omega) same.symm
      omega
    simp only [update_of_ne other]
    exact represents.stored position later.le inside
  · intro slot position written
    by_cases same : slot = layout.index state.consumer.head
    · subst same
      simp only [update_self] at written
      exact represents.numbered _ _ written
    · simp only [update_of_ne same] at written
      exact represents.numbered _ _ written

end Represents

/-! ## Teardown -/

theorem Ring.dropLoop_eq (layout : Layout width) (start : BitVec width) {items : List α}
    {fuel position : Nat} {buf : Fin layout.capacity → Slot α} (enough : items.length ≤ fuel)
    (few : items.length ≤ layout.capacity)
    (stored : ∀ i < items.length,
      (buf (layout.index (cursorAt start (position + i)))).content = items[i]?) :
    ∃ emptied, dropLoop layout (cursorAt start (position + items.length)) fuel
      (cursorAt start position) buf = some (items, emptied) := by
  induction items generalizing fuel position buf with
  | nil => cases fuel <;> exact ⟨buf, by simp [dropLoop]⟩
  | cons value rest induction =>
    obtain ⟨fuel, rfl⟩ := Nat.exists_eq_add_of_le' (Nat.one_le_of_lt enough)
    simp only [List.length_cons] at enough few stored ⊢
    have range := layout.capacity_lt
    have unfinished : cursorAt start position ≠ cursorAt start (position + (rest.length + 1)) := by
      rw [Ne, cursorAt_inj start (by omega) (by omega)]
      omega
    have first : (buf (layout.index (cursorAt start position))).content = some value := by
      simpa using stored 0 (by omega)
    have later : ∀ i < rest.length, (update buf (layout.index (cursorAt start position))
        { buf (layout.index (cursorAt start position)) with content := none }
        (layout.index (cursorAt start (position + 1 + i)))).content = rest[i]? := by
      intro i inside
      have other : layout.index (cursorAt start (position + 1 + i)) ≠
          layout.index (cursorAt start position) := by
        intro same
        have equal := layout.index_inj start (by omega) (by omega) same.symm
        omega
      rw [update_of_ne other, Nat.add_assoc, Nat.add_comm 1 i,
        stored (i + 1) (by omega), List.getElem?_cons_succ]
    have rest_enough : rest.length ≤ fuel := by omega
    obtain ⟨emptied, dropped⟩ := induction rest_enough (by omega) later
    refine ⟨emptied, ?_⟩
    rw [show position + (rest.length + 1) = position + 1 + rest.length by omega] at unfinished ⊢
    rw [dropLoop, if_neg unfinished, cursorAt_add_one]
    simp only [first, dropped, Option.map_some]

variable {start : BitVec width} {state after : Spsc layout α}
  {fifo : BoundedFifo α layout.capacity} {marks : Marks}

/-- A ring which both halves left. -/
structure TornDown (state : Spsc layout α) (fifo : BoundedFifo α layout.capacity) : Prop where
  pushed : state.history.pushed = fifo.pushed
  popped : state.history.popped = fifo.handedOut
  released : state.history.released = fifo.released
  dropped : state.history.dropped = fifo.remaining
  defined : state.history.undefined = false
  producer : state.producer.phase = .left
  consumer : state.consumer.phase = .left

/-- Once everything is published, dropping the ring drops the items which were not handed out. -/
theorem Represents.teardown (represents : Represents start state fifo marks)
    (flushed : marks.tail = fifo.pushed.length) (closed : fifo.released = fifo.popped)
    (producer : state.producer.phase = .left) (consumer : state.consumer.phase = .left) :
    TornDown state.teardown fifo := by
  have popped_le := fifo.popped_le
  have bounded := fifo.bounded
  have range := layout.capacity_lt
  have length_eq : fifo.remaining.length = fifo.pushed.length - fifo.popped := List.length_drop
  have stored : ∀ i < fifo.remaining.length,
      (state.ring.buf (layout.index (cursorAt start (fifo.popped + i)))).content =
        fifo.remaining[i]? := by
    intro i inside
    rw [represents.stored _ (Nat.le_add_right _ _) (by omega), BoundedFifo.remaining,
      List.getElem?_drop]
  have enough : fifo.remaining.length ≤ 2 ^ width := by omega
  obtain ⟨emptied, dropped⟩ := Ring.dropLoop_eq layout start enough (by omega) stored
  have ends : fifo.popped + fifo.remaining.length = marks.tail := by omega
  rw [ends, ← closed, ← represents.ringTail, ← represents.ringHead] at dropped
  have whole : state.ring.dropRemaining =
      some (fifo.remaining, { state.ring with head := state.ring.tail, buf := emptied }) := by
    rw [Ring.dropRemaining, dropped]
    rfl
  unfold Spsc.teardown
  rw [whole]
  exact ⟨represents.pushed, represents.popped, represents.released, rfl, represents.defined,
    producer, consumer⟩

/-! ## Runs -/

def ProducerPhase.Holds (phase : ProducerPhase width α) (fifo : BoundedFifo α layout.capacity)
    (marks : Marks) : Prop :=
  match phase with
  | .writing _ => fifo.pushed.length < marks.cachedHead + layout.capacity
  | .closing | .leaving | .left => marks.tail = fifo.pushed.length
  | _ => True

def ConsumerPhase.Holds (phase : ConsumerPhase) (fifo : BoundedFifo α layout.capacity) : Prop :=
  phase ≠ .idle → fifo.released = fifo.popped

/-- A ring which at least one half still uses. -/
structure InUse (start : BitVec width) (state : Spsc layout α)
    (fifo : BoundedFifo α layout.capacity) (marks : Marks) : Prop
    extends Represents start state fifo marks where
  producing : state.producer.phase.Holds fifo marks
  consuming : state.consumer.phase.Holds fifo
  attached : state.producer.phase = .left → state.consumer.phase ≠ .left

/-- A ring stands for a queue, in use or torn down. -/
inductive Stands (start : BitVec width) (state : Spsc layout α)
    (fifo : BoundedFifo α layout.capacity) : Prop
  | inUse (marks : Marks) (inUse : InUse start state fifo marks)
  | tornDown (tornDown : TornDown state fifo)

/-- The ring stands for the queue or for one which the queue becomes in one step. -/
def Simulated (start : BitVec width) (fifo : BoundedFifo α layout.capacity)
    (state : Spsc layout α) : Prop :=
  ∃ next, Relation.ReflGen BoundedFifo.Step fifo next ∧ Stands start state next

theorem Simulated.unchanged (represents : Represents start state fifo marks)
    (producing : state.producer.phase.Holds fifo marks)
    (consuming : state.consumer.phase.Holds fifo)
    (attached : state.producer.phase = .left → state.consumer.phase ≠ .left) :
    Simulated start fifo state :=
  ⟨fifo, .refl, .inUse marks ⟨represents, producing, consuming, attached⟩⟩

variable {action : Action α}

/-- An access of the producer is a push or does not change the queue. -/
theorem InUse.produceStep (inUse : InUse start state fifo marks)
    (stepped : state.produceStep action = some after) : Simulated start fifo after := by
  have represents := inUse.toRepresents
  have producing := inUse.producing
  have consuming := inUse.consuming
  have ahead (unlike : ¬state.producer.appearsFull layout.capacity = true) :
      fifo.pushed.length < marks.cachedHead + layout.capacity :=
    Nat.lt_of_le_of_ne represents.bounded (mt represents.appearsFull_iff.mpr unlike)
  revert stepped
  fun_cases state.produceStep action <;> rintro ⟨⟩
  · -- push
    split_ifs with full
    · exact .unchanged (represents.produce _) trivial consuming nofun
    · exact .unchanged (represents.produce _) (ahead full) consuming nofun
  next => -- loadHead of a full ring
    have refused := represents.reloadHead.produce (.idle : ProducerPhase width α)
    exact .unchanged { refused with } trivial consuming nofun
  next full => -- loadHead
    have loaded := represents.reloadHead
    have room := Nat.lt_of_le_of_ne loaded.bounded (mt loaded.appearsFull_iff.mpr full)
    exact .unchanged (loaded.produce _) room consuming nofun
  next value writing => -- write
    rw [writing] at producing
    have room : fifo.pushed.length < fifo.released + layout.capacity :=
      Nat.lt_of_lt_of_le producing (Nat.add_le_add_right represents.cachedHead_le _)
    exact ⟨fifo.push value room, .single (.push fifo value room),
      .inUse marks
        ⟨(represents.writeSlot value producing room).produce _, trivial, consuming, nofun⟩⟩
  · -- isFull
    split_ifs with full
    · exact .unchanged (represents.produce _) trivial consuming nofun
    · exact .unchanged (represents.produce _) trivial consuming nofun
  · -- probe
    exact .unchanged (represents.reloadHead.produce _) trivial consuming nofun
  next idle => -- flush
    refine .unchanged represents.storeTail ?_ consuming inUse.attached
    change state.producer.phase.Holds _ _
    rw [idle]
    trivial
  · -- flushAndCheck with nothing to flush
    exact .unchanged { represents with } producing consuming inUse.attached
  · -- flushAndCheck
    exact .unchanged (represents.produce _) trivial consuming nofun
  · -- checkHead
    exact .unchanged (represents.reloadHead.produce _) trivial consuming nofun
  · -- publish
    have stored := represents.storeTail.produce (.idle : ProducerPhase width α)
    exact .unchanged { stored with } trivial consuming nofun
  · -- closeProducer
    exact .unchanged (represents.storeTail.produce _) rfl consuming nofun
  next closing => -- markProducerDropped
    rw [closing] at producing
    exact .unchanged { represents with } producing consuming nofun
  next leaving _ => -- producerLeaves
    rw [leaving] at producing
    split_ifs with alone
    · have closed : fifo.released = fifo.popped := consuming (by simp [alone])
      exact ⟨fifo, .refl, .tornDown ((represents.produce _).teardown producing closed rfl alone)⟩
    · exact .unchanged (represents.produce _) producing consuming fun _ => alone

theorem Spsc.phases_readSlot (state : Spsc layout α) :
    state.readSlot.producer.phase = state.producer.phase ∧
      state.readSlot.consumer.phase = state.consumer.phase := by
  unfold readSlot
  split <;> exact ⟨rfl, rfl⟩

/-- An access of the consumer is a pop, a release or does not change the queue. -/
theorem InUse.consumeStep (inUse : InUse start state fifo marks)
    (stepped : state.consumeStep action = some after) : Simulated start fifo after := by
  have represents := inUse.toRepresents
  have producing := inUse.producing
  have consuming := inUse.consuming
  revert stepped
  fun_cases state.consumeStep action <;> rintro ⟨⟩
  · -- prefetch
    exact .unchanged represents.reloadTail producing consuming inUse.attached
  next idle => -- pop
    split_ifs with exhausted
    · exact .unchanged represents producing consuming inUse.attached
    · obtain ⟨waiting, popped⟩ := represents.readSlot exhausted
      obtain ⟨producer_eq, consumer_eq⟩ := state.phases_readSlot
      refine ⟨fifo.pop waiting, .single (.pop fifo waiting), .inUse marks ⟨popped, ?_, ?_, ?_⟩⟩
      · rw [producer_eq]
        exact producing
      · exact fun busy => absurd (consumer_eq.trans idle) busy
      · rw [producer_eq, consumer_eq]
        exact inUse.attached
  · -- release
    exact ⟨fifo.release, .single (.release fifo),
      .inUse marks ⟨represents.storeHead, producing, fun _ => rfl, inUse.attached⟩⟩
  · -- closeConsumer
    exact ⟨fifo.release, .single (.release fifo),
      .inUse marks ⟨represents.storeHead.consume _, producing, fun _ => rfl, fun _ => nofun⟩⟩
  next closing => -- markConsumerDropped
    have closed : fifo.released = fifo.popped := consuming (by simp [closing])
    exact .unchanged { represents with } producing (fun _ => closed) (fun _ => nofun)
  next leaving _ => -- consumerLeaves
    have closed : fifo.released = fifo.popped := consuming (by simp [leaving])
    cases phase : state.producer.phase with
    | left =>
      rw [phase] at producing
      exact ⟨fifo, .refl, .tornDown ((represents.consume _).teardown producing closed phase rfl)⟩
    | _ =>
      exact .unchanged (represents.consume _) producing (fun _ => closed)
        fun gone => nomatch phase.symm.trans gone

/-- After both halves left nothing happens. -/
theorem TornDown.step_eq_none (tornDown : TornDown state fifo) (action : Action α) :
    state.step action = none := by
  cases action <;> simp [step, produceStep, consumeStep, tornDown.producer, tornDown.consumer]

theorem Stands.step (stands : Stands start state fifo) (stepped : state.step action = some after) :
    Simulated start fifo after := by
  cases stands with
  | inUse marks inUse =>
    obtain produced | ⟨_, consumed⟩ := Option.or_eq_some_iff.mp stepped
    · exact inUse.produceStep produced
    · exact inUse.consumeStep consumed
  | tornDown tornDown =>
    rw [tornDown.step_eq_none] at stepped
    cases stepped

/-- Every run of the ring is a run of the queue. -/
theorem stands_of_reaches (reached : Reaches step (withCursors layout α start) state) :
    ∃ fifo, Relation.ReflTransGen BoundedFifo.Step .empty fifo ∧ Stands start state fifo := by
  have kept {before next : Spsc layout α} {action : Action α}
      (stepped : before.step action = some next)
      (earlier : ∃ fifo, Relation.ReflTransGen BoundedFifo.Step .empty fifo ∧
        Stands start before fifo) :
      ∃ fifo, Relation.ReflTransGen BoundedFifo.Step .empty fifo ∧ Stands start next fifo := by
    obtain ⟨fifo, run, stands⟩ := earlier
    obtain ⟨later, step, still⟩ := stands.step stepped
    exact ⟨later, run.trans step.to_reflTransGen, still⟩
  exact reached.invariant (fun _ => kept) ⟨.empty, .refl, .inUse ⟨0, 0, 0⟩
    ⟨.withCursors layout α start, trivial, fun busy => absurd rfl busy, nofun⟩⟩

theorem Spsc.refused_teardown (state : Spsc layout α) :
    state.teardown.history.refused = state.history.refused := by
  unfold teardown
  split <;> rfl

/-- A value is handed back only when the ring looks full from the head just loaded. -/
theorem Spsc.refused_cases (stepped : state.step action = some after) :
    after.history.refused = state.history.refused ∨
      state.reloadHead.producer.appearsFull layout.capacity = true := by
  obtain produced | ⟨_, consumed⟩ := Option.or_eq_some_iff.mp stepped
  · revert produced
    fun_cases state.produceStep action <;> rintro ⟨⟩ <;> try exact .inl rfl
    next full => exact .inr full
    · refine .inl ?_
      split_ifs
      · exact refused_teardown _
      · rfl
  · revert consumed
    fun_cases state.consumeStep action <;> rintro ⟨⟩ <;> refine .inl ?_ <;> try rfl
    · split_ifs
      · rfl
      · unfold readSlot
        split <;> rfl
    · split
      · exact refused_teardown _
      · rfl

/-! ## The ring as a queue -/

/-- The ring refines a bounded queue.  From any start of the cursors, in every state of every
interleaving: what was handed out is a prefix of what was accepted; a push is refused only while
all places are taken; the slot about to be written last held a released item; no slot without a
live value was read; and after both halves left, every item was handed out or dropped, once. -/
theorem spsc_refines_fifo (reached : Reaches step (withCursors layout α start) state) :
    (∃ fifo : BoundedFifo α layout.capacity,
      Relation.ReflTransGen BoundedFifo.Step .empty fifo ∧
        state.history.pushed = fifo.pushed ∧ state.history.popped = fifo.handedOut ∧
        state.history.released = fifo.released) ∧
      state.history.popped <+: state.history.pushed ∧
      (∀ action after, state.step action = some after →
        after.history.refused ≠ state.history.refused →
          state.history.pushed.length = state.history.released + layout.capacity) ∧
      (∀ value, state.producer.phase = .writing value → ∀ position,
        (state.ring.buf (layout.index state.producer.cursor)).serial = some position →
          position < state.history.released) ∧
      state.history.undefined = false ∧
      (state.producer.phase = .left ∧ state.consumer.phase = .left →
        state.history.popped ++ state.history.dropped = state.history.pushed) ∧
      (¬(state.producer.phase = .left ∧ state.consumer.phase = .left) →
        state.history.dropped = []) := by
  obtain ⟨fifo, run, stands⟩ := stands_of_reaches reached
  cases stands with
  | inUse marks inUse =>
    refine ⟨⟨fifo, run, inUse.pushed, inUse.popped, inUse.released⟩, ?_, ?_, ?_, inUse.defined,
      fun gone => absurd gone.2 (inUse.attached gone.1), fun _ => inUse.dropped⟩
    · rw [inUse.popped, inUse.pushed]
      exact fifo.handedOut_prefix
    · intro action after stepped refused
      have full := (refused_cases stepped).resolve_left refused
      rw [inUse.pushed, inUse.released]
      exact inUse.reloadHead.appearsFull_iff.mp full
    · intro value writing position written
      have ahead := inUse.producing
      rw [writing] at ahead
      rw [inUse.released]
      exact inUse.released_of_serial
        (Nat.lt_of_lt_of_le ahead (Nat.add_le_add_right inUse.cachedHead_le _)) written
  | tornDown tornDown =>
    refine ⟨⟨fifo, run, tornDown.pushed, tornDown.popped, tornDown.released⟩, ?_, ?_, ?_,
      tornDown.defined, fun _ => ?_, fun present => absurd ⟨tornDown.producer, tornDown.consumer⟩
        present⟩
    · rw [tornDown.popped, tornDown.pushed]
      exact fifo.handedOut_prefix
    · intro action after stepped
      rw [tornDown.step_eq_none] at stepped
      cases stepped
    · intro value writing
      rw [tornDown.producer] at writing
      cases writing
    · rw [tornDown.popped, tornDown.dropped, tornDown.pushed]
      exact fifo.handedOut_append_remaining

/-- Three pushes into two slots from the last cursor of a three-bit word. -/
def wrapping : List (Action Nat) :=
  [.push 10, .write, .push 20, .write, .push 30, .loadHead, .flush, .prefetch, .pop, .release,
    .push 40, .loadHead, .write, .closeProducer, .closeConsumer, .markProducerDropped,
    .producerLeaves, .markConsumerDropped, .consumerLeaves]

/-- The cursors wrap, the third push is refused, and teardown drops what was not popped. -/
theorem wrapping_torn_down :
    ∃ state : Spsc (⟨1, by decide⟩ : Layout 3) Nat,
      Reaches step (withCursors ⟨1, by decide⟩ Nat 7) state ∧
      state.history.popped = [10] ∧ state.history.dropped = [20, 40] ∧
      state.history.refused = [30] ∧
      state.history.popped ++ state.history.dropped = state.history.pushed := by
  have reached : Reaches step (withCursors (⟨1, by decide⟩ : Layout 3) Nat 7) _ :=
    .computed wrapping (by decide +kernel)
  obtain ⟨_, _, _, _, _, once, _⟩ := spsc_refines_fifo reached
  exact ⟨_, reached, by decide +kernel, by decide +kernel, by decide +kernel,
    once (by decide +kernel)⟩

end Omq.Yring
