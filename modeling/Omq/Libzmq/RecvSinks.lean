import Omq.Library.Queues
import Omq.Library.Transition

/-!
# Receive rings of the C API

The driver of a peer pushes into a ring whose producer it took from a slot, or, when the slot is
empty, into a ring which a pump empties.  Removing a peer refills the slot; the application finds
the consumer of the new ring in a second slot, but only once the ring it reads is disconnected.
A ring which waits there while the ring before it is connected is stranded, and one which waits
there when the slot is refilled again is dropped.
-/

namespace Omq.Libzmq

open Function Queues Transition
open List

/-- A ring between a driver and the application. -/
structure RecvRing (Message : Type) where
  unread : List Message
  connected : Bool
  deriving DecidableEq

/-- The producer was dropped and everything was read. -/
def RecvRing.isDisconnected {Message : Type} (ring : RecvRing Message) : Bool :=
  !ring.connected && ring.unread.isEmpty

/-- The receiving side of a socket. -/
structure RecvSinks (Message : Type) where
  cap : Nat
  rings : List (RecvRing Message)
  /-- The ring whose producer waits for a driver. -/
  slot : Option Nat
  /-- The ring whose consumer waits for the application. -/
  pendingConsumer : Option Nat
  /-- The ring whose consumer the application has. -/
  fast : Nat
  pump : List Message
  peers : Nat → Bool
  /-- The drivers which run, with the ring each one pushes into; `none` for the pump. -/
  drivers : Nat → Option (Option Nat)
  pushed : List Message
  received : List Message

namespace RecvSinks

variable {Message : Type}

/-- A fresh socket: one ring, whose producer is in the slot. -/
def new (cap : Nat) : RecvSinks Message where
  cap := cap
  rings := [⟨[], true⟩]
  slot := some 0
  pendingConsumer := none
  fast := 0
  pump := []
  peers := fun _ => false
  drivers := fun _ => none
  pushed := []
  received := []

variable (sinks : RecvSinks Message)

/-- Put a new ring in place of a missing sink; its consumer replaces the one which waits. -/
def refillSink : RecvSinks Message :=
  match sinks.slot with
  | some _ => sinks
  | none =>
    { sinks with
      rings := sinks.rings ++ [⟨[], true⟩]
      slot := some sinks.rings.length
      pendingConsumer := some sinks.rings.length }

/-- A peer connects; its driver takes the sink if its transport and type may use it. -/
def attach (peer : Nat) (usesSink : Bool) : RecvSinks Message :=
  { sinks with
    slot := if usesSink then none else sinks.slot
    peers := update sinks.peers peer true
    drivers := update sinks.drivers peer (some (if usesSink then sinks.slot else none)) }

/-- A driver pushes a message, if its ring has room. -/
def deliver (index : Nat) (message : Message) : Option (RecvSinks Message) :=
  match sinks.rings[index]? with
  | none => none
  | some ring =>
    if ring.unread.length < sinks.cap then
      some { sinks with
        rings := sinks.rings.set index { ring with unread := ring.unread ++ [message] }
        pushed := sinks.pushed ++ [message] }
    else none

/-- A driver ends and drops its producer. -/
def finish (peer : Nat) : RecvSinks Message :=
  { sinks with
    rings := match sinks.drivers peer with
      | some (some index) =>
        match sinks.rings[index]? with
        | some ring => sinks.rings.set index { ring with connected := false }
        | none => sinks.rings
      | _ => sinks.rings
    drivers := update sinks.drivers peer none }

def removePeer (peer : Nat) : RecvSinks Message :=
  refillSink { sinks with peers := update sinks.peers peer false }

/-- Take the consumer which waits, once the own ring is disconnected; another thread may hold its
lock. -/
def adopt (locked : Bool) : RecvSinks Message :=
  if (sinks.rings[sinks.fast]?).any RecvRing.isDisconnected && !locked then
    match sinks.pendingConsumer with
    | some index => { sinks with fast := index, pendingConsumer := none }
    | none => sinks
  else sinks

/-- Take a message from the own ring or else from the pump. -/
def pop : RecvSinks Message :=
  match sinks.rings[sinks.fast]? with
  | some ⟨message :: unread, connected⟩ =>
    { sinks with
      rings := sinks.rings.set sinks.fast ⟨unread, connected⟩
      received := sinks.received ++ [message] }
  | _ =>
    match sinks.pump with
    | message :: pump => { sinks with pump, received := sinks.received ++ [message] }
    | [] => sinks

/-- A receive call which does not wait. -/
def tryPopDual (locked : Bool) : RecvSinks Message :=
  (sinks.adopt locked).pop

/-- Receive calls one after the other, with nothing else happening. -/
def receives : Nat → RecvSinks Message → RecvSinks Message
  | 0, sinks => sinks
  | count + 1, sinks => receives count (sinks.tryPopDual false)

inductive Action (Message : Type)
  | connect (peer : Nat) (usesSink : Bool)
  | deliver (peer : Nat) (message : Message)
  | pumped (message : Message)
  | finish (peer : Nat)
  | remove (peer : Nat)
  | receive (locked : Bool)

/-- One action.  Peers are not connected twice, and only known ones are removed. -/
def step : Action Message → Option (RecvSinks Message)
  | .connect peer usesSink =>
    if sinks.peers peer || (sinks.drivers peer).isSome then none
    else some (sinks.attach peer usesSink)
  | .deliver peer message =>
    match sinks.drivers peer with
    | some (some index) => sinks.deliver index message
    | _ => none
  | .pumped message =>
    if sinks.pump.length < sinks.cap then
      some { sinks with pump := sinks.pump ++ [message], pushed := sinks.pushed ++ [message] }
    else none
  | .finish peer => if (sinks.drivers peer).isSome then some (sinks.finish peer) else none
  | .remove peer => if sinks.peers peer then some (sinks.removePeer peer) else none
  | .receive locked => some (sinks.tryPopDual locked)

/-! ## What the application may rely on -/

/-- What was pushed and not received. -/
def unread : List Message :=
  sinks.rings.flatMap RecvRing.unread ++ sinks.pump

/-- Receiving often enough returns everything pushed, each message once, and the application has or
will find the consumer of every ring with unread messages. -/
structure Returnable (sinks : RecvSinks Message) : Prop where
  returned : ∃ count, (sinks.receives count).received ~ sinks.pushed
  undropped : ∀ index ring, sinks.rings[index]? = some ring → ring.unread ≠ [] →
    index = sinks.fast ∨ sinks.pendingConsumer = some index

/-- The driver of the ring which the application reads has ended. -/
def FastFinished (rings : List (RecvRing Message)) (fast : Nat) : Prop :=
  (rings[fast]?).any (fun ring => !ring.connected) = true

/-- A driver delivers only to the ring the application reads, or to the one that waits when the
driver of the former has ended.  The slot is refilled only when nothing is unread in the ring which
waits. -/
def Timely : Action Message → Prop
  | .deliver peer _ => ∀ index ∈ (sinks.drivers peer).join,
      index = sinks.fast ∨ sinks.pendingConsumer = some index ∧ FastFinished sinks.rings sinks.fast
  | .remove _ => sinks.slot = none → ∀ index ∈ sinks.pendingConsumer,
      ∀ ring ∈ sinks.rings[index]?, ring.unread = []
  | _ => True

/-! ## Every action keeps the messages in place -/

/-- Every ring with unread messages is the one the application reads, or the one it will find when
it has read that to its end. -/
def Placed (rings : List (RecvRing Message)) (fast : Nat) (pendingConsumer : Option Nat) : Prop :=
  ∀ index ring, rings[index]? = some ring → ring.unread ≠ [] →
    index = fast ∨ pendingConsumer = some index ∧ FastFinished rings fast

structure Sound (sinks : RecvSinks Message) : Prop where
  conserved : sinks.received ++ sinks.unread ~ sinks.pushed
  placed : Placed sinks.rings sinks.fast sinks.pendingConsumer

theorem sound_new (cap : Nat) : (new cap : RecvSinks Message).Sound := by
  refine ⟨List.Perm.refl _, fun index ring found unread => ?_⟩
  obtain rfl := mem_singleton.mp (mem_of_getElem? found)
  exact absurd rfl unread

section Placement

variable {rings : List (RecvRing Message)} {fast : Nat} {pendingConsumer : Option Nat}
  {index : Nat} {old new : RecvRing Message}

theorem fastFinished_iff :
    FastFinished rings fast ↔ ∃ ring, rings[fast]? = some ring ∧ ring.connected = false := by
  simp [FastFinished, Option.any_eq_true]

theorem FastFinished.set (finished : FastFinished rings fast) (found : rings[index]? = some old)
    (ended : old.connected = false → new.connected = false) :
    FastFinished (rings.set index new) fast := by
  obtain ⟨ring, reads, finished⟩ := fastFinished_iff.mp finished
  refine fastFinished_iff.mpr ?_
  by_cases same : index = fast
  · subst same
    obtain rfl := Option.some.inj (found.symm.trans reads)
    exact ⟨new, getElem?_set_self found, ended finished⟩
  · exact ⟨ring, (List.getElem?_set_ne same).trans reads, finished⟩

theorem Placed.set (placed : Placed rings fast pendingConsumer) (found : rings[index]? = some old)
    (ended : old.connected = false → new.connected = false)
    (here : new.unread ≠ [] →
      index = fast ∨ pendingConsumer = some index ∧ FastFinished rings fast) :
    Placed (rings.set index new) fast pendingConsumer := by
  intro place ring found_after unread
  have kept : place = fast ∨ pendingConsumer = some place ∧ FastFinished rings fast := by
    obtain ⟨rfl, rfl⟩ | ⟨-, elsewhere⟩ := of_getElem?_set found_after
    · exact here unread
    · exact placed place ring elsewhere unread
  exact kept.imp_right fun ⟨waits, finished⟩ => ⟨waits, finished.set found ended⟩

/-- A fresh ring may replace one without unread messages. -/
theorem Placed.refill (placed : Placed rings fast pendingConsumer)
    (read : ∀ index ∈ pendingConsumer, ∀ ring ∈ rings[index]?, ring.unread = []) :
    Placed (rings ++ [⟨[], true⟩]) fast (some rings.length) := by
  intro place ring found unread
  by_cases older : place < rings.length
  · rw [List.getElem?_append_left older] at found
    obtain here | ⟨waits, -⟩ := placed place ring found unread
    · exact .inl here
    · exact absurd (read place waits ring found) unread
  · rw [List.getElem?_append_right (Nat.not_lt.mp older)] at found
    obtain rfl := mem_singleton.mp (mem_of_getElem? found)
    exact absurd rfl unread

/-- The ring which waits may replace one which was read to its end. -/
theorem Placed.adopt (placed : Placed rings fast (some index))
    (read : (rings[fast]?).any RecvRing.isDisconnected = true) : Placed rings index none := by
  intro place ring found unread
  obtain rfl | ⟨waits, -⟩ := placed place ring found unread
  · rw [found] at read
    simp_all [RecvRing.isDisconnected]
  · exact .inl (Option.some.inj waits).symm

end Placement

variable {sinks : RecvSinks Message}

theorem Sound.deliver {after : RecvSinks Message} (sound : sinks.Sound) {index : Nat}
    {message : Message}
    (timely : index = sinks.fast ∨
      sinks.pendingConsumer = some index ∧ FastFinished sinks.rings sinks.fast)
    (delivered : sinks.deliver index message = some after) : after.Sound := by
  unfold RecvSinks.deliver at delivered
  split at delivered
  · cases delivered
  next ring found =>
    obtain ⟨-, rfl⟩ := Option.ite_some_none_eq_some.mp delivered
    refine ⟨conserved_enter sound.conserved ?_, sound.placed.set found id fun _ => timely⟩
    exact enter_append found rfl sinks.pump

theorem Sound.finish (sound : sinks.Sound) (peer : Nat) : (sinks.finish peer).Sound := by
  unfold RecvSinks.finish
  split
  · split
    next ring found =>
      refine ⟨?_, sound.placed.set found (fun _ => rfl) fun unread =>
        sound.placed _ _ found unread⟩
      refine List.Perm.trans (List.Perm.append_left _ ?_) sound.conserved
      exact List.Perm.append_right sinks.pump (unchanged found rfl)
    · exact ⟨sound.conserved, sound.placed⟩
  · exact ⟨sound.conserved, sound.placed⟩

theorem Sound.removePeer (sound : sinks.Sound) (peer : Nat)
    (timely : sinks.slot = none → ∀ index ∈ sinks.pendingConsumer,
      ∀ ring ∈ sinks.rings[index]?, ring.unread = []) :
    (sinks.removePeer peer).Sound := by
  unfold RecvSinks.removePeer refillSink
  split
  · exact ⟨sound.conserved, sound.placed⟩
  next missing =>
    refine ⟨?_, sound.placed.refill (timely missing)⟩
    simpa [unread] using sound.conserved

theorem Sound.adopt (sound : sinks.Sound) (locked : Bool) : (sinks.adopt locked).Sound := by
  unfold RecvSinks.adopt
  split
  next ready =>
    split
    next index waits =>
      obtain ⟨read, -⟩ := Bool.and_eq_true_iff.mp ready
      exact ⟨sound.conserved, Placed.adopt (waits ▸ sound.placed) read⟩
    · exact sound
  · exact sound

theorem Sound.pop (sound : sinks.Sound) : sinks.pop.Sound := by
  unfold RecvSinks.pop
  split
  next message unread connected found =>
    refine ⟨conserved_leave sound.conserved ?_, sound.placed.set found id fun _ => .inl rfl⟩
    exact leave_append found rfl sinks.pump
  · split
    next message pump waits =>
      refine ⟨conserved_leave sound.conserved ?_, sound.placed⟩
      have taken : [message] ++ (sinks.rings.flatMap RecvRing.unread ++ pump) ~
          sinks.rings.flatMap RecvRing.unread ++ sinks.pump := by
        rw [waits]
        exact perm_append_comm_assoc ..
      exact taken
    · exact sound

theorem Sound.step {after : RecvSinks Message} {action : Action Message}
    (timely : sinks.Timely action) (stepped : sinks.step action = some after)
    (sound : sinks.Sound) : after.Sound := by
  cases action with
  | connect peer usesSink =>
    obtain ⟨-, stepped⟩ := Option.ite_none_left_eq_some.mp stepped
    cases stepped
    exact ⟨sound.conserved, sound.placed⟩
  | deliver peer message =>
    simp only [RecvSinks.step] at stepped
    split at stepped
    next index driving => exact sound.deliver (timely index (by simp [driving])) stepped
    · cases stepped
  | pumped message =>
    obtain ⟨-, rfl⟩ := Option.ite_some_none_eq_some.mp stepped
    refine ⟨conserved_enter sound.conserved ?_, sound.placed⟩
    simp [unread]
  | finish peer =>
    obtain ⟨-, rfl⟩ := Option.ite_some_none_eq_some.mp stepped
    exact sound.finish peer
  | remove peer =>
    obtain ⟨-, rfl⟩ := Option.ite_some_none_eq_some.mp stepped
    exact sound.removePeer peer timely
  | receive locked =>
    cases stepped
    exact (sound.adopt locked).pop

/-! ## Receiving often enough -/

@[simp] theorem pushed_tryPopDual (sinks : RecvSinks Message) (locked : Bool) :
    (sinks.tryPopDual locked).pushed = sinks.pushed := by
  have popped (sinks : RecvSinks Message) : sinks.pop.pushed = sinks.pushed := by
    unfold pop
    split
    · rfl
    · split <;> rfl
  rw [tryPopDual, popped]
  unfold adopt
  split
  · split <;> rfl
  · rfl

/-- A receive call which may take the waiting consumer leaves none behind a disconnected ring. -/
theorem adopt_cases (sinks : RecvSinks Message) :
    (sinks.adopt false).received = sinks.received ∧ (sinks.adopt false).unread = sinks.unread ∧
      (((sinks.adopt false).rings[(sinks.adopt false).fast]?).any RecvRing.isDisconnected = true →
        (sinks.adopt false).pendingConsumer = none) := by
  unfold adopt
  split
  · split
    · exact ⟨rfl, rfl, fun _ => rfl⟩
    next none_waits => exact ⟨rfl, rfl, fun _ => none_waits⟩
  next connected =>
    refine ⟨rfl, rfl, fun disconnected => absurd ?_ connected⟩
    simp [disconnected]

theorem pop_cases (sinks : RecvSinks Message) :
    sinks.pop.received.length = sinks.received.length + 1 ∨
      (∀ ring, sinks.rings[sinks.fast]? = some ring → ring.unread = []) ∧ sinks.pump = [] := by
  unfold pop
  split
  · exact .inl (length_append ..)
  next read =>
    split
    · exact .inl (length_append ..)
    next empty =>
      refine .inr ⟨fun ring found => ?_, empty⟩
      obtain ⟨_ | ⟨message, unread⟩, connected⟩ := ring
      · rfl
      · exact (read message unread connected found).elim

/-- A receive call takes a message as long as there is one. -/
theorem Sound.received_tryPopDual (sound : sinks.Sound) (waiting : sinks.unread ≠ []) :
    (sinks.tryPopDual false).received.length = sinks.received.length + 1 := by
  obtain ⟨same_received, same_unread, none_waits⟩ := sinks.adopt_cases
  have placed := (sound.adopt false).placed
  rw [tryPopDual, ← same_received]
  refine (pop_cases (sinks.adopt false)).resolve_right fun ⟨read, empty⟩ => waiting ?_
  rw [← same_unread, RecvSinks.unread, empty, append_nil]
  refine flatMap_eq_nil_iff.mpr fun ring member => ?_
  obtain ⟨index, found⟩ := mem_iff_getElem?.mp member
  by_contra unread
  obtain rfl | ⟨waits, finished⟩ := placed index ring found unread
  · exact unread (read ring found)
  · -- The application has read its ring to the end, and would have taken the one which waits.
    obtain ⟨fast, reads, ended⟩ := fastFinished_iff.mp finished
    have disconnected : fast.isDisconnected = true := by
      simp [RecvRing.isDisconnected, ended, read fast reads]
    rw [none_waits (by rw [reads]; exact disconnected)] at waits
    cases waits

theorem Sound.returned (sound : sinks.Sound) :
    ∃ count, (sinks.receives count).received ~ sinks.pushed := by
  induction waiting : sinks.unread.length generalizing sinks with
  | zero =>
    refine ⟨0, ?_⟩
    have conserved := sound.conserved
    rwa [length_eq_zero_iff.mp waiting, append_nil] at conserved
  | succ rest induction =>
    have next_sound : (sinks.tryPopDual false).Sound := (sound.adopt false).pop
    have taken := sound.received_tryPopDual (ne_nil_of_length_eq_add_one waiting)
    have before := sound.conserved.length_eq
    have after := next_sound.conserved.length_eq
    rw [pushed_tryPopDual] at after
    simp only [length_append] at before after
    obtain ⟨count, returned⟩ := induction next_sound (by omega)
    rw [pushed_tryPopDual] at returned
    exact ⟨count + 1, returned⟩

/-- Nothing is stranded or dropped, as long as drivers deliver to the ring which the application
reads, or to the one it will find next when the driver of the former has ended, and no ring is
replaced which has unread messages. -/
theorem returnable_of_timely {cap : Nat} {final : RecvSinks Message}
    (runs : Runs step Timely (new cap) final) : final.Returnable := by
  have sound : final.Sound := runs.invariant Sound.step (sound_new cap)
  exact ⟨sound.returned, fun index ring found unread =>
    (sound.placed index ring found unread).imp_right And.left⟩

/-! ## Rings which are stranded or dropped -/

instance (rings : List (RecvRing Message)) (fast : Nat) : Decidable (FastFinished rings fast) :=
  inferInstanceAs (Decidable (_ = true))

instance (sinks : RecvSinks Message) (action : Action Message) : Decidable (sinks.Timely action) :=
  match action with
  | .connect _ _ | .pumped _ | .finish _ | .receive _ => .isTrue trivial
  | .deliver _ _ => inferInstanceAs (Decidable (∀ index ∈ _, _))
  | .remove _ => inferInstanceAs (Decidable (_ → ∀ index ∈ _, ∀ ring ∈ _, _ = []))

/-- Receive calls do nothing while the ring the application reads is empty and connected. -/
theorem receives_idle (reads : sinks.rings[sinks.fast]? = some ⟨[], true⟩)
    (pumped : sinks.pump = []) (count : Nat) : sinks.receives count = sinks := by
  have idle : sinks.tryPopDual false = sinks := by
    simp [tryPopDual, adopt, pop, reads, pumped, RecvRing.isDisconnected]
  induction count with
  | zero => rfl
  | succ count induction => rw [receives, idle, induction]

/-- A peer takes the place of the only peer before the application has read everything. -/
theorem returnable_after_replacement :
    ∃ final : RecvSinks Nat, Runs step Timely (new 16) final ∧
      final.received = [] ∧ final.pushed = [5, 6] ∧ final.Returnable := by
  have runs : Runs step Timely (new 16) _ := .computed [.connect 1 true, .deliver 1 5, .finish 1,
    .remove 1, .connect 2 true, .deliver 2 6] (by decide +kernel)
  exact ⟨_, runs, by decide +kernel, by decide +kernel, returnable_of_timely runs⟩

/-- Peer 1 stays connected, peer 2 leaves and peer 3 gets the new ring: its message is never
returned.  When peer 4 leaves as well, that ring is dropped. -/
theorem stranded_then_dropped :
    (∃ final : RecvSinks Nat, Reaches step (new 16) final ∧ final.pushed = [5] ∧
      ∀ count, (final.receives count).received = []) ∧
    ∃ final : RecvSinks Nat, Reaches step (new 16) final ∧
      final.rings[1]? = some ⟨[5], true⟩ ∧ final.fast ≠ 1 ∧ final.pendingConsumer ≠ some 1 := by
  constructor
  · obtain ⟨final, reached, pushed, received, reads, pumped⟩ : ∃ final : RecvSinks Nat,
        Reaches step (new 16) final ∧ final.pushed = [5] ∧ final.received = [] ∧
        final.rings[final.fast]? = some ⟨[], true⟩ ∧ final.pump = [] :=
      exists_reaches [.connect 1 true, .connect 2 true, .finish 2, .remove 2,
        .connect 3 true, .deliver 3 5] (by decide +kernel)
    refine ⟨final, reached, pushed, fun count => ?_⟩
    rw [receives_idle reads pumped, received]
  · exact exists_reaches [.connect 1 true, .connect 2 true, .finish 2, .remove 2,
      .connect 3 true, .deliver 3 5, .connect 4 true, .finish 4, .remove 4] (by decide +kernel)

end RecvSinks

end Omq.Libzmq
