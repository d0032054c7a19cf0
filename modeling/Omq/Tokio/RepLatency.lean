import Mathlib.Tactic.DeriveFintype
import Omq.Tokio.RepRouting

/-!
# REP without the socket actor

A delivery of a request has two steps.  The peer and the envelope join a queue which all deliveries
share, and then the body joins the receive queue, which they share as well.  `recv` takes one body
and pops one entry.  Entry and body belong together as long as bodies are pushed in the order in
which their envelopes were recorded.
-/

namespace Omq

open Function Transition List

namespace RepLatency

/-- An entry of the queue of pending envelopes.  The serial number of the request is history. -/
structure Pending (Peer : Type*) where
  serial : Nat
  peer : Peer
  envelope : List Bytes
  deriving DecidableEq

/-- A request body, with the entry which was recorded for its request. -/
structure Body (Peer : Type*) where
  entry : Pending Peer
  message : Message
  deriving DecidableEq

/-- Who delivers requests: the driver of a wire peer, or the actor for every in-process peer. -/
inductive Deliverer (Peer : Type*)
  | driver (peer : Peer)
  | actor
  deriving DecidableEq, Fintype

def Deliverer.serves {Peer : Type*} [DecidableEq Peer] : Deliverer Peer → Peer → Bool
  | .driver own, peer => own = peer
  | .actor, _ => true

/-- What a call of `recv` returned, and the entry it popped. -/
structure Received (Peer : Type*) where
  body : Body Peer
  current : Option (Pending Peer)
  deriving DecidableEq

/-- The popped entry is the one recorded for the request. -/
def Received.Paired {Peer : Type*} (received : Received Peer) : Prop :=
  received.current = some received.body.entry

instance {Peer : Type*} [DecidableEq Peer] (received : Received Peer) :
    Decidable received.Paired := by
  unfold Received.Paired
  infer_instance

end RepLatency

open RepLatency in
/-- A REP socket whose drivers deliver requests themselves. -/
structure RepLatency (Peer : Type*) where
  recorded : Nat
  /-- The shared queue of envelopes. -/
  repPending : List (Pending Peer)
  inFlight : Deliverer Peer → Option (Body Peer)
  pipe : List (Body Peer)
  typeState : TypeState
  /-- The body which `recv` took, before it pops an entry. -/
  holding : Option (Body Peer)
  received : List (Received Peer)

namespace RepLatency

section

variable {Peer : Type*}

/-- A socket before its first request. -/
def start : RepLatency Peer := ⟨0, [], fun _ => none, [], .new, none, []⟩

inductive Action (Peer : Type*)
  /-- The envelope of an arrived request is recorded. -/
  | record (deliverer : Deliverer Peer) (peer : Peer) (message : Message)
  /-- The body of a recorded request joins the receive queue. -/
  | push (deliverer : Deliverer Peer)
  /-- `recv` takes a body. -/
  | take
  /-- `recv` pops an entry and returns. -/
  | pair

variable [DecidableEq Peer] (table : IdentityTable Peer) (capacity : Nat)

/-- The first step of a delivery.  The actor strips the body through the type state. -/
def record (deliverer : Deliverer Peer) (peer : Peer) (message : Message)
    (socket : RepLatency Peer) : RepLatency Peer :=
  match splitRepRequest message with
  | none => socket
  | some (envelope, body) =>
    let entry : Pending Peer := ⟨socket.recorded, peer, envelope⟩
    let (body, typeState) : Option Message × TypeState :=
      match deliverer with
      | .driver _ => (some body, socket.typeState)
      | .actor => socket.typeState.postRecv .rep (table.wrap peer message)
    { socket with
      recorded := socket.recorded + 1
      repPending := socket.repPending ++ [entry]
      inFlight := update socket.inFlight deliverer (body.map (Body.mk entry))
      typeState }

variable (socket : RepLatency Peer)

def step : Action Peer → Option (RepLatency Peer)
  | .record deliverer peer message =>
    if deliverer.serves peer ∧ socket.inFlight deliverer = none then
      some (socket.record table deliverer peer message)
    else none
  | .push deliverer =>
    match socket.inFlight deliverer with
    | some body =>
      if socket.pipe.length < capacity then
        some { socket with
          pipe := socket.pipe ++ [body]
          inFlight := update socket.inFlight deliverer none }
      else none
    | none => none
  | .take =>
    match socket.holding, socket.pipe with
    | none, body :: pipe =>
      let (message, typeState) := repReceive body.message socket.typeState
      some { socket with typeState, pipe, holding := message.map (Body.mk body.entry) }
    | _, _ => none
  | .pair =>
    match socket.holding with
    | some body =>
      some { socket with
        repPending := socket.repPending.tail
        holding := none
        received := socket.received ++ [⟨body, socket.repPending.head?⟩] }
    | none => none

/-- Bodies are pushed in the order in which their envelopes were recorded. -/
def InOrder : Action Peer → Prop
  | .push deliverer =>
    ∀ body ∈ socket.inFlight deliverer, ∀ other, ∀ later ∈ socket.inFlight other,
      body.entry.serial ≤ later.entry.serial
  | _ => True

instance [Fintype Peer] (socket : RepLatency Peer) (action : Action Peer) :
    Decidable (socket.InOrder action) := by
  cases action <;> unfold InOrder <;> infer_instance

/-- The entries of the bodies which are on their way to `recv`, in order. -/
def queued : List (Pending Peer) :=
  socket.holding.toList.map Body.entry ++ socket.pipe.map Body.entry

/-- The pending entries are those of the queued bodies, and then those of the deliveries between
their steps in the order of their first. -/
structure Aligned (socket : RepLatency Peer) (waiting : List (Pending Peer)) : Prop where
  pending_eq : socket.repPending = socket.queued ++ waiting
  ordered : waiting.Pairwise fun first second => first.serial < second.serial
  numbered : ∀ entry ∈ waiting, entry.serial < socket.recorded
  waits : ∀ entry, entry ∈ waiting ↔
    ∃ deliverer, ∃ body ∈ socket.inFlight deliverer, body.entry = entry
  apart : ∀ {deliverer other body later}, body ∈ socket.inFlight deliverer →
    later ∈ socket.inFlight other → body.entry = later.entry → deliverer = other
  paired : ∀ received ∈ socket.received, received.Paired

/-- A recorded request is between its two steps, and a message without a delimiter is dropped. -/
theorem record_spec (deliverer : Deliverer Peer) (peer : Peer) (message : Message) :
    socket.record table deliverer peer message = socket ∨
      ∃ envelope body typeState, socket.record table deliverer peer message =
        let entry : Pending Peer := ⟨socket.recorded, peer, envelope⟩
        { socket with
          recorded := socket.recorded + 1
          repPending := socket.repPending ++ [entry]
          inFlight := update socket.inFlight deliverer (some ⟨entry, body⟩)
          typeState } := by
  have received := table.postRecv_wrap peer message socket.typeState
  unfold record
  rw [splitRepRequest_eq]
  cases split : splitAtDelimiter message.parts with
  | none => exact .inl rfl
  | some pair =>
    right
    cases deliverer with
    | driver own => exact ⟨_, _, _, rfl⟩
    | actor =>
      rw [split] at received
      obtain ⟨stripped, _, received⟩ := received
      exact ⟨pair.1, stripped, _, by simp only [Option.map_some, received]; rfl⟩

variable {table capacity}
  {socket : RepLatency Peer} {waiting : List (Pending Peer)} {deliverer : Deliverer Peer}

/-- The new entry is the youngest of those which wait. -/
theorem Aligned.record (aligned : socket.Aligned waiting) (idle : socket.inFlight deliverer = none)
    (peer : Peer) (message : Message) :
    ∃ waiting, (socket.record table deliverer peer message).Aligned waiting := by
  obtain dropped | ⟨envelope, body, typeState, recorded⟩ :=
    record_spec table socket deliverer peer message
  · exact ⟨waiting, by rwa [dropped]⟩
  · rw [recorded]
    have fresh : ∀ {other : Deliverer Peer} {later : Body Peer}, later ∈ socket.inFlight other →
        later.entry.serial < socket.recorded := fun later_mem =>
      aligned.numbered _ ((aligned.waits _).mpr ⟨_, _, later_mem, rfl⟩)
    refine ⟨waiting ++ [⟨socket.recorded, peer, envelope⟩], ?_, ?_, ?_, ?_, ?_, aligned.paired⟩
    · simp [aligned.pending_eq, queued]
    · refine pairwise_append.mpr ⟨aligned.ordered, pairwise_singleton _ _, ?_⟩
      intro first first_mem second second_mem
      rw [mem_singleton.mp second_mem]
      exact aligned.numbered first first_mem
    · intro entry entry_mem
      obtain earlier | rfl := by simpa using entry_mem
      · exact Nat.lt_succ_of_lt (aligned.numbered entry earlier)
      · exact Nat.lt_succ_self _
    · intro entry
      rw [mem_append, aligned.waits, mem_singleton]
      constructor
      · rintro (⟨other, later, later_mem, rfl⟩ | rfl)
        · have moved : other ≠ deliverer := by
            rintro rfl
            simp [idle] at later_mem
          exact ⟨other, later, mem_update.mpr (.inr ⟨moved, later_mem⟩), rfl⟩
        · exact ⟨deliverer, _, mem_update.mpr (.inl ⟨rfl, rfl⟩), rfl⟩
      · rintro ⟨other, later, later_mem, rfl⟩
        obtain ⟨_, same⟩ | ⟨_, later_mem⟩ := mem_update.mp later_mem
        · cases same
          exact .inr rfl
        · exact .inl ⟨other, later, later_mem, rfl⟩
    · intro first second body later body_mem later_mem same
      obtain ⟨first_eq, body_eq⟩ | ⟨_, body_was⟩ := mem_update.mp body_mem <;>
        obtain ⟨second_eq, later_eq⟩ | ⟨_, later_was⟩ := mem_update.mp later_mem
      · exact first_eq.trans second_eq.symm
      · cases body_eq
        exact absurd (congrArg Pending.serial same) (fresh later_was).ne'
      · cases later_eq
        exact absurd (congrArg Pending.serial same) (fresh body_was).ne
      · exact aligned.apart body_was later_was same

omit [DecidableEq Peer] in
theorem Aligned.waiting_of_inOrder (aligned : socket.Aligned waiting)
    (inOrder : socket.InOrder (.push deliverer)) {body : Body Peer}
    (flying : socket.inFlight deliverer = some body) : ∃ rest, waiting = body.entry :: rest := by
  have waits : body.entry ∈ waiting := (aligned.waits _).mpr ⟨deliverer, body, flying, rfl⟩
  cases waiting with
  | nil => cases waits
  | cons oldest rest =>
    obtain ⟨other, later, later_mem, rfl⟩ := (aligned.waits oldest).mp (.head _)
    obtain same | younger := mem_cons.mp waits
    · exact ⟨rest, by rw [same]⟩
    · have before : later.entry.serial < body.entry.serial :=
        (pairwise_cons.mp aligned.ordered).1 _ younger
      exact absurd (inOrder body flying other later later_mem) (Nat.not_le.mpr before)

theorem Aligned.push {socket : RepLatency Peer} {waiting : List (Pending Peer)}
    (aligned : socket.Aligned waiting) {deliverer : Deliverer Peer}
    (inOrder : socket.InOrder (.push deliverer)) {body : Body Peer}
    (flying : socket.inFlight deliverer = some body) :
    ∃ waiting, ({ socket with
      pipe := socket.pipe ++ [body]
      inFlight := update socket.inFlight deliverer none } : RepLatency Peer).Aligned waiting := by
  obtain ⟨rest, rfl⟩ := aligned.waiting_of_inOrder inOrder flying
  obtain ⟨older, ordered⟩ := pairwise_cons.mp aligned.ordered
  refine ⟨rest, ?_, ordered, fun entry entry_mem => aligned.numbered entry (.tail _ entry_mem),
    ?_, ?_, aligned.paired⟩
  · simp [aligned.pending_eq, queued]
  · intro entry
    constructor
    · intro entry_mem
      obtain ⟨other, later, later_mem, rfl⟩ := (aligned.waits entry).mp (.tail _ entry_mem)
      have moved : other ≠ deliverer := by
        rintro rfl
        obtain rfl := Option.some.inj (flying.symm.trans later_mem)
        exact (older _ entry_mem).ne rfl
      exact ⟨other, later, mem_update.mpr (.inr ⟨moved, later_mem⟩), rfl⟩
    · rintro ⟨other, later, later_mem, rfl⟩
      obtain ⟨_, nothing⟩ | ⟨moved, later_mem⟩ := mem_update.mp later_mem
      · cases nothing
      · obtain same | younger := mem_cons.mp ((aligned.waits _).mpr ⟨other, later, later_mem, rfl⟩)
        · exact absurd (aligned.apart later_mem flying same) moved
        · exact younger
  · intro first second body later body_mem later_mem same
    obtain ⟨_, nothing⟩ | ⟨_, body_mem⟩ := mem_update.mp body_mem
    · cases nothing
    · obtain ⟨_, nothing⟩ | ⟨_, later_mem⟩ := mem_update.mp later_mem
      · cases nothing
      · exact aligned.apart body_mem later_mem same

theorem Aligned.step {before after : RepLatency Peer} {action : Action Peer}
    (aligned : before.Aligned waiting) (inOrder : before.InOrder action)
    (stepped : before.step table capacity action = some after) :
    ∃ waiting, after.Aligned waiting := by
  revert stepped inOrder
  fun_cases before.step table capacity action <;> rintro inOrder ⟨⟩
  next idle => exact aligned.record idle.2 _ _
  next flying _ => exact aligned.push inOrder flying
  next body pipe pipe_eq held message typeState received => -- take
    obtain ⟨message, message_eq⟩ :=
      Option.isSome_iff_exists.mp (repReceive_isSome body.message before.typeState)
    obtain ⟨rfl, rfl⟩ := Prod.mk.inj (received.symm.trans (Prod.ext message_eq rfl))
    refine ⟨waiting, ?_, aligned.ordered, aligned.numbered, aligned.waits,
      aligned.apart, aligned.paired⟩
    simp [aligned.pending_eq, queued, held, pipe_eq]
  next body held => -- pair
    have pending_eq := aligned.pending_eq
    simp only [queued, held, Option.toList_some, map_cons, map_nil,
      cons_append, nil_append] at pending_eq
    refine ⟨waiting, by simp [pending_eq, queued], aligned.ordered, aligned.numbered,
      aligned.waits, aligned.apart, ?_⟩
    intro received member
    obtain earlier | rfl := by simpa using member
    · exact aligned.paired received earlier
    · simp [Received.Paired, pending_eq]

omit [DecidableEq Peer] in
theorem aligned_start : (start : RepLatency Peer).Aligned [] :=
  ⟨rfl, .nil, by simp, by simp [start], by simp [start], by simp [start]⟩

/-- In every run in which bodies are pushed in the order of their envelopes, `recv` pops with a body
the peer and the envelope which were recorded for exactly that request. -/
theorem recv_paired_of_inOrder (table : IdentityTable Peer) (capacity : Nat)
    {final : RepLatency Peer} (runs : Runs (RepLatency.step table capacity) InOrder start final) :
    ∀ received ∈ final.received, received.Paired := by
  have kept {before after : RepLatency Peer} {action : Action Peer}
      (inOrder : before.InOrder action)
      (stepped : before.step table capacity action = some after) :
      (∃ waiting, before.Aligned waiting) → ∃ waiting, after.Aligned waiting :=
    fun ⟨_, aligned⟩ => aligned.step inOrder stepped
  obtain ⟨_, aligned⟩ := runs.invariant kept ⟨[], aligned_start⟩
  exact aligned.paired

end

/-- Two deliveries overlap, but push in the order in which they recorded. -/
theorem overlapping_in_order : ∃ final : RepLatency Bool,
    Runs (RepLatency.step .pair 1) InOrder start final ∧ final.received.length = 2 ∧
      ∀ received ∈ final.received, received.Paired := by
  have runs : Runs (RepLatency.step .pair 1) InOrder start _ :=
    .computed [.record (.driver false) false (RepActor.requestOf [7]),
      .record .actor true (RepActor.requestOf [8]), .push (.driver false), .take, .push .actor,
      .pair, .take, .pair] (by decide +kernel)
  exact ⟨_, runs, by decide +kernel, recv_paired_of_inOrder .pair 1 runs⟩

/-- Two drivers record their envelopes and push their bodies in the other order. -/
theorem envelopes_swapped : ∃ final : RepLatency Bool,
    Reaches (RepLatency.step .pair 1) start final ∧
      ∃ received ∈ final.received, ¬received.Paired := by
  obtain ⟨final, reached, received_eq⟩ : ∃ final : RepLatency Bool,
      Reaches (RepLatency.step .pair 1) start final ∧ final.received =
        [⟨⟨⟨1, true, []⟩, .multipart [[8]]⟩, some ⟨0, false, []⟩⟩] :=
    exists_reaches [.record (.driver false) false (RepActor.requestOf [7]),
      .record (.driver true) true (RepActor.requestOf [8]), .push (.driver true), .take, .pair]
      (by decide +kernel)
  refine ⟨final, reached, _, by rw [received_eq]; exact .head _, ?_⟩
  decide

end RepLatency

end Omq
