import Mathlib.Data.Nat.ModEq
import Omq.Library.Queues
import Omq.Tokio.Outlets

/-!
# Dead peers of a latency-routed socket

The latency strategy offers a message to one ready peer after the other until one takes it, and to
the pending pipes while no peer is ready.
The scan of the latency strategy goes on behind a full peer, but ends with `Closed` at a dead one,
although the socket is open and another peer may have room.  So a send is answered properly exactly
when no dead peer comes before the first one which takes the message.
-/

namespace Omq

open List

structure LatencyPeer where
  id : Nat
  target : PeerOutbound

def LatencyPeer.route (peer : LatencyPeer) : Nat × OutboundContent := (peer.id, peer.target.content)

/-- A pipe which waits for its peer to become ready. -/
structure PendingPipe where
  routeId : Nat
  tx : SendPipeProducer

structure LatencySubmitter where
  peers : List LatencyPeer
  pending : List PendingPipe
  cursor : Nat
  pendingCursor : Nat
  closed : Bool

namespace LatencySubmitter

def scanPeers (message : Message) : (left : Nat) → (full : Bool) → LatencySubmitter →
    Environment → TrySendResult × LatencySubmitter × Environment
  | 0, full, submitter, env => (if full then .full message else .closed, submitter, env)
  | left + 1, _, submitter, env =>
    let count := submitter.peers.length
    let index := submitter.cursor % count
    let submitter := { submitter with cursor := (index + 1) % count }
    match submitter.peers[index]? with
    -- there are `count` peers
    | none => (.closed, submitter, env)
    | some peer =>
      let (result, target, env) := peer.target.tryEncode message env
      let submitter := { submitter with
        peers := submitter.peers.set index { peer with target } }
      match result with
      | .ok => (.sent, submitter, env)
      | .full => scanPeers message left true submitter env
      | _ => (.closed, submitter, env)

def scanPending (message : Message) :
    (fuel scanned : Nat) → LatencySubmitter → TrySendResult × LatencySubmitter
  | 0, _, submitter => (.full message, submitter)
  | fuel + 1, scanned, submitter =>
    if scanned < submitter.pending.length then
      let index := submitter.pendingCursor % submitter.pending.length
      let submitter := { submitter with
        pendingCursor := (index + 1) % submitter.pending.length }
      match submitter.pending[index]? with
      -- the index is in range
      | none => (.full message, submitter)
      | some pipe =>
        match pipe.tx.trySend message with
        | (.ok, tx) =>
          (.sent, { submitter with
            pending := submitter.pending.set index { pipe with tx } })
        | (.full, tx) =>
          scanPending message fuel (scanned + 1)
            { submitter with pending := submitter.pending.set index { pipe with tx } }
        | (.closed, _) =>
          let pending := submitter.pending.eraseIdx index
          let pendingCursor := if pending = [] then 0 else submitter.pendingCursor % pending.length
          scanPending message fuel scanned { submitter with pending, pendingCursor }
    else (.full message, submitter)

/-- Offer a message to the ready peers, or to the pending pipes while there are none. -/
def trySend (submitter : LatencySubmitter) (message : Message) (env : Environment) :
    TrySendResult × LatencySubmitter × Environment :=
  if submitter.closed then (.closed, submitter, env)
  else if submitter.peers = [] then
    let (result, submitter) := submitter.scanPending message submitter.pending.length 0
    (result, submitter, env)
  else submitter.scanPeers message submitter.peers.length false env

variable (submitter : LatencySubmitter)

/-- What the peer in turn would answer. -/
def answer (message : Message) (env : Environment) (turn : Nat) : Option TryFrameResult :=
  submitter.peers[(submitter.cursor + turn) % submitter.peers.length]?.map fun peer =>
    (peer.target.tryEncode message env).1

/-- Behind full peers comes one which takes the message, or another full one. -/
def LiveFirst (message : Message) (env : Environment) : Prop :=
  ∀ turn < submitter.peers.length,
    (∀ earlier < turn, submitter.answer message env earlier = some .full) →
      submitter.answer message env turn = some .full ∨ submitter.answer message env turn = some .ok

/-- The table when the peer in a place was given the message. -/
def GivenTo (submitter after : LatencySubmitter) (message : Message) (env : Environment)
    (place : Nat) : Prop :=
  ∃ peer, submitter.peers[place]? = some peer ∧
    after.peers.map LatencyPeer.route = (submitter.peers.map LatencyPeer.route).set place
      (peer.id, (peer.target.tryEncode message env).2.1.content)

/-- `Closed` is the answer of a closed socket only; and when a peer has room, one peer which takes
the message is given it. -/
def Proper (message : Message) (env : Environment) : Prop :=
  ((submitter.trySend message env).1 = .closed → submitter.closed = true) ∧
    (submitter.closed = false →
      (∃ peer ∈ submitter.peers, (peer.target.tryEncode message env).1 = .ok) →
        (submitter.trySend message env).1 = .sent ∧ ∃ turn < submitter.peers.length,
          submitter.answer message env turn = some .ok ∧
            submitter.GivenTo (submitter.trySend message env).2.1 message env
              ((submitter.cursor + turn) % submitter.peers.length))

/-- Tries of `send`, each on the table as it is then; `none` while it still waits. -/
def send (message : Message) : List (LatencySubmitter × Environment) → Option TrySendResult
  | [] => none
  | (submitter, env) :: later =>
    match (submitter.trySend message env).1 with
    | .full _ => send message later
    | result => some result

theorem next_turn (cursor turn length : Nat) :
    ((cursor % length + 1) % length + turn) % length = (cursor + (turn + 1)) % length := by
  rw [Nat.mod_add_mod, Nat.add_assoc, Nat.mod_add_mod, Nat.add_comm 1 turn]

/-- Every place is in turn within one round. -/
theorem exists_turn {length index : Nat} (in_range : index < length) (cursor : Nat) :
    ∃ turn < length, (cursor + turn) % length = index := by
  have start : cursor % length < length := Nat.mod_lt _ (Nat.zero_lt_of_lt in_range)
  by_cases behind : cursor % length ≤ index
  · refine ⟨index - cursor % length, by omega, ?_⟩
    rw [← Nat.mod_add_mod, Nat.add_sub_of_le behind, Nat.mod_eq_of_lt in_range]
  · refine ⟨index + length - cursor % length, by omega, ?_⟩
    rw [← Nat.mod_add_mod, Nat.add_sub_of_le (by omega), Nat.add_mod_right,
      Nat.mod_eq_of_lt in_range]

variable {message : Message} {submitter : LatencySubmitter} {env : Environment}

theorem turn_ne {length turn : Nat} (cursor : Nat) (later : turn + 1 < length) :
    (cursor + (turn + 1)) % length ≠ cursor % length := by
  intro same
  have none_left : turn + 1 ≡ 0 [MOD length] :=
    Nat.ModEq.add_left_cancel' cursor (by simpa [Nat.ModEq] using same)
  exact absurd (Nat.le_of_dvd (Nat.succ_pos _) (Nat.modEq_zero_iff_dvd.mp none_left)) (by omega)

/-- Either all peers which are asked are full, or the first which is not decides. -/
theorem scanPeers_cases {left : Nat} (within : left ≤ submitter.peers.length) (full : Bool) :
    (∀ turn < left, submitter.answer message env turn = some .full) ∧
        (scanPeers message left full submitter env).1 =
          (if full || decide (0 < left) then .full message else .closed) ∨
      ∃ turn < left, (∀ earlier < turn, submitter.answer message env earlier = some .full) ∧
        submitter.answer message env turn ≠ some .full ∧
        (scanPeers message left full submitter env).1 =
          (if submitter.answer message env turn = some .ok then .sent else .closed) ∧
        submitter.GivenTo (scanPeers message left full submitter env).2.1 message env
          ((submitter.cursor + turn) % submitter.peers.length) := by
  induction left generalizing full submitter with
  | zero => exact .inl ⟨by simp, by simp [scanPeers]⟩
  | succ left induction =>
    obtain ⟨peer, found⟩ : ∃ peer,
        submitter.peers[submitter.cursor % submitter.peers.length]? = some peer :=
      ⟨_, List.getElem?_eq_getElem (Nat.mod_lt _ (by omega))⟩
    have first : submitter.answer message env 0 =
        some (peer.target.tryEncode message env).1 := by
      simp [answer, found]
    unfold scanPeers
    simp only [found]
    rcases encoded : peer.target.tryEncode message env with ⟨result, target, drawn⟩
    have decides (other : result ≠ .full) (stopped : TrySendResult × LatencySubmitter × Environment)
        (sends : stopped.1 = if result = .ok then .sent else .closed)
        (peers_eq : stopped.2.1.peers = submitter.peers.set
          (submitter.cursor % submitter.peers.length) { peer with target }) :
        ∃ turn < left + 1,
          (∀ earlier < turn, submitter.answer message env earlier = some .full) ∧
          submitter.answer message env turn ≠ some .full ∧
          stopped.1 = (if submitter.answer message env turn = some .ok then .sent else .closed) ∧
          submitter.GivenTo stopped.2.1 message env
            ((submitter.cursor + turn) % submitter.peers.length) := by
      rw [encoded] at first
      refine ⟨0, Nat.succ_pos _, by simp, by simpa [first] using other,
        by simpa [first] using sends, peer, found, ?_⟩
      rw [peers_eq, map_set, encoded]
      rfl
    cases result with
    | ok => exact .inr (decides (by decide) _ rfl rfl)
    | dead => exact .inr (decides (by decide) _ rfl rfl)
    | ineligible => exact .inr (decides (by decide) _ rfl rfl)
    | full =>
      have full_first : (peer.target.tryEncode message env).1 = .full := by rw [encoded]
      obtain ⟨takes_none, drawn_eq⟩ := PeerOutbound.tryEncode_of_full full_first
      have content_eq := (peer.target.took_tryEncode message env).unchanged takes_none
      rw [encoded] at drawn_eq content_eq
      subst drawn_eq
      set next : LatencySubmitter := { submitter with
        peers := submitter.peers.set (submitter.cursor % submitter.peers.length)
          { peer with target }
        cursor := (submitter.cursor % submitter.peers.length + 1) % submitter.peers.length }
      have routes_eq : next.peers.map LatencyPeer.route =
          submitter.peers.map LatencyPeer.route :=
        Queues.map_set found (congrArg (Prod.mk peer.id) content_eq)
      have length_eq : next.peers.length = submitter.peers.length := length_set
      -- The peer which was asked is not in turn again.
      have shifted {turn : Nat} (asked : turn < left) :
          next.peers[(next.cursor + turn) % next.peers.length]? =
            submitter.peers[(submitter.cursor + (turn + 1)) % submitter.peers.length]? := by
        rw [length_eq, next_turn]
        exact List.getElem?_set_ne (turn_ne _ (by omega)).symm
      have answers {turn : Nat} (asked : turn < left) : next.answer message drawn turn =
          submitter.answer message drawn (turn + 1) := by
        rw [answer, answer, shifted asked]
      have behind {turn : Nat} (asked : turn ≤ left)
          (others : ∀ earlier < turn, next.answer message drawn earlier = some .full) :
          ∀ earlier < turn + 1, submitter.answer message drawn earlier = some .full := by
        rintro (_ | earlier) before
        · rw [first, full_first]
        · rw [← answers (by omega)]
          exact others earlier (by omega)
      rcases @induction next (by omega) true with
        ⟨others, result_eq⟩ | ⟨turn, asked, others, decided, result_eq, given, at_turn, given_eq⟩
      · exact .inl ⟨behind (Nat.le_refl _) others, by simpa using result_eq⟩
      · rw [shifted asked] at at_turn
        rw [answers asked] at decided result_eq
        refine .inr ⟨turn + 1, by omega, behind (by omega) others, decided, result_eq,
          given, at_turn, ?_⟩
        rw [given_eq, routes_eq, length_eq, next_turn]

theorem scanPending_ne_closed (fuel scanned : Nat) :
    (scanPending message fuel scanned submitter).1 ≠ .closed := by
  induction fuel generalizing scanned submitter with
  | zero => simp [scanPending]
  | succ fuel induction =>
    unfold scanPending
    split
    · dsimp only
      split
      · simp
      · split
        · simp
        · exact induction _
        · exact induction _
    · simp

/-- The first peer which is not full decides about a message. -/
theorem proper_iff_liveFirst (opened : submitter.closed = false) :
    submitter.Proper message env ↔ submitter.LiveFirst message env := by
  unfold Proper trySend
  simp only [opened, Bool.false_eq_true, if_false]
  by_cases none_ready : submitter.peers = []
  · rw [if_pos none_ready]
    refine ⟨fun _ turn asked => absurd asked (by simp [none_ready]), fun _ => ⟨?_, ?_⟩⟩
    · exact fun closed => (scanPending_ne_closed _ _ closed).elim
    · rintro - ⟨peer, member, _⟩
      exact absurd member (by simp [none_ready])
  · rw [if_neg none_ready]
    have some_peer := length_pos_iff.mpr none_ready
    rcases @scanPeers_cases message submitter env _ (Nat.le_refl _) false with
      ⟨all_full, result_eq⟩ | ⟨turn, asked, others, decided, result_eq, given⟩
    · refine ⟨fun _ turn asked _ => .inl (all_full turn asked), fun _ => ⟨?_, ?_⟩⟩
      · intro closed
        simp [result_eq, some_peer] at closed
      · rintro - ⟨peer, member, taken⟩
        obtain ⟨place, in_range, rfl⟩ := getElem_of_mem member
        obtain ⟨turn, asked, rfl⟩ := exists_turn in_range submitter.cursor
        have full := all_full turn asked
        rw [answer, List.getElem?_eq_getElem in_range, Option.map_some, taken] at full
        cases full
    · constructor
      · rintro ⟨not_closed, _⟩ other - behind
        have taken : submitter.answer message env turn = some .ok := by
          by_contra refused
          cases not_closed (result_eq.trans (if_neg refused))
        rcases Nat.lt_trichotomy other turn with before | rfl | after
        · exact .inl (others other before)
        · exact .inr taken
        · exact absurd (behind turn after) decided
      · intro live
        have taken := (live turn asked others).resolve_left decided
        rw [if_pos taken] at result_eq
        rw [result_eq]
        exact ⟨by simp, fun _ _ => ⟨rfl, turn, asked, taken, given⟩⟩

theorem send_eq_closed {tries : List (LatencySubmitter × Environment)}
    (live : ∀ tried ∈ tries, tried.1.closed = false → tried.1.LiveFirst message tried.2)
    (closed : send message tries = some .closed) : ∃ tried ∈ tries, tried.1.closed = true := by
  induction tries with
  | nil => cases closed
  | cons tried later induction =>
    rw [forall_mem_cons] at live
    rw [exists_mem_cons_iff]
    cases opened : tried.1.closed with
    | true => exact .inl rfl
    | false =>
      have proper := (proper_iff_liveFirst opened).mpr (live.1 opened)
      unfold send at closed
      split at closed
      · exact .inr (induction live.2 closed)
      · rw [proper.1 (Option.some.inj closed)] at opened
        cases opened

/-- The first peer's slot is dead, and the second has room. -/
def halfDead : LatencySubmitter where
  peers := [⟨1, .wire ⟨(PeerTransmitSlot.new false none none 0 9 9 none).markDead, .new 1,
    some ⟨[], []⟩, []⟩⟩, ⟨2, .inbox (.new 1)⟩]
  pending := []
  cursor := 0
  pendingCursor := 0
  closed := false

end LatencySubmitter

end Omq
